/-
The PIN prompt that opens by itself after a submit.

One form object shows the documents of a doctype one after the other, and the
three flags on it are not about any one of them: the last docstatus may be that of
another document, and so may the submit that was noticed.
-/

import Mathlib.Data.List.Nodup
import DscSigning.Library.Runs

namespace DscSigning.AutoPrompt

open Interaction Runs

/-! ### The form object -/

structure FormDoc where
  name : String
  docstatus : Nat
  isNew : Bool
deriving DecidableEq

/-- What `get_form_actions` answers, as far as the prompt reads it. -/
structure StatusInfo where
  status : String
  canSign : Bool
deriving DecidableEq

/-- The document that is shown, the flags of the script, the documents whose status has been asked
for and not yet been answered, and whether the timer of the prompt runs. -/
structure Frm where
  doc : FormDoc
  lastDocstatus : Option Nat
  justSubmitted : Bool
  autoPrompted : Bool
  statusCalls : List String
  startScheduled : Bool
deriving DecidableEq

/-- The call of `refreshDscStatus`. -/
def Frm.refreshDscStatus (frm : Frm) : Frm :=
  { frm with statusCalls := frm.statusCalls ++ [frm.doc.name] }

/-- The handler of `form-refresh`. -/
def Frm.formRefresh (frm : Frm) : Frm :=
  if frm.doc.isNew || frm.doc.name == "" then frm
  else
    let prev := frm.lastDocstatus
    let cur := frm.doc.docstatus
    let justSubmitted := prev.any (fun docstatus => decide (docstatus < 1)) && cur == 1
    Frm.refreshDscStatus
      { frm with
        lastDocstatus := some cur
        justSubmitted := justSubmitted || frm.justSubmitted }

def Frm.maybeAutoPromptSign (frm : Frm) (info : StatusInfo) : Frm :=
  if frm.autoPrompted then frm
  else if !info.canSign then frm
  else if !frm.justSubmitted then frm
  else { frm with autoPrompted := true, justSubmitted := false, startScheduled := true }

/-- The callback of `refreshDscStatus`, which acts on the form and not on the document it asked
about. -/
def Frm.statusCallback (frm : Frm) (message : Option StatusInfo) : Frm :=
  match message with
  | none => frm
  | some info => if info.status == "Not Applicable" then frm else frm.maybeAutoPromptSign info

/-! ### Runs -/

/-- The form, the documents that its refreshes have shown, in their order, and those for which the
signing flow was started by the timer. -/
structure Session where
  frm : Frm
  seen : List (String × Nat)
  started : List String
deriving DecidableEq

/-- A form object that was made to show this document. -/
def opened (doc : FormDoc) : Session where
  frm := ⟨doc, none, false, false, [], false⟩
  seen := []
  started := []

inductive FormEvent where
  /-- The form is given another document, or another version of the same one. -/
  | show (doc : FormDoc)
  | formRefresh
  /-- One of the outstanding calls is answered. -/
  | response (index : Nat) (message : Option StatusInfo)
  /-- The 600 ms are over. -/
  | timeout

def formStep (session : Session) : FormEvent → Option Session
  | .show doc => some { session with frm := { session.frm with doc := doc } }
  | .formRefresh => some
      { session with
        frm := session.frm.formRefresh
        seen := session.seen ++ [(session.frm.doc.name, session.frm.doc.docstatus)] }
  | .response index message =>
      if index < session.frm.statusCalls.length then some
        { session with
          frm := Frm.statusCallback
            { session.frm with statusCalls := session.frm.statusCalls.eraseIdx index } message }
      else none
  | .timeout =>
      if session.frm.startScheduled then some
        { session with
          frm := { session.frm with startScheduled := false }
          started := session.started ++ [session.frm.doc.name] }
      else none

/-- The document was seen as a draft, and submitted after that. -/
def WentLive (seen : List (String × Nat)) (docname : String) : Prop :=
  [(docname, 0), (docname, 1)].Sublist seen

/-- The flow was started for documents that went live, and once for each. -/
structure PromptsLive (session : Session) : Prop where
  live : ∀ docname ∈ session.started, WentLive session.seen docname
  once : session.started.Nodup

/-! ### When a prompt is due -/

/-- The timer runs, or an outstanding answer could set it. -/
def Frm.Due (frm : Frm) : Prop :=
  frm.startScheduled = true ∨
    (frm.justSubmitted = true ∧ frm.autoPrompted = false ∧ frm.statusCalls ≠ [])

/-- While a prompt is due, the form is given and refreshed with documents only that went live
themselves. -/
def Attentive (session : Session) : FormEvent → Prop
  | .show doc => session.frm.Due → WentLive session.seen doc.name
  | .formRefresh => session.frm.formRefresh.Due →
      WentLive (session.seen ++ [(session.frm.doc.name, session.frm.doc.docstatus)])
        session.frm.doc.name
  | _ => True

/-- The answers of the server and the timer, which the user does not choose. -/
def FormEvent.Answers : FormEvent → Prop
  | .response _ _ | .timeout => True
  | _ => False

/-- The timer is set once, and fires once. -/
structure Orderly (session : Session) : Prop where
  unprompted : session.frm.autoPrompted = false →
    session.frm.startScheduled = false ∧ session.started = []
  scheduled : session.frm.startScheduled = true → session.started = []
  once : session.started.length ≤ 1

structure Safe (session : Session) : Prop where
  orderly : Orderly session
  live : ∀ docname ∈ session.started, WentLive session.seen docname
  due : session.frm.Due → WentLive session.seen session.frm.doc.name

theorem Orderly.prompted {session : Session} (orderly : Orderly session)
    (scheduled : session.frm.startScheduled = true) : session.frm.autoPrompted = true := by
  cases prompted : session.frm.autoPrompted with
  | true => rfl
  | false =>
      have unscheduled := (orderly.unprompted prompted).1
      rw [scheduled] at unscheduled
      cases unscheduled

theorem WentLive.later {seen : List (String × Nat)} {docname : String} (live : WentLive seen docname)
    (shown : List (String × Nat)) : WentLive (seen ++ shown) docname :=
  live.trans (List.sublist_append_left seen shown)

/-! ### One event -/

/-- A refresh leaves the timer and the flag of the prompt alone. -/
theorem formRefresh_rest (frm : Frm) : frm.formRefresh.doc = frm.doc ∧
    frm.formRefresh.autoPrompted = frm.autoPrompted ∧
    frm.formRefresh.startScheduled = frm.startScheduled := by
  unfold Frm.formRefresh
  split
  · exact ⟨rfl, rfl, rfl⟩
  · exact ⟨rfl, rfl, rfl⟩

/-- An answer is passed over, or sets the timer. -/
theorem statusCallback_cases (frm : Frm) (message : Option StatusInfo) :
    frm.statusCallback message = frm ∨
      (frm.autoPrompted = false ∧ frm.justSubmitted = true ∧ frm.statusCallback message =
        { frm with autoPrompted := true, justSubmitted := false, startScheduled := true }) := by
  cases message with
  | none => exact Or.inl rfl
  | some info =>
      unfold Frm.statusCallback Frm.maybeAutoPromptSign
      dsimp only
      split
      · exact Or.inl rfl
      · split
        · exact Or.inl rfl
        · rename_i unprompted
          split
          · exact Or.inl rfl
          · split
            · exact Or.inl rfl
            · rename_i submitted
              refine Or.inr ⟨by simpa using unprompted, by simpa using submitted, rfl⟩

theorem orderly_step {session next : Session} {event : FormEvent} (orderly : Orderly session)
    (stepped : formStep session event = some next) : Orderly next := by
  cases event with
  | «show» doc =>
      cases stepped
      exact ⟨orderly.unprompted, orderly.scheduled, orderly.once⟩
  | formRefresh =>
      cases stepped
      obtain ⟨_, prompted, scheduled⟩ := formRefresh_rest session.frm
      constructor
      · intro unprompted
        rw [scheduled]
        exact orderly.unprompted (prompted.symm.trans unprompted)
      · intro running
        exact orderly.scheduled (scheduled.symm.trans running)
      · exact orderly.once
  | response index message =>
      obtain ⟨_, same⟩ := Option.ite_none_right_eq_some.mp stepped
      cases same
      rcases statusCallback_cases { session.frm with
        statusCalls := session.frm.statusCalls.eraseIdx index } message with passed | sets
      · rw [passed]
        exact ⟨orderly.unprompted, orderly.scheduled, orderly.once⟩
      · obtain ⟨unprompted, _, sets⟩ := sets
        rw [sets]
        have none := (orderly.unprompted unprompted).2
        exact ⟨fun prompted => Bool.noConfusion prompted, fun _ => none, orderly.once⟩
  | timeout =>
      obtain ⟨scheduled, same⟩ := Option.ite_none_right_eq_some.mp stepped
      cases same
      have prompted := orderly.prompted scheduled
      have none := orderly.scheduled scheduled
      constructor
      · intro unprompted
        rw [prompted] at unprompted
        cases unprompted
      · intro running
        cases running
      · rw [none]
        exact Nat.le_refl 1

/-- An answer can only use up what was due. -/
theorem response_due {frm : Frm} {index : Nat} {message : Option StatusInfo}
    (outstanding : index < frm.statusCalls.length)
    (due : (Frm.statusCallback
      { frm with statusCalls := frm.statusCalls.eraseIdx index } message).Due) : frm.Due := by
  have asked : frm.statusCalls ≠ [] := List.ne_nil_of_length_pos (Nat.zero_lt_of_lt outstanding)
  rcases statusCallback_cases { frm with statusCalls := frm.statusCalls.eraseIdx index } message
    with passed | ⟨unprompted, submitted, _⟩
  · rw [passed] at due
    rcases due with scheduled | ⟨submitted, unprompted, _⟩
    · exact Or.inl scheduled
    · exact Or.inr ⟨submitted, unprompted, asked⟩
  · exact Or.inr ⟨submitted, unprompted, asked⟩

/-- One event keeps the form safe exactly where it is attentive. -/
theorem safe_step {event : FormEvent} {session next : Session} (safe : Safe session)
    (stepped : formStep session event = some next) : Safe next ↔ Attentive session event := by
  have orderly := orderly_step safe.orderly stepped
  cases event with
  | «show» doc =>
      cases stepped
      exact ⟨fun kept => kept.due, fun attentive => ⟨orderly, safe.live, attentive⟩⟩
  | formRefresh =>
      cases stepped
      have doc := (formRefresh_rest session.frm).1
      constructor
      · intro kept due
        have live : WentLive _ session.frm.formRefresh.doc.name := kept.due due
        rwa [doc] at live
      · intro attentive
        refine ⟨orderly, fun docname member => (safe.live docname member).later _, fun due => ?_⟩
        change WentLive _ session.frm.formRefresh.doc.name
        rw [doc]
        exact attentive due
  | response index message =>
      obtain ⟨outstanding, same⟩ := Option.ite_none_right_eq_some.mp stepped
      cases same
      refine iff_of_true ⟨orderly, safe.live, fun due => ?_⟩ trivial
      have live := safe.due (response_due outstanding due)
      rcases statusCallback_cases { session.frm with
        statusCalls := session.frm.statusCalls.eraseIdx index } message with passed | ⟨_, _, sets⟩
      · rw [passed]
        exact live
      · rw [sets]
        exact live
  | timeout =>
      obtain ⟨scheduled, same⟩ := Option.ite_none_right_eq_some.mp stepped
      cases same
      have prompted := safe.orderly.prompted scheduled
      have live := safe.due (Or.inl scheduled)
      refine iff_of_true ⟨orderly, fun docname member => ?_, fun due => ?_⟩ trivial
      · rcases List.mem_append.mp member with earlier | now
        · exact safe.live docname earlier
        · rw [List.mem_singleton.mp now]
          exact live
      · rcases due with running | ⟨_, unprompted, _⟩
        · cases running
        · rw [prompted] at unprompted
          cases unprompted

/-! ### Whole runs -/

theorem opened_safe (doc : FormDoc) : Safe (opened doc) where
  orderly := ⟨fun _ => ⟨rfl, rfl⟩, fun _ => rfl, Nat.zero_le 1⟩
  live := by simp [opened]
  due := by
    rintro (scheduled | ⟨submitted, _⟩)
    · cases scheduled
    · cases submitted

theorem Safe.promptsLive {session : Session} (safe : Safe session) : PromptsLive session := by
  refine ⟨safe.live, ?_⟩
  have once := safe.orderly.once
  match started : session.started with
  | [] => exact List.nodup_nil
  | [docname] => exact List.nodup_singleton docname
  | first :: second :: rest =>
      rw [started] at once
      simp at once

/-- The answers keep a safe form safe. -/
theorem safe_answered {session settled : Session} {answers : List FormEvent} (safe : Safe session)
    (only : ∀ event ∈ answers, event.Answers) (ran : run formStep session answers = some settled) :
    Safe settled := by
  have preserved (before : Session) (event : FormEvent) (after : Session) (kept : Safe before)
      (answered : event.Answers) (stepped : formStep before event = some after) : Safe after := by
    refine (safe_step kept stepped).mpr ?_
    cases event with
    | «show» doc => exact answered.elim
    | formRefresh => exact answered.elim
    | response index message => trivial
    | timeout => trivial
  exact run_invariant preserved safe
    (along_members (fun event member _ => only event member) session) ran

/-- A form is safe where no answers can start the flow for a document that did not go live. -/
theorem safe_of_answers {session : Session} (orderly : Orderly session)
    (kept : ∀ answers settled, (∀ event ∈ answers, FormEvent.Answers event) →
      run formStep session answers = some settled → PromptsLive settled) : Safe session := by
  have now := kept [] session (by simp) rfl
  refine ⟨orderly, now.live, ?_⟩
  rintro (scheduled | ⟨submitted, unprompted, asked⟩)
  · have fires := kept [.timeout] { session with
        frm := { session.frm with startScheduled := false }
        started := session.started ++ [session.frm.doc.name] } (by simp [FormEvent.Answers])
      (by simp [run, formStep, scheduled])
    exact fires.live session.frm.doc.name (by simp)
  · have outstanding := List.length_pos_of_ne_nil asked
    have fires := kept [.response 0 (some ⟨"Awaiting Signature", true⟩), .timeout] { session with
        frm := { session.frm with
          statusCalls := session.frm.statusCalls.eraseIdx 0
          autoPrompted := true
          justSubmitted := false
          startScheduled := false }
        started := session.started ++ [session.frm.doc.name] } (by simp [FormEvent.Answers])
      (by simp [run, formStep, Frm.statusCallback, Frm.maybeAutoPromptSign, outstanding, submitted,
        unprompted])
    exact fires.live session.frm.doc.name (by simp)

/-- However the calls are answered, the prompt opens only for documents that went live, and once
for each, exactly where the form is given no other document while a prompt is due. -/
theorem prompts_live_iff {doc : FormDoc} {events : List FormEvent} {last : Session}
    (ran : run formStep (opened doc) events = some last) :
    (∀ count reached, run formStep (opened doc) (events.take count) = some reached →
      ∀ answers settled, (∀ event ∈ answers, FormEvent.Answers event) →
        run formStep reached answers = some settled → PromptsLive settled) ↔
      Along formStep Attentive (opened doc) events := by
  have exact_ (event : FormEvent) (_ : event ∈ events) (before after : Session) (safe : Safe before)
      (stepped : formStep before event = some after) : Safe after ↔ Attentive before event :=
    safe_step safe stepped
  have orderly (before : Session) (event : FormEvent) (after : Session) (orderly : Orderly before)
      (_ : True) (stepped : formStep before event = some after) : Orderly after :=
    orderly_step orderly stepped
  rw [← along_iff_prefixes exact_ (opened_safe doc) ran]
  constructor
  · intro kept count reached partway
    refine safe_of_answers ?_ (kept count reached partway)
    exact run_invariant orderly (opened_safe doc).orderly
      (along_members (fun _ _ _ => trivial) _) partway
  · intro safe count reached partway answers settled only answered
    exact (safe_answered (safe count reached partway) only answered).promptsLive

/-! ### A submit, and a draft behind which a submitted document is opened -/

def draft : FormDoc := ⟨"SINV-1", 0, false⟩

def submitted : FormDoc := ⟨"SINV-1", 1, false⟩

def another : FormDoc := ⟨"SINV-2", 1, false⟩

def signable : Option StatusInfo := some ⟨"Awaiting Signature", true⟩

/-- The draft is shown, it is submitted and the status of the submitted document is answered. -/
def submitEvents : List FormEvent :=
  [.formRefresh, .response 0 none, .show submitted, .formRefresh, .response 0 signable, .timeout]

theorem prompts_live_submit : ∃ last, run formStep (opened draft) submitEvents = some last ∧
    ((∀ count reached, run formStep (opened draft) (submitEvents.take count) = some reached →
      ∀ answers settled, (∀ event ∈ answers, FormEvent.Answers event) →
        run formStep reached answers = some settled → PromptsLive settled) ↔
      Along formStep Attentive (opened draft) submitEvents) :=
  ⟨_, rfl, prompts_live_iff rfl⟩

/-- Behind a draft a document is opened that was submitted long ago, and the prompt opens for it. -/
theorem prompt_on_opening : ∃ last, run formStep (opened draft)
      [.formRefresh, .response 0 none, .show another, .formRefresh, .response 0 signable,
        .timeout] = some last ∧
    last.started = ["SINV-2"] ∧ ¬ PromptsLive last := by
  refine ⟨_, rfl, rfl, fun kept => ?_⟩
  have live := kept.live "SINV-2" (by decide)
  revert live
  unfold WentLive
  decide

end DscSigning.AutoPrompt
