/-
Every endpoint leaves the trail of a request complete where it commits, but for
the branches that log nothing or something else.
-/

import DscSigning.Server.AuditTrail

namespace DscSigning

open Interaction Program Engine

variable {lib : Libraries} {name : String} {origin : Origin}

variable (lib name origin) in
/-- A commit finds the trail complete. -/
def Auditing (trace : ServerTrace) : Operation → Prop
  | .commit => Complete lib name origin trace
  | _ => True

variable (lib name origin) in
def Audits {Value : Type} (trace : ServerTrace) : Except Exn Value → Prop
  | .ok _ => Complete lib name origin trace
  | .error _ => True

variable (lib name origin) in
/-- What fails may have written a status of the target and logged nothing. -/
def AuditsBut {Value : Type} (target : String) (trace : ServerTrace) : Except Exn Value → Prop
  | .ok _ => Complete lib name origin trace
  | .error _ => CompleteBut lib name origin target trace

/-! ### Parts that write no status -/

/-- Idle questions and the copies of a status. -/
def Unmarked (operation : Operation) : Prop :=
  Idle operation ∨ ∃ docname edit, operation = .setDocSign docname edit

theorem unmarking_unmarked {operation : Operation} {result : face.Reply operation}
    {stamp : Instant} (unmarked : Unmarked operation) (name : String) :
    Unmarking name ⟨operation, result, stamp⟩ := by
  rcases unmarked with simple | ⟨docname, edit, same⟩
  · cases operation with
    | setRequest other update =>
        cases result with
        | error _ => exact ⟨rfl, by simp [effects]⟩
        | ok _ =>
            refine ⟨rfl, fun write member => ?_⟩
            rw [List.mem_singleton.mp member]
            simp only [Idle, idle, Option.isNone_iff_eq_none] at simple
            simp only [Write.marks, simple, Option.isSome_none, Bool.and_false]
    | insertEvent event =>
        cases result with
        | error _ => exact ⟨rfl, by simp [effects]⟩
        | ok _ =>
            refine ⟨rfl, fun write member => ?_⟩
            rw [List.mem_singleton.mp member]
            simp only [Idle, idle, Option.isNone_iff_eq_none] at simple
            simp only [Write.marks, simple, Option.isSome_none, Bool.and_false]
    | saveRequest other loaded edit => cases simple
    | setDocSign other edit => cases simple
    | commit => cases simple
    | _ => cases result <;> exact ⟨rfl, by simp [effects, Write.marks]⟩
  · subst same
    cases result <;> exact ⟨rfl, by simp [effects, Write.marks]⟩

theorem unmarking_failed {operation : Operation} {exn : Exn} {stamp : Instant} (name : String) :
    Unmarking name ⟨operation, .error exn, stamp⟩ := by
  cases operation <;> exact ⟨rfl, by simp [effects]⟩

theorem unmarking_set {target : String} {update : RequestUpdate} {reply : Except Exn Unit}
    {stamp : Instant} (other : target ≠ name) :
    Unmarking name ⟨.setRequest target update, reply, stamp⟩ := by
  cases reply <;> exact ⟨rfl, by simp [effects, Write.marks, other]⟩

theorem unmarking_event {logged : AuditEvent} {reply : Except Exn Unit} {stamp : Instant}
    (other : logged.request ≠ name) : Unmarking name ⟨.insertEvent logged, reply, stamp⟩ := by
  cases reply <;> exact ⟨rfl, by simp [effects, Write.marks, other]⟩

theorem auditing_unmarked {trace : ServerTrace} {operation : Operation}
    (unmarked : Unmarked operation) : Auditing lib name origin trace operation := by
  cases operation with
  | commit =>
      rcases unmarked with simple | ⟨docname, edit, same⟩
      · cases simple
      · cases same
  | _ => trivial

theorem unmarked_idle {Value : Type} {program : Server Value} (uses : program.Uses Idle) :
    program.Uses Unmarked :=
  uses.weaken fun _ => Or.inl

theorem unmarked_basic {Value : Type} {program : Server Value} (uses : program.Uses Basic) :
    program.Uses Unmarked :=
  unmarked_idle (basic_idle uses)

theorem mirror_unmarked (doctype docname : String) (edit : DocSignEdit) :
    (mirror doctype docname edit).Uses Unmarked :=
  mirror_uses doctype docname (Or.inr ⟨docname, edit, rfl⟩)

theorem loadUpload_unmarked (doctype docname : String) :
    (loadUpload doctype docname).Uses Unmarked :=
  loadUpload_uses doctype docname (Or.inl rfl) (fun _ => Or.inl rfl) (Or.inr ⟨docname, _, rfl⟩)

theorem recovered_unmarked {program : Server Unit} (uses : program.Uses Basic) (title : String) :
    (program.recover fun _ => ask (.logError title)).Uses Unmarked :=
  Uses.recover (unmarked_basic uses) fun _ => Uses.perform (Or.inl rfl)

section Walk

variable {Value Result : Type} {trace : ServerTrace} {target : String} {status : RequestStatus}
  {reason : String} {settles : ServerTrace → Except Exn Result → Prop}

theorem unmarked_keeps {program : Server Value} {kept : ServerTrace → Prop}
    (uses : program.Uses Unmarked)
    (silent : ∀ event earlier, (∀ name, Unmarking name event) → kept earlier →
      kept (event :: earlier)) (start : kept trace) :
    program.Follows (Auditing lib name origin) (fun later _ => kept later) trace :=
  uses.keeps start (fun event earlier unmarked => silent event earlier (unmarking_unmarked unmarked))
    fun _ _ unmarked _ => auditing_unmarked unmarked

theorem complete_calls {program : Server Value} {next : Value → Server Result}
    (uses : program.Uses Unmarked) (complete : Complete lib name origin trace)
    (onDone : ∀ later value, trace <:+ later → Complete lib name origin later →
      (next value).Follows (Auditing lib name origin) settles later)
    (onFail : ∀ later error, Complete lib name origin later → settles later (.error error)) :
    (program.bind next).Follows (Auditing lib name origin) settles trace :=
  (unmarked_keeps uses (fun _ _ silent complete => complete.unmarking (silent name)) complete).bind
    onDone fun later error _ => onFail later error

theorem complete_ask {operation : Operation} {next : operation.Answer → Server Result}
    (simple : idle operation = true) (complete : Complete lib name origin trace)
    (onDone : ∀ answer stamp, Complete lib name origin (⟨operation, .ok answer, stamp⟩ :: trace) →
      (next answer).Follows (Auditing lib name origin) settles
        (⟨operation, .ok answer, stamp⟩ :: trace))
    (onFail : ∀ later error, Complete lib name origin later → settles later (.error error)) :
    ((ask operation).bind next).Follows (Auditing lib name origin) settles trace :=
  Follows.perform (auditing_unmarked (Or.inl simple))
    (fun answer stamp =>
      onDone answer stamp (complete.unmarking (unmarking_unmarked (Or.inl simple) name)))
    fun error _ => onFail _ error (complete.unmarking (unmarking_failed name))

theorem due_calls {program : Server Value} {next : Value → Server Result}
    (uses : program.Uses Unmarked) (due : Due lib name origin target status reason trace)
    (onDone : ∀ later value, Due lib name origin target status reason later →
      (next value).Follows (Auditing lib name origin) settles later)
    (onFail : ∀ later error, CompleteBut lib name origin target later →
      settles later (.error error)) :
    (program.bind next).Follows (Auditing lib name origin) settles trace :=
  (unmarked_keeps uses (fun _ _ silent due => due.unmarking silent) due).bind
    (fun later value _ => onDone later value) fun later error _ due => onFail later error due.others

theorem set_follows_due {update : RequestUpdate} {next : Unit → Server Result}
    (but : CompleteBut lib name origin target trace) (gives : update.status = some status)
    (fails : status = .failed → update = .failed reason)
    (onDone : ∀ stamp, Due lib name origin target status reason
      (⟨.setRequest target update, .ok (), stamp⟩ :: trace) →
      (next ()).Follows (Auditing lib name origin) settles
        (⟨.setRequest target update, .ok (), stamp⟩ :: trace))
    (onFail : ∀ later error, CompleteBut lib name origin target later →
      settles later (.error error)) :
    ((ask (.setRequest target update)).bind next).Follows (Auditing lib name origin) settles
      trace := by
  refine Follows.perform trivial (fun answer stamp => ?_)
    fun error stamp => onFail _ error (but.unmarking (unmarking_failed name))
  refine onDone stamp ⟨fun other => (but other).unmarking ⟨rfl, fun write member => ?_⟩,
    fun database row found => ?_⟩
  · rw [List.mem_singleton.mp member]
    simp [Write.marks, other]
  · rw [view_cons rfl] at found
    change ((Write.setRequest target update stamp).perform
      (site.view database (site.pending trace))).requests.lookup target = some row at found
    rw [perform_lookup] at found
    obtain ⟨old, _, same⟩ := Option.map_eq_some_iff.mp found
    constructor
    · rw [← same, onRequest_status, statusOn_set gives, Option.getD_some]
    · intro failed
      rw [← same, fails failed]
      simp only [Write.onRequest, if_true, RequestUpdate.apply]

theorem save_follows_due {loaded : SigningRequest} {edit : RequestEdit} {next : Unit → Server Result}
    (complete : Complete lib name origin trace) (mild : edit.status ≠ .failed)
    (onDone : ∀ stamp, Due lib name origin target edit.status reason
      (⟨.saveRequest target loaded edit, .ok (), stamp⟩ :: trace) →
      (next ()).Follows (Auditing lib name origin) settles
        (⟨.saveRequest target loaded edit, .ok (), stamp⟩ :: trace))
    (onFail : ∀ later error, settles later (.error error)) :
    ((ask (.saveRequest target loaded edit)).bind next).Follows (Auditing lib name origin) settles
      trace := by
  refine Follows.perform trivial (fun answer stamp => ?_) fun error stamp => onFail _ error
  refine onDone stamp ⟨fun other => complete.unmarking ⟨rfl, fun write member => ?_⟩,
    fun database row found => ⟨?_, fun failed => absurd failed mild⟩⟩
  · rw [List.mem_singleton.mp member]
    simp [Write.marks, other]
  · rw [view_cons rfl] at found
    change ((Write.saveRequest target edit stamp).perform
      (site.view database (site.pending trace))).requests.lookup target = some row at found
    rw [perform_lookup] at found
    obtain ⟨old, _, same⟩ := Option.map_eq_some_iff.mp found
    rw [← same, onRequest_status]
    simp only [Write.statusOn, if_true, Option.getD_some]

/-- The event for a status is logged; that of a failure has the reason among its texts. -/
theorem log_due {ctx : Context} {eventType : String} {details : List (String × Json)}
    (due : Due lib name origin target status reason trace)
    (tells : eventStatus eventType = some status)
    (mentions : status = .failed → ∃ key value, (key, Json.text value) ∈ details ∧
      reason.toList <:+: value.toList) :
    (logEvent lib ctx target eventType details).Follows (Auditing lib name origin)
      (AuditsBut lib name origin target) trace := by
  refine Follows.perform trivial (fun occurredAt asked => ?_)
    fun error stamp => due.others.unmarking (unmarking_failed name)
  have due := due.unmarking (@unmarking_unmarked .now (.ok occurredAt) asked (Or.inl rfl))
  refine ⟨trivial, fun reply stamp => ?_⟩
  cases reply with
  | error exn => exact due.others.unmarking (unmarking_failed name)
  | ok _ =>
      refine due.logged rfl tells fun failed => ?_
      obtain ⟨key, value, member, within⟩ := mentions failed
      refine ⟨details, key, value, ?_, member, within⟩
      cases details with
      | nil => cases member
      | cons first rest => rfl

theorem log_follows_due {ctx : Context} {eventType : String} {details : List (String × Json)}
    {next : Unit → Server Result} (due : Due lib name origin target status reason trace)
    (tells : eventStatus eventType = some status)
    (mentions : status = .failed → ∃ key value, (key, Json.text value) ∈ details ∧
      reason.toList <:+: value.toList)
    (onDone : ∀ later, Complete lib name origin later →
      (next ()).Follows (Auditing lib name origin) settles later)
    (onFail : ∀ later error, CompleteBut lib name origin target later →
      settles later (.error error)) :
    ((logEvent lib ctx target eventType details).bind next).Follows (Auditing lib name origin)
      settles trace :=
  (log_due due tells mentions).bind (fun later _ _ complete => onDone later complete)
    fun later error _ but => onFail later error but

theorem log_but (ctx : Context) (eventType : String) (details : List (String × Json))
    (but : CompleteBut lib name origin target trace) :
    (logEvent lib ctx target eventType details).Follows (Auditing lib name origin)
      (fun later _ => CompleteBut lib name origin target later) trace := by
  refine Follows.perform trivial (fun occurredAt asked => ?_)
    fun _ _ => but.unmarking (unmarking_failed name)
  have but := but.unmarking (@unmarking_unmarked .now (.ok occurredAt) asked (Or.inl rfl) name)
  refine ⟨trivial, fun reply stamp => ?_⟩
  cases reply <;> exact fun other => (but other).unmarking (unmarking_event other)

end Walk

/-! ### initiate -/

theorem logPrepared_completes {trace : ServerTrace} {reason : String} (ctx : Context)
    (target : String) (settings : Settings) (location : Option SignerLocation)
    (geocoded : Option GeocodeResult) (result : PrepareResult)
    (due : Due lib name origin target .inProgress reason trace) :
    (logPrepared lib ctx target settings location geocoded result).Follows
      (Auditing lib name origin) (Audits lib name origin) trace := by
  refine due_calls (unmarked_basic (logLocation_basic ctx target location geocoded)) due
    (fun _ _ due => ?_) (fun _ _ _ => trivial)
  refine due_calls (unmarked_basic (logEvent_basic _ _ _ rfl)) due (fun _ _ due => ?_)
    (fun _ _ _ => trivial)
  refine (log_due due rfl fun failed => by cases failed).weaken fun later result _ ended => ?_
  cases result with
  | ok _ => exact ended
  | error _ => trivial

theorem getOrCreateHmacSecret_completes {trace : ServerTrace}
    (complete : Complete lib name origin trace) :
    getOrCreateHmacSecret.Follows (Auditing lib name origin)
      (fun later _ => Complete lib name origin later) trace := by
  refine getOrCreateHmacSecret_basic.keeps complete (fun event earlier asked complete => ?_)
    (fun earlier query asked complete => ?_)
  · rcases asked with simple | commits
    · exact complete.unmarking (unmarking_unmarked (Or.inl (idle_basic simple)) name)
    · obtain ⟨operation, result, stamp⟩ := event
      simp only at commits
      subst commits
      cases result with
      | error exn => exact complete.unmarking (unmarking_failed name)
      | ok value => exact complete_commit stamp
  · rcases asked with simple | commits
    · exact auditing_unmarked (Or.inl (idle_basic simple))
    · rw [commits]
      exact complete

theorem authorise_completes {trace : ServerTrace} (row : PendingRequest) (profile : Profile)
    (settings : Settings) (locationText : Text) (result : PrepareResult)
    (complete : Complete lib name origin trace) :
    (authorise lib row profile settings locationText result).Follows (Auditing lib name origin)
      (Audits lib name origin) trace := by
  refine (getOrCreateHmacSecret_completes complete).bind (fun later secret _ complete => ?_)
    (fun _ _ _ _ => trivial)
  refine complete_ask rfl complete (fun timestamp stamp complete => ?_) (fun _ _ _ => trivial)
  exact complete_ask rfl complete (fun nonce stamp complete => complete) (fun _ _ _ => trivial)

theorem initiate_completes (ctx : Context) (arguments : InitiateArguments) :
    (initiate lib ctx arguments).Follows (Auditing lib name origin) (Audits lib name origin) [] := by
  refine Follows.demand (fun _ => ?_) (fun _ => trivial)
  refine complete_ask rfl complete_nil (fun found stamp complete => ?_) (fun _ _ _ => trivial)
  refine Follows.ofOption (fun row same => ?_) (fun _ => trivial)
  refine complete_calls (unmarked_idle (checkSigner_idle ctx row)) complete
    (fun _ _ _ complete => ?_) (fun _ _ _ => trivial)
  refine complete_ask rfl complete (fun profile stamp complete => ?_) (fun _ _ _ => trivial)
  refine complete_calls (unmarked_idle (checkProfile_idle ctx profile)) complete
    (fun _ _ _ complete => ?_) (fun _ _ _ => trivial)
  refine complete_ask rfl complete (fun settings stamp complete => ?_) (fun _ _ _ => trivial)
  refine Follows.demand (fun _ => ?_) (fun _ => trivial)
  refine complete_calls (unmarked_basic (geocode_basic _ _)) complete
    (fun _ geocoded _ complete => ?_) (fun _ _ _ => trivial)
  refine complete_calls (unmarked_basic (loadTemplate_basic _)) complete
    (fun _ template _ complete => ?_) (fun _ _ _ => trivial)
  refine complete_calls (loadUpload_unmarked _ _) complete (fun _ upload _ complete => ?_)
    (fun _ _ _ => trivial)
  refine complete_calls (unmarked_basic (choosePrintFormat_basic _ _ _)) complete
    (fun _ printFormat _ complete => ?_) (fun _ _ _ => trivial)
  refine Follows.ofExcept (fun location _ => ?_) (fun _ _ => trivial)
  refine @set_follows_due lib name origin _ _ row.name .inProgress "" _ _ _ (complete.but row.name) rfl
    (fun failed => by cases failed) (fun stamp due => ?_) (fun _ _ _ => trivial)
  refine due_calls (unmarked_basic (runDevHooks_basic _ _)) due (fun _ _ due => ?_)
    (fun _ _ _ => trivial)
  refine Follows.ofExcept (fun certDer _ => ?_) (fun _ _ => trivial)
  refine Follows.demand (fun _ => ?_) (fun _ => trivial)
  refine due_calls (unmarked_idle (preparePdfForSigning_idle _)) due (fun _ result due => ?_)
    (fun _ _ _ => trivial)
  refine due_calls (Uses.perform (Or.inl rfl)) due (fun _ _ due => ?_) (fun _ _ _ => trivial)
  refine (logPrepared_completes ctx row.name settings location geocoded result due).bind
    (fun _ _ _ complete => ?_) (fun _ _ _ _ => trivial)
  exact authorise_completes row profile settings _ result complete

/-! ### finalize -/

theorem checkSignedPdf_completes {trace : ServerTrace} (ctx : Context) (target : String)
    (signedResult : SignedResult) (complete : Complete lib name origin trace) :
    (checkSignedPdf lib ctx target signedResult).Follows (Auditing lib name origin)
      (AuditsBut lib name origin target) trace := by
  refine complete_calls (unmarked_basic (verifySignedPdf_basic _)) complete
    (fun _ verification _ complete => ?_) (fun _ _ complete => complete.but target)
  refine complete_calls (unmarked_basic (logEvent_basic _ _ _ rfl)) complete
    (fun _ _ _ complete => ?_) (fun _ _ complete => complete.but target)
  split
  · -- Another reason is logged than written, but what follows writes both again.
    refine set_follows_due (complete.but target) rfl (fun _ => rfl) (fun stamp due => ?_)
      (fun _ _ but => but)
    exact (log_but ctx _ _ due.others).bind (fun _ _ _ but => but) (fun _ _ _ but => but)
  · exact complete

theorem recordSigned_completes {trace : ServerTrace} (ctx : Context) (arguments : FinalizeArguments)
    (target : String) (startTime : Instant) (signedResult : SignedResult)
    (verification : Verification) (complete : Complete lib name origin trace) :
    (recordSigned lib ctx arguments target startTime signedResult verification).Follows
      (Auditing lib name origin) (AuditsBut lib name origin target) trace := by
  have fails (later : ServerTrace) (error : Exn) (complete : Complete lib name origin later) :
      AuditsBut lib name origin target later (.error error : Except Exn FinalizeResponse) :=
    complete.but target
  refine complete_calls (unmarked_idle (saveSignedPdf_idle _)) complete
    (fun _ fileDoc _ complete => ?_) fails
  refine complete_ask rfl complete (fun finished _ complete => ?_) fails
  refine complete_ask rfl complete (fun signedOn _ complete => ?_) fails
  refine @set_follows_due lib name origin _ _ target .signed "" _ _ _ (complete.but target) rfl
    (fun failed => by cases failed) (fun _ due => ?_) (fun _ _ but => but)
  refine due_calls (mirror_unmarked _ _ _) due (fun _ _ due => ?_) (fun _ _ but => but)
  refine log_follows_due due rfl (fun failed => by cases failed) (fun _ complete => ?_)
    (fun _ _ but => but)
  refine complete_calls (unmarked_idle (addTimelineEntry_idle _ _ _)) complete
    (fun _ _ _ complete => ?_) fails
  refine complete_calls (recovered_unmarked (sendSignedNotification_basic _ _ _ _) _) complete
    (fun _ _ _ complete => ?_) fails
  refine Follows.perform complete (fun _ stamp => ?_)
    (fun error _ => fails _ error (complete.unmarking (unmarking_failed name)))
  exact complete_calls (unmarked_basic (runDevHooks_basic _ _)) (complete_commit stamp)
    (fun _ _ _ complete => complete) fails

theorem completeSigning_completes {trace : ServerTrace} (ctx : Context)
    (arguments : FinalizeArguments) (target : String) (startTime : Instant) (chain : Json)
    (complete : Complete lib name origin trace) :
    (completeSigning lib ctx arguments target startTime chain).Follows (Auditing lib name origin)
      (AuditsBut lib name origin target) trace := by
  refine complete_calls (unmarked_idle (finalizeSignedPdf_idle _ _ _)) complete
    (fun _ signedResult _ complete => ?_) (fun _ _ complete => complete.but target)
  refine (checkSignedPdf_completes ctx target signedResult complete).bind
    (fun _ verification _ complete => ?_) (fun _ _ _ but => but)
  exact recordSigned_completes ctx arguments target startTime signedResult verification complete

theorem clip_infix (text : String) (count : Nat) : (clip text count).toList <:+: text.toList := by
  rw [clip, String.toList_ofList]
  exact (List.take_prefix count text.toList).isInfix

theorem recordFailure_completes {trace : ServerTrace} (ctx : Context) (target : String)
    (reqDoc : SigningRequest) (exn : Exn) (but : CompleteBut lib name origin target trace) :
    (recordFailure lib ctx target reqDoc exn).Follows (Auditing lib name origin)
      (Audits lib name origin) trace := by
  refine set_follows_due but rfl (fun _ => rfl) (fun stamp due => ?_) (fun _ _ _ => trivial)
  refine due_calls (mirror_unmarked _ _ _) due (fun _ _ due => ?_) (fun _ _ _ => trivial)
  refine log_follows_due due rfl
    (fun _ => ⟨"reason", exn.message, List.mem_cons_self, clip_infix _ _⟩)
    (fun _ complete => ?_) (fun _ _ _ => trivial)
  refine complete_calls (recovered_unmarked (notifyAdminsOfFailure_basic _ _) _) complete
    (fun _ _ _ complete => ?_) (fun _ _ _ => trivial)
  exact Follows.perform complete (fun _ _ => trivial) (fun _ _ => trivial)

/-- What is asked about one request where its fingerprint is rejected. -/
def Rejecting (target : String) (operation : Operation) : Prop :=
  operation = .now ∨ operation = .commit ∨ (∃ update, operation = .setRequest target update) ∨
    ∃ event, operation = .insertEvent event ∧ event.request = target

theorem rejectFingerprint_rejecting (ctx : Context) (target : String) (expected presented : Text) :
    (rejectFingerprint lib ctx target expected presented).Uses (Rejecting target) := by
  apply Uses.bind (Uses.perform (Or.inr (Or.inr (Or.inl ⟨_, rfl⟩))))
  intro _
  apply Uses.bind
  · apply Uses.bind (Uses.perform (Or.inl rfl))
    intro occurredAt
    exact Uses.perform (Or.inr (Or.inr (Or.inr ⟨_, rfl, rfl⟩)))
  · intro _
    exact Uses.bind (Uses.perform (Or.inr (Or.inl rfl))) fun _ => trivial

/-- A question about another request; what it leaves of this one is asked only of
calls that have not gone astray. -/
theorem Complete.apart {trace : ServerTrace} {event : ServerEvent} {target : String}
    (complete : Complete lib name origin trace)
    (own : target = name → unlogged lib name origin (event :: trace) = true)
    (other : target ≠ name → Unmarking name event) :
    Complete lib name origin (event :: trace) := by
  by_cases same : target = name
  · exact .vacuous (own same)
  · exact complete.unmarking (other same)

theorem rejectFingerprint_completes {trace : ServerTrace} (ctx : Context) (target : String)
    (expected presented : Text) (complete : Complete lib name origin trace)
    (taken : ∀ later, trace <:+ later → target = name → unlogged lib name origin later = true) :
    (rejectFingerprint lib ctx target expected presented).Follows (Auditing lib name origin)
      (Audits lib name origin) trace := by
  have keeps : (rejectFingerprint lib ctx target expected presented).Follows
      (Auditing lib name origin)
      (fun later _ => trace <:+ later ∧ Complete lib name origin later) trace := by
    refine (rejectFingerprint_rejecting ctx target expected presented).keeps
      ⟨List.suffix_refl _, complete⟩ (fun event earlier asked kept => ?_)
      (fun earlier query asked kept => ?_)
    · have grown : trace <:+ event :: earlier := kept.1.trans (List.suffix_cons _ _)
      refine ⟨grown, ?_⟩
      obtain ⟨operation, result, stamp⟩ := event
      rcases asked with clock | commits | ⟨update, sets⟩ | ⟨logged, logs, own⟩
      · simp only at clock
        subst clock
        exact kept.2.unmarking (@unmarking_unmarked .now _ _ (Or.inl rfl) name)
      · simp only at commits
        subst commits
        cases result with
        | error exn => exact kept.2.unmarking (unmarking_failed name)
        | ok _ => exact complete_commit stamp
      · simp only at sets
        subst sets
        exact kept.2.apart (taken _ grown) unmarking_set
      · simp only at logs
        subst logs
        exact kept.2.apart (taken _ grown) fun other => unmarking_event (own ▸ other)
    · cases query with
      | commit => exact kept.2
      | _ => trivial
  refine keeps.weaken fun later result _ kept => ?_
  cases result with
  | ok _ => exact kept.2
  | error _ => trivial

theorem readsRequest_any {trace : ServerTrace} {target : String} {row : SigningRequest}
    (read : Answered trace (.getRequest target) row) : trace.any (readsRequest target) = true := by
  obtain ⟨stamp, member⟩ := read
  exact List.any_eq_true.mpr ⟨_, member, by simp [readsRequest]⟩

theorem expectedFingerprint_completes {trace : ServerTrace} (reqDoc : SigningRequest)
    (complete : Complete lib name origin trace) :
    (expectedFingerprint reqDoc).Follows (Auditing lib name origin)
      (fun later result => Complete lib name origin later ∧ ∀ expected, result = .ok expected →
        expected.given = true → Answered later (.profileFingerprint reqDoc.profile) expected)
      trace := by
  unfold expectedFingerprint
  split
  · refine ⟨trivial, fun reply stamp => ?_⟩
    cases reply with
    | error exn =>
        exact ⟨complete.unmarking (unmarking_failed name), fun _ impossible => by cases impossible⟩
    | ok told =>
        refine ⟨complete.unmarking (@unmarking_unmarked (.profileFingerprint _) _ _ (Or.inl rfl) name),
          fun expected same _ => ?_⟩
        cases same
        exact Answered.head
  · refine ⟨complete, fun expected same given => ?_⟩
    cases same
    cases given

theorem finalize_completes (ctx : Context) (arguments : FinalizeArguments)
    (endpoint : origin.endpoint = .finalize arguments) :
    (finalize lib ctx arguments).Follows (Auditing lib name origin) (Audits lib name origin) [] := by
  have keeps : (receiveSignature lib ctx arguments).Follows (Auditing lib name origin)
      (fun later _ => Complete lib name origin later) [] :=
    unmarked_keeps (unmarked_basic (receiveSignature_basic _ _))
      (fun _ _ silent complete => complete.unmarking (silent name)) complete_nil
  refine (keeps.alongside (receiveSignature_presents ctx arguments)).bind
    (fun received answers _ both => ?_) (fun _ _ _ _ => trivial)
  obtain ⟨complete, facts⟩ := both
  obtain ⟨session, startTime, presented⟩ := answers
  obtain ⟨_, decoded⟩ := facts _ rfl
  refine complete_ask rfl complete (fun reqDoc readAt complete => ?_) (fun _ _ _ => trivial)
  have read : Answered (⟨.getRequest session.signingRequestName, .ok reqDoc, readAt⟩ :: received)
      (.getRequest session.signingRequestName) reqDoc := Answered.head
  refine (expectedFingerprint_completes reqDoc complete).bind (fun told expected second both => ?_)
    (fun _ _ _ _ => trivial)
  obtain ⟨complete, asked⟩ := both
  split
  · rename_i differ
    have given : expected.given = true := by
      simp only [fingerprintMismatch, Bool.and_eq_true] at differ
      exact differ.1.1
    refine rejectFingerprint_completes ctx _ expected presented complete (fun later third own => ?_)
    have found : mismatched lib origin later = true := by
      obtain ⟨toldAt, member⟩ := (asked expected rfl given).mono third
      simp only [mismatched, endpoint, decoded]
      exact List.any_eq_true.mpr ⟨_, member, differ⟩
    have reads := readsRequest_any ((read.mono second).mono third)
    rw [own] at reads
    simp only [unlogged, found, reads, Bool.and_self, Bool.true_or]
  · refine Follows.ofExcept (fun chain _ => ?_) (fun _ _ => trivial)
    refine (completeSigning_completes ctx arguments _ startTime chain complete).recover
      (fun _ _ _ complete => complete) (fun later exn _ but => ?_)
    exact recordFailure_completes ctx _ reqDoc exn but

/-! ### Status, retry, cancel and abort -/

theorem recoverRow_completes {trace : ServerTrace} (doctype docname : String) (now : Instant)
    (row : ListedRequest) (complete : Complete lib name origin trace) :
    (recoverRow doctype docname now row).Follows (Auditing lib name origin)
      (Audits lib name origin) trace := by
  unfold recoverRow
  split
  · refine Follows.perform trivial (fun _ stamp => ?_) (fun _ _ => trivial)
    refine complete_calls (mirror_unmarked _ _ _) (complete.apart (fun own => ?_) unmarking_set)
      (fun _ _ _ complete => complete) (fun _ _ _ => trivial)
    simp [unlogged, recovers, own]
  · exact complete

theorem recoverStale_completes (doctype docname : String) (now : Instant)
    (rows : List ListedRequest) {trace : ServerTrace} (complete : Complete lib name origin trace) :
    (recoverStale doctype docname now rows).Follows (Auditing lib name origin)
      (Audits lib name origin) trace := by
  induction rows generalizing trace with
  | nil => exact complete
  | cons row rest ih =>
      refine (recoverRow_completes doctype docname now row complete).bind
        (fun _ _ _ complete => ?_) (fun _ _ _ _ => trivial)
      exact (ih complete).bind (fun _ _ _ complete => complete) (fun _ _ _ _ => trivial)

theorem getSigningStatus_completes (ctx : Context) (doctype docname : String) :
    (getSigningStatus ctx doctype docname).Follows (Auditing lib name origin)
      (Audits lib name origin) [] := by
  refine complete_ask rfl complete_nil (fun rows _ complete => ?_) (fun _ _ _ => trivial)
  split
  · exact complete
  · refine complete_ask rfl complete (fun now _ complete => ?_) (fun _ _ _ => trivial)
    exact (recoverStale_completes doctype docname now rows complete).bind
      (fun _ _ _ complete => complete) (fun _ _ _ _ => trivial)

theorem getFormActions_completes (ctx : Context) (doctype docname : String) :
    (getFormActions ctx doctype docname).Follows (Auditing lib name origin)
      (Audits lib name origin) [] := by
  refine (getSigningStatus_completes ctx doctype docname).bind (fun _ _ _ complete => ?_)
    (fun _ _ _ _ => trivial)
  exact complete_ask rfl complete (fun _ _ complete => complete) (fun _ _ _ => trivial)

/-- A loaded request is saved, the status copied and an event logged for it. -/
theorem saved_completes {Value : Type} {trace : ServerTrace} {target eventType : String}
    {doc : SigningRequest} {edit : RequestEdit} {ctx : Context} {details : List (String × Json)}
    {rest : Server Value} (complete : Complete lib name origin trace) (mild : edit.status ≠ .failed)
    (tells : eventStatus eventType = some edit.status)
    (onDone : ∀ later, Complete lib name origin later →
      rest.Follows (Auditing lib name origin) (Audits lib name origin) later) :
    ((ask (.saveRequest target doc edit)).bind fun _ =>
      (mirror doc.sourceDoctype doc.sourceName ⟨.ofRequest edit.status, none⟩).bind fun _ =>
        (logEvent lib ctx target eventType details).bind fun _ => rest).Follows
      (Auditing lib name origin) (Audits lib name origin) trace := by
  refine @save_follows_due lib name origin _ _ target "" _ doc edit _ complete mild
    (fun stamp due => ?_) (fun _ _ => trivial)
  refine due_calls (mirror_unmarked _ _ _) due (fun _ _ due => ?_) (fun _ _ _ => trivial)
  exact log_follows_due due tells (fun failed => absurd failed mild)
    (fun later complete => onDone later complete) (fun _ _ _ => trivial)

theorem retry_completes (ctx : Context) (target : String) :
    (retry lib ctx target).Follows (Auditing lib name origin) (Audits lib name origin) [] := by
  refine complete_ask rfl complete_nil (fun doc _ complete => ?_) (fun _ _ _ => trivial)
  refine Follows.demand (fun _ => ?_) (fun _ => trivial)
  exact saved_completes complete (fun failed => by cases failed) rfl fun _ complete => complete

theorem cancel_completes (ctx : Context) (target reason : String) :
    (cancel lib ctx target reason).Follows (Auditing lib name origin) (Audits lib name origin)
      [] := by
  refine complete_ask rfl complete_nil (fun doc _ complete => ?_) (fun _ _ _ => trivial)
  refine Follows.demand (fun _ => ?_) (fun _ => trivial)
  refine complete_ask rfl complete (fun now _ complete => ?_) (fun _ _ _ => trivial)
  refine saved_completes complete (fun failed => by cases failed) rfl fun _ complete => ?_
  exact complete_calls (unmarked_basic (runDevHooks_basic _ _)) complete
    (fun _ _ _ complete => complete) (fun _ _ _ => trivial)

theorem abortInProgress_completes (ctx : Context) (target reason : String) :
    (abortInProgress lib ctx target reason).Follows (Auditing lib name origin)
      (Audits lib name origin) [] := by
  refine complete_ask rfl complete_nil (fun doc _ complete => ?_) (fun _ _ _ => trivial)
  split
  · exact complete
  · exact saved_completes complete (fun failed => by cases failed) rfl fun _ complete => complete

/-! ### The hourly cleanup -/

theorem expireStalePendingRequests_completes
    (endpoint : origin.endpoint = .expireStalePendingRequests) :
    expireStalePendingRequests.Follows (Auditing lib name origin) (Audits lib name origin) [] := by
  refine complete_ask rfl complete_nil (fun settings _ complete => ?_) (fun _ _ _ => trivial)
  refine complete_ask rfl complete (fun now _ complete => ?_) (fun _ _ _ => trivial)
  refine complete_ask rfl complete (fun names _ complete => ?_) (fun _ _ _ => trivial)
  refine (Follows.forEach (Complete lib name origin) complete
    (fun target member later _ complete => ?_) (fun later _ complete => complete) :
      Follows (Auditing lib name origin) (Audits lib name origin) _ _).bind
    (fun later _ _ complete => ?_) (fun _ _ _ _ => trivial)
  · refine ⟨trivial, fun reply stamp => ?_⟩
    cases reply with
    | error exn => trivial
    | ok _ =>
        refine complete.apart (fun own => ?_) unmarking_set
        simp [unlogged, endpoint, fails, own]
  · split
    · exact complete
    · refine ⟨complete, fun reply stamp => ?_⟩
      cases reply with
      | error exn => trivial
      | ok _ => exact complete_commit stamp

theorem body_audits (name : String) (origin : Origin) :
    (body lib origin).Follows (Auditing lib name origin) (Audits lib name origin) [] := by
  have wrapped {Value : Type} {program : Server Value} (wrap : Value → Response)
      (completes : program.Follows (Auditing lib name origin) (Audits lib name origin) []) :
      (program.bind fun value => .done (wrap value)).Follows (Auditing lib name origin)
        (Audits lib name origin) [] :=
    completes.bind (fun _ _ _ complete => complete) (fun _ _ _ _ => trivial)
  obtain ⟨ctx, endpoint⟩ := origin
  cases endpoint with
  | initiate arguments => exact wrapped _ (initiate_completes ctx arguments)
  | finalize arguments => exact wrapped _ (finalize_completes ctx arguments rfl)
  | getSigningStatus doctype docname =>
      exact wrapped _ (getSigningStatus_completes ctx doctype docname)
  | getFormActions doctype docname => exact wrapped _ (getFormActions_completes ctx doctype docname)
  | retry target => exact wrapped _ (retry_completes ctx target)
  | cancel target reason => exact wrapped _ (cancel_completes ctx target reason)
  | abortInProgress target reason => exact wrapped _ (abortInProgress_completes ctx target reason)
  | expireStalePendingRequests => exact wrapped _ (expireStalePendingRequests_completes rfl)

/-! ### The event of a retry -/

/-- Only a Failed request is retried, and the event has the empty text for the reason. -/
def Retrying (lib : Libraries) (name : String) (origin : Origin) (trace : ServerTrace) :
    Operation → Prop
  | .insertEvent event => origin.endpoint = .retry name → event.eventType = "Request Retried" →
      (∀ doc, Answered trace (.getRequest name) doc → doc.status = .failed) ∧
        event.detailsJson = some (lib.jsonDumps (.object [("previous_failure", .text "")]))
  | _ => True

/-- The only row that the call has read of the request is a Failed one. -/
def ReadFailed (name : String) (trace : ServerTrace) : Prop :=
  ∀ doc, Answered trace (.getRequest name) doc → doc.status = .failed

theorem ReadFailed.cons {name : String} {trace : ServerTrace} {event : ServerEvent}
    (read : ReadFailed name trace) (other : event.query ≠ .getRequest name) :
    ReadFailed name (event :: trace) := by
  rintro doc ⟨stamp, member⟩
  rcases List.mem_cons.mp member with same | old
  · exact absurd (congrArg Event.query same).symm other
  · exact read doc ⟨stamp, old⟩

theorem retry_retrying (ctx : Context) (name : String) :
    (retry lib ctx name).Follows (Retrying lib name origin) (fun _ _ => True) [] := by
  refine Follows.perform trivial (fun doc readAt => ?_) (fun _ _ => trivial)
  refine Follows.demand (fun failed => ?_) (fun _ => trivial)
  have read : ReadFailed name [⟨.getRequest name, .ok doc, readAt⟩] := by
    rintro other ⟨stamp, member⟩
    cases List.mem_singleton.mp member
    exact eq_of_beq failed
  refine Follows.perform trivial (fun _ savedAt => ?_) (fun _ _ => trivial)
  have logs (trace : ServerTrace) (read : ReadFailed name trace) :
      ((logEvent lib ctx name "Request Retried" [("previous_failure", .text "")]).bind fun _ =>
        .done RequestStatus.pending).Follows (Retrying lib name origin) (fun _ _ => True) trace := by
    refine ⟨trivial, fun clock at_ => ?_⟩
    cases clock with
    | error exn => trivial
    | ok now =>
        refine ⟨fun _ _ => ⟨?_, rfl⟩, fun reply stamp => ?_⟩
        · exact read.cons (fun impossible => by cases impossible)
        · cases reply <;> trivial
  have saved := @ReadFailed.cons name _ ⟨.saveRequest name doc
    { status := .pending, failureReason := some "", cancelledOn := doc.cancelledOn }, .ok (),
      savedAt⟩ read fun impossible => by cases impossible
  unfold mirror
  split
  · refine Follows.perform trivial (fun _ copiedAt => ?_) (fun _ _ => trivial)
    exact logs _ (saved.cons fun impossible => by cases impossible)
  · exact logs _ saved

theorem body_retrying (name : String) (origin : Origin) :
    (body lib origin).Follows (Retrying lib name origin) (fun _ _ => True) [] := by
  by_cases retries : origin.endpoint = .retry name
  · rw [body, retries]
    exact (retry_retrying origin.ctx name).bind (fun _ _ _ _ => trivial) (fun _ _ _ _ => trivial)
  · refine Follows.always fun trace operation _ => ?_
    cases operation with
    | insertEvent event => exact fun same => absurd same retries
    | _ => trivial

end DscSigning
