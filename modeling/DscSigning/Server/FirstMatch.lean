/-
The first rule that matches, and no other, gets its request.

The rules come by priority, so the first one of the list that matches is the
one of least priority; where no comparison raises, the loop is a search for it.
-/

import DscSigning.Library.Alone
import DscSigning.Server.OneRequest
import Mathlib.Data.Fintype.EquivFin

namespace DscSigning.RuleEngine

open Interaction Engine

variable (lib : Libraries)

/-- The rule is for the document and for what happened to it. -/
structure DscRule.MatchesEvent (doc : Document) (triggerEvent : String) (rule : DscRule) : Prop where
  company : rule.company.given = true → doc.get "company" = .text rule.company.show
  workflow : triggerEvent = "on_workflow_action" → rule.triggerWorkflowState.given = true →
    doc.get "workflow_state" = .text rule.triggerWorkflowState.show
  conditions : ∀ condition ∈ rule.conditions,
    checkCondition lib.toConditionLibraries condition doc = .ok true

/-- Of the rules that match, none comes before this one. -/
structure Leads (shared : Shared) (doc : Document) (triggerEvent : String) (rule : DscRule) :
    Prop where
  stored : ∃ name, shared.rules.lookup name = some rule
  listed : rule.listed doc.doctype triggerEvent = true
  matched : rule.MatchesEvent lib doc triggerEvent
  least : ∀ name other, shared.rules.lookup name = some other →
    other.listed doc.doctype triggerEvent = true → other.MatchesEvent lib doc triggerEvent →
    rule.priority ≤ other.priority

def Requested (requests : Table String SigningRequest) (doc : Document) (rule : DscRule) : Prop :=
  ∃ name row, requests.lookup name = some row ∧ ofRule doc.doctype doc.name rule.name row = true

/-- The rule has its request, and nothing else is new. -/
inductive Served (doc : Document) (rule : DscRule) (before after : Shared) : Prop where
  | reused (there : Requested before.requests doc rule) (same : after.requests = before.requests)
  | created (name : String) (signer : Text) (absent : ¬ Requested before.requests doc rule)
      (free : before.requests.lookup name = none) (named : name ≠ "")
      (added : after.requests =
        before.requests.insert name ((newRequest doc rule signer).row before.now))

/-- What an evaluation does to the requests. -/
structure FirstMatch (doc : Document) (triggerEvent : String) (before after : Shared) : Prop where
  served : ∀ rule, Leads lib before doc triggerEvent rule → Served doc rule before after
  idle : (∀ name rule, before.rules.lookup name = some rule →
    rule.listed doc.doctype triggerEvent = true → ¬ rule.MatchesEvent lib doc triggerEvent) →
    after.requests = before.requests

/-! ### The loop is a search -/

section Search

variable {lib} {doc : Document} {triggerEvent : String}

def DscRule.fits (lib : Libraries) (doc : Document) (triggerEvent : String) (rule : DscRule) :
    Bool :=
  !rule.skips doc triggerEvent &&
    match evaluateConditions lib.toConditionLibraries doc rule.conditions with
    | .ok matched => matched
    | .error _ => false

theorem fits_matches {rule : DscRule} :
    rule.fits lib doc triggerEvent = true ↔ rule.MatchesEvent lib doc triggerEvent := by
  have conditions : (match evaluateConditions lib.toConditionLibraries doc rule.conditions with
      | .ok matched => matched
      | .error _ => false) = true ↔ ∀ condition ∈ rule.conditions,
        checkCondition lib.toConditionLibraries condition doc = .ok true := by
    rw [← evaluateConditions_true]
    split
    · rename_i matched evaluated
      rw [evaluated, Except.ok.injEq]
    · rename_i exn evaluated
      rw [evaluated]
      exact iff_of_false Bool.false_ne_true nofun
  unfold DscRule.fits
  rw [Bool.and_eq_true, conditions]
  simp only [DscRule.skips, Bool.not_eq_true', Bool.or_eq_false_iff, Bool.and_eq_false_iff,
    bne_eq_false_iff_eq, beq_eq_false_iff_ne]
  constructor
  · rintro ⟨⟨company, workflow⟩, holds⟩
    refine ⟨?_, ?_, holds⟩
    · intro given
      rcases company with none_ | same
      · cases none_.symm.trans given
      · exact same
    · intro event given
      rcases workflow with (other | none_) | same
      · exact absurd event other
      · cases none_.symm.trans given
      · exact same
  · intro fits
    refine ⟨⟨?_, ?_⟩, fits.conditions⟩
    · cases given : rule.company.given with
      | false => exact Or.inl rfl
      | true => exact Or.inr (fits.company given)
    · by_cases event : triggerEvent = "on_workflow_action"
      · cases given : rule.triggerWorkflowState.given with
        | false => exact Or.inl (Or.inr rfl)
        | true => exact Or.inr (fits.workflow event given)
      · exact Or.inl (Or.inl event)

/-- `frappe.utils.flt` never raises. -/
def Lenient (lib : Libraries) : Prop := ∀ value, ∃ number, lib.flt value = .ok number

theorem checkCondition_total (lenient : Lenient lib) (condition : RuleCondition) :
    ∃ passed, checkCondition lib.toConditionLibraries condition doc = .ok passed := by
  have compared : ∀ (value : FieldValue) (target : String) (op : Comparison),
      ∃ passed, coerceAndCompare lib.toConditionLibraries value target op = .ok passed := by
    intro value target op
    obtain ⟨left, leftNumber⟩ := lenient value
    obtain ⟨right, rightNumber⟩ := lenient (.text target)
    refine ⟨op.ofFloats left right, ?_⟩
    simp only [coerceAndCompare, leftNumber, rightNumber]
    rfl
  unfold checkCondition
  split
  all_goals first
    | exact compared _ _ _
    | exact ⟨_, rfl⟩

theorem evaluateConditions_total (lenient : Lenient lib) (conditions : List RuleCondition) :
    ∃ matched, evaluateConditions lib.toConditionLibraries doc conditions = .ok matched := by
  induction conditions with
  | nil => exact ⟨true, rfl⟩
  | cons condition rest ih =>
      obtain ⟨passed, checked⟩ : ∃ passed,
          checkCondition lib.toConditionLibraries condition doc = .ok passed :=
        checkCondition_total lenient condition
      rw [evaluateConditions, checked]
      cases passed with
      | true => exact ih
      | false => exact ⟨false, rfl⟩

/-- The loop does for the first rule that fits what is done for a rule that matches. -/
theorem evaluateEach_search (lenient : Lenient lib) (ctx : Context) (rules : List DscRule) :
    evaluateEach lib ctx doc triggerEvent rules =
      match rules.find? (DscRule.fits lib doc triggerEvent) with
      | some rule => fire lib ctx doc triggerEvent rule
      | none => pure () := by
  induction rules with
  | nil => rfl
  | cons rule rest ih =>
      obtain ⟨matched, evaluated⟩ : ∃ matched,
          evaluateConditions lib.toConditionLibraries doc rule.conditions = .ok matched :=
        evaluateConditions_total lenient rule.conditions
      have fit : rule.fits lib doc triggerEvent = (!rule.skips doc triggerEvent && matched) := by
        unfold DscRule.fits
        rw [evaluated]
      rw [evaluateEach, List.find?_cons, fit, evaluated, ih]
      cases rule.skips doc triggerEvent with
      | true => rfl
      | false => cases matched <;> rfl

/-! ### The rules by priority -/

def rulesFor (shared : Shared) (doctype triggerEvent : String) : List (String × DscRule) :=
  (shared.rules.select (DscRule.listed doctype triggerEvent)).insertionSort
    fun left right => left.2.priority ≤ right.2.priority

theorem mem_rulesFor {shared : Shared} {doctype : String} {name : String} {rule : DscRule} :
    (name, rule) ∈ rulesFor shared doctype triggerEvent ↔
      shared.rules.lookup name = some rule ∧ rule.listed doctype triggerEvent = true := by
  rw [rulesFor, List.mem_insertionSort, Table.mem_select]

theorem rulesFor_sorted (shared : Shared) (doctype triggerEvent : String) :
    (rulesFor shared doctype triggerEvent).Pairwise fun left right =>
      left.2.priority ≤ right.2.priority := by
  have total : Std.Total fun left right : String × DscRule =>
      left.2.priority ≤ right.2.priority := ⟨fun _ _ => Int.le_total _ _⟩
  have trans : IsTrans (String × DscRule) fun left right =>
      left.2.priority ≤ right.2.priority := ⟨fun _ _ _ => Int.le_trans⟩
  exact List.pairwise_insertionSort _ _

/-- What is found first in the order of a rank has the least rank. -/
theorem find?_least {Item : Type} {rank : Item → Int} {items : List Item} {wanted : Item → Bool}
    {found : Item} (sorted : items.Pairwise fun left right => rank left ≤ rank right)
    (first : items.find? wanted = some found) :
    ∀ item ∈ items, wanted item = true → rank found ≤ rank item := by
  obtain ⟨-, before, after, rfl, passed⟩ := List.find?_eq_some_iff_append.mp first
  have behind := (List.pairwise_cons.mp (List.pairwise_append.mp sorted).2.1).1
  intro item member fits
  rcases List.mem_append.mp member with early | late
  · have missed := passed item early
    rw [fits] at missed
    cases missed
  · rcases List.mem_cons.mp late with rfl | later
    · exact Int.le_refl _
    · exact behind item later

end Search

/-! ### Statements that make no request -/

def Calm (kind : Oracle → Prop) : Prop := ∀ oracle, kind oracle → oracle.fault = none

/-- Only events have been added. -/
def Quiet (before after : Shared) : Prop := ∃ events, after = { before with events := events }

theorem Quiet.refl (shared : Shared) : Quiet shared shared := ⟨shared.events, rfl⟩

theorem Quiet.trans {first second third : Shared} (early : Quiet first second)
    (late : Quiet second third) : Quiet first third := by
  obtain ⟨_, rfl⟩ := early
  obtain ⟨events, rfl⟩ := late
  exact ⟨events, rfl⟩

theorem Quiet.requests {before after : Shared} (quiet : Quiet before after) :
    after.requests = before.requests := by
  obtain ⟨_, rfl⟩ := quiet
  rfl

/-- Questions that are always answered, and change no request. -/
def Told : Operation → Prop
  | .getRule _ => False
  | .insertRequest _ => False
  | _ => True

section Running

variable {lib} {kind : Oracle → Prop} {shared : Shared} {trace : WorkerTrace}

/-- A program that comes to an end whatever it is told, and fails only where the
surroundings do. -/
def Quietly {Value : Type} (kind : Oracle → Prop) (program : Worker Value) : Prop :=
  ∀ shared trace, desk.Ensures kind (fun result _ later _ => Quiet shared later ∧
    (Calm kind → ∃ value, result = .ok value)) program () shared trace

theorem quietly_pure {Value : Type} (value : Value) :
    Quietly kind (pure value : Worker Value) :=
  fun shared _ => ⟨Quiet.refl shared, fun _ => ⟨value, rfl⟩⟩

theorem quietly_bind {Value Result : Type} {program : Worker Value} {next : Value → Worker Result}
    (first : Quietly kind program) (rest : ∀ value, Quietly kind (next value)) :
    Quietly kind (program.bind next) := by
  intro shared trace
  refine Ensures.bind (first shared trace) ?_ ?_
  · intro value _ between told quiet
    refine (rest value between told).weaken ?_
    intro result _ later _ after
    exact ⟨quiet.1.trans after.1, after.2⟩
  · intro error _ later _ failed
    refine ⟨failed.1, fun calm => ?_⟩
    obtain ⟨value, impossible⟩ := failed.2 calm
    cases impossible

theorem quietly_recover {Value : Type} {program : Worker Value} {handler : Exn → Worker Value}
    (first : Quietly kind program) (rest : ∀ error, Quietly kind (handler error)) :
    Quietly kind (program.recover handler) := by
  intro shared trace
  refine Ensures.recover (first shared trace) ?_ ?_
  · intro value _ later _ ended
    exact ended
  · intro error _ between told failed
    refine (rest error between told).weaken ?_
    intro result _ later _ after
    exact ⟨failed.1.trans after.1, after.2⟩

theorem reply_cases {oracle : Oracle} {operation : Operation} {later : Shared}
    {given : Except Exn operation.Answer}
    (replied : reply oracle shared operation = some (given, later)) :
    (∃ exn, oracle.fault = some exn ∧ given = .error exn ∧ later = shared) ∨
      oracle.fault = none ∧ answer oracle shared operation = some (given, later) := by
  unfold reply at replied
  split at replied
  · rename_i exn fault
    cases replied
    exact Or.inl ⟨exn, fault, rfl, rfl⟩
  · rename_i calm
    exact Or.inr ⟨calm, replied⟩

/-- A statement that the tables refuse nothing is answered, or the surroundings fail. -/
theorem ask_ensures {Value : Type} {operation : Operation}
    {next : operation.Answer → Worker Value} {post : Except Exn Value → Shared → Prop}
    (answers : ∀ oracle error later,
      answer oracle shared operation ≠ some (.error error, later))
    (onDone : ∀ oracle given later trace,
      answer oracle shared operation = some (.ok given, later) →
      desk.Ensures kind (fun result _ last _ => post result last) (next given) () later trace)
    (onFault : ∀ oracle exn, kind oracle → oracle.fault = some exn → post (.error exn) shared) :
    desk.Ensures kind (fun result _ last _ => post result last) ((ask operation).bind next) ()
      shared trace := by
  refine Ensures.perform ?_ ?_
  · intro oracle given later _ replied
    rcases reply_cases replied with ⟨_, _, impossible, _⟩ | ⟨_, answered⟩
    · cases impossible
    · exact onDone oracle given later _ answered
  · intro oracle error later chosen replied
    rcases reply_cases replied with ⟨exn, fault, same, rfl⟩ | ⟨_, answered⟩
    · cases same
      exact onFault oracle error chosen fault
    · exact absurd answered (answers oracle error later)

theorem quietly_ask {operation : Operation} (told : Told operation) :
    Quietly kind (ask operation) := by
  intro shared trace oracle given later chosen replied
  rcases reply_cases replied with ⟨exn, fault, rfl, rfl⟩ | ⟨_, answered⟩
  · refine ⟨Quiet.refl _, fun calm => ?_⟩
    cases fault.symm.trans (calm oracle chosen)
  · cases operation with
    | getRule name => cases told
    | insertRequest request => cases told
    | insertEvent event =>
        cases answered
        exact ⟨⟨event :: shared.events, rfl⟩, fun _ => ⟨(), rfl⟩⟩
    | _ =>
        cases answered
        exact ⟨Quiet.refl _, fun _ => ⟨_, rfl⟩⟩

theorem logEvent_quietly (ctx : Context) (signingRequest eventType : String)
    (details : List (String × Json)) :
    Quietly kind (logEvent lib ctx signingRequest eventType details) :=
  quietly_bind (quietly_ask trivial) fun _ => quietly_ask trivial

theorem informSigner_quietly (name : String) (doc : Document) (rule : DscRule)
    (expectedSigner : Text) : Quietly kind (informSigner lib name doc rule expectedSigner) := by
  unfold informSigner
  split
  · refine quietly_bind ?_ fun _ => ?_
    · exact quietly_recover (quietly_ask trivial) fun _ => quietly_ask trivial
    · exact quietly_recover (quietly_ask trivial) fun _ => quietly_ask trivial
  · exact quietly_pure ()

/-! ### The request of a rule -/

theorem requested_select {doc : Document} {rule : DscRule} :
    Requested shared.requests doc rule ↔
      shared.requests.select (ofRule doc.doctype doc.name rule.name) ≠ [] := by
  constructor
  · rintro ⟨name, row, found, fits⟩
    exact List.ne_nil_of_mem (Table.mem_select.mpr ⟨found, fits⟩)
  · intro some_
    obtain ⟨⟨name, row⟩, member⟩ := List.exists_mem_of_ne_nil _ some_
    exact ⟨name, row, Table.mem_select.mp member⟩

/-- `db.exists` finds a request of the rule, by a name, exactly where there is one. -/
theorem existsRequest_given {doc : Document} {rule : DscRule} {oracle : Oracle} {existing : Text}
    {later : Shared} (named : shared.requests.lookup "" = none)
    (answered : answer oracle shared (.existsRequest doc.doctype doc.name rule.name) =
      some (.ok existing, later)) :
    existing.given = true ↔ Requested shared.requests doc rule := by
  have told := (congrArg Prod.fst (Option.some.inj answered))
  simp only [Except.ok.injEq] at told
  rw [requested_select]
  generalize picked : shared.requests.select (ofRule doc.doctype doc.name rule.name) = rows at told
  cases found : rows[oracle.pick % rows.length]? with
  | none =>
      rw [found] at told
      subst told
      refine iff_of_false Bool.false_ne_true fun some_ => ?_
      rw [List.getElem?_eq_none_iff] at found
      exact absurd (Nat.mod_lt oracle.pick (List.length_pos_iff.mpr some_)) (by omega)
  | some entry =>
      rw [found] at told
      subst told
      have member := List.mem_of_getElem? found
      refine iff_of_true ?_ (List.ne_nil_of_mem member)
      rw [← picked] at member
      have there : shared.requests.lookup entry.1 = some entry.2 ∧
          ofRule doc.doctype doc.name rule.name entry.2 = true := Table.mem_select.mp member
      have nonempty : entry.1 ≠ "" := by
        intro blank
        rw [blank, named] at there
        cases there.1
      simpa [Text.given] using nonempty

/-- Where the program ends well, the rule is served, as it does where the surroundings
let it; a request that was there before is left alone in any case. -/
structure Serves {Value : Type} (kind : Oracle → Prop) (doc : Document) (rule : DscRule)
    (before : Shared) (result : Except Exn Value) (later : Shared) : Prop where
  served : ∀ value, result = .ok value → Served doc rule before later
  calm : Calm kind → ∃ value, result = .ok value
  kept : Requested before.requests doc rule → later.requests = before.requests

theorem Served.kept {doc : Document} {rule : DscRule} {before after : Shared}
    (served : Served doc rule before after) (there : Requested before.requests doc rule) :
    after.requests = before.requests := by
  cases served with
  | reused _ same => exact same
  | created _ _ absent => exact absurd there absent

theorem Served.quiet {doc : Document} {rule : DscRule} {before after later : Shared}
    (served : Served doc rule before after) (quiet : Quiet after later) :
    Served doc rule before later := by
  cases served with
  | reused there same => exact .reused there (quiet.requests.trans same)
  | created name signer absent free named added =>
      exact .created name signer absent free named (quiet.requests.trans added)

theorem ofRule_newRequest (doc : Document) (rule : DscRule) (signer : Text) (now : Instant) :
    ofRule doc.doctype doc.name rule.name ((newRequest doc rule signer).row now) = true := by
  simp [ofRule, SigningRequest.belongsTo, newRequest, NewRequest.row]

theorem Served.requested {doc : Document} {rule : DscRule} {before after : Shared}
    (served : Served doc rule before after) : Requested after.requests doc rule := by
  cases served with
  | reused there same =>
      rw [same]
      exact there
  | created name signer _ _ _ added =>
      rw [added]
      exact ⟨name, _, AList.lookup_insert _, ofRule_newRequest doc rule signer _⟩

theorem Served.blank {doc : Document} {rule : DscRule} {before after : Shared}
    (served : Served doc rule before after) (blank : before.requests.lookup "" = none) :
    after.requests.lookup "" = none := by
  cases served with
  | reused _ same =>
      rw [same]
      exact blank
  | created name _ _ _ named added =>
      rw [added, AList.lookup_insert_ne (Ne.symm named)]
      exact blank

theorem serves_after {Value : Type} {doc : Document} {rule : DscRule} {before : Shared}
    {program : Worker Value} (served : Served doc rule before shared)
    (quietly : Quietly kind program) :
    desk.Ensures kind (fun result _ later _ => Serves kind doc rule before result later) program ()
      shared trace := by
  refine (quietly shared trace).weaken ?_
  intro result _ later _ ended
  exact ⟨fun _ _ => served.quiet ended.1, ended.2, (served.quiet ended.1).kept⟩

/-- A question that fails because the surroundings do changes nothing. -/
theorem serves_fault {Value : Type} {doc : Document} {rule : DscRule} (oracle : Oracle) (exn : Exn)
    (chosen : kind oracle) (fault : oracle.fault = some exn) :
    Serves kind doc rule shared (.error exn : Except Exn Value) shared :=
  ⟨nofun, fun calm => (nomatch fault.symm.trans (calm oracle chosen)), fun _ => rfl⟩

theorem insertSigningRequest_serves (ctx : Context) (doc : Document) (rule : DscRule)
    (absent : ¬ Requested shared.requests doc rule) :
    desk.Ensures kind (fun result _ later _ => Serves kind doc rule shared result later)
      (insertSigningRequest lib ctx doc rule) () shared trace := by
  unfold insertSigningRequest resolveSignerUser
  simp only [Program.bind_eq, Program.bind_assoc]
  refine ask_ensures nofun ?_ serves_fault
  intro _ allowedUsers _ _ answered
  cases answered
  refine ask_ensures ?_ ?_ serves_fault
  · intro oracle error later answered
    simp only [answer] at answered
    split at answered
    · cases answered
    · split at answered <;> cases answered
  · intro oracle name later _ answered
    simp only [answer] at answered
    split at answered
    · cases answered
    · rename_i free
      split at answered
      · cases answered
      · rename_i named
        cases answered
        refine serves_after (.created oracle.name _ absent free (by simpa using named) rfl) ?_
        exact quietly_bind (logEvent_quietly ctx _ _ _) fun _ =>
          quietly_bind (informSigner_quietly _ doc rule _) fun _ => quietly_pure _

theorem createSigningRequest_serves (named : shared.requests.lookup "" = none) (ctx : Context)
    (doc : Document) (rule : DscRule) :
    desk.Ensures kind (fun result _ later _ => Serves kind doc rule shared result later)
      (createSigningRequest lib ctx doc rule) () shared trace := by
  unfold createSigningRequest
  simp only [Program.bind_eq]
  refine ask_ensures nofun ?_ serves_fault
  intro oracle existing later _ answered
  have found := existsRequest_given named answered
  cases answered
  split
  · rename_i given
    exact ⟨fun _ _ => .reused (found.mp given) rfl, fun _ => ⟨_, rfl⟩, fun _ => rfl⟩
  · rename_i missed
    exact insertSigningRequest_serves ctx doc rule fun there => missed (found.mpr there)

theorem fire_serves (named : shared.requests.lookup "" = none) (ctx : Context) (doc : Document)
    (triggerEvent : String) (rule : DscRule) :
    desk.Ensures kind (fun result _ later _ => Serves kind doc rule shared result later)
      (fire lib ctx doc triggerEvent rule) () shared trace := by
  unfold fire
  refine Ensures.bind (createSigningRequest_serves named ctx doc rule) ?_ ?_
  · intro reqName _ later told serves
    refine serves_after (serves.served reqName rfl) ?_
    split
    · refine quietly_bind (logEvent_quietly ctx _ _ _) fun _ => ?_
      split
      · exact logEvent_quietly ctx _ _ _
      · exact quietly_pure ()
    · exact quietly_pure ()
  · intro error _ later told failed
    refine ⟨nofun, fun calm => ?_, failed.kept⟩
    obtain ⟨value, impossible⟩ := failed.calm calm
    cases impossible

/-! ### The rules as they are read -/

theorem getRules_reads {names : List String} {rules : List DscRule}
    (stored : List.Forall₂ (fun name rule => shared.rules.lookup name = some rule) names rules) :
    desk.Ensures kind (fun result _ later _ => later = shared ∧
      (∀ told, result = .ok told → told = rules) ∧ (Calm kind → result = .ok rules))
      (getRules names) () shared trace := by
  induction stored generalizing trace with
  | nil => exact ⟨rfl, fun told same => (Except.ok.inj same).symm, fun _ => rfl⟩
  | @cons name rule names rules found _ ih =>
      unfold getRules
      simp only [Program.bind_eq]
      refine ask_ensures ?_ ?_ ?_
      · intro oracle error later answered
        simp only [answer, found, orMissing, Option.some.injEq, Prod.mk.injEq] at answered
        cases answered.1
      · intro oracle given later _ answered
        simp only [answer, found, orMissing, Option.some.injEq, Prod.mk.injEq,
          Except.ok.injEq] at answered
        obtain ⟨rfl, rfl⟩ := answered
        refine Ensures.bind ih ?_ ?_
        · intro others _ between told read
          obtain ⟨rfl, same, _⟩ := read
          rw [same others rfl]
          exact ⟨rfl, fun told same => (Except.ok.inj same).symm, fun _ => rfl⟩
        · intro error _ between told failed
          refine ⟨failed.1, fun told impossible => ?_, fun calm => ?_⟩
          · cases impossible
          · cases failed.2.2 calm
      · intro oracle exn chosen fault
        refine ⟨rfl, fun told impossible => ?_, fun calm => ?_⟩
        · cases impossible
        · cases fault.symm.trans (calm oracle chosen)

theorem getMatchingRules_reads (doctype triggerEvent : String) :
    desk.Ensures kind (fun result _ later _ => later = shared ∧
      (∀ told, result = .ok told →
        told = (rulesFor shared doctype triggerEvent).map Prod.snd) ∧
      (Calm kind → result = .ok ((rulesFor shared doctype triggerEvent).map Prod.snd)))
      (getMatchingRules doctype triggerEvent) () shared trace := by
  unfold getMatchingRules
  simp only [Program.bind_eq]
  refine ask_ensures nofun ?_ ?_
  · intro _ names _ _ answered
    cases answered
    refine getRules_reads ?_
    rw [List.forall₂_map_left_iff, List.forall₂_map_right_iff]
    refine List.forall₂_same.mpr fun entry member => ?_
    exact (mem_rulesFor.mp (show (entry.1, entry.2) ∈ _ from member)).1
  · intro oracle exn chosen fault
    refine ⟨rfl, nofun, fun calm => ?_⟩
    cases fault.symm.trans (calm oracle chosen)

/-! ### An evaluation -/

/-- What the search finds in the rules of the tables. -/
def winner (lib : Libraries) (shared : Shared) (doc : Document) (triggerEvent : String) :
    Option DscRule :=
  ((rulesFor shared doc.doctype triggerEvent).map Prod.snd).find?
    (DscRule.fits lib doc triggerEvent)

theorem winner_leads {doc : Document} {triggerEvent : String} {rule : DscRule}
    (found : winner lib shared doc triggerEvent = some rule) :
    Leads lib shared doc triggerEvent rule := by
  have sorted : ((rulesFor shared doc.doctype triggerEvent).map Prod.snd).Pairwise
      fun left right => left.priority ≤ right.priority :=
    List.pairwise_map.mpr (rulesFor_sorted shared doc.doctype triggerEvent)
  obtain ⟨⟨name, _⟩, member, rfl⟩ := List.mem_map.mp (List.mem_of_find?_eq_some found)
  obtain ⟨stored, listed⟩ := mem_rulesFor.mp member
  refine ⟨⟨name, stored⟩, listed, fits_matches.mp (List.find?_some found), ?_⟩
  intro other rival otherStored otherListed otherMatches
  exact find?_least sorted found rival
    (List.mem_map.mpr ⟨(other, rival), mem_rulesFor.mpr ⟨otherStored, otherListed⟩, rfl⟩)
    (fits_matches.mpr otherMatches)

theorem winner_none {doc : Document} {triggerEvent : String} :
    winner lib shared doc triggerEvent = none ↔
      ∀ name rule, shared.rules.lookup name = some rule →
        rule.listed doc.doctype triggerEvent = true → ¬ rule.MatchesEvent lib doc triggerEvent := by
  unfold winner
  rw [List.find?_eq_none]
  constructor
  · intro misses name rule stored listed matched
    exact misses rule (List.mem_map.mpr ⟨(name, rule), mem_rulesFor.mpr ⟨stored, listed⟩, rfl⟩)
      (fits_matches.mpr matched)
  · intro misses rule member fits
    obtain ⟨⟨name, _⟩, inside, rfl⟩ := List.mem_map.mp member
    obtain ⟨stored, listed⟩ := mem_rulesFor.mp inside
    exact misses name _ stored listed (fits_matches.mp fits)

def DistinctPriorities (shared : Shared) (doctype triggerEvent : String) : Prop :=
  ∀ name other rule rival, shared.rules.lookup name = some rule →
    shared.rules.lookup other = some rival → rule.listed doctype triggerEvent = true →
    rival.listed doctype triggerEvent = true → rule.priority = rival.priority → name = other

theorem leads_unique {doc : Document} {triggerEvent : String} {rule rival : DscRule}
    (distinct : DistinctPriorities shared doc.doctype triggerEvent)
    (leads : Leads lib shared doc triggerEvent rule)
    (rivals : Leads lib shared doc triggerEvent rival) : rule = rival := by
  obtain ⟨name, stored⟩ := leads.stored
  obtain ⟨other, otherStored⟩ := rivals.stored
  have level : rule.priority = rival.priority :=
    Int.le_antisymm (leads.least other rival otherStored rivals.listed rivals.matched)
      (rivals.least name rule stored leads.listed leads.matched)
  have same := distinct name other rule rival stored otherStored leads.listed rivals.listed level
  rw [same, otherStored] at stored
  exact (Option.some.inj stored).symm

theorem evaluateRules_serves (lenient : Lenient lib) (named : shared.requests.lookup "" = none)
    (ctx : Context) (doc : Document) (triggerEvent : String) :
    desk.Ensures kind (fun result _ later _ => match winner lib shared doc triggerEvent with
      | some rule => Serves kind doc rule shared result later
      | none => later.requests = shared.requests ∧ (Calm kind → ∃ value, result = .ok value))
      (evaluateRules lib ctx doc triggerEvent) () shared trace := by
  unfold evaluateRules
  refine Ensures.bind (getMatchingRules_reads doc.doctype triggerEvent) ?_ ?_
  · rintro rules _ between told ⟨rfl, same, _⟩
    rw [same rules rfl, evaluateEach_search lenient ctx]
    unfold winner
    cases ((rulesFor between doc.doctype triggerEvent).map Prod.snd).find?
        (DscRule.fits lib doc triggerEvent) with
    | some rule => exact fire_serves named ctx doc triggerEvent rule
    | none => exact ⟨rfl, fun _ => ⟨(), rfl⟩⟩
  · rintro error _ later told ⟨rfl, _, read⟩
    cases winner lib later doc triggerEvent with
    | some rule => exact ⟨nofun, fun calm => (nomatch read calm), fun _ => rfl⟩
    | none => exact ⟨rfl, fun calm => (nomatch read calm)⟩

theorem evaluateRules_rules (ctx : Context) (doc : Document) (triggerEvent : String) :
    desk.Ensures kind (fun _ _ later _ => later.rules = shared.rules)
      (evaluateRules lib ctx doc triggerEvent) () shared trace := by
  refine Ensures.of_uses ?_ (Program.Uses.any _) rfl
  intro operation oracle given later _ before _ _ same replied
  rcases reply_cases replied with ⟨_, _, _, rfl⟩ | ⟨_, answered⟩
  · exact same
  · cases operation with
    | insertRequest request =>
        simp only [answer] at answered
        split at answered
        · cases answered
        · split at answered
          · cases answered
          · cases answered
            exact same
    | _ =>
        cases answered
        exact same

end Running

/-- Evaluated alone, an event makes a request of the document for the matching rule of the
smallest priority, unless there is one, and no other; evaluated again, it makes none. -/
theorem first_match_wins (lenient : Lenient lib) (ctx : Context) (doc : Document)
    (triggerEvent : String) (shared : Shared) (named : shared.requests.lookup "" = none)
    (distinct : DistinctPriorities shared doc.doctype triggerEvent) :
    desk.Ensures (fun _ => True) (fun result _ later _ => result = .ok () →
        FirstMatch lib doc triggerEvent shared later ∧
        ∀ (again : Context) (next : Shared), next.requests = later.requests →
          next.rules = later.rules →
          desk.Ensures (fun _ => True) (fun _ _ last _ => last.requests = next.requests)
            (evaluateRules lib again doc triggerEvent) () next [])
        (evaluateRules lib ctx doc triggerEvent) () shared [] ∧
      desk.Ensures (fun oracle => oracle.fault = none) (fun result _ _ _ => result = .ok ())
        (evaluateRules lib ctx doc triggerEvent) () shared [] := by
  refine ⟨?_, ?_⟩
  · refine ((evaluateRules_serves lenient named ctx doc triggerEvent).both
      (evaluateRules_rules ctx doc triggerEvent)).weaken ?_
    rintro result _ later _ ⟨serves, rules⟩ ended
    have served : FirstMatch lib doc triggerEvent shared later := by
      refine ⟨fun rule leads => ?_, fun misses => ?_⟩
      · cases found : winner lib shared doc triggerEvent with
        | some winning =>
            rw [found] at serves
            rw [leads_unique distinct leads (winner_leads found)]
            exact serves.served () ended
        | none =>
            obtain ⟨name, stored⟩ := leads.stored
            exact absurd leads.matched (winner_none.mp found name rule stored leads.listed)
      · rw [winner_none.mpr misses] at serves
        exact serves.1
    refine ⟨served, fun again next sameRequests sameRules => ?_⟩
    have blank : next.requests.lookup "" = none := by
      rw [sameRequests]
      cases found : winner lib shared doc triggerEvent with
      | some rule =>
          rw [found] at serves
          exact (serves.served () ended).blank named
      | none =>
          rw [found] at serves
          rw [serves.1]
          exact named
    have same : winner lib next doc triggerEvent = winner lib shared doc triggerEvent := by
      unfold winner rulesFor
      rw [sameRules, rules]
    refine (evaluateRules_serves lenient blank again doc triggerEvent).weaken ?_
    intro _ _ last _ repeated
    rw [same] at repeated
    cases found : winner lib shared doc triggerEvent with
    | some rule =>
        rw [found] at serves repeated
        refine repeated.kept ?_
        rw [sameRequests]
        exact (serves.served () ended).requested
    | none =>
        rw [found] at repeated
        exact repeated.1
  · refine (evaluateRules_serves lenient named ctx doc triggerEvent).weaken ?_
    intro result _ later _ serves
    have calm : Calm fun oracle => oracle.fault = none := fun _ fault => fault
    cases found : winner lib shared doc triggerEvent with
    | some rule =>
        rw [found] at serves
        obtain ⟨_, ended⟩ := serves.calm calm
        exact ended
    | none =>
        rw [found] at serves
        obtain ⟨_, ended⟩ := serves.2 calm
        exact ended

/-! ### Two rules -/

/-- Some name is always free. -/
theorem desk_answers (data : Unit) (shared : Shared) (operation : Operation) :
    ∃ oracle replied, oracle.fault = none ∧
      desk.reply oracle data shared operation = some replied := by
  obtain ⟨name, fresh⟩ := Infinite.exists_notMem_finset (insert "" shared.requests.keys.toFinset)
  simp only [Finset.mem_insert, List.mem_toFinset, not_or] at fresh
  have free : shared.requests.lookup name = none := AList.lookup_eq_none.mpr fresh.2
  cases operation with
  | insertRequest request =>
      have answered : desk.reply (naming name) data shared (.insertRequest request) =
          some (.ok name, { shared with
            requests := shared.requests.insert name (request.row shared.now) }) := by
        simp only [reply, naming, answer, free, beq_iff_eq, if_neg fresh.1]
      exact ⟨naming name, _, rfl, answered⟩
  | _ => exact ⟨naming name, _, rfl, rfl⟩

/-- A rule of the same event that comes later. -/
def spareRule : DscRule := { changeRule with name := "R-2", priority := 20 }

def twoRules : Table String DscRule := AList.insert "R-1" changeRule (AList.insert "R-2" spareRule ∅)

def twoRulesSite : Shared := (opened twoRules (fun _ => []) 0).shared

theorem twoRules_distinct : DistinctPriorities twoRulesSite "Sales Invoice" "on_change" := by
  have entries : twoRules.rows = [("R-1", changeRule), ("R-2", spareRule)] := by decide +kernel
  intro name other rule rival stored rivalStored _ _ level
  have member := Table.mem_rows.mpr stored
  have rivalMember := Table.mem_rows.mpr rivalStored
  simp only [twoRulesSite, opened, entries, List.mem_cons, Prod.mk.injEq, List.not_mem_nil,
    or_false] at member rivalMember
  rcases member with ⟨rfl, rfl⟩ | ⟨rfl, rfl⟩ <;> rcases rivalMember with ⟨rfl, rfl⟩ | ⟨rfl, rfl⟩
  · rfl
  · exact absurd level (by decide)
  · exact absurd level (by decide)
  · rfl

theorem first_match_sample :
    ∃ later, FirstMatch ruleLibraries savedInvoice "on_change" twoRulesSite later := by
  have wins := first_match_wins ruleLibraries (fun _ => ⟨_, rfl⟩) (sampleUser "alice") savedInvoice
    "on_change" twoRulesSite rfl twoRules_distinct
  obtain ⟨_, _, later, _, matched, ended⟩ :=
    ((wins.1.restrict fun _ _ => trivial).both wins.2).met desk_answers
  exact ⟨later, (matched ended).1⟩

end DscSigning.RuleEngine
