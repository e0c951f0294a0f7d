/-
One request for each document and rule, when workers handle events together.

`create_signing_request` looks for a request and inserts one in two steps.  A
worker that has found none stands for the request it will insert, and no other
worker may look for the same one in between.
-/

import DscSigning.Server.RuleEngine

namespace DscSigning.RuleEngine

open Interaction Engine

variable {lib : Libraries}

/-- What a request that a rule created is about. -/
structure Subject where
  doctype : String
  docname : String
  rule : String
deriving DecidableEq

def subjectOf (doctype docname : String) : Text → Option Subject
  | some rule => some ⟨doctype, docname, rule⟩
  | none => none

def rowSubject (row : SigningRequest) : Option Subject :=
  subjectOf row.sourceDoctype row.sourceName row.rule

theorem ofRule_subject {doctype docname rule : String} {row : SigningRequest} :
    ofRule doctype docname rule row = true ↔ rowSubject row = some ⟨doctype, docname, rule⟩ := by
  unfold ofRule SigningRequest.belongsTo rowSubject subjectOf
  cases named : row.rule with
  | none => simp
  | some other => simp [and_assoc]

/-- The request that a worker has looked for and not found, until it inserts it. -/
def outstanding : WorkerTrace → Option Subject
  | [] => none
  | ⟨_, .error _, _⟩ :: _ => none
  | ⟨.existsRequest doctype docname rule, .ok existing, _⟩ :: _ =>
      if existing.given then none else some ⟨doctype, docname, rule⟩
  | ⟨.insertRequest _, .ok _, _⟩ :: _ => none
  | _ :: earlier => outstanding earlier

/-- The worker is still to insert the request. -/
def Owes (call : DeskCall) (subject : Subject) : Prop :=
  (∃ program, call.phase = .running program) ∧ outstanding call.trace = some subject

/-- No worker looks for a request that another one is about to insert. -/
def ChecksAlone (world : DeskWorld) (label : WorkerLabel) : Prop :=
  ∀ index call doctype docname rule existing stamp,
    asking world label =
      some (index, call, ⟨.existsRequest doctype docname rule, .ok existing, stamp⟩) →
    ∀ (other : Nat) (otherCall : DeskCall), other ≠ index → world.calls[other]? = some otherCall →
      ¬ Owes otherCall ⟨doctype, docname, rule⟩

/-! ### What a worker asks -/

/-- A request is inserted by a worker that has just not found it. -/
def Permitted (_origin : Origin) (trace : WorkerTrace) : Operation → Prop
  | .insertRequest request =>
      ∃ subject, outstanding trace = some subject ∧
        subjectOf request.sourceDoctype request.sourceName request.rule = some subject
  | _ => True

/-- Questions other than the insertion of a request. -/
def Free : Operation → Prop
  | .insertRequest _ => False
  | _ => True

theorem permitted_free {origin : Origin} (earlier : WorkerTrace) (operation : Operation)
    (free : Free operation) : Permitted origin earlier operation := by
  cases operation <;> trivial

theorem free_follows {origin : Origin} {trace : WorkerTrace} {Value : Type}
    {program : Worker Value} (uses : program.Uses Free) :
    program.Follows (Permitted origin) (fun _ _ => True) trace :=
  (Program.Uses.follows uses trace permitted_free).weaken fun _ _ _ _ => trivial

theorem getRules_uses (names : List String) : (getRules names).Uses Free := by
  induction names with
  | nil => trivial
  | cons name rest ih =>
      refine Program.Uses.bind (Program.Uses.perform trivial) fun rule => ?_
      exact Program.Uses.bind ih fun others => trivial

theorem getMatchingRules_uses (doctype triggerEvent : String) :
    (getMatchingRules doctype triggerEvent).Uses Free :=
  Program.Uses.bind (Program.Uses.perform trivial) fun names => getRules_uses names

theorem logEvent_uses (ctx : Context) (signingRequest eventType : String)
    (details : List (String × Json)) :
    (logEvent lib ctx signingRequest eventType details).Uses Free :=
  Program.Uses.bind (Program.Uses.perform trivial) fun _ => Program.Uses.perform trivial

theorem informSigner_uses (name : String) (doc : Document) (rule : DscRule)
    (expectedSigner : Text) : (informSigner lib name doc rule expectedSigner).Uses Free := by
  unfold informSigner
  split
  · refine Program.Uses.bind ?_ fun _ => ?_
    · exact Program.Uses.recover (Program.Uses.perform trivial) fun _ =>
        Program.Uses.perform trivial
    · exact Program.Uses.recover (Program.Uses.perform trivial) fun _ =>
        Program.Uses.perform trivial
  · trivial

theorem insertSigningRequest_follows {origin : Origin} {trace : WorkerTrace} (ctx : Context)
    (doc : Document) (rule : DscRule)
    (owes : outstanding trace = some ⟨doc.doctype, doc.name, rule.name⟩) :
    (insertSigningRequest lib ctx doc rule).Follows (Permitted origin) (fun _ _ => True) trace := by
  unfold insertSigningRequest resolveSignerUser
  simp only [Program.bind_eq, Program.bind_assoc]
  refine Program.Follows.perform trivial (fun allowedUsers told => ?_) fun _ _ => trivial
  refine Program.Follows.perform ⟨⟨doc.doctype, doc.name, rule.name⟩, owes, rfl⟩
    (fun name named => ?_) fun _ _ => trivial
  refine (logEvent_uses ctx name _ _).past permitted_free ?_ fun _ _ _ => trivial
  intro later _ _
  exact (informSigner_uses name doc rule _).past permitted_free (fun _ _ _ => trivial)
    fun _ _ _ => trivial

theorem createSigningRequest_follows {origin : Origin} {trace : WorkerTrace} (ctx : Context)
    (doc : Document) (rule : DscRule) :
    (createSigningRequest lib ctx doc rule).Follows (Permitted origin) (fun _ _ => True)
      trace := by
  unfold createSigningRequest
  simp only [Program.bind_eq]
  refine Program.Follows.perform trivial (fun existing found => ?_) fun _ _ => trivial
  cases given : Text.given existing with
  | true =>
      rw [if_pos rfl]
      trivial
  | false =>
      rw [if_neg Bool.false_ne_true]
      refine insertSigningRequest_follows ctx doc rule ?_
      simp only [outstanding, given, Bool.false_eq_true, if_false]

theorem fire_follows {origin : Origin} {trace : WorkerTrace} (ctx : Context) (doc : Document)
    (triggerEvent : String) (rule : DscRule) :
    (fire lib ctx doc triggerEvent rule).Follows (Permitted origin) (fun _ _ => True) trace := by
  unfold fire
  refine Program.Follows.bind (createSigningRequest_follows ctx doc rule) ?_ fun _ _ _ _ => trivial
  intro later reqName _ _
  refine free_follows ?_
  split
  · refine Program.Uses.bind (logEvent_uses ctx reqName _ _) fun _ => ?_
    split
    · exact logEvent_uses ctx reqName _ _
    · trivial
  · trivial

theorem evaluateEach_follows {origin : Origin} {trace : WorkerTrace} (ctx : Context)
    (doc : Document) (triggerEvent : String) (rules : List DscRule) :
    (evaluateEach lib ctx doc triggerEvent rules).Follows (Permitted origin) (fun _ _ => True)
      trace := by
  induction rules with
  | nil => trivial
  | cons rule rest ih =>
      unfold evaluateEach
      split
      · exact ih
      · refine Program.Follows.ofExcept (fun matched _ => ?_) fun _ _ => trivial
        cases matched with
        | true => exact fire_follows ctx doc triggerEvent rule
        | false => exact ih

theorem evaluateRules_follows {origin : Origin} {trace : WorkerTrace} (ctx : Context)
    (doc : Document) (triggerEvent : String) :
    (evaluateRules lib ctx doc triggerEvent).Follows (Permitted origin) (fun _ _ => True)
      trace := by
  refine (getMatchingRules_uses doc.doctype triggerEvent).past permitted_free ?_
    fun _ _ _ => trivial
  intro later rules _
  exact evaluateEach_follows ctx doc triggerEvent rules

theorem body_follows (origin : Origin) :
    (body lib origin).Follows (Permitted origin) (fun _ _ => True) [] := by
  unfold body
  split
  · exact evaluateRules_follows _ _ _
  · exact evaluateRules_follows _ _ _
  · refine Program.Follows.bind (evaluateRules_follows _ _ _) ?_ fun _ _ _ _ => trivial
    intro later _ _ _
    split
    · trivial
    · split
      · trivial
      · exact evaluateRules_follows _ _ _

/-! ### What the table keeps -/

/-- A row of the table of a request with this subject. -/
def Holds (requests : Table String SigningRequest) (name : String) (subject : Subject) : Prop :=
  ∃ row, requests.lookup name = some row ∧ rowSubject row = some subject

/-- Where every row stands: named, one for each subject, and none that is still owed. -/
structure Single (world : DeskWorld) : Prop where
  named : ∀ name row, world.shared.requests.lookup name = some row → name ≠ ""
  unique : ∀ left right subject, Holds world.shared.requests left subject →
    Holds world.shared.requests right subject → left = right
  absent : ∀ (index : Nat) (call : DeskCall) subject name, world.calls[index]? = some call →
    Owes call subject → ¬ Holds world.shared.requests name subject
  alone : ∀ (left right : Nat) (one other : DeskCall) subject, left ≠ right →
    world.calls[left]? = some one → world.calls[right]? = some other → Owes one subject →
    ¬ Owes other subject

section Replies

variable {oracle : Oracle} {shared later : Shared}

theorem reply_requests {event : WorkerEvent}
    (replied : reply oracle shared event.query = some (event.reply, later)) :
    later.requests = shared.requests ∨
    ∃ request name stamp, event = ⟨.insertRequest request, .ok name, stamp⟩ ∧ name ≠ "" ∧
      later.requests = shared.requests.insert name (request.row shared.now) := by
  obtain ⟨operation, given, stamp⟩ := event
  simp only at replied
  unfold reply at replied
  split at replied
  · cases replied
    exact Or.inl rfl
  · cases operation with
    | insertRequest request =>
        simp only [answer] at replied
        split at replied
        · cases replied
        · split at replied
          · cases replied
          · rename_i named
            cases replied
            exact Or.inr ⟨request, oracle.name, stamp, rfl, by simpa using named, rfl⟩
    | _ =>
        cases replied
        exact Or.inl rfl

theorem reply_absent {doctype docname rule : String} {existing : Text}
    (named : ∀ name row, shared.requests.lookup name = some row → name ≠ "")
    (replied : reply oracle shared (.existsRequest doctype docname rule) =
      some (.ok existing, later)) (missed : existing.given = false) (name : String) :
    ¬ Holds shared.requests name ⟨doctype, docname, rule⟩ := by
  rintro ⟨row, found, about⟩
  have member : (name, row) ∈ shared.requests.select (ofRule doctype docname rule) :=
    Table.mem_select.mpr ⟨found, ofRule_subject.mpr about⟩
  unfold reply at replied
  split at replied
  · cases replied
  · simp only [answer, Option.some.injEq, Prod.mk.injEq, Except.ok.injEq] at replied
    have told := replied.1
    have inside : oracle.pick % (shared.requests.select (ofRule doctype docname rule)).length <
        (shared.requests.select (ofRule doctype docname rule)).length :=
      Nat.mod_lt _ (List.length_pos_of_mem member)
    obtain ⟨⟨key, other⟩, there⟩ : ∃ entry, (shared.requests.select
        (ofRule doctype docname rule))[oracle.pick % _]? = some entry :=
      ⟨_, List.getElem?_eq_getElem inside⟩
    rw [there, Option.map_some] at told
    have picked := List.mem_of_getElem? there
    have nonempty := named key other (Table.mem_select.mp picked).1
    rw [← told] at missed
    exact nonempty (by simpa [Text.given] using missed)

end Replies

/-- A row that a move leaves was there before, about the same, or was inserted by hand. -/
theorem move_row {move : Move} {shared later : Shared} (moved : move.apply shared = some later)
    {name : String} {row : SigningRequest} (found : later.requests.lookup name = some row) :
    (∃ old, shared.requests.lookup name = some old ∧ rowSubject old = rowSubject row) ∨
      (name ≠ "" ∧ rowSubject row = none) := by
  cases move with
  | elapse by_ =>
      cases moved
      exact Or.inl ⟨row, found, rfl⟩
  | administer rules allowedUsers =>
      cases moved
      exact Or.inl ⟨row, found, rfl⟩
  | insertAdHoc fresh request =>
      simp only [Move.apply] at moved
      split at moved
      · cases moved
      · split at moved
        · cases moved
        · rename_i nonempty
          cases moved
          by_cases same : name = fresh
          · subst same
            rw [AList.lookup_insert] at found
            cases found
            exact Or.inr ⟨by simpa using nonempty, rfl⟩
          · rw [AList.lookup_insert_ne same] at found
            exact Or.inl ⟨row, found, rfl⟩
  | writeRequest target change =>
      cases moved
      rw [Table.lookup_modify] at found
      split at found
      · rename_i same
        obtain ⟨old, present, rfl⟩ := Option.map_eq_some_iff.mp found
        exact Or.inl ⟨old, same ▸ present, rfl⟩
      · exact Or.inl ⟨row, found, rfl⟩
  | deleteRequest gone =>
      cases moved
      by_cases same : name = gone
      · subst same
        rw [AList.lookup_erase] at found
        cases found
      · rw [AList.lookup_erase_ne same] at found
        exact Or.inl ⟨row, found, rfl⟩

theorem move_holds {move : Move} {shared later : Shared} (moved : move.apply shared = some later)
    {name : String} {subject : Subject} (holds : Holds later.requests name subject) :
    Holds shared.requests name subject := by
  obtain ⟨row, found, about⟩ := holds
  rcases move_row moved found with ⟨old, present, same⟩ | ⟨_, adHoc⟩
  · exact ⟨old, present, same.trans about⟩
  · rw [adHoc] at about
    cases about

theorem move_named {move : Move} {shared later : Shared} (moved : move.apply shared = some later)
    (named : ∀ name row, shared.requests.lookup name = some row → name ≠ "") (name : String)
    (row : SigningRequest) (found : later.requests.lookup name = some row) : name ≠ "" := by
  rcases move_row moved found with ⟨old, present, _⟩ | ⟨nonempty, _⟩
  · exact named name old present
  · exact nonempty

/-! ### Steps -/

theorem outstanding_cons {event : WorkerEvent} {trace : WorkerTrace} {subject : Subject}
    (owes : outstanding (event :: trace) = some subject) :
    (∃ existing stamp, Text.given existing = false ∧
      event = ⟨.existsRequest subject.doctype subject.docname subject.rule, .ok existing, stamp⟩) ∨
    outstanding trace = some subject ∧
      ∀ request name stamp, event ≠ ⟨.insertRequest request, .ok name, stamp⟩ := by
  obtain ⟨operation, given, stamp⟩ := event
  cases given with
  | error exn =>
      unfold outstanding at owes
      cases owes
  | ok given =>
      cases operation with
      | existsRequest doctype docname rule =>
          cases missed : Text.given given with
          | true =>
              simp only [outstanding, missed, if_true] at owes
              cases owes
          | false =>
              simp only [outstanding, missed, Bool.false_eq_true, if_false, Option.some.injEq] at owes
              rw [← owes]
              exact Or.inl ⟨given, stamp, missed, rfl⟩
      | insertRequest request => cases owes
      | _ =>
          refine Or.inr ⟨owes, fun request name other same => ?_⟩
          cases same

section Steps

variable {world next : DeskWorld} {label : WorkerLabel}

/-- A worker that owes a request owed it before, or has just not found it. -/
theorem owes_before (stepped : step (body lib) world label = some next) {index : Nat}
    {later : DeskCall} {subject : Subject} (located : next.calls[index]? = some later)
    (owes : Owes later subject) :
    (∃ call, world.calls[index]? = some call ∧ Owes call subject ∧
      ∀ caller request name stamp,
        asking world label ≠ some (index, caller, ⟨.insertRequest request, .ok name, stamp⟩)) ∨
    ∃ call existing stamp, Text.given existing = false ∧
      asking world label = some (index, call,
        ⟨.existsRequest subject.doctype subject.docname subject.rule, .ok existing, stamp⟩) := by
  obtain ⟨⟨program, running⟩, outstanding⟩ := owes
  rcases step_call (body lib) stepped located with
    old | ⟨_, _, new⟩ | ⟨call, there, asked | ⟨result, _, _, latest⟩ | ⟨_, _, _, latest⟩⟩
  · refine Or.inl ⟨later, old, ⟨⟨program, running⟩, outstanding⟩, ?_⟩
    intro caller request name stamp asked
    obtain ⟨after, here, _, longer⟩ := asking_asked (body lib) stepped asked
    have same := asking_located asked
    rw [located] at here
    cases here
    rw [old] at same
    obtain ⟨there, _⟩ := same
    cases there
    exact absurd (congrArg List.length longer) (by simp)
  · rw [new] at outstanding
    cases outstanding
  · obtain ⟨oracle, query, after, reply, shared, rfl, asks, replied, _, rfl⟩ := asked
    rcases outstanding_cons outstanding with ⟨existing, stamp, missed, same⟩ | ⟨before, other⟩
    · refine Or.inr ⟨call, existing, stamp, missed, ?_⟩
      rw [asking_ask there asks replied, same]
    · refine Or.inl ⟨call, there, ⟨⟨_, asks⟩, before⟩, ?_⟩
      intro caller request name stamp asked
      rw [asking_ask there asks replied] at asked
      simp only [Option.some.injEq, Prod.mk.injEq] at asked
      exact other request name stamp asked.2.2
  · rw [latest] at running
    cases running
  · rw [latest] at running
    cases running

/-- A step leaves no row of a new subject, or inserts the one that a worker asks for. -/
theorem step_table (stepped : step (body lib) world label = some next)
    (named : ∀ name row, world.shared.requests.lookup name = some row → name ≠ "") :
    ((∀ name row, next.shared.requests.lookup name = some row → name ≠ "") ∧
      ∀ name subject, Holds next.shared.requests name subject →
        Holds world.shared.requests name subject) ∨
    ∃ index call request name stamp,
      asking world label = some (index, call, ⟨.insertRequest request, .ok name, stamp⟩) ∧
      name ≠ "" ∧ next.shared.requests =
        world.shared.requests.insert name (request.row world.shared.now) := by
  rcases step_shared (body lib) stepped with same | ⟨index, call, event, asked⟩ |
    ⟨move, data, _, moved⟩
  · rw [same]
    exact Or.inl ⟨named, fun _ _ holds => holds⟩
  · obtain ⟨oracle, replied⟩ := asking_shared (body lib) stepped asked
    rcases reply_requests replied with same | ⟨request, name, stamp, rfl, nonempty, inserted⟩
    · rw [same]
      exact Or.inl ⟨named, fun _ _ holds => holds⟩
    · exact Or.inr ⟨index, call, request, name, stamp, asked, nonempty, inserted⟩
  · obtain ⟨later, applied, same⟩ := Option.map_eq_some_iff.mp moved
    cases same
    exact Or.inl ⟨move_named applied named, fun _ _ holds => move_holds applied holds⟩

/-- The request that a worker has just not found is owed by no one else, and not there. -/
theorem missed_alone (single : Single world) (checks : ChecksAlone world label)
    (stepped : step (body lib) world label = some next) {index : Nat} {call : DeskCall}
    {subject : Subject} {existing : Text} {stamp : Instant} (missed : existing.given = false)
    (asked : asking world label = some (index, call,
      ⟨.existsRequest subject.doctype subject.docname subject.rule, .ok existing, stamp⟩)) :
    (∀ name, ¬ Holds world.shared.requests name subject) ∧
      ∀ (other : Nat) (otherCall : DeskCall), other ≠ index →
        world.calls[other]? = some otherCall → ¬ Owes otherCall subject := by
  obtain ⟨oracle, replied⟩ := asking_shared (body lib) stepped asked
  exact ⟨reply_absent single.named replied missed,
    checks index call subject.doctype subject.docname subject.rule existing stamp asked⟩

theorem alone_step (single : Single world) (checks : ChecksAlone world label)
    (stepped : step (body lib) world label = some next) (left right : Nat)
    (one other : DeskCall) (subject : Subject) (distinct : left ≠ right)
    (leftThere : next.calls[left]? = some one) (rightThere : next.calls[right]? = some other)
    (leftOwes : Owes one subject) : ¬ Owes other subject := by
  intro rightOwes
  rcases owes_before stepped leftThere leftOwes with
    ⟨leftCall, leftOld, leftBefore, _⟩ | ⟨leftCall, existing, stamp, missed, asked⟩
  · rcases owes_before stepped rightThere rightOwes with
      ⟨rightCall, rightOld, rightBefore, _⟩ | ⟨rightCall, existing, stamp, missed, asked⟩
    · exact single.alone left right leftCall rightCall subject distinct leftOld rightOld leftBefore
        rightBefore
    · exact (missed_alone single checks stepped missed asked).2 left leftCall distinct leftOld
        leftBefore
  · rcases owes_before stepped rightThere rightOwes with
      ⟨rightCall, rightOld, rightBefore, _⟩ | ⟨rightCall, _, _, _, rightAsked⟩
    · exact (missed_alone single checks stepped missed asked).2 right rightCall distinct.symm
        rightOld rightBefore
    · rw [asked] at rightAsked
      cases rightAsked
      exact distinct rfl

theorem single_step (disciplined : world.Disciplined Permitted fun _ _ _ => True)
    (single : Single world) (checks : ChecksAlone world label)
    (stepped : step (body lib) world label = some next) : Single next := by
  rcases step_table stepped single.named with ⟨named, kept⟩ |
    ⟨inserter, call, request, name, stamp, asked, nonempty, inserted⟩
  · refine ⟨named, ?_, ?_, alone_step single checks stepped⟩
    · intro left right subject leftHolds rightHolds
      exact single.unique left right subject (kept left subject leftHolds)
        (kept right subject rightHolds)
    · intro index later subject name located owes holds
      rcases owes_before stepped located owes with
        ⟨before, old, owed, _⟩ | ⟨before, existing, stamp, missed, asked⟩
      · exact single.absent index before subject name old owed (kept name subject holds)
      · exact (missed_alone single checks stepped missed asked).1 name (kept name subject holds)
  · -- The inserting worker owed the request, so there was none and no one else owed it.
    obtain ⟨there, _, ⟨after, running⟩, _⟩ := asking_located asked
    obtain ⟨subject, owed, about⟩ := disciplined_asking disciplined asked
    have owes : Owes call subject := ⟨⟨_, running⟩, owed⟩
    have rows (key : String) (other : Subject) (holds : Holds next.shared.requests key other) :
        key = name ∧ other = subject ∨ Holds world.shared.requests key other := by
      obtain ⟨row, found, aboutRow⟩ := holds
      rw [inserted] at found
      by_cases same : key = name
      · subst same
        rw [AList.lookup_insert] at found
        cases found
        exact Or.inl ⟨rfl, Option.some.inj (aboutRow.symm.trans about)⟩
      · rw [AList.lookup_insert_ne same] at found
        exact Or.inr ⟨row, found, aboutRow⟩
    have absent (key : String) : ¬ Holds world.shared.requests key subject :=
      single.absent inserter call subject key there owes
    refine ⟨?_, ?_, ?_, alone_step single checks stepped⟩
    · intro key row found
      rw [inserted] at found
      by_cases same : key = name
      · rw [same]
        exact nonempty
      · rw [AList.lookup_insert_ne same] at found
        exact single.named key row found
    · intro left right other leftHolds rightHolds
      rcases rows left other leftHolds with ⟨rfl, rfl⟩ | leftOld
      · rcases rows right other rightHolds with ⟨rfl, _⟩ | rightOld
        · rfl
        · exact absurd rightOld (absent right)
      · rcases rows right other rightHolds with ⟨rfl, rfl⟩ | rightOld
        · exact absurd leftOld (absent left)
        · exact single.unique left right other leftOld rightOld
    · intro index later other key located owesLater holds
      rcases owes_before stepped located owesLater with
        ⟨before, old, owedBefore, elsewhere⟩ | ⟨_, _, _, _, askedOther⟩
      · have distinct : inserter ≠ index := by
          intro same
          subst same
          exact elsewhere call request name stamp asked
        rcases rows key other holds with ⟨rfl, rfl⟩ | oldHolds
        · exact single.alone inserter index call before other distinct there old owes owedBefore
        · exact single.absent index before other key old owedBefore oldHolds
      · rw [asked] at askedOther
        cases askedOther

end Steps

/-- As long as no worker looks for a request while another one is between looking
for it and inserting it, no document has two requests of one rule. -/
theorem one_request_per_rule (lib : Libraries) (rules : Table String DscRule)
    (allowedUsers : String → List Text) (now : Instant) (labels : List WorkerLabel)
    (world : DeskWorld)
    (alone : Along (body lib) ChecksAlone (opened rules allowedUsers now) labels)
    (reached : run (body lib) (opened rules allowedUsers now) labels = some world)
    (doctype docname rule : String) :
    (world.shared.requests.select (ofRule doctype docname rule)).length ≤ 1 := by
  have started : (opened rules allowedUsers now).Disciplined Permitted (fun _ _ _ => True) ∧
      Single (opened rules allowedUsers now) := by
    refine ⟨?_, ?_, ?_, ?_, ?_⟩
    · intro index call located
      cases located
    · intro name row found
      cases found
    · rintro left right subject ⟨row, found, _⟩
      cases found
    · intro index call subject name located
      cases located
    · intro left right one other subject _ located
      cases located
  have preserved (world : DeskWorld) (label : WorkerLabel) (next : DeskWorld)
      (held : world.Disciplined Permitted (fun _ _ _ => True) ∧ Single world)
      (checks : ChecksAlone world label) (stepped : step (body lib) world label = some next) :
      next.Disciplined Permitted (fun _ _ _ => True) ∧ Single next :=
    ⟨disciplined_step (body lib) body_follows held.1 stepped,
      single_step held.1 held.2 checks stepped⟩
  obtain ⟨_, single⟩ := run_invariant (body lib) preserved started alone reached
  apply Table.length_select_le_one
  intro key other row row' found found' about about'
  exact single.unique key other ⟨doctype, docname, rule⟩ ⟨row, found, ofRule_subject.mp about⟩
    ⟨row', found', ofRule_subject.mp about'⟩

/-! ### Two workers -/

def ruleLibraries : Libraries :=
  { sampleLibraries with
    flt := fun _ => .ok (.finite 0)
    showFloat := fun _ => "0.0" }

/-- A rule on every change of a Sales Invoice. -/
def changeRule : DscRule :=
  { name := "R-1"
    isEnabled := true
    targetDoctype := "Sales Invoice"
    triggerEvent := "on_change"
    triggerWorkflowState := none
    priority := 10
    conditions := []
    profile := "P-1"
    signatureTemplate := none
    isMandatory := true
    blockPrintUntilSigned := false
    blockEmailUntilSigned := false
    company := none }

def savedInvoice : Document := ⟨"Sales Invoice", "INV-1", fun _ => .none⟩

def changed : Origin := ⟨sampleUser "alice", .onChange savedInvoice none⟩

def changeSite : DeskWorld := opened (AList.insert "R-1" changeRule ∅) (fun _ => []) 0

def naming (name : String) : Oracle := ⟨none, 0, name⟩

/-- One question after another of one worker, whose request gets the name. -/
def answered (index count : Nat) (name : String) : List WorkerLabel :=
  List.replicate count (.ask index (naming name))

/-- The second save is handled after the first. -/
def inTurn : List WorkerLabel :=
  .start changed :: answered 0 9 "SR-1" ++ [.finish 0] ++
    .start changed :: answered 1 5 "SR-2" ++ [.finish 1]

/-- Both workers look for a request before either inserts one. -/
def together : List WorkerLabel :=
  [.start changed, .start changed] ++ answered 0 3 "SR-1" ++ answered 1 3 "SR-2" ++
    answered 0 6 "SR-1" ++ answered 1 6 "SR-2" ++ [.finish 0, .finish 1]

def requestsAfter (labels : List WorkerLabel) : Option (List String) :=
  (run (body ruleLibraries) changeSite labels).map fun world =>
    (world.shared.requests.select (ofRule "Sales Invoice" "INV-1" "R-1")).map Prod.fst

/-- A check of `ChecksAlone`: all other workers are done. -/
def othersDone (world : DeskWorld) (label : WorkerLabel) : Bool :=
  match asking world label with
  | some (index, _, _) => (List.range world.calls.length).all fun other =>
      other == index || match world.calls[other]? with
        | some ⟨_, _, .running _⟩ => false
        | _ => true
  | none => true

theorem othersDone_alone (world : DeskWorld) (label : WorkerLabel)
    (checked : othersDone world label = true) : ChecksAlone world label := by
  intro index call doctype docname rule existing stamp asked other otherCall distinct located owes
  obtain ⟨⟨program, running⟩, _⟩ := owes
  obtain ⟨origin, trace, phase⟩ := otherCall
  cases running
  unfold othersDone at checked
  rw [asked] at checked
  have bound := (List.getElem?_eq_some_iff.mp located).1
  have ended := List.all_eq_true.mp checked other (List.mem_range.mpr bound)
  simp only [located, Bool.or_false, beq_iff_eq] at ended
  exact distinct ended

theorem one_request_per_rule_sample :
    ∃ world, run (body ruleLibraries) changeSite inTurn = some world ∧
      (world.shared.requests.select (ofRule "Sales Invoice" "INV-1" "R-1")).map Prod.fst =
        ["SR-1"] ∧
      (world.shared.requests.select (ofRule "Sales Invoice" "INV-1" "R-1")).length ≤ 1 := by
  have ends : requestsAfter inTurn = some ["SR-1"] := by decide +kernel
  obtain ⟨world, reached, names⟩ := Option.map_eq_some_iff.mp ends
  have alone : alongCheck (body ruleLibraries) othersDone changeSite inTurn = true := by
    decide +kernel
  exact ⟨world, reached, names, one_request_per_rule ruleLibraries _ _ 0 inTurn world
    (along_of_check (body ruleLibraries) othersDone_alone (along_check (body ruleLibraries) alone))
    reached "Sales Invoice" "INV-1" "R-1"⟩

/-- Two saves of an invoice that are handled together leave two requests. -/
theorem two_requests_per_rule :
    ∃ world, run (body ruleLibraries) changeSite together = some world ∧
      (world.shared.requests.select (ofRule "Sales Invoice" "INV-1" "R-1")).length = 2 := by
  have ends : (requestsAfter together).map List.length = some 2 := by decide +kernel
  obtain ⟨names, found, two⟩ := Option.map_eq_some_iff.mp ends
  obtain ⟨world, reached, same⟩ := Option.map_eq_some_iff.mp found
  refine ⟨world, reached, ?_⟩
  rw [← two, ← same, List.length_map]

end DscSigning.RuleEngine
