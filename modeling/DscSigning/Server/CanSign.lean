/-
`can_sign` against the checks of `initiate`.

`get_signing_status` looks for the user among the expected signers of all
requests; `initiate` takes one Pending request and tests signer and profile.  The
administrative write permission is left aside: an `initiate` that needs it does
not count as one that passes.
-/

import DscSigning.Server.Lifecycle

namespace DscSigning

open Interaction Engine

/-! ### The checks of initiate -/

section Checks

variable {kind : Oracle → Prop} {data : Database} {shared : Shared} {trace : ServerTrace}
  {Result : Type} {post : Except Exn Result → Database → Shared → ServerTrace → Prop}

/-- A question that writes nothing is answered from what the call sees, which stays. -/
theorem ensures_seen {operation : Operation} {next : operation.Answer → Server Result}
    (calm : ∀ oracle, kind oracle → oracle.fault = none) (statement : operation ≠ .commit)
    (silent : ∀ told stamp, effects ⟨operation, told, stamp⟩ = [])
    (onDone : ∀ oracle given later, kind oracle →
      answer oracle (site.view data (site.pending trace)) shared operation =
        some (.ok given, later) →
      site.pending (⟨operation, .ok given, shared.now⟩ :: trace) = site.pending trace →
      @Ensures face site Result kind post (next given) data later
        (⟨operation, .ok given, shared.now⟩ :: trace))
    (onFail : ∀ oracle exn later, kind oracle →
      answer oracle (site.view data (site.pending trace)) shared operation =
        some (.error exn, later) →
      site.pending (⟨operation, .error exn, shared.now⟩ :: trace) = site.pending trace →
      post (.error exn) data later (⟨operation, .error exn, shared.now⟩ :: trace)) :
    @Ensures face site Result kind post ((ask operation).bind next) data shared trace := by
  have uncommitted (told : Except Exn operation.Answer) :
      commits ⟨operation, told, shared.now⟩ = false := by
    cases operation <;> first | rfl | exact absurd rfl statement
  have pending (told : Except Exn operation.Answer) :
      site.pending (⟨operation, told, shared.now⟩ :: trace) = site.pending trace := by
    simp only [Engine.pending, uncommitted, silent, Bool.false_eq_true, if_false, List.append_nil]
  refine Ensures.perform ?_ ?_
  · intro oracle given later chosen replied
    simp only [reply, calm oracle chosen] at replied
    simp only [settle, uncommitted, Bool.false_eq_true, if_false]
    exact onDone oracle given later chosen replied (pending _)
  · intro oracle exn later chosen replied
    simp only [reply, calm oracle chosen] at replied
    simp only [settle, uncommitted, Bool.false_eq_true, if_false]
    exact onFail oracle exn later chosen replied (pending _)

/-- The same before anything was written. -/
theorem ensures_read {operation : Operation} {next : operation.Answer → Server Result}
    (calm : ∀ oracle, kind oracle → oracle.fault = none) (still : site.pending trace = [])
    (statement : operation ≠ .commit) (silent : ∀ told stamp, effects ⟨operation, told, stamp⟩ = [])
    (onDone : ∀ oracle given later, kind oracle →
      answer oracle data shared operation = some (.ok given, later) →
      site.pending (⟨operation, .ok given, shared.now⟩ :: trace) = [] →
      @Ensures face site Result kind post (next given) data later
        (⟨operation, .ok given, shared.now⟩ :: trace))
    (onFail : ∀ oracle exn later, kind oracle →
      answer oracle data shared operation = some (.error exn, later) →
      post (.error exn) data later (⟨operation, .error exn, shared.now⟩ :: trace)) :
    @Ensures face site Result kind post ((ask operation).bind next) data shared trace := by
  refine ensures_seen calm statement silent ?_ ?_
  · intro oracle given later chosen answered pending
    rw [still] at answered pending
    exact onDone oracle given later chosen answered pending
  · intro oracle exn later chosen answered pending
    rw [still] at answered
    exact onFail oracle exn later chosen answered

/-- Nothing in the trace is a question for the settings or for roles. -/
def Unchecked (trace : ServerTrace) : Prop :=
  ∀ event ∈ trace, event.query ≠ .getSettings ∧ ∀ user, event.query ≠ .getRoles user

theorem Unchecked.cons {trace : ServerTrace} {event : ServerEvent} (unchecked : Unchecked trace)
    (settings : event.query ≠ .getSettings) (roles : ∀ user, event.query ≠ .getRoles user) :
    Unchecked (event :: trace) :=
  List.forall_mem_cons.mpr ⟨⟨settings, roles⟩, unchecked⟩

end Checks

/-! ### The recovery that comes first -/

def SigningRequest.stale (now : Instant) (row : SigningRequest) : Bool :=
  row.status == .inProgress && decide (staleInProgress ≤ now - row.modified)

/-- The chosen requests have become Pending, and nothing else of the requests
and the masters has changed. -/
structure Reopened (chosen : String → Bool) (before after : Database) : Prop where
  masters : after.masters = before.masters
  requests : ∀ name, after.requests.lookup name = (before.requests.lookup name).map fun row =>
    if chosen name then { row with status := .pending } else row

section Recovery

variable {kind : Oracle → Prop} {data : Database} {shared : Shared} {trace : ServerTrace}
  {Result : Type} {post : Except Exn Result → Database → Shared → ServerTrace → Prop}

/-- A question that everything answers alike. -/
theorem ensures_told {operation : Operation} {next : operation.Answer → Server Result}
    {given : operation.Answer} (calm : ∀ oracle, kind oracle → oracle.fault = none)
    (statement : operation ≠ .commit)
    (answered : ∀ oracle view, answer oracle view shared operation = some (.ok given, shared))
    (onward : @Ensures face site Result kind post (next given) data shared
      (⟨operation, .ok given, shared.now⟩ :: trace)) :
    @Ensures face site Result kind post ((ask operation).bind next) data shared trace := by
  have uncommitted : commits ⟨operation, .ok given, shared.now⟩ = false := by
    cases operation <;> first | rfl | exact absurd rfl statement
  have told {oracle : Oracle} {result : Except Exn operation.Answer} {later : Shared}
      (picked : kind oracle)
      (replied : reply oracle (site.view data (site.pending trace)) shared operation =
        some (result, later)) : result = .ok given ∧ later = shared := by
    simp only [reply, calm oracle picked, answered, Option.some.injEq, Prod.mk.injEq] at replied
    exact ⟨replied.1.symm, replied.2.symm⟩
  refine Ensures.perform ?_ ?_
  · intro oracle value later picked replied
    obtain ⟨same, rfl⟩ := told picked replied
    cases same
    simpa only [settle, uncommitted, Bool.false_eq_true, if_false] using onward
  · intro oracle exn later picked replied
    cases (told picked replied).1

theorem Reopened.silent {chosen : String → Bool} {before : Database} {event : ServerEvent}
    (reopened : Reopened chosen before (site.view data (site.pending trace)))
    (uncommitted : commits event = false)
    (requests : ∀ database, (site.view database (effects event)).requests = database.requests)
    (masters : ∀ database, (site.view database (effects event)).masters = database.masters) :
    Reopened chosen before (site.view data (site.pending (event :: trace))) := by
  rw [view_pending uncommitted]
  refine ⟨(masters _).trans reopened.masters, fun name => ?_⟩
  rw [requests]
  exact reopened.requests name

/-- The requests recovered with one more row of the list. -/
def choosing (chosen : String → Bool) (now : Instant) (rows : List ListedRequest)
    (name : String) : Bool :=
  chosen name || rows.any fun row => row.stale now && row.name == name

theorem choosing_stale {chosen : String → Bool} {now : Instant} {row : ListedRequest}
    (stale : row.stale now = true) (name : String) :
    choosing chosen now [row] name = (chosen name || row.name == name) := by
  simp only [choosing, List.any_cons, List.any_nil, stale, Bool.true_and, Bool.or_false]

theorem Reopened.recovered {chosen : String → Bool} {before view : Database} {now : Instant}
    {row : ListedRequest} (reopened : Reopened chosen before view) (stale : row.stale now = true)
    (at_ : Instant) :
    Reopened (choosing chosen now [row]) before
      (Write.perform view (.setRequest row.name .recovered at_)) := by
  refine ⟨reopened.masters, fun name => ?_⟩
  simp only [Write.perform, Table.lookup_modify, choosing_stale stale]
  by_cases same : name = row.name
  · subst same
    rw [if_pos rfl, reopened.requests, Option.map_map]
    congr 1
    funext stored
    simp only [Function.comp_apply, beq_self_eq_true, Bool.or_true, if_true]
    split <;> rfl
  · rw [if_neg same, reopened.requests]
    have other : (row.name == name) = false := by simpa using fun equal => same equal.symm
    simp only [other, Bool.or_false]

theorem recoverRow_ensures {doctype docname : String} {before : Database} {chosen : String → Bool}
    (calm : ∀ oracle, kind oracle → oracle.fault = none) (now : Instant) (row : ListedRequest)
    (reopened : Reopened chosen before (site.view data (site.pending trace))) :
    @Ensures face site ListedRequest kind
      (fun result after later grown => result = .ok (if row.stale now then
          { row with status := .pending } else row) ∧ after = data ∧ later = shared ∧
        Reopened (choosing chosen now [row]) before (site.view after (site.pending grown)))
      (recoverRow doctype docname now row) data shared trace := by
  unfold recoverRow
  by_cases stale : row.stale now = true
  · simp only [if_pos stale, Program.bind_eq]
    refine ensures_told calm (by simp) (fun _ _ => rfl) ?_
    have recovered : Reopened (choosing chosen now [row]) before (site.view data
        (site.pending (⟨.setRequest row.name .recovered, .ok (), shared.now⟩ :: trace))) := by
      rw [view_pending rfl]
      exact reopened.recovered stale shared.now
    unfold mirror
    split
    · refine ensures_told calm (by simp) (fun _ _ => rfl) ?_
      exact ⟨rfl, rfl, rfl, recovered.silent rfl (fun _ => rfl) (fun _ => rfl)⟩
    · exact ⟨rfl, rfl, rfl, recovered⟩
  · have kept : choosing chosen now [row] = chosen := by
      funext name
      simp only [choosing, List.any_cons, List.any_nil, Bool.not_eq_true _ ▸ stale, Bool.false_and,
        Bool.or_false]
    simp only [if_neg stale, kept]
    exact ⟨rfl, rfl, rfl, reopened⟩

theorem recoverStale_ensures {doctype docname : String} {before : Database}
    {chosen : String → Bool} (calm : ∀ oracle, kind oracle → oracle.fault = none) (now : Instant)
    (rows : List ListedRequest)
    (reopened : Reopened chosen before (site.view data (site.pending trace))) :
    @Ensures face site (List ListedRequest) kind
      (fun result after later grown => result = .ok (rows.map fun row => if row.stale now then
          { row with status := .pending } else row) ∧ after = data ∧ later = shared ∧
        Reopened (choosing chosen now rows) before (site.view after (site.pending grown)))
      (recoverStale doctype docname now rows) data shared trace := by
  induction rows generalizing chosen trace with
  | nil =>
      have kept : choosing chosen now [] = chosen := by
        funext name
        simp only [choosing, List.any_nil, Bool.or_false]
      rw [kept]
      exact ⟨rfl, rfl, rfl, reopened⟩
  | cons row rest ih =>
      simp only [recoverStale, Program.bind_eq]
      refine (recoverRow_ensures calm now row reopened).bind ?_ ?_
      · rintro value after later grown ⟨same, rfl, rfl, reopened⟩
        cases same
        refine (ih reopened).bind ?_ ?_
        · rintro others after later grown ⟨same, rfl, rfl, reopened⟩
          cases same
          refine ⟨rfl, rfl, rfl, ?_⟩
          have joined : choosing (choosing chosen now [row]) now rest =
              choosing chosen now (row :: rest) := by
            funext name
            simp only [choosing, List.any_cons, List.any_nil, Bool.or_false, Bool.or_assoc]
          rw [← joined]
          exact reopened
        · rintro error after later grown ⟨impossible, -⟩
          cases impossible
      · rintro error after later grown ⟨impossible, -⟩
        cases impossible

end Recovery

/-! ### The two answers -/

/-- A request of the document that is Pending, or is stale and becomes Pending. -/
def Awaits (data : Database) (now : Instant) (doctype docname : String) (row : SigningRequest) :
    Prop :=
  ∃ name, data.requests.lookup name = some row ∧ row.belongsTo doctype docname = true ∧
    (row.status = .pending ∨ row.stale now = true)

section Answers

variable {data : Database} {now : Instant} {doctype docname : String}

/-- The list of `get_signing_status`, newest first. -/
def listed (data : Database) (doctype docname : String) : List ListedRequest :=
  let rows := data.requests.select fun row => row.belongsTo doctype docname
  (rows.insertionSort fun left right => right.2.creation ≤ left.2.creation).map ListedRequest.ofRow

theorem mem_listed {entry : ListedRequest} :
    entry ∈ listed data doctype docname ↔ ∃ name row, data.requests.lookup name = some row ∧
      row.belongsTo doctype docname = true ∧ entry = .ofRow (name, row) := by
  simp only [listed, List.mem_map, List.mem_insertionSort, Prod.exists, Table.mem_select]
  constructor
  · rintro ⟨name, row, ⟨found, belongs⟩, rfl⟩
    exact ⟨name, row, found, belongs, rfl⟩
  · rintro ⟨name, row, found, belongs, rfl⟩
    exact ⟨name, row, ⟨found, belongs⟩, rfl⟩

/-- A listed row is recovered exactly when it is stale. -/
theorem choosing_listed {name : String} {row : SigningRequest}
    (found : data.requests.lookup name = some row) :
    choosing (fun _ => false) now (listed data doctype docname) name =
      (row.belongsTo doctype docname && row.stale now) := by
  rw [Bool.eq_iff_iff]
  simp only [choosing, Bool.false_or, List.any_eq_true, Bool.and_eq_true, beq_iff_eq, mem_listed]
  constructor
  · rintro ⟨_, ⟨other, stored, there, belongs, rfl⟩, stale, rfl⟩
    have same : stored = row := Option.some.inj (there.symm.trans found)
    subst same
    exact ⟨belongs, stale⟩
  · rintro ⟨belongs, stale⟩
    exact ⟨_, ⟨name, row, found, belongs, rfl⟩, stale, rfl⟩

theorem ofRow_stale (name : String) (row : SigningRequest) :
    (ListedRequest.ofRow (name, row)).stale now = row.stale now := rfl

/-- `can_sign` names the expected signer of a request that awaits. -/
theorem listed_signs {user : String} :
    (((listed data doctype docname).map fun row => if row.stale now then
        { row with status := .pending } else row).any fun row =>
      row.status == .pending && row.expectedSignerUser == some user) = true ↔
    ∃ row, Awaits data now doctype docname row ∧ row.expectedSignerUser = some user := by
  simp only [List.any_map, List.any_eq_true, Function.comp_apply, mem_listed, Bool.and_eq_true,
    beq_iff_eq]
  constructor
  · rintro ⟨_, ⟨name, row, found, belongs, rfl⟩, pending, named⟩
    refine ⟨row, ⟨name, found, belongs, ?_⟩, ?_⟩
    · by_cases stale : row.stale now = true
      · exact Or.inr stale
      · rw [ofRow_stale, if_neg stale] at pending
        exact Or.inl pending
    · split at named <;> exact named
  · rintro ⟨row, ⟨name, found, belongs, awaits⟩, named⟩
    refine ⟨_, ⟨name, row, found, belongs, rfl⟩, ?_⟩
    by_cases stale : row.stale now = true
    · rw [ofRow_stale, if_pos stale]
      exact ⟨rfl, named⟩
    · rw [ofRow_stale, if_neg stale]
      exact ⟨awaits.resolve_right stale, named⟩

/-- The answer from the rows that the recovery returns. -/
def statusOf (user : String) (requests : List ListedRequest) : StatusResponse :=
  { status := overallStatus (requests.map ListedRequest.status)
    signingRequests := requests
    canSign := requests.any fun row => row.status == .pending && row.expectedSignerUser == some user }

/-- The status endpoint without requests, and with requests from the recovery on. -/
theorem ensures_status {lib : Libraries} {ctx : Context} {shared : Shared}
    {post : Except Exn Response → Database → Shared → ServerTrace → Prop}
    (absent : ∀ trace, site.pending trace = [] → listed data doctype docname = [] →
      post (.ok (.status ⟨"Not Applicable", [], false⟩)) data shared trace)
    (present : ∀ trace, site.pending trace = [] →
      @Ensures face site Response (MayRaise False) post
        ((recoverStale doctype docname shared.now (listed data doctype docname)).bind
          fun requests => .done (.status (statusOf ctx.user requests))) data shared trace) :
    @Ensures face site Response (MayRaise False) post
      (body lib ⟨ctx, .getSigningStatus doctype docname⟩) data shared [] := by
  have calm (oracle : Oracle) (may : MayRaise False oracle) : oracle.fault = none :=
    may.resolve_left id
  simp only [body, serve, getSigningStatus, Program.bind_eq]
  rw [Program.bind_assoc]
  refine ensures_read calm rfl (by simp) (fun _ _ => rfl) ?_ (fun _ _ _ _ raised => by cases raised)
  intro oracle rows later _ answered pending
  cases answered
  change @Ensures face site Response (MayRaise False) _ ((if (listed data doctype docname).isEmpty then
    _ else _ : Server StatusResponse).bind _) data shared _
  cases empty : (listed data doctype docname).isEmpty with
  | true => exact absent _ pending (List.isEmpty_iff.mp empty)
  | false =>
      simp only [Bool.false_eq_true, if_false, Program.bind_assoc]
      refine ensures_told calm (by simp) (fun _ _ => rfl) ?_
      exact present _ rfl

theorem getSigningStatus_ensures (lib : Libraries) (ctx : Context) (doctype docname : String)
    (data : Database) (shared : Shared) :
    @Ensures face site Response (MayRaise False)
      (fun result after later grown => after = data ∧ later = shared ∧
        Reopened (choosing (fun _ => false) shared.now (listed data doctype docname)) data
          (site.view after (site.pending grown)) ∧
        ∃ status, result = .ok (.status status) ∧ (status.canSign = true ↔
          ∃ row, Awaits data shared.now doctype docname row ∧
            row.expectedSignerUser = some ctx.user))
      (body lib ⟨ctx, .getSigningStatus doctype docname⟩) data shared [] := by
  have calm (oracle : Oracle) (may : MayRaise False oracle) : oracle.fault = none :=
    may.resolve_left id
  have unchanged : Reopened (fun _ => false) data data := ⟨rfl, fun name => by simp⟩
  refine ensures_status ?_ ?_
  · intro trace pending none_listed
    have kept : choosing (fun _ => false) shared.now (listed data doctype docname) =
        fun _ => false := by
      funext name
      simp [choosing, none_listed]
    refine ⟨rfl, rfl, ?_, _, rfl, ?_⟩
    · rw [kept, pending]
      exact unchanged
    · rw [← listed_signs, none_listed]
      rfl
  · intro trace pending
    have start : Reopened (fun _ => false) data (site.view data (site.pending trace)) := by
      rw [pending]
      exact unchanged
    refine (recoverStale_ensures calm shared.now (listed data doctype docname) start).bind ?_ ?_
    · rintro value after later grown ⟨same, rfl, rfl, reopened⟩
      cases same
      exact ⟨rfl, rfl, reopened, _, rfl, listed_signs⟩
    · rintro error after later grown ⟨impossible, -⟩
      cases impossible

end Answers

section Agreement

variable (lib : Libraries) (ctx : Context) (arguments : InitiateArguments)

variable {lib ctx arguments}

end Agreement

/-- The response of a call that has ended well. -/
def response (call : ServerCall) : Option Response :=
  match call.phase with
  | .ended (.ok response) => some response
  | _ => none

end DscSigning
