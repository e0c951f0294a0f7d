/-
The audit trail of a request and what it tells of the request.

Every transaction that changes the status of a request also logs an event for
the new one, but for a few branches that write a status and log nothing, or log
another reason than they write.  A call that has taken none of these leaves the
trail complete wherever it commits.
-/

import DscSigning.Server.MirrorRuns

namespace DscSigning

open Interaction Program Engine

variable {lib : Libraries}

/-! ### What the events tell -/

/-- The status that the events of a request tell, the oldest first; the list is
kept with the newest first. -/
def replay (name : String) (events : List AuditEvent) : Option RequestStatus :=
  events.foldr (fun event told =>
    if event.request = name then (eventStatus event.eventType).or told else told) none

def Mentions (lib : Libraries) (event : AuditEvent) (text : String) : Prop :=
  ∃ details key value, event.detailsJson = some (lib.jsonDumps (.object details)) ∧
    (key, Json.text value) ∈ details ∧ text.toList <:+: value.toList

/-- The events of the request tell its status, and the reason of a failure. -/
structure Audited (lib : Libraries) (name : String) (database : Database) : Prop where
  status : ∀ row, database.requests.lookup name = some row →
    replay name database.events = some row.status
  reason : ∀ row reason, database.requests.lookup name = some row → row.status = .failed →
    row.failureReason = some reason →
      ∃ event ∈ database.events, event.request = name ∧ Mentions lib event reason

theorem replay_apart {name : String} {event : AuditEvent} (events : List AuditEvent)
    (apart : event.request = name → eventStatus event.eventType = none) :
    replay name (event :: events) = replay name events := by
  simp only [replay, List.foldr_cons]
  split
  · rename_i own
    rw [apart own, Option.none_or]
  · rfl

theorem replay_own {name : String} {event : AuditEvent} {status : RequestStatus}
    (events : List AuditEvent) (own : event.request = name)
    (tells : eventStatus event.eventType = some status) :
    replay name (event :: events) = some status := by
  simp only [replay, List.foldr_cons, if_pos own, tells, Option.some_or]

/-! ### Writes -/

/-- The write changes the status of the request, or tells of one. -/
def Write.marks (name : String) : Write → Bool
  | .setRequest other update _ => other == name && update.status.isSome
  | .saveRequest other _ _ => other == name
  | .insertEvent event => event.request == name && (eventStatus event.eventType).isSome
  | _ => false

/-- What the trail has to tell of a row. -/
def SigningRequest.outcome (row : SigningRequest) : RequestStatus × Text :=
  (row.status, row.failureReason)

/-- The request is where it was, and the trail tells the same of it. -/
structure Unmoved (name : String) (before after : Database) : Prop where
  row : (after.requests.lookup name).map SigningRequest.outcome =
    (before.requests.lookup name).map SigningRequest.outcome
  told : replay name after.events = replay name before.events
  grown : ∀ event ∈ before.events, event ∈ after.events

theorem Unmoved.trans {name : String} {one two three : Database} (first : Unmoved name one two)
    (second : Unmoved name two three) : Unmoved name one three :=
  { row := second.row.trans first.row
    told := second.told.trans first.told
    grown := fun event member => second.grown event (first.grown event member) }

theorem Audited.unmoved {name : String} {before after : Database}
    (audited : Audited lib name before) (same : Unmoved name before after) :
    Audited lib name after := by
  have earlier {row : SigningRequest} (found : after.requests.lookup name = some row) :
      ∃ old, before.requests.lookup name = some old ∧ old.outcome = row.outcome := by
    have rows := same.row
    rw [found] at rows
    exact Option.map_eq_some_iff.mp rows.symm
  constructor
  · intro row found
    obtain ⟨old, there, shown⟩ := earlier found
    rw [same.told, audited.status old there, (Prod.mk.inj shown).1]
  · intro row reason found failed given
    obtain ⟨old, there, shown⟩ := earlier found
    obtain ⟨status, reasons⟩ := Prod.mk.inj shown
    obtain ⟨event, member, own, mentions⟩ := audited.reason old reason there
      (status.trans failed) (reasons.trans given)
    exact ⟨event, same.grown event member, own, mentions⟩

theorem onRequest_outcome {name : String} {write : Write} (unmarked : write.marks name = false)
    (row : SigningRequest) : (write.onRequest name row).outcome = row.outcome := by
  cases write with
  | setRequest other update at_ =>
      by_cases own : other = name
      · simp only [Write.marks, own, beq_self_eq_true, Bool.true_and] at unmarked
        simp only [Write.onRequest, if_pos own]
        cases update <;> first | rfl | cases unmarked
      · simp only [Write.onRequest, if_neg own]
  | saveRequest other edit at_ =>
      simp only [Write.marks, beq_eq_false_iff_ne, ne_eq] at unmarked
      simp only [Write.onRequest, if_neg unmarked]
  | _ => rfl

theorem perform_events (database : Database) (write : Write) :
    (write.perform database).events =
      match write with
      | .insertEvent event => event :: database.events
      | _ => database.events := by
  cases write <;> rfl

theorem unmoved_perform {name : String} {write : Write} (unmarked : write.marks name = false)
    (database : Database) : Unmoved name database (write.perform database) where
  row := by
    rw [perform_lookup, Option.map_map]
    congr 1
    funext row
    exact onRequest_outcome unmarked row
  told := by
    rw [perform_events]
    cases write with
    | insertEvent event =>
        refine replay_apart _ fun own => ?_
        simpa [Write.marks, own] using unmarked
    | _ => rfl
  grown := by
    intro event member
    rw [perform_events]
    cases write with
    | insertEvent other => exact List.mem_cons_of_mem _ member
    | _ => exact member

theorem unmoved_view {name : String} {writes : List Write}
    (unmarked : ∀ write ∈ writes, write.marks name = false) (database : Database) :
    Unmoved name database (site.view database writes) := by
  induction writes generalizing database with
  | nil => exact ⟨rfl, rfl, fun _ member => member⟩
  | cons write rest ih =>
      exact (unmoved_perform (unmarked write (by simp)) database).trans
        (ih (fun other member => unmarked other (by simp [member])) (write.perform database))

theorem view_events (database : Database) (writes : List Write) :
    ∀ event ∈ database.events, event ∈ (site.view database writes).events := by
  induction writes generalizing database with
  | nil => exact fun _ member => member
  | cons write rest ih =>
      intro event member
      refine ih (write.perform database) event ?_
      rw [perform_events]
      cases write with
      | insertEvent other => exact List.mem_cons_of_mem _ member
      | _ => exact member

/-! ### The branches that log nothing, or something else -/

def readsRequest (name : String) : ServerEvent → Bool
  | ⟨.getRequest other, .ok _, _⟩ => other == name
  | _ => false

def recovers (name : String) : ServerEvent → Bool
  | ⟨.setRequest other .recovered, .ok _, _⟩ => other == name
  | _ => false

def fails (name : String) : ServerEvent → Bool
  | ⟨.setRequest other (.failed _), .ok _, _⟩ => other == name
  | _ => false

/-- The call has found another certificate on the request, recovered it or timed it out. -/
def unlogged (lib : Libraries) (name : String) (origin : Origin) (trace : ServerTrace) : Bool :=
  (mismatched lib origin trace && trace.any (readsRequest name)) ||
    trace.any (recovers name) ||
    (origin.endpoint == .expireStalePendingRequests && trace.any (fails name))

theorem mismatched_cons {origin : Origin} {trace : ServerTrace} (event : ServerEvent)
    (found : mismatched lib origin trace = true) :
    mismatched lib origin (event :: trace) = true := by
  unfold mismatched at found ⊢
  split at found
  · split at found
    · rw [List.any_cons, found, Bool.or_true]
    · cases found
  · cases found

theorem unlogged_cons {name : String} {origin : Origin} {trace : ServerTrace} {event : ServerEvent}
    (logged : unlogged lib name origin (event :: trace) = false) :
    unlogged lib name origin trace = false := by
  cases taken : unlogged lib name origin trace with
  | false => rfl
  | true =>
      have still : unlogged lib name origin (event :: trace) = true := by
        simp only [unlogged, Bool.or_eq_true, Bool.and_eq_true, List.any_cons] at taken ⊢
        rcases taken with (⟨differ, read⟩ | recovered) | ⟨cleanup, failed⟩
        · exact Or.inl (Or.inl ⟨mismatched_cons event differ, Or.inr read⟩)
        · exact Or.inl (Or.inr (Or.inr recovered))
        · exact Or.inr ⟨cleanup, Or.inr failed⟩
      rw [logged] at still
      cases still

/-! ### What a transaction leaves -/

section Transactions

variable (lib : Libraries) (name : String) (origin : Origin)

/-- The transaction leaves the trail of the request complete. -/
def Complete (trace : ServerTrace) : Prop :=
  unlogged lib name origin trace = false → ∀ database, Audited lib name database →
    Audited lib name (site.view database (site.pending trace))

/-- It does so unless the request is this one. -/
def CompleteBut (target : String) (trace : ServerTrace) : Prop :=
  target ≠ name → Complete lib name origin trace

/-- The status of the target is written, and the event for it still to come. -/
structure Due (target : String) (status : RequestStatus) (reason : String) (trace : ServerTrace) :
    Prop where
  others : CompleteBut lib name origin target trace
  row : ∀ database row,
    (site.view database (site.pending trace)).requests.lookup target = some row →
      row.status = status ∧ (status = .failed → row.failureReason = some reason)

variable {lib name origin} {trace : ServerTrace} {event : ServerEvent}

theorem complete_nil : Complete lib name origin [] := fun _ _ audited => audited

theorem complete_commit (stamp : Instant) :
    Complete lib name origin (⟨.commit, .ok (), stamp⟩ :: trace) := fun _ _ audited => audited

theorem Complete.but (complete : Complete lib name origin trace) (target : String) :
    CompleteBut lib name origin target trace := fun _ => complete

theorem Complete.vacuous (taken : unlogged lib name origin trace = true) :
    Complete lib name origin trace := by
  intro logged
  rw [taken] at logged
  cases logged

/-- The event neither commits nor touches the status of the request. -/
def Unmarking (name : String) (event : ServerEvent) : Prop :=
  commits event = false ∧ ∀ write ∈ effects event, write.marks name = false

theorem Unmarking.view {name : String} (unmarking : Unmarking name event) (database : Database) :
    Unmoved name (site.view database (site.pending trace))
      (site.view database (site.pending (event :: trace))) := by
  rw [view_cons unmarking.1]
  exact unmoved_view unmarking.2 _

theorem Complete.unmarking (complete : Complete lib name origin trace)
    (unmarking : Unmarking name event) : Complete lib name origin (event :: trace) :=
  fun logged database audited =>
    (complete (unlogged_cons logged) database audited).unmoved (unmarking.view database)

theorem CompleteBut.unmarking {target : String} (but : CompleteBut lib name origin target trace)
    (unmarking : Unmarking name event) : CompleteBut lib name origin target (event :: trace) :=
  fun other => (but other).unmarking unmarking

theorem Due.unmarking {target reason : String} {status : RequestStatus}
    (due : Due lib name origin target status reason trace)
    (unmarking : ∀ name, Unmarking name event) :
    Due lib name origin target status reason (event :: trace) where
  others := due.others.unmarking (unmarking name)
  row := by
    intro database row found
    have same := (@Unmarking.view trace event target (unmarking target) database).row
    rw [found] at same
    obtain ⟨old, there, shown⟩ := Option.map_eq_some_iff.mp same.symm
    obtain ⟨statuses, reasons⟩ := Prod.mk.inj shown
    obtain ⟨gives, failed⟩ := due.row database old there
    exact ⟨statuses.symm.trans gives, fun fails => reasons.symm.trans (failed fails)⟩

theorem Due.logged {target reason : String} {status : RequestStatus} {logged : AuditEvent}
    {stamp : Instant} (due : Due lib name origin target status reason trace)
    (own : logged.request = target) (tells : eventStatus logged.eventType = some status)
    (mentions : status = .failed → Mentions lib logged reason) :
    Complete lib name origin (⟨.insertEvent logged, .ok (), stamp⟩ :: trace) := by
  by_cases same : target = name
  · intro _ database _
    subst same
    rw [view_cons rfl]
    change Audited lib target ((Write.insertEvent logged).perform
      (site.view database (site.pending trace)))
    constructor
    · intro row found
      rw [(due.row database row found).1]
      exact replay_own _ own tells
    · intro row given found failed told
      obtain ⟨gives, reasons⟩ := due.row database row found
      rw [gives] at failed
      rw [reasons failed] at told
      cases told
      exact ⟨logged, List.mem_cons_self, own, mentions failed⟩
  · refine (due.others same).unmarking ⟨rfl, fun write member => ?_⟩
    rw [List.mem_singleton.mp member]
    simp [Write.marks, own, same]

end Transactions

end DscSigning
