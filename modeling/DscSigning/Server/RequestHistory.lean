/-
What a list of writes makes of one signing request, and which question of a
call stands behind each of its uncommitted writes.
-/

import DscSigning.Server.EndpointRules

namespace DscSigning

open Interaction Engine

/-! ### Writes on one row -/

/-- The write, as far as it concerns the request. -/
def Write.onRequest (name : String) (row : SigningRequest) : Write → SigningRequest
  | .setRequest other update at_ => if other = name then update.apply at_ row else row
  | .saveRequest other edit at_ => if other = name then edit.apply at_ row else row
  | _ => row

theorem perform_lookup (database : Database) (write : Write) (name : String) :
    (write.perform database).requests.lookup name =
      (database.requests.lookup name).map fun row => write.onRequest name row := by
  have unchanged (row : Option SigningRequest) : row = row.map fun inner => inner := by
    cases row <;> rfl
  cases write with
  | setRequest other update at_ =>
      simp only [Write.perform, Write.onRequest, Table.lookup_modify]
      by_cases same : name = other
      · rw [if_pos same, same]
        simp only [if_true]
      · simp only [if_neg same, if_neg (fun equal : other = name => same equal.symm)]
        exact unchanged _
  | saveRequest other edit at_ =>
      simp only [Write.perform, Write.onRequest, Table.lookup_modify]
      by_cases same : name = other
      · rw [if_pos same, same]
        simp only [if_true]
      · simp only [if_neg same, if_neg (fun equal : other = name => same equal.symm)]
        exact unchanged _
  | setDocSign _ _ => exact unchanged _
  | insertEvent _ => exact unchanged _
  | insertFile _ _ => exact unchanged _
  | flagFile _ => exact unchanged _
  | insertComment _ => exact unchanged _
  | saveSecret _ => exact unchanged _

theorem view_lookup (database : Database) (writes : List Write) (name : String) :
    (site.view database writes).requests.lookup name =
      (database.requests.lookup name).map fun row => writes.foldl (Write.onRequest name) row := by
  induction writes generalizing database with
  | nil =>
      change database.requests.lookup name = _
      cases database.requests.lookup name <;> rfl
  | cons write rest ih =>
      change (site.view (write.perform database) rest).requests.lookup name = _
      rw [ih, perform_lookup, Option.map_map]
      rfl

/-- Of what administrators configure a write changes the settings only. -/
theorem perform_masters (database : Database) (write : Write) :
    ∃ settings, (write.perform database).masters = { database.masters with settings := settings } := by
  cases write <;> exact ⟨_, rfl⟩

theorem view_masters (database : Database) (writes : List Write) :
    ∃ settings, (site.view database writes).masters =
      { database.masters with settings := settings } := by
  induction writes generalizing database with
  | nil => exact ⟨_, rfl⟩
  | cons write rest ih =>
      obtain ⟨settings, same⟩ := ih (write.perform database)
      obtain ⟨first, performed⟩ := perform_masters database write
      rw [performed] at same
      exact ⟨settings, same⟩

def Write.statusOn (name : String) : Write → Option RequestStatus
  | .setRequest other update _ => if other = name then update.status else none
  | .saveRequest other edit _ => if other = name then some edit.status else none
  | _ => none

theorem onRequest_status (name : String) (row : SigningRequest) (write : Write) :
    (write.onRequest name row).status = (write.statusOn name).getD row.status := by
  cases write with
  | setRequest other update at_ =>
      simp only [Write.onRequest, Write.statusOn]
      by_cases same : other = name
      · simp only [if_pos same]
        cases update <;> rfl
      · simp only [if_neg same, Option.getD_none]
  | saveRequest other edit at_ =>
      simp only [Write.onRequest, Write.statusOn]
      by_cases same : other = name
      · simp only [if_pos same, Option.getD_some]
        rfl
      · simp only [if_neg same, Option.getD_none]
  | _ => rfl

/-- Writes that set no other status leave the status. -/
theorem fold_status {name : String} {writes : List Write} {row : SigningRequest}
    (same : ∀ write ∈ writes, ∀ status, write.statusOn name = some status → status = row.status) :
    (writes.foldl (Write.onRequest name) row).status = row.status := by
  induction writes generalizing row with
  | nil => rfl
  | cons write rest ih =>
      have first : (write.onRequest name row).status = row.status := by
        rw [onRequest_status]
        cases found : write.statusOn name with
        | none => rfl
        | some status => exact same write (by simp) status found
      rw [List.foldl_cons, ih, first]
      intro other member status found
      rw [first]
      exact same other (by simp [member]) status found

/-- A write that does not lock the request leaves it as it is. -/
theorem onRequest_other {name : String} {write : Write}
    (other : write.row ≠ some (.request name)) (row : SigningRequest) :
    write.onRequest name row = row := by
  cases write with
  | setRequest target update at_ =>
      simp only [Write.onRequest]
      by_cases same : target = name
      · rw [same] at other
        exact absurd rfl other
      · rw [if_neg same]
  | saveRequest target edit at_ =>
      simp only [Write.onRequest]
      by_cases same : target = name
      · rw [same] at other
        exact absurd rfl other
      · rw [if_neg same]
  | _ => rfl

theorem fold_other {name : String} {writes : List Write}
    (others : ∀ write ∈ writes, write.row ≠ some (.request name)) (row : SigningRequest) :
    writes.foldl (Write.onRequest name) row = row := by
  induction writes with
  | nil => rfl
  | cons write rest ih =>
      rw [List.foldl_cons, onRequest_other (others write (by simp))]
      exact ih fun other member => others other (by simp [member])

/-- What the updates and edits of a write leave of a row, the write leaves. -/
theorem onRequest_keeps {Column : Type} (column : SigningRequest → Column) {name : String}
    {write : Write} (row : SigningRequest)
    (updated : ∀ update at_, write = .setRequest name update at_ →
      column (update.apply at_ row) = column row)
    (edited : ∀ edit at_, column (RequestEdit.apply edit at_ row) = column row) :
    column (write.onRequest name row) = column row := by
  cases write with
  | setRequest other update at_ =>
      simp only [Write.onRequest]
      split
      · rename_i same
        exact updated update at_ (by rw [same])
      · rfl
  | saveRequest other edit at_ =>
      simp only [Write.onRequest]
      split
      · exact edited edit at_
      · rfl
  | _ => rfl

theorem fold_keeps {Column : Type} (column : SigningRequest → Column) {name : String}
    {writes : List Write}
    (kept : ∀ write ∈ writes, ∀ row, column (write.onRequest name row) = column row)
    (row : SigningRequest) : column (writes.foldl (Write.onRequest name) row) = column row := by
  induction writes generalizing row with
  | nil => rfl
  | cons write rest ih =>
      rw [List.foldl_cons, ih fun other member => kept other (List.mem_cons_of_mem write member)]
      exact kept write List.mem_cons_self row

/-- The columns of a request that no write sets. -/
structure Lasting where
  sourceDoctype : String
  sourceName : String
  profile : String
  signatureTemplate : Text

def SigningRequest.lasting (row : SigningRequest) : Lasting :=
  ⟨row.sourceDoctype, row.sourceName, row.profile, row.signatureTemplate⟩

theorem onRequest_lasting (name : String) (row : SigningRequest) (write : Write) :
    (write.onRequest name row).lasting = row.lasting := by
  refine onRequest_keeps SigningRequest.lasting row ?_ fun _ _ => rfl
  intro update at_ _
  cases update <;> rfl

theorem fold_lasting (name : String) (writes : List Write) (row : SigningRequest) :
    (writes.foldl (Write.onRequest name) row).lasting = row.lasting :=
  fold_keeps SigningRequest.lasting (fun write _ inner => onRequest_lasting name inner write) row

/-- What lasts of a request is the same before and after any writes. -/
theorem lasting_view (property : Lasting → Prop) {database : Database} {writes : List Write}
    {name : String} :
    (∃ row, (site.view database writes).requests.lookup name = some row ∧ property row.lasting) ↔
      ∃ row, database.requests.lookup name = some row ∧ property row.lasting := by
  simp only [view_lookup, Option.map_eq_some_iff]
  constructor
  · rintro ⟨_, ⟨row, found, rfl⟩, holds⟩
    rw [fold_lasting] at holds
    exact ⟨row, found, holds⟩
  · rintro ⟨row, found, holds⟩
    refine ⟨_, ⟨row, found, rfl⟩, ?_⟩
    rw [fold_lasting]
    exact holds

/-- The surroundings change no request; they only insert pending ones. -/
theorem move_lookup {move : Move} {database after : Database} {shared later : Shared}
    (moved : move.apply database shared = some (after, later)) (name : String) :
    after.requests.lookup name = database.requests.lookup name ∨
      database.requests.lookup name = none ∧
        ∃ request : NewRequest, after.requests.lookup name = some (request.row shared.now) := by
  cases move with
  | createRequest created request =>
      simp only [Move.apply] at moved
      split at moved
      · cases moved
      · rename_i absent
        cases moved
        by_cases same : name = created
        · subst same
          exact Or.inr ⟨absent, request, AList.lookup_insert _⟩
        · exact Or.inl (AList.lookup_insert_ne same)
  | elapse by_ =>
      cases moved
      exact Or.inl rfl
  | administer masters =>
      cases moved
      exact Or.inl rfl
  | saveDocSign record row =>
      cases moved
      exact Or.inl rfl
  | evict sessionId =>
      cases moved
      exact Or.inl rfl

/-- A row stays what it is, or takes the writes of the committing call. -/
theorem row_step {lib : Libraries} {world next : ServerWorld} {label : ServerLabel}
    (stepped : step (body lib) world label = some next) {name : String} {row : SigningRequest}
    (found : world.data.requests.lookup name = some row) :
    (next.data.requests.lookup name = some row ∧ next.journal = world.journal) ∨
    ∃ index call, committing world label = some (index, call) ∧
      next.data.requests.lookup name =
        some ((site.pending call.trace).foldl (Write.onRequest name) row) ∧
      next.journal = (index, site.pending call.trace) :: world.journal := by
  rcases step_data (body lib) stepped with ⟨index, call, committed, after, journal⟩ | ⟨_, journal, rest⟩
  · exact Or.inr ⟨index, call, committed, by rw [after, view_lookup, found]; rfl, journal⟩
  · rcases rest with same | ⟨move, shared, _, moved⟩
    · exact Or.inl ⟨by rw [same]; exact found, journal⟩
    · rcases move_lookup moved name with same | ⟨absent, _⟩
      · exact Or.inl ⟨by rw [same]; exact found, journal⟩
      · rw [found] at absent
        cases absent

theorem lasting_step (property : Lasting → Prop) {lib : Libraries} {world next : ServerWorld}
    {label : ServerLabel} (stepped : step (body lib) world label = some next) {name : String}
    (before : ∃ row, world.data.requests.lookup name = some row ∧ property row.lasting) :
    ∃ row, next.data.requests.lookup name = some row ∧ property row.lasting := by
  obtain ⟨row, found, holds⟩ := before
  rcases row_step stepped found with ⟨same, _⟩ | ⟨index, call, _, after, _⟩
  · exact ⟨row, same, holds⟩
  · refine ⟨_, after, ?_⟩
    rw [fold_lasting]
    exact holds

/-- A row of the next world is an old one or a new one. -/
theorem row_before {lib : Libraries} {world next : ServerWorld} {label : ServerLabel}
    (stepped : step (body lib) world label = some next) {name : String} {row : SigningRequest}
    (found : next.data.requests.lookup name = some row) :
    (∃ old, world.data.requests.lookup name = some old) ∨
      ∃ request : NewRequest, row = request.row world.shared.now ∧
        next.journal = world.journal := by
  rcases step_data (body lib) stepped with ⟨index, call, committed, after, journal⟩ | ⟨_, journal, rest⟩
  · rw [after, view_lookup, Option.map_eq_some_iff] at found
    obtain ⟨old, there, _⟩ := found
    exact Or.inl ⟨old, there⟩
  · rcases rest with same | ⟨move, shared, _, moved⟩
    · rw [same] at found
      exact Or.inl ⟨row, found⟩
    · rcases move_lookup moved name with same | ⟨_, request, created⟩
      · rw [same] at found
        exact Or.inl ⟨row, found⟩
      · rw [created] at found
        cases found
        exact Or.inr ⟨request, rfl, journal⟩

theorem row_cases {lib : Libraries} {world next : ServerWorld} {label : ServerLabel}
    (stepped : step (body lib) world label = some next) {name : String} {row : SigningRequest}
    (found : next.data.requests.lookup name = some row) :
    (world.data.requests.lookup name = some row ∧ next.journal = world.journal) ∨
    (∃ old index call, world.data.requests.lookup name = some old ∧
      committing world label = some (index, call) ∧
      row = (site.pending call.trace).foldl (Write.onRequest name) old ∧
      next.journal = (index, site.pending call.trace) :: world.journal) ∨
    ∃ request : NewRequest, row = request.row world.shared.now ∧
      next.journal = world.journal := by
  rcases row_before stepped found with ⟨old, there⟩ | created
  · rcases row_step stepped there with ⟨same, journal⟩ | ⟨index, call, committed, after, journal⟩
    · rw [found] at same
      cases same
      exact Or.inl ⟨there, journal⟩
    · rw [found] at after
      exact Or.inr (Or.inl ⟨old, index, call, there, committed, Option.some.inj after, journal⟩)
  · exact Or.inr (Or.inr created)

/-! ### The question behind a write -/

theorem setRequest_effect {event : ServerEvent} {name : String} {update : RequestUpdate}
    {at_ : Instant} (member : Write.setRequest name update at_ ∈ effects event) :
    event = ⟨.setRequest name update, .ok (), at_⟩ := by
  obtain ⟨operation, reply, stamp⟩ := event
  cases operation <;> cases reply <;> simp [effects] at member
  obtain ⟨rfl, rfl, rfl⟩ := member
  rfl

theorem saveRequest_effect {event : ServerEvent} {name : String} {edit : RequestEdit}
    {at_ : Instant} (member : Write.saveRequest name edit at_ ∈ effects event) :
    ∃ loaded, event = ⟨.saveRequest name loaded edit, .ok (), at_⟩ := by
  obtain ⟨operation, reply, stamp⟩ := event
  cases operation <;> cases reply <;> simp [effects] at member
  obtain ⟨rfl, rfl, rfl⟩ := member
  exact ⟨_, rfl⟩

theorem insertFile_effect {event : ServerEvent} {name : String} {row : FileRow}
    (member : Write.insertFile name row ∈ effects event) :
    ∃ file stored stamp, event = ⟨.insertFile file, .ok stored, stamp⟩ ∧ name = stored.name ∧
      row = { file with fileName := stored.fileName, fileUrl := stored.fileUrl } := by
  obtain ⟨operation, reply, stamp⟩ := event
  cases operation <;> cases reply <;> simp [effects] at member
  obtain ⟨rfl, rfl⟩ := member
  exact ⟨_, _, _, rfl, rfl, rfl⟩

theorem standing_unmarked {mark : ServerEvent → Bool} {earlier newer : ServerTrace}
    (unmarked : ∀ event ∈ newer, mark event = false) (start : standing mark earlier = false) :
    standing mark (newer ++ earlier) = false := by
  induction newer with
  | nil => exact start
  | cons event rest ih =>
      have below := ih fun other member => unmarked other (List.mem_cons_of_mem _ member)
      simp only [List.cons_append, standing, unmarked event List.mem_cons_self, below, Bool.or_self,
        Bool.and_false]

variable {lib : Libraries} {origin : Origin} {trace : ServerTrace}

theorem honoured_at {newer earlier : ServerTrace} {event : ServerEvent}
    (honours : Honours (Permitted lib origin) trace) (split : trace = newer ++ event :: earlier) :
    Permitted lib origin earlier event.query := by
  have suffix : event :: earlier <:+ trace := ⟨newer, split.symm⟩
  exact (honours.suffix suffix).1

/-- An uncommitted `set_value`, with the question that made it. -/
theorem setRequest_pending {name : String} {update : RequestUpdate} {at_ : Instant}
    (member : Write.setRequest name update at_ ∈ site.pending trace) :
    ∃ newer earlier, trace = newer ++ ⟨.setRequest name update, .ok (), at_⟩ :: earlier ∧
      ∀ event ∈ newer, commits event = false := by
  obtain ⟨event, earlier, newer, split, effect, quiet⟩ := mem_pending member
  rw [setRequest_effect effect] at split
  exact ⟨newer, earlier, split, quiet⟩

/-- A `set_value` that gives a request a status does so to a target, and in a
call that has not sealed. -/
theorem statusUpdate_permitted {earlier : ServerTrace} {name : String} {update : RequestUpdate}
    (permitted : Permitted lib origin earlier (.setRequest name update)) {status : RequestStatus}
    (sets : update.status = some status) : name ∈ targets earlier ∧ sealed earlier = false := by
  cases update with
  | started _ _ _ => exact permitted.1
  | hashed _ _ => cases sets
  | failed _ => exact permitted.1
  | signed _ => exact permitted.1
  | recovered => exact permitted.1

theorem statusUpdate_target (honours : Honours (Permitted lib origin) trace) {name : String}
    {update : RequestUpdate} {at_ : Instant} {status : RequestStatus}
    (member : Write.setRequest name update at_ ∈ site.pending trace)
    (sets : update.status = some status) : name ∈ targets trace ∧ sealed trace = false := by
  obtain ⟨newer, earlier, split, quiet⟩ := setRequest_pending member
  have permitted := statusUpdate_permitted (honoured_at honours split) sets
  have head : sealed (⟨.setRequest name update, .ok (), at_⟩ :: earlier) = false := by
    have unsealed := permitted.2
    unfold sealed at unsealed
    simp only [sealed, standing, unsealed, commits, Bool.or_self, Bool.and_false]
  refine ⟨?_, ?_⟩
  · rw [split]
    exact targets_mono ((List.suffix_cons _ _).trans (List.suffix_append _ _)) permitted.1
  · rw [split]
    exact standing_unmarked quiet head

end DscSigning
