/-
The guards of `retry`, `cancel` and `abort_in_progress` against the transition
table of the controller.

Each endpoint checks the status it starts from, and `doc.save` checks the change
once more by `valid_transitions`.  The two do not always allow the same.
-/

import DscSigning.Server.Lifecycle
import DscSigning.Server.SignedFiles

namespace DscSigning

open Interaction Engine

/-- The guard of the endpoint lets the status of the request pass. -/
def Endpoint.accepts (name : String) (status : RequestStatus) : Endpoint → Bool
  | .retry target => target == name && status == .failed
  | .cancel target _ => target == name && (status == .pending || status == .failed)
  | .abortInProgress target _ => target == name && status == .inProgress
  | _ => false

def Endpoint.target : Endpoint → RequestStatus
  | .cancel .. => .cancelled
  | _ => .pending

/-- The call has not raised, and its writes leave the request and the DSC
Document Sign record behind it in the status. -/
def Lands (name : String) (row : SigningRequest) (status : RequestStatus) (before : Database)
    (result : Except Exn Response) (data : Database) (_shared : Shared) (trace : ServerTrace) :
    Prop :=
  (∃ response, result = .ok response) ∧
    (∃ kept, (site.view data (site.pending trace)).requests.lookup name = some kept ∧
      kept.status = status) ∧
    ∀ record document, row.record = some record → before.docSigns.lookup record = some document →
      ∃ kept, (site.view data (site.pending trace)).docSigns.lookup record = some kept ∧
        kept.status = status.document

section Guards

variable {endpoint : Endpoint} {name : String} {row : SigningRequest} {before : Database}

theorem accepts_lifecycle {status : RequestStatus} (accepts : endpoint.accepts name status = true) :
    endpoint.lifecycle = true := by
  cases endpoint with
  | retry target => rfl
  | cancel target reason => rfl
  | abortInProgress target reason => rfl
  | _ => cases accepts

/-- The table agrees with `retry`, and with `cancel` of a Pending request. -/
theorem accepts_turn (found : before.requests.lookup name = some row)
    (accepts : endpoint.accepts name row.status = true)
    (agrees : endpoint = .retry name ∨ row.status = .pending) :
    endpoint.turn (book before) = some (name, endpoint.target, row.record) := by
  have shown := book_found found
  cases endpoint with
  | retry target =>
      simp only [Endpoint.accepts, Bool.and_eq_true, beq_iff_eq] at accepts
      obtain ⟨rfl, failed⟩ := accepts
      rw [failed] at shown
      simp only [Endpoint.turn, shown, Endpoint.target]
  | cancel target reason =>
      simp only [Endpoint.accepts, Bool.and_eq_true, beq_iff_eq] at accepts
      obtain ⟨rfl, _⟩ := accepts
      rw [agrees.resolve_left (by simp)] at shown
      simp only [Endpoint.turn, shown, Endpoint.target]
  | abortInProgress target reason =>
      simp only [Endpoint.accepts, Bool.and_eq_true, beq_iff_eq] at accepts
      rw [accepts.2] at agrees
      simp at agrees
  | _ => cases accepts

/-- Elsewhere no request changes, whatever the guard has let pass. -/
theorem refused_turn (found : before.requests.lookup name = some row)
    (accepts : endpoint.accepts name row.status = true)
    (differs : ¬ (endpoint = .retry name ∨ row.status = .pending)) :
    endpoint.turn (book before) = none ∧ row.status ≠ endpoint.target := by
  have shown := book_found found
  cases endpoint with
  | retry target =>
      simp only [Endpoint.accepts, Bool.and_eq_true, beq_iff_eq] at accepts
      exact absurd (Or.inl (by rw [accepts.1])) differs
  | cancel target reason =>
      simp only [Endpoint.accepts, Bool.and_eq_true, Bool.or_eq_true, beq_iff_eq] at accepts
      obtain ⟨rfl, pending | failed⟩ := accepts
      · exact absurd (Or.inr pending) differs
      · rw [failed] at shown ⊢
        simp [Endpoint.turn, shown, Endpoint.target]
  | abortInProgress target reason =>
      simp only [Endpoint.accepts, Bool.and_eq_true, beq_iff_eq] at accepts
      rw [accepts.2]
      simp [Endpoint.turn, Endpoint.target]
  | _ => cases accepts

theorem turned_lands {data : Database} {shared : Shared} {trace : ServerTrace}
    {response : Response} {status : RequestStatus} (found : before.requests.lookup name = some row)
    (turned : Turned before (site.view data (site.pending trace))
      (some (name, status, row.record))) :
    Lands name row status before (.ok response) data shared trace := by
  obtain ⟨kept, there, same, _⟩ := turned.row found
  refine ⟨⟨response, rfl⟩, ⟨kept, there, same⟩, fun record document stands shown => ?_⟩
  refine ⟨DocSignEdit.apply ⟨status.document, none⟩ document, ?_, rfl⟩
  rw [turned.document record, if_pos stands, shown]
  rfl

/-- When the guard of an endpoint has let a status pass, the call does what it
is for exactly for `retry` and for `cancel` of a Pending request. -/
theorem guard_meets_table_iff (lib : Libraries) (ctx : Context) (shared : Shared)
    (found : before.requests.lookup name = some row)
    (accepts : endpoint.accepts name row.status = true) :
    @Ensures face site Response (MayRaise False) (Lands name row endpoint.target before)
        (body lib ⟨ctx, endpoint⟩) before shared [] ↔
      (endpoint = .retry name ∨ row.status = .pending) := by
  have ends : @Ensures face site Response (MayRaise False) (TurnEnds before endpoint False)
      (body lib ⟨ctx, endpoint⟩) before shared [] :=
    lifecycle_ensures lib ctx endpoint (accepts_lifecycle accepts) before shared
  constructor
  · intro lands
    by_contra differs
    obtain ⟨silent, distinct⟩ := refused_turn found accepts differs
    obtain ⟨result, data, later, trace, turn, ⟨response, rfl⟩, ⟨kept, there, same⟩, _⟩ :=
      (ends.both lands).met calm_answers
    simp only [TurnEnds, silent, Turned] at turn
    rw [turn.1, found] at there
    cases there
    exact distinct same
  · intro agrees
    refine ends.weaken fun result data later trace ended => ?_
    have turns := accepts_turn found accepts agrees
    cases result with
    | ok response =>
        simp only [TurnEnds, turns] at ended
        exact turned_lands found ended
    | error exn =>
        simp only [TurnEnds, turns, false_or, reduceCtorEq, and_false] at ended

end Guards

theorem guard_meets_table_cancel :
    @Ensures face site Response (MayRaise False)
        (Lands "SR-1" (sampleRequest.row 0) (Endpoint.target (.cancel "SR-1" "")) requestedSite.data)
        (body sampleLibraries ⟨sampleUser "alice", .cancel "SR-1" ""⟩) requestedSite.data
        requestedSite.shared [] ↔
      (Endpoint.cancel "SR-1" "" = .retry "SR-1" ∨ (sampleRequest.row 0).status = .pending) :=
  guard_meets_table_iff sampleLibraries (sampleUser "alice") requestedSite.shared (by rfl) (by rfl)

/-- The browser gives an attempt up, and the request stays In Progress. -/
def abandonedSigning : List ServerLabel :=
  .move (.createRequest "SR-1" sampleRequest) ::
    (served 0 ⟨sampleUser "alice", .initiate sampleInitiate⟩ 24 (sampleOracle "S-1" "") ++
      served 1 ⟨sampleUser "alice", .abortInProgress "SR-1" "PIN entry cancelled"⟩ 2 .plain)

theorem abort_refused :
    ∃ world call row, run (body sampleLibraries) sampleSite abandonedSigning = some world ∧
      world.calls[1]? = some call ∧ world.data.requests.lookup "SR-1" = some row ∧
      row.status = .inProgress ∧
      failure call = some (thrown ("Cannot change status from In Progress to Pending. " ++
        "Allowed transitions: Signed, Failed")) := by
  have ends : ((run (body sampleLibraries) sampleSite abandonedSigning).bind fun world =>
      (world.calls[1]?).bind fun call => (world.data.requests.lookup "SR-1").map fun row =>
        row.status == .inProgress && failure call == some (thrown (
          "Cannot change status from In Progress to Pending. " ++
          "Allowed transitions: Signed, Failed"))) = some true := by decide +kernel
  simp only [Option.bind_eq_some_iff, Option.map_eq_some_iff, Bool.and_eq_true, beq_iff_eq] at ends
  obtain ⟨world, reached, call, located, row, found, inProgress, refused⟩ := ends
  exact ⟨world, call, row, reached, located, found, inProgress, refused⟩

end DscSigning
