/-
Which runs keep Signed and Cancelled for good.

The controller's transition table makes both statuses terminal, but most of the
statements that set a status go around it.  They still respect the table in
every run in which no call works on a request that is terminal already, is
overtaken by a commit that makes its request terminal, or fails after its own
commit.
-/

import DscSigning.Server.RequestHistory

namespace DscSigning

open Interaction Engine

/-- The statuses without a valid transition. -/
def RequestStatus.terminal : RequestStatus → Bool
  | .signed => true
  | .cancelled => true
  | _ => false

/-- No transition of the table leaves these statuses. -/
def Closed (final : RequestStatus → Bool) : Prop :=
  ∀ status, final status = true → status.validTransitions = []

theorem terminal_closed : Closed RequestStatus.terminal := by
  intro status terminal
  cases status <;> first | rfl | cases terminal

theorem Closed.pending {final : RequestStatus → Bool} (closed : Closed final) :
    final .pending = false := by
  rw [← Bool.not_eq_true]
  intro chosen
  cases closed .pending chosen

variable (final : RequestStatus → Bool)

/-- The request has one of the statuses. -/
def settledIn (database : Database) (name : String) : Bool :=
  match database.requests.lookup name with
  | some row => final row.status
  | none => false

/-! ### The condition on a run -/

/-- What a call selects to change, a live session of a request included, is
not final at that moment. -/
def selectsLive (world : ServerWorld) (label : ServerLabel) : Bool :=
  match asking world label with
  | some (_, call, event) =>
      (selected call.trace event).all fun name => !settledIn final world.data name
  | none => true

def Write.request : Write → Option String
  | .setRequest name .. => some name
  | .saveRequest name .. => some name
  | _ => none

/-- The requests that the writes make final. -/
def settled (database : Database) (writes : List Write) : List String :=
  (writes.filterMap Write.request).filter fun name =>
    settledIn final (site.view database writes) name && !settledIn final database name

/-- The call has selected the request and may still change it. -/
def mayChange (call : ServerCall) (name : String) : Bool :=
  match call.phase with
  | .running _ => (targets call.trace).contains name && !sealed call.trace
  | _ => false

/-- No other call is at work on a request when a commit makes it final. -/
def settlesAlone (world : ServerWorld) (label : ServerLabel) : Bool :=
  match committing world label with
  | some (index, call) =>
      (settled final world.data (site.pending call.trace)).all fun name =>
        world.calls.zipIdx.all fun other => other.2 == index || !mayChange other.1 name
  | none => true

/-- A call that has committed meets no uncaught exception afterwards. -/
def endsQuietly (world : ServerWorld) (label : ServerLabel) : Bool :=
  match asking world label with
  | some (_, call, event) => !(sealed call.trace && uncaught call.trace event)
  | none => true

def undisturbed (world : ServerWorld) (label : ServerLabel) : Bool :=
  selectsLive final world label && settlesAlone final world label && endsQuietly world label

/-! ### The invariant -/

/-- A call whose target is final changes no request any more. -/
def Spent (database : Database) (trace : ServerTrace) : Prop :=
  ∀ name ∈ targets trace, settledIn final database name = true → sealed trace = true

/-- An uncommitted `doc.save` is a transition of the table from the committed row. -/
def SavesFit (database : Database) (trace : ServerTrace) : Prop :=
  ∀ name edit at_, Write.saveRequest name edit at_ ∈ site.pending trace →
    ∃ row, database.requests.lookup name = some row ∧
      (edit.status = row.status ∨ edit.status ∈ row.status.validTransitions)

structure Ordered (lib : Libraries) (world : ServerWorld) : Prop where
  disciplined : world.Disciplined (Permitted lib) (Ends lib)
  exclusive : world.Exclusive
  spent : world.Holds (Spent final)
  saves : world.Holds SavesFit

def Absorbs (world next : ServerWorld) : Prop :=
  ∀ name row, world.data.requests.lookup name = some row → final row.status = true →
    ∃ later, next.data.requests.lookup name = some later ∧ later.status = row.status

variable {final} {lib : Libraries}

/-- The commit of one call leaves final requests alone. -/
theorem commit_absorbs (closed : Closed final) {origin : Origin} {trace : ServerTrace}
    {database : Database} (honours : Honours (Permitted lib origin) trace) (spent : Spent final database trace)
    (saves : SavesFit database trace) {name : String} {row : SigningRequest}
    (found : database.requests.lookup name = some row) (terminal : final row.status = true) :
    ((site.pending trace).foldl (Write.onRequest name) row).status = row.status := by
  apply fold_status
  intro write member status sets
  cases write with
  | setRequest other update at_ =>
      simp only [Write.statusOn] at sets
      split at sets
      · rename_i same
        subst same
        obtain ⟨target, unsealed⟩ := statusUpdate_target honours member sets
        have done := spent other target (by simp only [settledIn, found]; exact terminal)
        rw [unsealed] at done
        cases done
      · cases sets
  | saveRequest other edit at_ =>
      simp only [Write.statusOn] at sets
      split at sets
      · rename_i same
        subst same
        obtain ⟨old, there, fits⟩ := saves other edit at_ member
        rw [found] at there
        cases there
        cases sets
        rcases fits with unchanged | allowed
        · exact unchanged
        · rw [closed row.status terminal] at allowed
          cases allowed
      · cases sets
  | _ => cases sets

/-- A request that a commit makes final is among the ones it writes. -/
theorem settled_mem {database : Database} {writes : List Write} {name : String}
    (after : settledIn final (site.view database writes) name = true)
    (before : settledIn final database name = false) : name ∈ settled final database writes := by
  refine List.mem_filter.mpr ⟨?_, by simp only [after, before, Bool.not_false, Bool.and_self]⟩
  by_contra absent
  have untouched : ∀ write ∈ writes, ∀ row, write.onRequest name row = row := by
    intro write member row
    cases write with
    | setRequest other update at_ =>
        simp only [Write.onRequest]
        split
        · rename_i same
          exact absurd (List.mem_filterMap.mpr ⟨_, member, by rw [← same]; rfl⟩) absent
        · rfl
    | saveRequest other edit at_ =>
        simp only [Write.onRequest]
        split
        · rename_i same
          exact absurd (List.mem_filterMap.mpr ⟨_, member, by rw [← same]; rfl⟩) absent
        · rfl
    | _ => rfl
  have same : ∀ row, writes.foldl (Write.onRequest name) row = row := by
    intro row
    clear after before absent
    induction writes with
    | nil => rfl
    | cons write rest ih =>
        rw [List.foldl_cons, untouched write (by simp)]
        exact ih fun other member => untouched other (by simp [member])
  have unchanged : settledIn final (site.view database writes) name = settledIn final database name := by
    simp only [settledIn, view_lookup]
    cases database.requests.lookup name with
    | none => rfl
    | some row => simp only [Option.map_some, same]
  rw [unchanged, before] at after
  cases after

theorem spent_step (closed : Closed final) {world next : ServerWorld} {label : ServerLabel}
    (spent : world.Holds (Spent final)) (calm : undisturbed final world label = true)
    (stepped : step (body lib) world label = some next) : next.Holds (Spent final) := by
  simp only [undisturbed, Bool.and_eq_true] at calm
  obtain ⟨⟨live, alone⟩, quiet⟩ := calm
  apply holds_step (body lib) spent stepped
  · intro database name member
    cases member
  · intro index call event asked located before uncommitted name member terminal
    simp only [selectsLive, asked, List.all_eq_true, Bool.not_eq_true'] at live
    simp only [endsQuietly, asked, Bool.not_eq_true', Bool.and_eq_false_iff] at quiet
    rcases List.mem_append.mp member with fresh | older
    · rw [live name fresh] at terminal
      cases terminal
    · have done := before name older terminal
      have caught : uncaught call.trace event = false := by
        rcases quiet with unsealed | caught
        · rw [done] at unsealed
          cases unsealed
        · exact caught
      unfold sealed at done
      simp only [sealed, standing, caught, done, Bool.not_false, Bool.or_true, Bool.and_self]
  · intro index call event asked located before committed name member terminal
    have commit : event.query = .commit ∧ raised event = false := by
      obtain ⟨operation, reply, stamp⟩ := event
      cases operation <;> cases reply <;> first | exact ⟨rfl, rfl⟩ | cases committed
    change commits event = true at committed
    simp only [sealed, standing, uncaught, commit.2, committed, Bool.false_and, Bool.not_false,
      Bool.true_or, Bool.and_self]
  · intro index call other otherCall program committed distinct located running before name
      member terminal
    cases already : settledIn final world.data name with
    | true => exact before name member already
    | false =>
        simp only [settlesAlone, committed, List.all_eq_true, Bool.or_eq_true, beq_iff_eq,
          Bool.not_eq_true'] at alone
        have listed : (otherCall, other) ∈ world.calls.zipIdx :=
          List.mk_mem_zipIdx_iff_getElem?.mpr located
        rcases alone name (settled_mem terminal already) (otherCall, other) listed with same | idle
        · exact absurd same distinct
        · simp only [mayChange, running, Bool.and_eq_false_iff, List.contains_eq_mem,
            decide_eq_false_iff_not, Bool.not_eq_false'] at idle
          rcases idle with absent | sealed
          · exact absurd member absent
          · exact sealed
  · intro move database shared trace moving moved before name member terminal
    rcases move_lookup moved name with same | ⟨_, request, created⟩
    · simp only [settledIn, same] at terminal
      exact before name member terminal
    · simp only [settledIn, created] at terminal
      change final .pending = true at terminal
      rw [closed.pending] at terminal
      cases terminal

/-- A save that was answered fits the row it was checked against. -/
theorem checkSave_fits {database : Database} {name : String} {loaded : SigningRequest}
    {edit : RequestEdit} (checked : checkSave database name loaded edit = .ok ()) :
    ∃ row, database.requests.lookup name = some row ∧
      (edit.status = row.status ∨ edit.status ∈ row.status.validTransitions) := by
  simp only [checkSave] at checked
  split at checked
  · cases checked
  · rename_i row found
    split at checked
    · cases checked
    · simp only [validateStatusTransition] at checked
      split at checked
      · rename_i same
        exact ⟨row, found, Or.inl same.symm⟩
      · split at checked
        · rename_i allowed
          exact ⟨row, found, Or.inr allowed⟩
        · cases checked

theorem saves_step {world next : ServerWorld} {label : ServerLabel} (ordered : Ordered final lib world)
    (stepped : step (body lib) world label = some next) : next.Holds SavesFit := by
  apply holds_step (body lib) ordered.saves stepped
  · intro database name edit at_ member
    cases member
  · intro index call event asked located before uncommitted name edit at_ member
    change Write.saveRequest name edit at_ ∈
      (if commits event then [] else site.pending call.trace ++ effects event) at member
    change commits event = false at uncommitted
    rw [uncommitted, if_neg Bool.false_ne_true] at member
    rcases List.mem_append.mp member with older | own
    · exact before name edit at_ older
    · obtain ⟨loaded, same⟩ := saveRequest_effect own
      have permitted := disciplined_asking ordered.disciplined asked
      obtain ⟨_, _, _, oracle, shared, _, replied⟩ := asking_located asked
      subst same
      -- The call has written nothing yet, so it was checked against the committed row.
      rw [permitted.1] at replied
      simp only [site, reply, answer] at replied
      split at replied
      · cases replied
      · simp only [Option.some.injEq, Prod.mk.injEq] at replied
        exact checkSave_fits replied.1
  · intro index call event asked located before committed name edit at_ member
    change Write.saveRequest name edit at_ ∈
      (if commits event then [] else site.pending call.trace ++ effects event) at member
    change commits event = true at committed
    rw [committed, if_pos rfl] at member
    cases member
  · intro index call other otherCall program committed distinct located running before name edit
      at_ member
    obtain ⟨row, found, fits⟩ := before name edit at_ member
    obtain ⟨there, otherProgram, was⟩ := committing_located committed
    have others : ∀ write ∈ site.pending call.trace, write.row ≠ some (.request name) := by
      intro write pending same
      have apart := ordered.exclusive other index otherCall call distinct located there
        (.saveRequest name edit at_) (by simpa only [Call.held, running] using member) write
        (by simpa only [Call.held, was] using pending)
      have clash : site.conflict (.saveRequest name edit at_) write = true := conflict_same rfl same
      rw [apart] at clash
      cases clash
    refine ⟨row, ?_, fits⟩
    rw [view_lookup, found, Option.map_some, fold_other others]
  · intro move database shared trace moving moved before name edit at_ member
    obtain ⟨row, found, fits⟩ := before name edit at_ member
    rcases move_lookup moved name with same | ⟨absent, _⟩
    · exact ⟨row, by rw [same]; exact found, fits⟩
    · rw [found] at absent
      cases absent

theorem ordered_step (closed : Closed final) {world next : ServerWorld} {label : ServerLabel}
    (ordered : Ordered final lib world) (calm : undisturbed final world label = true)
    (stepped : step (body lib) world label = some next) : Ordered final lib next :=
  { disciplined := disciplined_step (body lib) body_follows ordered.disciplined stepped
    exclusive := exclusive_step (body lib) ordered.exclusive stepped
    spent := spent_step closed ordered.spent calm stepped
    saves := saves_step ordered stepped }

theorem absorbs_step (closed : Closed final) {world next : ServerWorld} {label : ServerLabel}
    (ordered : Ordered final lib world) (stepped : step (body lib) world label = some next) : Absorbs final world next := by
  intro name row found terminal
  rcases step_data (body lib) stepped with ⟨index, call, committed, after, _⟩ | ⟨_, _, rest⟩
  · obtain ⟨located, program, running⟩ := committing_located committed
    refine ⟨_, by rw [after, view_lookup, found, Option.map_some], ?_⟩
    exact commit_absorbs closed (disciplined_running ordered.disciplined located)
      (ordered.spent index call program located running)
      (ordered.saves index call program located running) found terminal
  · rcases rest with same | ⟨move, shared, _, moved⟩
    · exact ⟨row, by rw [same]; exact found, rfl⟩
    · rcases move_lookup moved name with same | ⟨absent, _⟩
      · exact ⟨row, by rw [same]; exact found, rfl⟩
      · rw [found] at absent
        cases absent

theorem Absorbs.trans {first second third : ServerWorld} (early : Absorbs final first second)
    (late : Absorbs final second third) : Absorbs final first third := by
  intro name row found terminal
  obtain ⟨middle, there, same⟩ := early name row found terminal
  obtain ⟨last, found', again⟩ := late name middle there (by rw [same]; exact terminal)
  exact ⟨last, found', again.trans same⟩

theorem ordered_installed (masters : Masters) (now : Instant) (zone : Int) :
    Ordered final lib (installed masters now zone) :=
  { disciplined := by intro index call located; cases located
    exclusive := by intro left right leftCall rightCall _ located; cases located
    spent := by intro index call program located; cases located
    saves := by intro index call program located; cases located }

/-- Closed statuses are kept by every run that is undisturbed with respect to them. -/
theorem run_absorbs (closed : Closed final) {masters : Masters} {now : Instant} {zone : Int}
    {labels later : List ServerLabel} {world last : ServerWorld}
    (calm : Along (body lib) (fun world label => undisturbed final world label = true)
      (installed masters now zone) (labels ++ later))
    (reached : run (body lib) (installed masters now zone) labels = some world)
    (continued : run (body lib) world later = some last) : Absorbs final world last := by
  obtain ⟨before, after⟩ := along_append (body lib) calm
  have ordered : Ordered final lib world :=
    run_invariant (body lib) (fun _ _ _ holds quiet stepped => ordered_step closed holds quiet stepped)
      (ordered_installed masters now zone) before reached
  exact run_related (body lib) (Absorbs final) (fun _ name row found _ => ⟨row, found, rfl⟩)
    Absorbs.trans
    (fun _ _ _ holds quiet stepped => ⟨ordered_step closed holds quiet stepped,
      absorbs_step closed holds stepped⟩) ordered (after world reached) continued

/-- In a run without such disturbances no step gives a Signed or Cancelled
request another status. -/
theorem terminal_absorbing (masters : Masters) (now : Instant) (zone : Int)
    (labels later : List ServerLabel) (world last : ServerWorld)
    (calm : Along (body lib) (fun world label => undisturbed RequestStatus.terminal world label = true)
      (installed masters now zone) (labels ++ later))
    (reached : run (body lib) (installed masters now zone) labels = some world)
    (continued : run (body lib) world later = some last) (name : String) (row : SigningRequest)
    (found : world.data.requests.lookup name = some row)
    (terminal : row.status = .signed ∨ row.status = .cancelled) :
    ∃ kept, last.data.requests.lookup name = some kept ∧ kept.status = row.status := by
  apply run_absorbs terminal_closed calm reached continued name row found
  rcases terminal with signed | cancelled
  · rw [signed]
    rfl
  · rw [cancelled]
    rfl

/-- After the signing: a poll, a refused cancel and the hourly cleanup. -/
def sampleAftermath : List ServerLabel :=
  .move (.elapse (seconds 301)) ::
    (served 2 ⟨sampleUser "bob", .getSigningStatus "Sales Invoice" "INV-1"⟩ 2 .plain ++
      served 3 ⟨sampleUser "bob", .cancel "SR-1" ""⟩ 1 .plain ++
      served 4 ⟨sampleUser "Administrator", .expireStalePendingRequests⟩ 3 .plain)

theorem terminal_absorbing_signing :
    ∃ world last row kept,
      run (body sampleLibraries) sampleSite sampleSigning = some world ∧
      run (body sampleLibraries) world sampleAftermath = some last ∧
      world.data.requests.lookup "SR-1" = some row ∧ row.status = .signed ∧
      last.data.requests.lookup "SR-1" = some kept ∧ kept.status = row.status := by
  have calm : alongCheck (body sampleLibraries) (undisturbed RequestStatus.terminal) sampleSite
      (sampleSigning ++ sampleAftermath) = true := by decide +kernel
  have ends : ((run (body sampleLibraries) sampleSite (sampleSigning ++ sampleAftermath)).isSome &&
      statusAfter sampleSigning "SR-1" == some .signed) = true := by decide +kernel
  simp only [Bool.and_eq_true, beq_iff_eq, statusAfter, Option.bind_eq_some_iff,
    Option.map_eq_some_iff] at ends
  obtain ⟨finished, world, reached, row, found, signed⟩ := ends
  rw [run_append, reached, Option.bind_some] at finished
  obtain ⟨last, continued⟩ := Option.isSome_iff_exists.mp finished
  obtain ⟨kept, there, same⟩ := terminal_absorbing sampleMasters 0 0 sampleSigning sampleAftermath
    world last (along_check (body sampleLibraries) calm) reached continued "SR-1" row found
    (Or.inl signed)
  exact ⟨world, last, row, kept, reached, continued, found, signed, there, same⟩

/-- The session of an abandoned attempt outlives the recovery and the cancel. -/
def lateSigning : List ServerLabel :=
  .move (.createRequest "SR-1" sampleRequest) ::
    (served 0 ⟨sampleUser "alice", .initiate sampleInitiate⟩ 24 (sampleOracle "S-1" "") ++
      .move (.elapse (seconds 301)) ::
      served 1 ⟨sampleUser "bob", .getSigningStatus "Sales Invoice" "INV-1"⟩ 3 .plain ++
      served 2 ⟨sampleUser "bob", .cancel "SR-1" "wrong document"⟩ 6 (sampleOracle "" ""))

/-- A finalize on that session makes the Cancelled request Signed. -/
theorem cancelled_then_signed :
    statusAfter lateSigning "SR-1" = some .cancelled ∧
      statusAfter (lateSigning ++ served 3 ⟨sampleUser "alice", .finalize (sampleFinalize "S-1")⟩ 32
        (sampleOracle "" "F-1")) "SR-1" = some .signed := by
  decide +kernel

end DscSigning
