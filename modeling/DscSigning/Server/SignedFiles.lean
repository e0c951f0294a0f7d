/-
When the signed file of a request, its status and the File rows agree.

The `except` clause of `finalize` commits what the `try` block had written
before it raised.  The three agree in every run that keeps Signed requests
alone, in which no `finalize` commits after an exception that followed the
saving of its file, and in which no signature value is the empty string.
-/

import DscSigning.Server.Absorption
import DscSigning.Server.Provenance

namespace DscSigning

open Interaction Engine

def RequestStatus.isSigned : RequestStatus → Bool
  | .signed => true
  | _ => false

theorem isSigned_closed : Closed RequestStatus.isSigned := by
  intro status signed
  cases status <;> first | rfl | cases signed

theorem isSigned_iff {status : RequestStatus} : status.isSigned = true ↔ status = .signed := by
  cases status <;> simp [RequestStatus.isSigned]

/-! ### The condition on a run -/

/-- A call that has saved a file and commits has met no uncaught exception in
between. -/
def commitsFiled (world : ServerWorld) (label : ServerLabel) : Bool :=
  match committing world label with
  | some (_, call) => !call.trace.any insertsFile || filed call.trace
  | none => true

/-- The signature value of a written evidence is not empty. -/
def signsNonempty (world : ServerWorld) (label : ServerLabel) : Bool :=
  match asking world label with
  | some (_, _, ⟨.setRequest _ (.signed evidence), _, _⟩) => evidence.signatureBytes != ""
  | _ => true

def keepsFiles (world : ServerWorld) (label : ServerLabel) : Bool :=
  undisturbed RequestStatus.isSigned world label && commitsFiled world label &&
    signsNonempty world label

/-! ### The invariant -/

/-- The file and the signature value are set exactly on a Signed row. -/
structure Paired (row : SigningRequest) : Prop where
  file : row.signedFile.given = true ↔ row.status = .signed
  signature : row.signatureBytes.given = true ↔ row.status = .signed

def Write.signs (name : String) : Write → Bool
  | .setRequest other (.signed _) _ => other == name
  | _ => false

/-- The call has committed its file, and has met no uncaught exception since it
saved it. -/
def Delivered (call : ServerCall) : Prop :=
  filed call.trace = true ∧ (sealed call.trace = true ∨ ∃ value, call.phase = .ended (.ok value))

/-- What the call has raised. -/
def failure (call : ServerCall) : Option Exn :=
  match call.phase with
  | .ended (.error exn) => some exn
  | _ => none

structure Kept (lib : Libraries) (world : ServerWorld) : Prop where
  ordered : Ordered RequestStatus.isSigned lib world
  nonempty : ∀ index name evidence at_,
    world.Asked index ⟨.setRequest name (.signed evidence), .ok (), at_⟩ →
    evidence.signatureBytes ≠ ""
  paired : ∀ name row, world.data.requests.lookup name = some row → Paired row
  delivered : ∀ name file, world.data.files.lookup name = some file →
    ∃ index call draft stored, SavedBy world index draft stored ∧ stored.name = name ∧
      world.calls[index]? = some call ∧ Delivered call

variable {lib : Libraries}

/-! ### One list of writes -/

theorem onRequest_unsigned {name : String} {write : Write} (row : SigningRequest)
    (plain : write.signs name = false) :
    (write.onRequest name row).signedFile = row.signedFile ∧
      (write.onRequest name row).signatureBytes = row.signatureBytes := by
  rw [← Prod.mk.injEq]
  refine onRequest_keeps (fun row => (row.signedFile, row.signatureBytes)) row ?_ fun _ _ => rfl
  rintro update at_ rfl
  cases update with
  | signed evidence => simp [Write.signs] at plain
  | _ => rfl

theorem fold_unsigned {name : String} {writes : List Write} (row : SigningRequest)
    (plain : writes.any (Write.signs name) = false) :
    (writes.foldl (Write.onRequest name) row).signedFile = row.signedFile ∧
      (writes.foldl (Write.onRequest name) row).signatureBytes = row.signatureBytes := by
  have kept (write : Write) (member : write ∈ writes) (inner : SigningRequest) :=
    onRequest_unsigned inner (Bool.eq_false_iff.mpr (List.any_eq_false.mp plain write member))
  exact ⟨fold_keeps SigningRequest.signedFile (fun write member inner =>
      (kept write member inner).1) row,
    fold_keeps SigningRequest.signatureBytes (fun write member inner =>
      (kept write member inner).2) row⟩

theorem signs_setRequest {name : String} {write : Write} (signs : write.signs name = true) :
    ∃ evidence at_, write = .setRequest name (.signed evidence) at_ := by
  cases write with
  | setRequest other update at_ =>
      cases update with
      | signed evidence =>
          simp only [Write.signs, beq_iff_eq] at signs
          exact ⟨evidence, at_, by rw [signs]⟩
      | _ => cases signs
  | _ => cases signs

/-- A row that carries evidence with a file name and a signature value. -/
structure Shows (row : SigningRequest) : Prop where
  status : row.status = .signed
  file : row.signedFile.given = true
  signature : row.signatureBytes.given = true

theorem Shows.paired {row : SigningRequest} (shows_ : Shows row) : Paired row :=
  { file := ⟨fun _ => shows_.status, fun _ => shows_.file⟩
    signature := ⟨fun _ => shows_.status, fun _ => shows_.signature⟩ }

/-- A write without a status for the request leaves what the row shows. -/
theorem Shows.silent {name : String} {write : Write} {row : SigningRequest} (shows_ : Shows row)
    (silent : write.statusOn name = none) : Shows (write.onRequest name row) := by
  have plain : write.signs name = false := by
    rw [← Bool.not_eq_true]
    intro signs
    obtain ⟨evidence, at_, same⟩ := signs_setRequest signs
    rw [same] at silent
    simp only [Write.statusOn, if_true] at silent
    cases silent
  obtain ⟨sameFile, sameSignature⟩ := onRequest_unsigned row plain
  refine ⟨?_, by rw [sameFile]; exact shows_.file, by rw [sameSignature]; exact shows_.signature⟩
  rw [onRequest_status, silent]
  exact shows_.status

theorem given_some {value : String} (nonempty : value ≠ "") : Text.given (some value) = true := by
  simpa [Text.given] using nonempty

/-- The last statement of the evidence is what the row shows. -/
theorem shows_signed {name : String} {evidence : SignedEvidence} {at_ : Instant}
    (row : SigningRequest) (file : evidence.signedFile ≠ "")
    (signature : evidence.signatureBytes ≠ "") :
    Shows (Write.onRequest name row (.setRequest name (.signed evidence) at_)) := by
  simp only [Write.onRequest, if_true]
  exact ⟨rfl, given_some file, given_some signature⟩

theorem effects_single (event : ServerEvent) :
    effects event = [] ∨ ∃ write, effects event = [write] := by
  obtain ⟨operation, result, stamp⟩ := event
  cases operation <;> cases result <;> first | exact Or.inl rfl | exact Or.inr ⟨_, rfl⟩

/-! ### One call -/

section Trace

variable {origin : Origin} {trace earlier : ServerTrace} {event : ServerEvent}

theorem filed_tail (plain : insertsFile event = false) (still : filed (event :: earlier) = true) :
    filed earlier = true := by
  simp only [filed, standing, plain, Bool.false_or, Bool.and_eq_true] at still
  exact still.2

theorem insertsFile_inserted {file : FileRow} {stored : StoredFile}
    (saved : Answered trace (.insertFile file) stored) : trace.any insertsFile = true := by
  obtain ⟨stamp, member⟩ := saved
  exact List.any_eq_true.mpr ⟨_, member, rfl⟩

/-- Evidence that is uncommitted was written after a file was saved. -/
theorem signs_inserted (honours : Honours (Permitted lib origin) trace) {name : String}
    (signs : (site.pending trace).any (Write.signs name) = true) :
    trace.any insertsFile = true := by
  obtain ⟨write, member, mark⟩ := List.any_eq_true.mp signs
  obtain ⟨evidence, at_, same⟩ := signs_setRequest mark
  rw [same] at member
  obtain ⟨newer, before, split, _⟩ := setRequest_pending member
  obtain ⟨_, _, _, _, _, _, _, _, _, _, saved, _⟩ := (honoured_at honours split).2
  have inside := insertsFile_inserted saved
  rw [split, List.any_append, List.any_cons, inside]
  simp only [Bool.or_true]

/-- A file is saved once. -/
theorem inserts_once (permitted : Permitted lib origin earlier event.query)
    (inserts : insertsFile event = true) : earlier.any insertsFile = false := by
  obtain ⟨operation, result, stamp⟩ := event
  cases operation with
  | insertFile file =>
      obtain ⟨_, _, quiet⟩ := permitted
      rw [← Bool.not_eq_true]
      intro again
      obtain ⟨other, member, mark⟩ := List.any_eq_true.mp again
      rw [(notable_false (quiet other member)).2.1] at mark
      cases mark
  | _ => cases result <;> cases inserts

/-- While the saved file stands, nothing unsigns what the call has signed. -/
theorem signed_lasts (honours : Honours (Permitted lib origin) trace) {name : String}
    (still : filed trace = true)
    (given : ∀ evidence at_, (⟨.setRequest name (.signed evidence), .ok (), at_⟩ : ServerEvent) ∈
      trace → evidence.signedFile ≠ "" ∧ evidence.signatureBytes ≠ "")
    (row : SigningRequest) (signs : (site.pending trace).any (Write.signs name) = true) :
    Shows ((site.pending trace).foldl (Write.onRequest name) row) := by
  induction trace with
  | nil => cases signs
  | cons event earlier ih =>
      simp only [pending] at signs ⊢
      split at signs
      · cases signs
      · rename_i uncommitted
        rw [if_neg uncommitted, List.foldl_append]
        rw [List.any_append] at signs
        have own (evidence : SignedEvidence) (at_ : Instant)
            (effect : Write.setRequest name (.signed evidence) at_ ∈ effects event) :
            evidence.signedFile ≠ "" ∧ evidence.signatureBytes ≠ "" := by
          refine given evidence at_ ?_
          rw [setRequest_effect effect]
          exact List.mem_cons_self
        cases older : (site.pending earlier).any (Write.signs name) with
        | false =>
            -- The statement of the evidence is the event itself.
            rw [older, Bool.false_or] at signs
            obtain ⟨write, effect, mark⟩ := List.any_eq_true.mp signs
            obtain ⟨evidence, at_, same⟩ := signs_setRequest mark
            rw [same] at effect
            obtain ⟨file, signature⟩ := own evidence at_ effect
            rw [setRequest_effect effect]
            exact shows_signed _ file signature
        | true =>
            have saved := signs_inserted honours.2 older
            have plain : insertsFile event = false := by
              rw [← Bool.not_eq_true]
              intro inserts
              rw [inserts_once honours.1 inserts] at saved
              cases saved
            have before := filed_tail plain still
            have shown := ih honours.2 before
              (fun evidence at_ member => given evidence at_ (List.mem_cons_of_mem _ member)) older
            rcases effects_single event with none_ | ⟨write, single⟩
            · rw [none_]
              exact shown
            · have effect : write ∈ effects event := by rw [single]; exact List.mem_singleton_self _
              rw [single]
              change Shows (write.onRequest name _)
              cases write with
              | setRequest other update at_ =>
                  by_cases same : other = name
                  · subst same
                    have permitted := honours.1
                    rw [setRequest_effect effect] at permitted
                    cases update with
                    | started _ _ _ =>
                        rw [permitted.2.1] at before
                        cases before
                    | hashed _ _ => exact shown.silent (by simp only [Write.statusOn, if_true]; rfl)
                    | failed _ =>
                        rw [permitted.2] at before
                        cases before
                    | signed evidence =>
                        obtain ⟨file, signature⟩ := own evidence at_ effect
                        exact shows_signed _ file signature
                    | recovered =>
                        rw [permitted.2] at before
                        cases before
                  · exact shown.silent (if_neg same)
              | saveRequest other edit at_ =>
                  obtain ⟨loaded, same⟩ := saveRequest_effect effect
                  have permitted := honours.1
                  rw [same] at permitted
                  rw [permitted.1] at older
                  cases older
              | _ => exact shown.silent rfl

end Trace

/-! ### One step -/

section Step

variable {world next : ServerWorld} {label : ServerLabel}

/-- The evidence of a success names a file. -/
theorem Traced.evidence_named (traced : Traced lib world) {index : Nat} {name : String}
    {evidence : SignedEvidence} {at_ : Instant}
    (asked : world.Asked index ⟨.setRequest name (.signed evidence), .ok (), at_⟩) :
    evidence.signedFile ≠ "" := by
  obtain ⟨call, earlier, located, suffix, permitted⟩ := traced.honours asked
  obtain ⟨_, _, _, _, file, stored, _, _, _, _, ⟨savedAt, saved⟩, _, _, _, _, same, _⟩ :=
    permitted.2
  rw [same]
  exact traced.named index file stored
    ⟨savedAt, call, located, suffix.subset (List.mem_cons_of_mem _ saved)⟩

theorem Traced.signed_given (traced : Traced lib world) {name : String} {row : SigningRequest}
    (found : world.data.requests.lookup name = some row) (signed : row.status = .signed) :
    row.signedFile.given = true := by
  obtain ⟨index, evidence, at_, asked, carries, _⟩ := traced.signed name row found signed
  rw [carries.file]
  exact given_some (traced.evidence_named asked)

theorem nonempty_step (kept : Kept lib world) (nonempty : signsNonempty world label = true)
    (stepped : step (body lib) world label = some next) :
    ∀ index name evidence at_,
      next.Asked index ⟨.setRequest name (.signed evidence), .ok (), at_⟩ →
      evidence.signatureBytes ≠ "" := by
  intro index name evidence at_ asked
  rcases asked_step (body lib) stepped asked with old | ⟨call, found⟩
  · exact kept.nonempty index name evidence at_ old
  · simpa only [signsNonempty, found, bne_iff_ne, ne_eq] using nonempty

theorem commit_paired (traced : Traced lib world) (kept : Kept lib world) {index : Nat}
    {call : ServerCall} (committed : committing world label = some (index, call))
    (files : commitsFiled world label = true) {name : String} {row : SigningRequest}
    (found : world.data.requests.lookup name = some row) :
    Paired ((site.pending call.trace).foldl (Write.onRequest name) row) := by
  obtain ⟨located, program, running⟩ := committing_located committed
  have honours := disciplined_running traced.disciplined located
  cases signs : (site.pending call.trace).any (Write.signs name) with
  | true =>
      have still : filed call.trace = true := by
        simpa only [commitsFiled, committed, signs_inserted honours signs, Bool.not_true,
          Bool.false_or] using files
      refine (signed_lasts honours still ?_ row signs).paired
      intro evidence at_ member
      have asked : world.Asked index ⟨.setRequest name (.signed evidence), .ok (), at_⟩ :=
        ⟨call, located, member⟩
      exact ⟨traced.evidence_named asked, kept.nonempty index name evidence at_ asked⟩
  | false =>
      obtain ⟨sameFile, sameSignature⟩ := fold_unsigned row signs
      have before := kept.paired name row found
      have status : ((site.pending call.trace).foldl (Write.onRequest name) row).status = .signed ↔
          row.status = .signed := by
        constructor
        · intro signed
          rcases fold_signed carries_written (pending_signsNothing honours) signed with
            ⟨evidence, at_, member, _⟩ | ⟨already, _⟩
          · have marked : (site.pending call.trace).any (Write.signs name) = true :=
              List.any_eq_true.mpr ⟨_, member, by simp only [Write.signs, beq_self_eq_true]⟩
            rw [signs] at marked
            cases marked
          · exact already
        · intro signed
          rw [commit_absorbs isSigned_closed honours
            (kept.ordered.spent index call program located running)
            (kept.ordered.saves index call program located running) found (isSigned_iff.mpr signed)]
          exact signed
      exact ⟨by rw [sameFile, status]; exact before.file,
        by rw [sameSignature, status]; exact before.signature⟩

theorem paired_step (traced : Traced lib world) (kept : Kept lib world)
    (files : commitsFiled world label = true)
    (stepped : step (body lib) world label = some next) :
    ∀ name row, next.data.requests.lookup name = some row → Paired row := by
  intro name row found
  rcases row_cases stepped found with
    ⟨there, _⟩ | ⟨old, index, call, there, committed, rfl, _⟩ | ⟨request, created, _⟩
  · exact kept.paired name row there
  · exact commit_paired traced kept committed files there
  · rw [created]
    constructor <;> simp [NewRequest.row, Text.given]

theorem delivered_step (quiet : endsQuietly world label = true)
    (stepped : step (body lib) world label = some next) {index : Nat} {call : ServerCall}
    (located : world.calls[index]? = some call) (delivered : Delivered call) :
    ∃ later, next.calls[index]? = some later ∧ Delivered later := by
  obtain ⟨still, done⟩ := delivered
  have sealed_ {program : Server Response} (running : call.phase = .running program) :
      sealed call.trace = true := by
    rcases done with closed | ⟨value, ended⟩
    · exact closed
    · rw [running] at ended
      cases ended
  rcases step_advances (body lib) stepped located with
    same | ⟨event, program, later, found, running, there, _, trace⟩ |
      ⟨result, later, _, running, there, same⟩ | ⟨program, later, _, running, there, same⟩
  · exact ⟨call, same, still, done⟩
  · have closed := sealed_ running
    simp only [endsQuietly, found, closed, Bool.true_and, Bool.not_eq_true'] at quiet
    refine ⟨later, there, ?_, Or.inl ?_⟩
    · unfold filed at still
      simp only [filed, trace, standing, quiet, still, Bool.not_false, Bool.or_true, Bool.and_self]
    · unfold sealed at closed
      simp only [sealed, trace, standing, quiet, closed, Bool.not_false, Bool.or_true, Bool.and_self]
  · exact ⟨later, there, by rw [same]; exact still, Or.inl (by rw [same]; exact sealed_ running)⟩
  · exact ⟨later, there, by rw [same]; exact still, Or.inl (by rw [same]; exact sealed_ running)⟩

theorem commit_delivers {index : Nat} {call : ServerCall}
    (committed : committing world label = some (index, call))
    (files : commitsFiled world label = true) (inserted : call.trace.any insertsFile = true)
    (stepped : step (body lib) world label = some next) :
    ∃ later, next.calls[index]? = some later ∧ Delivered later := by
  have still : filed call.trace = true := by
    simpa only [commitsFiled, committed, inserted, Bool.not_true, Bool.false_or] using files
  rcases committing_after (body lib) stepped committed with
    ⟨event, later, _, commit, there, trace⟩ | ⟨value, later, there, trace, ended⟩
  · have kind : event.query = .commit ∧ raised event = false := by
      obtain ⟨operation, reply, stamp⟩ := event
      cases operation <;> cases reply <;> first | exact ⟨rfl, rfl⟩ | cases commit
    change commits event = true at commit
    unfold filed at still
    refine ⟨later, there, ?_, Or.inl ?_⟩
    · simp only [filed, trace, standing, uncaught, kind.2, still, Bool.false_and, Bool.not_false,
        Bool.or_true, Bool.and_self]
    · simp only [sealed, trace, standing, uncaught, kind.2, commit, Bool.false_and, Bool.not_false,
        Bool.true_or, Bool.and_self]
  · exact ⟨later, there, by rw [trace]; exact still, Or.inr ⟨value, ended⟩⟩

theorem files_step (kept : Kept lib world) (files : commitsFiled world label = true)
    (quiet : endsQuietly world label = true)
    (stepped : step (body lib) world label = some next) :
    ∀ name file, next.data.files.lookup name = some file →
      ∃ index call draft stored, SavedBy next index draft stored ∧ stored.name = name ∧
        next.calls[index]? = some call ∧ Delivered call := by
  intro name file found
  rcases file_before stepped found with
    ⟨before, there, _⟩ | ⟨index, call, draft, stored, committed, ⟨stamp, member⟩, named, _⟩
  · obtain ⟨index, call, draft, stored, saved, named, located, delivered⟩ :=
      kept.delivered name before there
    obtain ⟨later, located', delivered'⟩ := delivered_step quiet stepped located delivered
    exact ⟨index, later, draft, stored, saved.mono stepped, named, located', delivered'⟩
  · have inserted : call.trace.any insertsFile = true := List.any_eq_true.mpr ⟨_, member, rfl⟩
    obtain ⟨later, located', delivered'⟩ := commit_delivers committed files inserted stepped
    exact ⟨index, later, draft, stored,
      SavedBy.mono stepped ⟨stamp, call, (committing_located committed).1, member⟩, named, located',
      delivered'⟩

theorem kept_step (traced : Traced lib world) (kept : Kept lib world)
    (keeps : keepsFiles world label = true)
    (stepped : step (body lib) world label = some next) : Kept lib next := by
  simp only [keepsFiles, Bool.and_eq_true] at keeps
  obtain ⟨⟨calm, files⟩, nonempty⟩ := keeps
  have quiet : endsQuietly world label = true := by
    simp only [undisturbed, Bool.and_eq_true] at calm
    exact calm.2
  exact
    { ordered := ordered_step isSigned_closed kept.ordered calm stepped
      nonempty := nonempty_step kept nonempty stepped
      paired := paired_step traced kept files stepped
      delivered := files_step kept files quiet stepped }

end Step

/-- In such a run the signed file and the signature value are set exactly on
Signed requests, and no stored file was saved by a `finalize` that raised. -/
theorem signed_file_iff_signed (masters : Masters) (now : Instant) (zone : Int)
    (labels : List ServerLabel) (world : ServerWorld)
    (keeps : Along (body lib) (fun world label => keepsFiles world label = true)
      (installed masters now zone) labels)
    (reached : run (body lib) (installed masters now zone) labels = some world) :
    (∀ name row, world.data.requests.lookup name = some row →
      (row.signedFile.given = true ↔ row.status = .signed) ∧
      (row.signatureBytes.given = true ↔ row.status = .signed)) ∧
    ∀ name file index draft stored call, world.data.files.lookup name = some file →
      SavedBy world index draft stored → stored.name = name → world.calls[index]? = some call →
      failure call = none := by
  obtain ⟨traced, kept⟩ := run_traced (Kept lib)
    { ordered := ordered_installed masters now zone
      nonempty := fun _ _ _ _ asked => absurd asked not_asked_installed
      paired := by intro name row found; cases found
      delivered := by intro name file found; cases found }
    (fun _ _ _ traced kept keeps stepped => kept_step traced kept keeps stepped) keeps reached
  refine ⟨fun name row found => ⟨(kept.paired name row found).file,
    (kept.paired name row found).signature⟩, ?_⟩
  intro name file index draft stored call found saved named located
  obtain ⟨other, saver, written, kept', byOther, sameName, saverAt, still, _⟩ :=
    kept.delivered name file found
  obtain ⟨savedAt, asked⟩ := saved
  obtain ⟨otherAt, otherAsked⟩ := byOther
  obtain ⟨same, _⟩ := traced.distinct index other _ _ name asked otherAsked
    (by rw [← named]; rfl) (by rw [← sameName]; rfl)
  subst same
  rw [located] at saverAt
  cases saverAt
  obtain ⟨caller, earlier, callerAt, suffix, permitted⟩ := traced.honours asked
  rw [located] at callerAt
  cases callerAt
  obtain ⟨arguments, endpoint, _⟩ := permitted
  have ended := (traced.disciplined index call located).2
  unfold failure
  split
  · rename_i exn raised
    -- A `finalize` ends with an error only if its file no longer stands.
    rw [raised] at ended
    rw [ended.1 arguments exn endpoint rfl] at still
    cases still
  · rfl

/-- A `finalize` raises before it saves a file; a second signing succeeds. -/
def secondSigning : List ServerLabel :=
  .move (.createRequest "SR-1" sampleRequest) ::
    (served 0 ⟨sampleUser "alice", .initiate sampleInitiate⟩ 24 (sampleOracle "S-1" "") ++
      served 1 ⟨sampleUser "alice",
        .finalize { sampleFinalize "S-1" with signatureBytesB64 := "A" }⟩ 15 (sampleOracle "" "") ++
      served 2 ⟨sampleUser "alice", .retry "SR-1"⟩ 4 .plain ++
      served 3 ⟨sampleUser "alice", .initiate sampleInitiate⟩ 24 (sampleOracle "S-2" "") ++
      served 4 ⟨sampleUser "alice", .finalize (sampleFinalize "S-2")⟩ 32 (sampleOracle "" "F-1"))

theorem signed_file_iff_signed_second :
    ∃ world, run (body sampleLibraries) sampleSite secondSigning = some world ∧
      (∃ row, world.data.requests.lookup "SR-1" = some row ∧ row.status = .signed) ∧
      (∀ name row, world.data.requests.lookup name = some row →
        (row.signedFile.given = true ↔ row.status = .signed) ∧
        (row.signatureBytes.given = true ↔ row.status = .signed)) ∧
      ∀ name file index draft stored call, world.data.files.lookup name = some file →
        SavedBy world index draft stored → stored.name = name →
        world.calls[index]? = some call → failure call = none := by
  have keeps : alongCheck (body sampleLibraries) keepsFiles sampleSite secondSigning = true := by
    decide +kernel
  have ends : statusAfter secondSigning "SR-1" = some .signed := by decide +kernel
  simp only [statusAfter, Option.bind_eq_some_iff, Option.map_eq_some_iff] at ends
  obtain ⟨world, reached, row, found, signed⟩ := ends
  exact ⟨world, reached, ⟨row, found, signed⟩, signed_file_iff_signed sampleMasters 0 0
    secondSigning world (along_check (body sampleLibraries) keeps) reached⟩

/-- The audit event after the evidence cannot be inserted. -/
def lostEvent : List ServerLabel :=
  .move (.createRequest "SR-1" sampleRequest) ::
    (served 0 ⟨sampleUser "alice", .initiate sampleInitiate⟩ 24 (sampleOracle "S-1" "") ++
      .start ⟨sampleUser "alice", .finalize (sampleFinalize "S-1")⟩ ::
      (asks 1 22 (sampleOracle "" "F-1") ++
        .ask 1 { Oracle.plain with fault := some ⟨"OperationalError", "Lock wait timeout"⟩ } ::
        (asks 1 5 .plain ++ [.finish 1])))

/-- The `finalize` raises, and leaves a Failed request with a signed file and a
signature value. -/
theorem lost_event_keeps_file :
    ∃ world row file call, run (body sampleLibraries) sampleSite lostEvent = some world ∧
      world.data.requests.lookup "SR-1" = some row ∧ row.status = .failed ∧
      row.signedFile = some "F-1" ∧ row.signatureBytes = some "BAUG" ∧
      world.data.files.lookup "F-1" = some file ∧ file.attachedToName = "INV-1" ∧
      world.calls[1]? = some call ∧
      failure call = some ⟨"OperationalError", "Lock wait timeout"⟩ := by
  have ends : ((run (body sampleLibraries) sampleSite lostEvent).bind fun world =>
      (world.data.requests.lookup "SR-1").bind fun row =>
        (world.data.files.lookup "F-1").bind fun file => (world.calls[1]?).map fun call =>
          row.status == .failed && row.signedFile == some "F-1" &&
            row.signatureBytes == some "BAUG" && file.attachedToName == "INV-1" &&
            failure call == some ⟨"OperationalError", "Lock wait timeout"⟩) = some true := by
    decide +kernel
  simp only [Option.bind_eq_some_iff, Option.map_eq_some_iff, Bool.and_eq_true, beq_iff_eq] at ends
  obtain ⟨world, reached, row, found, file, there, call, located,
    ⟨⟨⟨failed, named⟩, signature⟩, attached⟩, raised⟩ := ends
  exact ⟨world, row, file, call, reached, found, failed, named, signature, there, attached, located,
    raised⟩

end DscSigning
