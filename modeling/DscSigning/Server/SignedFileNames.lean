/-
The names of the signed files of a document.

The number in a name is one more than there are files, and not one more than the
greatest number; after a deletion, or beside another signing, it comes up again.
-/

import DscSigning.Library.Runs
import DscSigning.Server.Provenance
import DscSigning.Server.Recording

namespace DscSigning

open Interaction Engine

variable {lib : Libraries}

/-! ### Deletions -/

/-- `before_delete` of a File. -/
def beforeDelete (masters : Masters) (user : String) (doc : FileRow) : Except Exn Unit :=
  if !doc.isDscSigned then .ok ()
  else
    let userRoles := masters.roles user
    if [Role.dscAdministrator, .systemManager, .other "Administrator"].any userRoles.contains then
      .ok ()
    else .error (thrown ("This file is a DSC-signed PDF and cannot be deleted. " ++
      "Contact a DSC Administrator if removal is required."))

inductive FileLabel where
  | server (label : ServerLabel)
  /-- A user deletes the File of this name. -/
  | deleteFile (user name : String)

variable (lib) in
def fileStep (world : ServerWorld) : FileLabel → Option ServerWorld
  | .server label => step (body lib) world label
  | .deleteFile user name =>
      match world.data.files.lookup name with
      | none => none
      | some doc =>
          match beforeDelete world.data.masters user doc with
          | .error _ => some world
          | .ok _ => some
              { world with data := { world.data with files := world.data.files.erase name } }

/-! ### The claim on a step -/

def FileRow.attachedTo (row : FileRow) (doctype docname : String) : Prop :=
  row.attachedToDoctype = doctype ∧ row.attachedToName = docname

/-- No File that is attached to the document has the name. -/
def Unused (world : ServerWorld) (doctype docname fileName : String) : Prop :=
  ∀ key row, world.data.files.lookup key = some row → row.attachedTo doctype docname →
    fileName ≠ row.fileName

/-- The name that `finalize_signed_pdf` makes of a count is unused when it is made, and when the
File is saved under it. -/
def NamesUnused (world : ServerWorld) : FileLabel → Prop
  | .server label => ∀ index call event, asking world label = some (index, call, event) →
      (∀ doctype docname existing stamp,
        event = ⟨.countSignedFiles doctype docname, .ok existing, stamp⟩ →
          Unused world doctype docname (signedName docname existing)) ∧
      ∀ file, event.query = .insertFile file →
        Unused world file.attachedToDoctype file.attachedToName file.fileName
  | .deleteFile .. => True

/-- The File was saved, by a call that had been told this count, for the name that is made of it. -/
def NamedWith (world : ServerWorld) (key : String) (row : FileRow) (existing : Nat) : Prop :=
  ∃ (index : Nat) (call : ServerCall) (draft : FileRow) (stored : StoredFile) (stamp : Instant)
    (earlier : ServerTrace), world.calls[index]? = some call ∧
      (⟨.insertFile draft, .ok stored, stamp⟩ : ServerEvent) :: earlier <:+ call.trace ∧
      Answered earlier (.countSignedFiles row.attachedToDoctype row.attachedToName) existing ∧
      draft.fileName = signedName row.attachedToName existing ∧
      stored.name = key ∧ stored.fileName = row.fileName

/-- No File of the document was named with this count; and one that was renamed when it was saved
does not have the name that is made of it. -/
def CountUnused (world : ServerWorld) (doctype docname : String) (existing : Nat) : Prop :=
  ∀ key row earlierCount, world.data.files.lookup key = some row →
    row.attachedTo doctype docname → NamedWith world key row earlierCount →
      if row.fileName = signedName docname earlierCount then earlierCount ≠ existing
      else row.fileName ≠ signedName docname existing

/-- The counts that names are made of are unused, when they are told and when the File is saved. -/
def CountsUnused (world : ServerWorld) : FileLabel → Prop
  | .server label => ∀ index call event, asking world label = some (index, call, event) →
      (∀ doctype docname existing stamp,
        event = ⟨.countSignedFiles doctype docname, .ok existing, stamp⟩ →
          CountUnused world doctype docname existing) ∧
      ∀ file existing, event.query = .insertFile file →
        Answered call.trace (.countSignedFiles file.attachedToDoctype file.attachedToName) existing →
        file.fileName = signedName file.attachedToName existing →
          CountUnused world file.attachedToDoctype file.attachedToName existing
  | .deleteFile .. => True

/-! ### Names and numbers -/

theorem signedName_eq (docname : String) (existing : Nat) :
    signedName docname existing =
      docname ++ "_signed_v" ++ Nat.repr (existing + 1) ++ ".pdf" := by
  unfold signedName
  by_cases none_ : existing = 0
  · subst none_
    rfl
  · rw [if_neg none_]
    rfl

theorem signedName_inj {docname : String} {one other : Nat}
    (same : signedName docname one = signedName docname other) : one = other := by
  rw [signedName_eq, signedName_eq, String.append_left_inj, String.append_right_inj] at same
  exact Nat.succ.inj (nat_repr_inj same)

/-! ### What `finalize` names -/

/-- A `finalize` saves a file under a name that is made of a count it was told. -/
def Numbers (origin : Origin) (trace : ServerTrace) : Operation → Prop
  | .insertFile file => ∀ arguments, origin.endpoint = .finalize arguments →
      Numbered trace file.attachedToDoctype file.attachedToName file.fileName
  | _ => True

theorem body_numbers (origin : Origin) :
    (body lib origin).Follows (Numbers origin) (fun _ _ => True) [] := by
  refine body_records (fun ctx arguments => ?_) ?_ origin
  · constructor
    · intro trace operation ordinary
      cases operation with
      | insertFile file => exact ordinary.elim
      | _ => trivial
    · intro trace signedResult numbered _ _
      exact numbered
    · intros
      trivial
  · intro origin trace operation others
    cases operation with
    | insertFile file => exact fun arguments same => absurd same (others arguments)
    | _ => trivial

/-- Where the names of the Files go back to. -/
structure NamedFiles (lib : Libraries) (world : ServerWorld) : Prop where
  permitted : world.Disciplined (Permitted lib) (Ends lib)
  numbers : world.Disciplined Numbers fun _ _ _ => True
  filed : ∀ key row, world.data.files.lookup key = some row →
    ∃ existing, NamedWith world key row existing

section Step

variable {world next : ServerWorld}

theorem NamedWith.mono {label : ServerLabel} (stepped : step (body lib) world label = some next)
    {key : String} {old row : FileRow} {existing : Nat} (same : old.unflagged = row.unflagged)
    (named : NamedWith world key old existing) : NamedWith next key row existing := by
  obtain ⟨index, call, draft, stored, stamp, earlier, located, suffix, rest⟩ := named
  obtain ⟨later, there, _, extended⟩ := step_grows (body lib) stepped located
  have columns := FileRow.mk.inj same
  rw [columns.1, columns.2.2.1, columns.2.2.2.1] at rest
  exact ⟨index, later, draft, stored, stamp, earlier, there, suffix.trans extended, rest⟩

/-- A call that saves a file is a `finalize`, and has been told the count. -/
theorem insertFile_numbered (permitted : world.Disciplined (Permitted lib) (Ends lib))
    (numbers : world.Disciplined Numbers fun _ _ _ => True) {index : Nat} {call : ServerCall}
    (located : world.calls[index]? = some call) {draft : FileRow} {stored : StoredFile}
    {stamp : Instant} {earlier : ServerTrace}
    (suffix : (⟨.insertFile draft, .ok stored, stamp⟩ : ServerEvent) :: earlier <:+ call.trace) :
    Numbered earlier draft.attachedToDoctype draft.attachedToName draft.fileName := by
  obtain ⟨arguments, endpoint, _⟩ := ((disciplined_running permitted located).suffix suffix).1
  exact ((disciplined_running numbers located).suffix suffix).1 arguments endpoint

theorem namedFiles_server {label : ServerLabel} (named : NamedFiles lib world)
    (stepped : step (body lib) world label = some next) : NamedFiles lib next := by
  refine ⟨disciplined_step (body lib) body_follows named.permitted stepped,
    disciplined_step (body lib) body_numbers named.numbers stepped, ?_⟩
  intro key row found
  rcases file_before stepped found with
    ⟨old, there, same⟩ | ⟨index, call, draft, stored, committed, ⟨stamp, member⟩, rfl, columns⟩
  · obtain ⟨existing, before⟩ := named.filed key old there
    exact ⟨existing, before.mono stepped same⟩
  · obtain ⟨located, _⟩ := committing_located committed
    obtain ⟨earlier, suffix, _⟩ := (disciplined_running named.permitted located).of_mem member
    obtain ⟨existing, counted, given⟩ :=
      insertFile_numbered named.permitted named.numbers located suffix
    have written := FileRow.mk.inj columns
    rw [written.2.2.1, written.2.2.2.1] at counted
    rw [written.2.2.2.1] at given
    have now : NamedWith world stored.name row existing :=
      ⟨index, call, draft, stored, stamp, earlier, located, suffix, counted, given, rfl, written.1⟩
    exact ⟨existing, now.mono stepped rfl⟩

theorem namedFiles_delete {user name : String} (named : NamedFiles lib world)
    (stepped : fileStep lib world (.deleteFile user name) = some next) : NamedFiles lib next := by
  simp only [fileStep] at stepped
  split at stepped
  · cases stepped
  · split at stepped
    · cases stepped
      exact named
    · cases stepped
      refine ⟨named.permitted, named.numbers, fun key row found => ?_⟩
      by_cases same : key = name
      · rw [same, AList.lookup_erase] at found
        cases found
      · rw [AList.lookup_erase_ne same] at found
        exact named.filed key row found

theorem namedFiles_step {label : FileLabel} (named : NamedFiles lib world)
    (stepped : fileStep lib world label = some next) : NamedFiles lib next := by
  cases label with
  | server label => exact namedFiles_server named stepped
  | deleteFile user name => exact namedFiles_delete named stepped

/-- A name is unused where the count it is made of is. -/
theorem unused_iff (named : NamedFiles lib world) (doctype docname : String) (existing : Nat) :
    Unused world doctype docname (signedName docname existing) ↔
      CountUnused world doctype docname existing := by
  constructor
  · intro unused key row earlierCount found attached _
    have differs := unused key row found attached
    split
    · rename_i same
      rintro rfl
      exact differs same.symm
    · exact differs.symm
  · intro unused key row found attached same
    obtain ⟨earlierCount, with_⟩ := named.filed key row found
    have fresh := unused key row earlierCount found attached with_
    split at fresh
    · rename_i kept
      exact fresh (signedName_inj (kept.symm.trans same.symm))
    · exact fresh same.symm

/-- On every step the names are unused exactly where the counts are. -/
theorem namesUnused_iff (named : NamedFiles lib world) (label : FileLabel) :
    NamesUnused world label ↔ CountsUnused world label := by
  cases label with
  | deleteFile user name => exact Iff.rfl
  | server label =>
      refine forall_congr' fun index => forall_congr' fun call => forall_congr' fun event =>
        forall_congr' fun asks => and_congr ?_ ?_
      · refine forall_congr' fun doctype => forall_congr' fun docname => forall_congr' fun existing =>
          forall_congr' fun stamp => forall_congr' fun told => ?_
        exact unused_iff named doctype docname existing
      · refine forall_congr' fun file => ?_
        constructor
        · intro unused existing saves counted given
          rw [← unused_iff named, ← given]
          exact unused saves
        · intro unused saves
          have permitted := disciplined_asking named.permitted asks
          have numbers := disciplined_asking named.numbers asks
          rw [saves] at permitted numbers
          obtain ⟨arguments, endpoint, _⟩ := permitted
          obtain ⟨existing, counted, given⟩ := numbers arguments endpoint
          rw [given]
          exact (unused_iff named _ _ _).mpr (unused existing saves counted given)

end Step

theorem namedFiles_installed (masters : Masters) (now : Instant) (zone : Int) :
    NamedFiles lib (installed masters now zone) where
  permitted := by intro index call located; cases located
  numbers := by intro index call located; cases located
  filed := by intro key row found; cases found

/-- In every run of signings and deletions the names are unused exactly where no remaining File of
the document was named with the count that the name is made of. -/
theorem signed_names_unused_iff (masters : Masters) (now : Instant) (zone : Int)
    (labels : List FileLabel) :
    Runs.Along (fileStep lib) NamesUnused (installed masters now zone) labels ↔
      Runs.Along (fileStep lib) CountsUnused (installed masters now zone) labels :=
  Runs.along_congr (fun _ _ _ named stepped => namedFiles_step named stepped)
    (fun _ label named => namesUnused_iff named label) (namedFiles_installed masters now zone)

/-! ### The first of two files is deleted -/

/-- Everyone but Alice is an administrator. -/
def archiveMasters : Masters :=
  { sampleMasters with
    roles := fun user => if user == "alice" then [.dscSigner] else [.dscAdministrator] }

/-- Alice starts the signing of a new request of the document. -/
def initiatedFor (index : Nat) (name sessionId : String) : List ServerLabel :=
  .move (.createRequest name { sampleRequest with rule := some name }) ::
    served index ⟨sampleUser "alice", .initiate sampleInitiate⟩ 24 (sampleOracle sessionId "")

def finalizedAs (index : Nat) (sessionId file : String) : List ServerLabel :=
  served index ⟨sampleUser "alice", .finalize (sampleFinalize sessionId)⟩ 32 (sampleOracle "" file)

/-- Two signings, the deletion of the first file, and a third signing up to the count. -/
def beforeReuse : List FileLabel :=
  (initiatedFor 0 "SR-1" "S-1" ++ finalizedAs 1 "S-1" "F-1" ++ initiatedFor 2 "SR-2" "S-2" ++
      finalizedAs 3 "S-2" "F-2").map .server ++
    .deleteFile "admin" "F-1" ::
      (initiatedFor 4 "SR-3" "S-3" ++
        .start ⟨sampleUser "alice", .finalize (sampleFinalize "S-3")⟩ ::
          asks 5 10 (sampleOracle "" "F-3")).map .server

/-- The step makes a name that an attached File has. -/
def clashes (world : ServerWorld) (label : ServerLabel) : Bool :=
  match asking world label with
  | some (_, _, ⟨.countSignedFiles doctype docname, .ok existing, _⟩) =>
      world.data.files.rows.any fun entry => entry.2.attachedToDoctype == doctype &&
        entry.2.attachedToName == docname && signedName docname existing == entry.2.fileName
  | _ => false

theorem clashes_used {world : ServerWorld} {label : ServerLabel}
    (clash : clashes world label = true) : ¬ NamesUnused world (.server label) := by
  intro unused
  unfold clashes at clash
  split at clash
  · rename_i index call doctype docname existing stamp found
    obtain ⟨⟨key, row⟩, member, same⟩ := List.any_eq_true.mp clash
    simp only [Bool.and_eq_true, beq_iff_eq] at same
    exact (unused index call _ found).1 doctype docname existing stamp rfl key row
      (Table.mem_rows.mp member) same.1 same.2
  · cases clash

/-- The third file is named like the second. -/
theorem signed_name_reused :
    ¬ Runs.Along (fileStep sampleLibraries) NamesUnused (installed archiveMasters 0 0)
      (beforeReuse ++ [.server (.ask 5 (sampleOracle "" "F-3"))]) := by
  have ends : ((Runs.run (fileStep sampleLibraries) (installed archiveMasters 0 0)
      beforeReuse).map fun world => clashes world (.ask 5 (sampleOracle "" "F-3"))) = some true := by
    decide +kernel
  obtain ⟨world, reached, clash⟩ := Option.map_eq_some_iff.mp ends
  intro along
  exact clashes_used clash ((Runs.along_append along).2 world reached).1

end DscSigning
