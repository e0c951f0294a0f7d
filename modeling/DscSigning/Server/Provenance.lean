/-
Where the data of a reachable site comes from: a cached session from the one
`initiate` that stored it, a file from the one `finalize` that saved it, and the
evidence of a Signed request from the statement that wrote it.
-/

import DscSigning.Server.RequestHistory

namespace DscSigning

open Interaction Engine

/-! ### The evidence on a row -/

/-- The columns of the evidence that every later verification starts from. -/
structure Carries (row : SigningRequest) (evidence : SignedEvidence) : Prop where
  signer : row.actualSignerUser = some evidence.actualSignerUser
  signature : row.signatureBytes = some evidence.signatureBytes
  fingerprint :
    row.certificateFingerprintPresented = some evidence.certificateFingerprintPresented
  file : row.signedFile = some evidence.signedFile

/-- A `doc.save` that does not set the status to Signed. -/
def Write.signsNothing : Write → Prop
  | .saveRequest _ edit _ => edit.status ≠ .signed
  | _ => True

/-- What a row shows of the evidence that signed it: the statement writes it, and the hash columns
are no part of it. -/
structure Written (shows : SigningRequest → SignedEvidence → Prop) : Prop where
  signed : ∀ row evidence at_, shows ((RequestUpdate.signed evidence).apply at_ row) evidence
  hashed : ∀ row evidence algorithm hash at_, shows row evidence →
    shows ((RequestUpdate.hashed algorithm hash).apply at_ row) evidence

theorem carries_written : Written Carries where
  signed _ _ _ := ⟨rfl, rfl, rfl, rfl⟩
  hashed _ _ _ _ _ carries :=
    ⟨carries.signer, carries.signature, carries.fingerprint, carries.file⟩

section Written

variable {shows : SigningRequest → SignedEvidence → Prop} (written : Written shows)

include written

/-- A write leaves a row Signed only if it signs it, or leaves the evidence of
a Signed row. -/
theorem onRequest_signed {name : String} {row : SigningRequest} {write : Write}
    (plain : write.signsNothing) (signed : (write.onRequest name row).status = .signed) :
    (∃ evidence at_, write = .setRequest name (.signed evidence) at_ ∧
      shows (write.onRequest name row) evidence) ∨
    (row.status = .signed ∧ write.statusOn name = none ∧
      ∀ evidence, shows row evidence → shows (write.onRequest name row) evidence) := by
  cases write with
  | setRequest other update at_ =>
      by_cases same : other = name
      · subst same
        simp only [Write.onRequest, if_true] at signed ⊢
        cases update with
        | started _ _ _ => cases signed
        | hashed _ _ => exact Or.inr ⟨signed, if_pos rfl, fun _ shown => written.hashed _ _ _ _ _ shown⟩
        | failed _ => cases signed
        | signed evidence => exact Or.inl ⟨evidence, at_, rfl, written.signed _ _ _⟩
        | recovered => cases signed
      · simp only [Write.onRequest, if_neg same] at signed ⊢
        exact Or.inr ⟨signed, if_neg same, fun _ shown => shown⟩
  | saveRequest other edit at_ =>
      by_cases same : other = name
      · simp only [Write.onRequest, if_pos same] at signed
        exact absurd signed plain
      · simp only [Write.onRequest, if_neg same] at signed ⊢
        exact Or.inr ⟨signed, if_neg same, fun _ shown => shown⟩
  | _ => exact Or.inr ⟨signed, rfl, fun _ shown => shown⟩

theorem fold_signed {name : String} {writes : List Write} {row : SigningRequest}
    (plain : ∀ write ∈ writes, write.signsNothing)
    (signed : (writes.foldl (Write.onRequest name) row).status = .signed) :
    (∃ evidence at_, Write.setRequest name (.signed evidence) at_ ∈ writes ∧
      shows (writes.foldl (Write.onRequest name) row) evidence) ∨
    (row.status = .signed ∧ (∀ write ∈ writes, write.statusOn name = none) ∧
      ∀ evidence, shows row evidence →
        shows (writes.foldl (Write.onRequest name) row) evidence) := by
  induction writes generalizing row with
  | nil => exact Or.inr ⟨signed, by simp, fun _ shown => shown⟩
  | cons write rest ih =>
      rw [List.foldl_cons] at signed ⊢
      rcases ih (fun other member => plain other (by simp [member])) signed with
        ⟨evidence, at_, member, shown⟩ | ⟨still, silent, kept⟩
      · exact Or.inl ⟨evidence, at_, List.mem_cons_of_mem _ member, shown⟩
      · rcases onRequest_signed written (plain write (by simp)) still with
          ⟨evidence, at_, same, shown⟩ | ⟨before, quiet, unchanged⟩
        · exact Or.inl ⟨evidence, at_, by rw [same]; simp, kept evidence shown⟩
        · refine Or.inr ⟨before, fun other member => ?_, fun evidence shown =>
            kept evidence (unchanged evidence shown)⟩
          rcases List.mem_cons.mp member with same | later
          · rw [same]
            exact quiet
          · exact silent other later

end Written

theorem pending_signsNothing {lib : Libraries} {origin : Origin} {trace : ServerTrace}
    (honours : Honours (Permitted lib origin) trace) :
    ∀ write ∈ site.pending trace, write.signsNothing := by
  intro write member
  cases write with
  | saveRequest name edit at_ =>
      obtain ⟨event, earlier, newer, split, effect, _⟩ := mem_pending member
      obtain ⟨loaded, same⟩ := saveRequest_effect effect
      rw [same] at split
      exact (honoured_at honours split).2
  | _ => trivial

/-! ### Files -/

/-- The columns of a file that no write changes. -/
def FileRow.unflagged (row : FileRow) : FileRow := { row with isDscSigned := false }

theorem unflagged_content {one other : FileRow} (same : one.unflagged = other.unflagged) :
    one.content = other.content := by
  have contents := congrArg FileRow.content same
  exact contents

theorem perform_files {database : Database} {write : Write} {name : String} {row : FileRow}
    (found : (write.perform database).files.lookup name = some row) :
    (∃ old, database.files.lookup name = some old ∧ old.unflagged = row.unflagged) ∨
      write = .insertFile name row := by
  cases write with
  | insertFile other file =>
      by_cases same : name = other
      · subst same
        simp only [Write.perform, AList.lookup_insert, Option.some.injEq] at found
        exact Or.inr (by rw [found])
      · simp only [Write.perform, AList.lookup_insert_ne same] at found
        exact Or.inl ⟨row, found, rfl⟩
  | flagFile other =>
      simp only [Write.perform, Table.lookup_modify] at found
      split at found
      · simp only [Option.map_eq_some_iff] at found
        obtain ⟨old, there, flagged⟩ := found
        rename_i same
        exact Or.inl ⟨old, by rw [same]; exact there, by rw [← flagged]; rfl⟩
      · exact Or.inl ⟨row, found, rfl⟩
  | _ => exact Or.inl ⟨row, found, rfl⟩

/-- A file of the view was committed so, or is among the writes. -/
theorem view_files {database : Database} {writes : List Write} {name : String} {row : FileRow}
    (found : (site.view database writes).files.lookup name = some row) :
    (∃ old, database.files.lookup name = some old ∧ old.unflagged = row.unflagged) ∨
      ∃ file, Write.insertFile name file ∈ writes ∧ file.unflagged = row.unflagged := by
  induction writes generalizing database with
  | nil => exact Or.inl ⟨row, found, rfl⟩
  | cons write rest ih =>
      rcases ih found with ⟨old, there, same⟩ | ⟨file, member, same⟩
      · rcases perform_files there with ⟨older, before, equal⟩ | inserted
        · exact Or.inl ⟨older, before, equal.trans same⟩
        · exact Or.inr ⟨old, by rw [inserted]; simp, same⟩
      · exact Or.inr ⟨file, List.mem_cons_of_mem _ member, same⟩

theorem perform_keepsFile (database : Database) (write : Write) {name : String}
    (present : (database.files.lookup name).isSome = true) :
    ((write.perform database).files.lookup name).isSome = true := by
  cases write with
  | insertFile other file =>
      by_cases same : name = other
      · subst same
        simp only [Write.perform, AList.lookup_insert, Option.isSome_some]
      · simp only [Write.perform, AList.lookup_insert_ne same]
        exact present
  | flagFile other =>
      simp only [Write.perform, Table.lookup_modify]
      split
      · rename_i same
        rw [same] at present
        simpa only [Option.isSome_map] using present
      · exact present
  | _ => exact present

theorem view_keepsFile (database : Database) (writes : List Write) {name : String}
    (present : (database.files.lookup name).isSome = true) :
    ((site.view database writes).files.lookup name).isSome = true := by
  induction writes generalizing database with
  | nil => exact present
  | cons write rest ih => exact ih _ (perform_keepsFile database write present)

theorem view_hasFile (database : Database) {writes : List Write} {name : String} {file : FileRow}
    (member : Write.insertFile name file ∈ writes) :
    ((site.view database writes).files.lookup name).isSome = true := by
  induction writes generalizing database with
  | nil => cases member
  | cons write rest ih =>
      rcases List.mem_cons.mp member with same | later
      · subst same
        refine view_keepsFile _ rest ?_
        simp only [Write.perform, AList.lookup_insert, Option.isSome_some]
      · exact ih _ later

theorem move_files {move : Move} {database after : Database} {shared later : Shared}
    (moved : move.apply database shared = some (after, later)) : after.files = database.files := by
  cases move with
  | createRequest created request =>
      simp only [Move.apply] at moved
      split at moved
      · cases moved
      · cases moved
        rfl
  | _ =>
      cases moved
      rfl

/-! ### Names and sessions -/

/-- The name that the surroundings made up for this event. -/
def drawn : ServerEvent → Option String
  | ⟨.uuid4, .ok sessionId, _⟩ => some sessionId
  | ⟨.insertFile _, .ok stored, _⟩ => some stored.name
  | _ => none

/-- The call at this index has stored the session. -/
def StoredBy (world : ServerWorld) (index : Nat) (sessionId : String) (session : SigningSession) :
    Prop :=
  ∃ stamp, world.Asked index ⟨.storeSession sessionId session, .ok (), stamp⟩

/-- The call at this index has saved the file. -/
def SavedBy (world : ServerWorld) (index : Nat) (file : FileRow) (stored : StoredFile) : Prop :=
  ∃ stamp, world.Asked index ⟨.insertFile file, .ok stored, stamp⟩

/-- The Signed row shows the evidence of a `set_value` that some call has made,
and the file that the evidence names exists. -/
def Backed (world : ServerWorld) (name : String) (row : SigningRequest) : Prop :=
  ∃ index evidence at_, world.Asked index ⟨.setRequest name (.signed evidence), .ok (), at_⟩ ∧
    Carries row evidence ∧ (world.data.files.lookup evidence.signedFile).isSome = true

structure Traced (lib : Libraries) (world : ServerWorld) : Prop where
  disciplined : world.Disciplined (Permitted lib) (Ends lib)
  issued : ∀ index event name, world.Asked index event → drawn event = some name →
    name ∈ world.shared.issued
  distinct : ∀ left right one other name, world.Asked left one → world.Asked right other →
    drawn one = some name → drawn other = some name → left = right ∧ one = other
  named : ∀ index file stored, SavedBy world index file stored → stored.name ≠ ""
  cached : ∀ sessionId stored, world.shared.sessions.lookup sessionId = some stored →
    ∃ index, StoredBy world index sessionId stored.1
  loaded : ∀ index sessionId session stamp,
    world.Asked index ⟨.loadSession sessionId, .ok (some session), stamp⟩ →
    ∃ creator, StoredBy world creator sessionId session
  filed : ∀ name row, world.data.files.lookup name = some row →
    ∃ index file stored, SavedBy world index file stored ∧ stored.name = name ∧
      file.content = row.content
  signed : ∀ name row, world.data.requests.lookup name = some row → row.status = .signed →
    Backed world name row

variable {lib : Libraries}

theorem StoredBy.mono {world next : ServerWorld} {label : ServerLabel}
    (stepped : step (body lib) world label = some next) {index : Nat} {sessionId : String}
    {session : SigningSession} (stored : StoredBy world index sessionId session) :
    StoredBy next index sessionId session := by
  obtain ⟨stamp, asked⟩ := stored
  exact ⟨stamp, asked_mono (body lib) stepped asked⟩

theorem SavedBy.mono {world next : ServerWorld} {label : ServerLabel}
    (stepped : step (body lib) world label = some next) {index : Nat} {file : FileRow}
    {stored : StoredFile} (saved : SavedBy world index file stored) :
    SavedBy next index file stored := by
  obtain ⟨stamp, asked⟩ := saved
  exact ⟨stamp, asked_mono (body lib) stepped asked⟩

/-- How the reply to a question changes the cache and the names handed out. -/
inductive Changed (shared : Shared) : ServerEvent → Shared → Prop
  | same (event : ServerEvent) (plain : drawn event = none) : Changed shared event shared
  | stored (sessionId : String) (session : SigningSession) (stamp : Instant) :
      Changed shared ⟨.storeSession sessionId session, .ok (), stamp⟩
        { shared with
          sessions := shared.sessions.insert sessionId (session, shared.now + sessionTtl) }
  | dropped (event : ServerEvent) (sessionId : String) (plain : drawn event = none) :
      Changed shared event { shared with sessions := shared.sessions.erase sessionId }
  | drew (event : ServerEvent) (name : String) (named : drawn event = some name)
      (unissued : name ∉ shared.issued) :
      Changed shared event { shared with issued := name :: shared.issued }

theorem reply_changed {oracle : Oracle} {view : Database} {shared later : Shared}
    {event : ServerEvent}
    (replied : reply oracle view shared event.query = some (event.reply, later)) :
    Changed shared event later := by
  obtain ⟨operation, result, stamp⟩ := event
  simp only [reply] at replied
  split at replied
  · cases replied
    refine .same _ ?_
    cases operation <;> rfl
  · cases operation with
    | uuid4 =>
        simp only [answer] at replied
        split at replied
        · split at replied
          · cases replied
          · rename_i unissued
            cases replied
            exact .drew _ _ rfl (by simpa using unissued)
        · cases replied
    | insertFile file =>
        simp only [answer] at replied
        split at replied
        · split at replied
          · cases replied
          · rename_i unissued
            cases replied
            refine .drew _ _ rfl ?_
            simp only [Bool.or_eq_true, not_or] at unissued
            simpa using unissued.1
        · cases replied
    | storeSession sessionId session =>
        cases replied
        exact .stored sessionId session stamp
    | dropSession sessionId =>
        cases replied
        exact .dropped _ sessionId rfl
    | _ =>
        simp only [answer, Option.some.injEq, Prod.mk.injEq, Option.map_eq_some_iff] at replied
        first
          | (obtain ⟨rfl, rfl⟩ := replied; exact .same _ rfl)
          | (obtain ⟨_, _, rfl, rfl⟩ := replied; exact .same _ rfl)
/-- A move leaves the names and adds no session. -/
theorem move_shared {move : Move} {database after : Database} {shared later : Shared}
    (moved : move.apply database shared = some (after, later)) :
    later.issued = shared.issued ∧ ∀ sessionId stored,
      later.sessions.lookup sessionId = some stored →
        shared.sessions.lookup sessionId = some stored := by
  cases move with
  | createRequest created request =>
      simp only [Move.apply] at moved
      split at moved
      · cases moved
      · cases moved
        exact ⟨rfl, fun _ _ found => found⟩
  | evict evicted =>
      cases moved
      refine ⟨rfl, fun sessionId stored found => ?_⟩
      by_cases same : sessionId = evicted
      · rw [same, AList.lookup_erase] at found
        cases found
      · rwa [AList.lookup_erase_ne same] at found
  | _ =>
      cases moved
      exact ⟨rfl, fun _ _ found => found⟩

section Step

variable {world next : ServerWorld} {label : ServerLabel}

theorem issued_mono (stepped : step (body lib) world label = some next) :
    ∀ name ∈ world.shared.issued, name ∈ next.shared.issued := by
  intro name member
  rcases step_shared (body lib) stepped with same | ⟨index, call, event, found⟩ | ⟨move, data, _, moved⟩
  · rw [same]
    exact member
  · obtain ⟨oracle, replied⟩ := asking_shared (body lib) stepped found
    generalize next.shared = later at replied ⊢
    cases reply_changed replied with
    | same _ _ => exact member
    | stored _ _ _ => exact member
    | dropped _ _ _ => exact member
    | drew _ _ _ _ => exact List.mem_cons_of_mem _ member
  · rw [(move_shared moved).1]
    exact member

theorem drawn_asking (stepped : step (body lib) world label = some next) {index : Nat}
    {call : ServerCall} {event : ServerEvent} {name : String}
    (found : asking world label = some (index, call, event)) (draws : drawn event = some name) :
    name ∉ world.shared.issued ∧ name ∈ next.shared.issued := by
  obtain ⟨oracle, replied⟩ := asking_shared (body lib) stepped found
  generalize next.shared = later at replied ⊢
  cases reply_changed replied with
  | same _ plain => cases plain.symm.trans draws
  | stored _ _ _ => cases draws
  | dropped _ _ plain => cases plain.symm.trans draws
  | drew _ other named unissued =>
      cases named.symm.trans draws
      exact ⟨unissued, List.mem_cons_self⟩

theorem issued_step (traced : Traced lib world) (stepped : step (body lib) world label = some next) :
    ∀ index event name, next.Asked index event → drawn event = some name →
      name ∈ next.shared.issued := by
  intro index event name asked draws
  rcases asked_step (body lib) stepped asked with old | ⟨call, found⟩
  · exact issued_mono stepped name (traced.issued index event name old draws)
  · exact (drawn_asking stepped found draws).2

theorem distinct_step (traced : Traced lib world)
    (stepped : step (body lib) world label = some next) :
    ∀ left right one other name, next.Asked left one → next.Asked right other →
      drawn one = some name → drawn other = some name → left = right ∧ one = other := by
  intro left right one other name leftAsked rightAsked oneDraws otherDraws
  rcases asked_step (body lib) stepped leftAsked with leftOld | ⟨leftCall, leftNew⟩
  · rcases asked_step (body lib) stepped rightAsked with rightOld | ⟨rightCall, rightNew⟩
    · exact traced.distinct left right one other name leftOld rightOld oneDraws otherDraws
    · exact absurd (traced.issued left one name leftOld oneDraws)
        (drawn_asking stepped rightNew otherDraws).1
  · rcases asked_step (body lib) stepped rightAsked with rightOld | ⟨rightCall, rightNew⟩
    · exact absurd (traced.issued right other name rightOld otherDraws)
        (drawn_asking stepped leftNew oneDraws).1
    · rw [leftNew] at rightNew
      cases rightNew
      exact ⟨rfl, rfl⟩

theorem named_step (traced : Traced lib world) (stepped : step (body lib) world label = some next) :
    ∀ index file stored, SavedBy next index file stored → stored.name ≠ "" := by
  rintro index file stored ⟨stamp, asked⟩
  rcases asked_step (body lib) stepped asked with old | ⟨call, found⟩
  · exact traced.named index file stored ⟨stamp, old⟩
  · obtain ⟨oracle, replied⟩ := asking_shared (body lib) stepped found
    replace replied := answer_of_reply replied
    simp only [answer] at replied
    split at replied
    · split at replied
      · cases replied
      · rename_i unissued
        simp only [Option.some.injEq, Prod.mk.injEq, Except.ok.injEq] at replied
        intro empty
        simp only [replied.1, empty, beq_self_eq_true, Bool.or_true, not_true_eq_false]
          at unissued
    · cases replied

/-- A session in the cache was there before, or has just been stored. -/
theorem sessions_before (stepped : step (body lib) world label = some next) {sessionId : String}
    {stored : SigningSession × Instant} (found : next.shared.sessions.lookup sessionId = some stored) :
    world.shared.sessions.lookup sessionId = some stored ∨
    ∃ index call stamp, asking world label =
      some (index, call, ⟨.storeSession sessionId stored.1, .ok (), stamp⟩) := by
  rcases step_shared (body lib) stepped with same | ⟨index, call, event, asked⟩ | ⟨move, data, _, moved⟩
  · rw [same] at found
    exact Or.inl found
  · obtain ⟨oracle, replied⟩ := asking_shared (body lib) stepped asked
    generalize next.shared = shared at replied found
    cases reply_changed replied with
    | same _ _ => exact Or.inl found
    | stored other session stamp =>
        by_cases same : sessionId = other
        · subst same
          simp only [AList.lookup_insert, Option.some.injEq] at found
          rw [← found]
          exact Or.inr ⟨index, call, stamp, asked⟩
        · rw [AList.lookup_insert_ne same] at found
          exact Or.inl found
    | dropped _ other _ =>
        by_cases same : sessionId = other
        · rw [same, AList.lookup_erase] at found
          cases found
        · rw [AList.lookup_erase_ne same] at found
          exact Or.inl found
    | drew _ _ _ _ => exact Or.inl found
  · exact Or.inl ((move_shared moved).2 sessionId stored found)

theorem cached_step (traced : Traced lib world) (stepped : step (body lib) world label = some next) :
    ∀ sessionId stored, next.shared.sessions.lookup sessionId = some stored →
      ∃ index, StoredBy next index sessionId stored.1 := by
  intro sessionId stored found
  rcases sessions_before stepped found with before | ⟨index, call, stamp, asked⟩
  · obtain ⟨index, storedBy⟩ := traced.cached sessionId stored before
    exact ⟨index, storedBy.mono stepped⟩
  · obtain ⟨later, located, _, trace⟩ := asking_asked (body lib) stepped asked
    exact ⟨index, stamp, later, located, by rw [trace]; exact List.mem_cons_self⟩

/-- A session that is loaded was stored by some call. -/
theorem asking_loaded (traced : Traced lib world) (stepped : step (body lib) world label = some next)
    {index : Nat} {call : ServerCall} {sessionId : String} {session : SigningSession}
    {stamp : Instant}
    (found : asking world label =
      some (index, call, ⟨.loadSession sessionId, .ok (some session), stamp⟩)) :
    ∃ creator, StoredBy world creator sessionId session := by
  obtain ⟨oracle, replied⟩ := asking_shared (body lib) stepped found
  replace replied := answer_of_reply replied
  simp only [answer, Option.some.injEq, Prod.mk.injEq, Except.ok.injEq,
    Option.bind_eq_some_iff] at replied
  obtain ⟨⟨stored, there, live⟩, _⟩ := replied
  split at live
  · cases live
    exact traced.cached sessionId stored there
  · cases live

theorem loaded_step (traced : Traced lib world) (stepped : step (body lib) world label = some next) :
    ∀ index sessionId session stamp,
      next.Asked index ⟨.loadSession sessionId, .ok (some session), stamp⟩ →
      ∃ creator, StoredBy next creator sessionId session := by
  intro index sessionId session stamp asked
  rcases asked_step (body lib) stepped asked with old | ⟨call, found⟩
  · obtain ⟨creator, stored⟩ := traced.loaded index sessionId session stamp old
    exact ⟨creator, stored.mono stepped⟩
  · obtain ⟨creator, stored⟩ := asking_loaded traced stepped found
    exact ⟨creator, stored.mono stepped⟩

/-- A file was there before, or the call that has saved it commits. -/
theorem file_before (stepped : step (body lib) world label = some next) {name : String}
    {row : FileRow} (found : next.data.files.lookup name = some row) :
    (∃ before, world.data.files.lookup name = some before ∧ before.unflagged = row.unflagged) ∨
    ∃ index call file stored, committing world label = some (index, call) ∧
      Answered call.trace (.insertFile file) stored ∧ stored.name = name ∧
      { file with fileName := stored.fileName, fileUrl := stored.fileUrl }.unflagged =
        row.unflagged := by
  rcases step_data (body lib) stepped with ⟨index, call, committed, after, _⟩ | ⟨_, _, rest⟩
  · rw [after] at found
    rcases view_files found with ⟨before, there, same⟩ | ⟨written, member, columns⟩
    · exact Or.inl ⟨before, there, same⟩
    · obtain ⟨event, earlier, newer, split, effect, _⟩ := mem_pending member
      obtain ⟨file, stored, stamp, same, named, kept⟩ := insertFile_effect effect
      refine Or.inr ⟨index, call, file, stored, committed, ⟨stamp, ?_⟩, named.symm, ?_⟩
      · rw [split, ← same]
        simp
      · rw [← columns, kept]
  · rcases rest with same | ⟨move, shared, _, moved⟩
    · rw [same] at found
      exact Or.inl ⟨row, found, rfl⟩
    · rw [move_files moved] at found
      exact Or.inl ⟨row, found, rfl⟩

theorem filed_step (traced : Traced lib world) (stepped : step (body lib) world label = some next) :
    ∀ name row, next.data.files.lookup name = some row →
      ∃ index file stored, SavedBy next index file stored ∧ stored.name = name ∧
        file.content = row.content := by
  intro name row found
  rcases file_before stepped found with
    ⟨before, there, same⟩ | ⟨index, call, file, stored, committed, ⟨stamp, member⟩, named, columns⟩
  · obtain ⟨index, file, stored, saved, named, content⟩ := traced.filed name before there
    exact ⟨index, file, stored, saved.mono stepped, named,
      content.trans (unflagged_content same)⟩
  · have content := unflagged_content columns
    exact ⟨index, file, stored,
      SavedBy.mono stepped ⟨stamp, call, (committing_located committed).1, member⟩, named, content⟩

theorem Backed.mono {name : String} {row : SigningRequest}
    (stepped : step (body lib) world label = some next) (backed : Backed world name row) :
    Backed next name row := by
  obtain ⟨index, evidence, at_, asked, carries, present⟩ := backed
  refine ⟨index, evidence, at_, asked_mono (body lib) stepped asked, carries, ?_⟩
  rcases step_data (body lib) stepped with ⟨_, _, _, after, _⟩ | ⟨_, _, same | ⟨move, _, _, moved⟩⟩
  · rw [after]
    exact view_keepsFile _ _ present
  · rw [same]
    exact present
  · rw [move_files moved]
    exact present

/-- The file of evidence that is still uncommitted is uncommitted too. -/
theorem evidence_file {origin : Origin} {trace : ServerTrace}
    (honours : Honours (Permitted lib origin) trace) {name : String} {evidence : SignedEvidence}
    {at_ : Instant} (member : Write.setRequest name (.signed evidence) at_ ∈ site.pending trace) :
    ∃ file, Write.insertFile evidence.signedFile file ∈ site.pending trace := by
  obtain ⟨newer, earlier, split, quiet⟩ := setRequest_pending member
  obtain ⟨_, _, _, _, file, stored, _, _, _, _, ⟨stamp, saved⟩, uncommitted, _, _, _, same, _⟩ :=
    (honoured_at honours split).2
  refine ⟨{ file with fileName := stored.fileName, fileUrl := stored.fileUrl }, ?_⟩
  rw [split]
  refine pending_before quiet rfl uncommitted saved ?_
  rw [same]
  exact List.mem_singleton.mpr rfl

/-- A Signed request shows what it showed when it was Signed before, or is signed by a statement
that this step commits. -/
theorem signed_cases {shows : SigningRequest → SignedEvidence → Prop} (written : Written shows)
    (disciplined : world.Disciplined (Permitted lib) (Ends lib))
    (stepped : step (body lib) world label = some next) {name : String} {row : SigningRequest}
    (found : next.data.requests.lookup name = some row) (signed : row.status = .signed) :
    (∃ old, world.data.requests.lookup name = some old ∧ old.status = .signed ∧
      ∀ evidence, shows old evidence → shows row evidence) ∨
    ∃ index call evidence at_, committing world label = some (index, call) ∧
      Write.setRequest name (.signed evidence) at_ ∈ site.pending call.trace ∧
      world.Asked index ⟨.setRequest name (.signed evidence), .ok (), at_⟩ ∧
      shows row evidence := by
  rcases row_cases stepped found with
    ⟨there, _⟩ | ⟨old, index, call, there, committed, rfl, _⟩ | ⟨request, created, _⟩
  · exact Or.inl ⟨row, there, signed, fun _ shown => shown⟩
  · obtain ⟨located, _, _⟩ := committing_located committed
    have honours := disciplined_running disciplined located
    rcases fold_signed written (pending_signsNothing honours) signed with
      ⟨evidence, at_, member, shown⟩ | ⟨already, _, kept⟩
    · obtain ⟨newer, earlier, split, _⟩ := setRequest_pending member
      exact Or.inr ⟨index, call, evidence, at_, committed, member,
        ⟨call, located, by rw [split]; simp⟩, shown⟩
    · exact Or.inl ⟨old, there, already, kept⟩
  · rw [created] at signed
    cases signed

theorem signed_step (traced : Traced lib world) (stepped : step (body lib) world label = some next) :
    ∀ name row, next.data.requests.lookup name = some row → row.status = .signed →
      Backed next name row := by
  intro name row found signed
  rcases signed_cases carries_written traced.disciplined stepped found signed with
    ⟨old, there, already, kept⟩ | ⟨index, call, evidence, at_, committed, member, asked, carries⟩
  · obtain ⟨other, evidence, at_, asked, carries, present⟩ :=
      (traced.signed name old there already).mono stepped
    exact ⟨other, evidence, at_, asked, kept evidence carries, present⟩
  · obtain ⟨located, _, _⟩ := committing_located committed
    obtain ⟨file, saved⟩ := evidence_file (disciplined_running traced.disciplined located) member
    refine ⟨index, evidence, at_, asked_mono (body lib) stepped asked, carries, ?_⟩
    rw [committed_data (body lib) stepped committed]
    exact view_hasFile _ saved

theorem traced_step (traced : Traced lib world) (stepped : step (body lib) world label = some next) :
    Traced lib next :=
  { disciplined := disciplined_step (body lib) body_follows traced.disciplined stepped
    issued := issued_step traced stepped
    distinct := distinct_step traced stepped
    named := named_step traced stepped
    cached := cached_step traced stepped
    loaded := loaded_step traced stepped
    filed := filed_step traced stepped
    signed := signed_step traced stepped }

end Step

theorem not_asked_installed {masters : Masters} {now : Instant} {zone : Int} {index : Nat}
    {event : ServerEvent} : ¬ (installed masters now zone).Asked index event := by
  rintro ⟨call, located, _⟩
  cases located

theorem traced_installed (masters : Masters) (now : Instant) (zone : Int) :
    Traced lib (installed masters now zone) :=
  { disciplined := by intro index call located; cases located
    issued := fun _ _ _ asked => absurd asked not_asked_installed
    distinct := fun _ _ _ _ _ asked => absurd asked not_asked_installed
    named := fun _ _ _ ⟨_, asked⟩ => absurd asked not_asked_installed
    cached := by intro sessionId stored found; cases found
    loaded := fun _ _ _ _ asked => absurd asked not_asked_installed
    filed := by intro name row found; cases found
    signed := by intro name row found; cases found }

/-- An invariant that rests on the provenance of the data holds along a run. -/
theorem run_traced {condition : ServerWorld → ServerLabel → Prop} (invariant : ServerWorld → Prop)
    {masters : Masters} {now : Instant} {zone : Int}
    (start : invariant (installed masters now zone))
    (preserved : ∀ world label next, Traced lib world → invariant world → condition world label →
      step (body lib) world label = some next → invariant next)
    {labels : List ServerLabel} {world : ServerWorld}
    (along : Along (body lib) condition (installed masters now zone) labels)
    (reached : run (body lib) (installed masters now zone) labels = some world) :
    Traced lib world ∧ invariant world := by
  have both : ∀ world label next, Traced lib world ∧ invariant world → condition world label →
      step (body lib) world label = some next → Traced lib next ∧ invariant next := by
    intro world label next holds met stepped
    exact ⟨traced_step holds.1 stepped, preserved world label next holds.1 holds.2 met stepped⟩
  exact run_invariant (body lib) both ⟨traced_installed masters now zone, start⟩ along reached

/-! ### The signing behind a Signed request -/

theorem Traced.honours {world : ServerWorld} (traced : Traced lib world) {index : Nat}
    {event : ServerEvent} (asked : world.Asked index event) :
    ∃ call earlier, world.calls[index]? = some call ∧ event :: earlier <:+ call.trace ∧
      Permitted lib call.origin earlier event.query := by
  obtain ⟨call, located, member⟩ := asked
  obtain ⟨earlier, suffix, permitted⟩ :=
    (disciplined_running traced.disciplined located).of_mem member
  exact ⟨call, earlier, located, suffix, permitted⟩

/-- A call stores one session: nothing notable stands before it. -/
theorem Traced.stores_once {world : ServerWorld} (traced : Traced lib world) {index : Nat}
    {oneId otherId : String} {one other : SigningSession}
    (first : StoredBy world index oneId one) (second : StoredBy world index otherId other) :
    oneId = otherId ∧ one = other := by
  obtain ⟨oneStamp, oneAsked⟩ := first
  obtain ⟨otherStamp, otherAsked⟩ := second
  obtain ⟨oneCall, oneEarlier, oneAt, oneSuffix, oneAllowed⟩ := traced.honours oneAsked
  obtain ⟨otherCall, otherEarlier, otherAt, otherSuffix, otherAllowed⟩ := traced.honours otherAsked
  obtain ⟨_, _, _, _, _, _, oneQuiet, _⟩ := oneAllowed
  obtain ⟨_, _, _, _, _, _, otherQuiet, _⟩ := otherAllowed
  rw [oneAt] at otherAt
  cases otherAt
  rcases List.suffix_or_suffix_of_suffix oneSuffix otherSuffix with within | within
  · rcases List.suffix_cons_iff.mp within with same | inside
    · cases same
      exact ⟨rfl, rfl⟩
    · cases otherQuiet _ (inside.subset List.mem_cons_self)
  · rcases List.suffix_cons_iff.mp within with same | inside
    · cases same
      exact ⟨rfl, rfl⟩
    · cases oneQuiet _ (inside.subset List.mem_cons_self)

/-- A session id belongs to one session of one call. -/
theorem Traced.creator_unique {world : ServerWorld} (traced : Traced lib world)
    {left right : Nat} {sessionId : String} {one other : SigningSession}
    (first : StoredBy world left sessionId one) (second : StoredBy world right sessionId other) :
    left = right ∧ one = other := by
  have drawnBy {index : Nat} {session : SigningSession}
      (stored : StoredBy world index sessionId session) :
      ∃ stamp, world.Asked index ⟨.uuid4, .ok sessionId, stamp⟩ := by
    obtain ⟨_, asked⟩ := stored
    obtain ⟨call, earlier, located, suffix, allowed⟩ := traced.honours asked
    obtain ⟨_, _, _, _, _, _, _, ⟨stamp, drawn⟩, _⟩ := allowed
    exact ⟨stamp, call, located, suffix.subset (List.mem_cons_of_mem _ drawn)⟩
  obtain ⟨_, oneDrawn⟩ := drawnBy first
  obtain ⟨_, otherDrawn⟩ := drawnBy second
  obtain ⟨same, _⟩ := traced.distinct left right _ _ sessionId oneDrawn otherDrawn rfl rfl
  subst same
  exact ⟨rfl, (traced.stores_once first second).2⟩

/-- Everything that stands behind a Signed request: the `finalize`, the session
it was given, the call that had stored it, and the file. -/
structure Signing (lib : Libraries) (world : ServerWorld) (name : String) (row : SigningRequest)
    where
  index : Nat
  call : ServerCall
  earlier : ServerTrace
  evidence : SignedEvidence
  time : Instant
  arguments : FinalizeArguments
  session : SigningSession
  chain : Json
  draft : FileRow
  stored : StoredFile
  file : FileRow
  creator : Nat
  located : world.calls[index]? = some call
  suffix : ⟨.setRequest name (.signed evidence), .ok (), time⟩ :: earlier <:+ call.trace
  endpoint : call.origin.endpoint = .finalize arguments
  loaded : Answered earlier (.loadSession arguments.sessionId) (some session)
  created : StoredBy world creator arguments.sessionId session
  request : session.signingRequestName = name
  saved : Answered earlier (.insertFile draft) stored
  found : world.data.files.lookup stored.name = some file
  content : draft.content = file.content
  parsed : arguments.certChainDerB64.parse lib = .ok chain
  assembled : assemble lib session arguments.signatureBytesB64 chain = .ok file.content
  accepted : Accepted lib earlier file.content
  signedFile : row.signedFile = some stored.name
  signer : row.actualSignerUser = some call.origin.ctx.user
  signature : row.signatureBytes = some arguments.signatureBytesB64
  fingerprint : row.certificateFingerprintPresented = some (lib.sha256Hex session.certDer)

theorem Traced.signing {world : ServerWorld} (traced : Traced lib world) {name : String}
    {row : SigningRequest} (found : world.data.requests.lookup name = some row)
    (signed : row.status = .signed) : Nonempty (Signing lib world name row) := by
  obtain ⟨index, evidence, at_, asked, carries, present⟩ := traced.signed name row found signed
  obtain ⟨call, earlier, located, suffix, permitted⟩ := traced.honours asked
  obtain ⟨arguments, first, session, chain, draft, stored, endpoint, firstLoaded, request, loaded,
    saved, _, parsed, assembled, accepted, sameFile, sameUser, sameBytes, sameCert⟩ := permitted.2
  obtain ⟨file, there⟩ := Option.isSome_iff_exists.mp present
  rw [sameFile] at there
  have within : earlier <:+ call.trace := (List.suffix_cons _ _).trans suffix
  have asked_ {event : ServerEvent} (member : event ∈ earlier) : world.Asked index event :=
    ⟨call, located, within.subset member⟩
  obtain ⟨firstTime, firstMember⟩ := firstLoaded
  obtain ⟨time, member⟩ := loaded
  obtain ⟨other, firstCreated⟩ := traced.loaded index _ _ firstTime (asked_ firstMember)
  obtain ⟨creator, created⟩ := traced.loaded index _ _ time (asked_ member)
  obtain ⟨_, sameSession⟩ := traced.creator_unique firstCreated created
  -- The stored file is the one this call saved: its name was drawn once.
  obtain ⟨saver, written, kept, ⟨savedAt, byOther⟩, named, content⟩ :=
    traced.filed stored.name file there
  obtain ⟨saveTime, saveMember⟩ := saved
  obtain ⟨_, sameSave⟩ := traced.distinct saver index _ _ stored.name byOther (asked_ saveMember)
    (by rw [← named]; rfl) rfl
  cases sameSave
  exact ⟨{
    index := index
    call := call
    earlier := earlier
    evidence := evidence
    time := at_
    arguments := arguments
    session := session
    chain := chain
    draft := draft
    stored := stored
    file := file
    creator := creator
    located := located
    suffix := suffix
    endpoint := endpoint
    loaded := ⟨time, member⟩
    created := created
    request := by rw [← sameSession]; exact request
    saved := ⟨_, saveMember⟩
    found := there
    content := content
    parsed := parsed
    assembled := by rw [← content]; exact assembled
    accepted := by rw [← content]; exact accepted
    signedFile := by rw [carries.file, sameFile]
    signer := by rw [carries.signer, sameUser]
    signature := by rw [carries.signature, sameBytes]
    fingerprint := by rw [carries.fingerprint, sameCert] }⟩

/-- The call that stored a session is an `initiate` that passed its checks. -/
theorem Traced.authorised {world : ServerWorld} (traced : Traced lib world) {index : Nat}
    {sessionId : String} {session : SigningSession}
    (stored : StoredBy world index sessionId session) :
    ∃ call earlier, world.calls[index]? = some call ∧ earlier <:+ call.trace ∧
      Authorised call.origin earlier sessionId session := by
  obtain ⟨stamp, asked⟩ := stored
  obtain ⟨call, earlier, located, suffix, permitted⟩ := traced.honours asked
  exact ⟨call, earlier, located, (List.suffix_cons _ _).trans suffix, permitted⟩

/-! ### Selected requests exist -/

/-- The requests that an answer names. -/
def mentioned : ServerEvent → List String
  | ⟨.findPending _ _, .ok (some row), _⟩ => [row.name]
  | ⟨.listRequests _ _, .ok rows, _⟩ => rows.map ListedRequest.name
  | ⟨.loadSession _, .ok (some session), _⟩ => [session.signingRequestName]
  | ⟨.staleRequests _, .ok names, _⟩ => names
  | _ => []

/-- A target was named by an answer. -/
theorem targets_mentioned {trace : ServerTrace} {name : String} (member : name ∈ targets trace) :
    ∃ event ∈ trace, name ∈ mentioned event := by
  induction trace with
  | nil => cases member
  | cons event earlier ih =>
      rcases List.mem_append.mp member with own | older
      · obtain ⟨operation, result, stamp⟩ := event
        cases operation with
        | findPending doctype docname =>
            rcases result with _ | _ | row
            · cases own
            · cases own
            · exact ⟨_, List.mem_cons_self, own⟩
        | loadSession sessionId =>
            rcases result with _ | _ | session
            · cases own
            · cases own
            · exact ⟨_, List.mem_cons_self, own⟩
        | staleRequests cutoff =>
            cases result with
            | error _ => cases own
            | ok names => exact ⟨_, List.mem_cons_self, own⟩
        | now =>
            cases result with
            | error _ => cases own
            | ok now =>
                simp only [selected] at own
                split at own
                · obtain ⟨row, inside, same⟩ := List.mem_map.mp own
                  refine ⟨_, List.mem_cons_of_mem _ List.mem_cons_self, ?_⟩
                  exact List.mem_map.mpr ⟨row, List.mem_of_mem_filter inside, same⟩
                · cases own
        | _ => cases result <;> cases own
      · obtain ⟨other, inside, named⟩ := ih older
        exact ⟨other, List.mem_cons_of_mem _ inside, named⟩

def Exists (database : Database) (name : String) : Prop :=
  (database.requests.lookup name).isSome = true

theorem exists_view {database : Database} {writes : List Write} {name : String} :
    Exists (site.view database writes) name ↔ Exists database name := by
  simp only [Exists, view_lookup, Option.isSome_map]

/-- Every request named in an answer exists. -/
def Known (world : ServerWorld) : Prop :=
  ∀ index event name, world.Asked index event → name ∈ mentioned event → Exists world.data name

theorem exists_step {world next : ServerWorld} {label : ServerLabel}
    (stepped : step (body lib) world label = some next) {name : String}
    (present : Exists world.data name) : Exists next.data name := by
  rcases step_data (body lib) stepped with ⟨_, _, _, after, _⟩ | ⟨_, _, same | ⟨move, _, _, moved⟩⟩
  · rw [after]
    exact exists_view.mpr present
  · rw [same]
    exact present
  · rcases move_lookup moved name with same | ⟨_, _, created⟩
    · unfold Exists
      rw [same]
      exact present
    · unfold Exists
      rw [created]
      rfl

theorem exists_select {database : Database} {wanted : SigningRequest → Bool}
    {entry : String × SigningRequest} (member : entry ∈ database.requests.select wanted) :
    Exists database entry.1 := by
  unfold Exists
  rw [(Table.mem_select.mp member).1]
  rfl

/-- The database answers with requests it has. -/
theorem mentioned_exists {oracle : Oracle} {view : Database} {shared later : Shared}
    {event : ServerEvent}
    (replied : reply oracle view shared event.query = some (event.reply, later)) {name : String}
    (member : name ∈ mentioned event) :
    Exists view name ∨ ∃ sessionId session stamp, session.signingRequestName = name ∧
      event = ⟨.loadSession sessionId, .ok (some session), stamp⟩ := by
  obtain ⟨operation, result, stamp⟩ := event
  simp only [reply] at replied
  split at replied
  · cases replied
    cases operation <;> cases member
  · cases operation with
    | findPending doctype docname =>
        rcases result with _ | _ | row
        · cases member
        · cases member
        · simp only [answer, Option.some.injEq, Prod.mk.injEq, Except.ok.injEq,
            Option.map_eq_some_iff] at replied
          obtain ⟨⟨entry, there, same⟩, _⟩ := replied
          rw [List.mem_singleton.mp member, ← same]
          exact Or.inl (exists_select (List.mem_of_getElem? there))
    | listRequests doctype docname =>
        cases result with
        | error _ => cases member
        | ok rows =>
            simp only [answer, Option.some.injEq, Prod.mk.injEq, Except.ok.injEq] at replied
            obtain ⟨row, inside, named⟩ := List.mem_map.mp member
            rw [← replied.1] at inside
            obtain ⟨entry, ordered, same⟩ := List.mem_map.mp inside
            rw [← named, ← same]
            exact Or.inl (exists_select ((List.mem_insertionSort _).mp ordered))
    | staleRequests cutoff =>
        cases result with
        | error _ => cases member
        | ok names =>
            simp only [answer, Option.some.injEq, Prod.mk.injEq, Except.ok.injEq] at replied
            change name ∈ names at member
            rw [← replied.1] at member
            obtain ⟨entry, inside, same⟩ := List.mem_map.mp member
            rw [← same]
            exact Or.inl (exists_select inside)
    | loadSession sessionId =>
        rcases result with _ | _ | session
        · cases member
        · cases member
        · exact Or.inr ⟨sessionId, session, stamp, (List.mem_singleton.mp member).symm, rfl⟩
    | _ => cases result <;> cases member

theorem known_step {world next : ServerWorld} {label : ServerLabel} (traced : Traced lib world)
    (known : Known world) (stepped : step (body lib) world label = some next) : Known next := by
  intro index event name asked member
  refine exists_step stepped ?_
  rcases asked_step (body lib) stepped asked with old | ⟨call, found⟩
  · exact known index event name old member
  · obtain ⟨oracle, replied⟩ := asking_shared (body lib) stepped found
    rcases mentioned_exists replied member with present | ⟨sessionId, session, stamp, same, loads⟩
    · exact exists_view.mp present
    · rw [loads] at found
      obtain ⟨creator, stored⟩ := asking_loaded traced stepped found
      -- The `initiate` that stored the session had found the request.
      obtain ⟨owner, earlier, located, suffix, authorised⟩ := traced.authorised stored
      obtain ⟨arguments, row, _, ⟨foundAt, found'⟩, _, _, _, _, named, _⟩ := authorised
      refine known creator _ name ⟨owner, located, suffix.subset found'⟩ ?_
      rw [← same, named]
      exact List.mem_singleton_self _

theorem known_installed (masters : Masters) (now : Instant) (zone : Int) :
    Known (installed masters now zone) :=
  fun _ _ _ asked => absurd asked not_asked_installed

theorem known_target {world : ServerWorld} (known : Known world) {index : Nat} {call : ServerCall}
    (located : world.calls[index]? = some call) {name : String}
    (member : name ∈ targets call.trace) : Exists world.data name := by
  obtain ⟨event, inside, named⟩ := targets_mentioned member
  exact known index event name ⟨call, located, inside⟩ named

end DscSigning
