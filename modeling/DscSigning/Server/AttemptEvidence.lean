/-
Whether the columns of a Signed request belong to one attempt.

`initiate` writes the hash and the location of its attempt into the request,
`finalize` writes the rest from the session it is given, and nothing compares
the two.  They belong together in every run in which evidence is committed only
for the attempt that was committed last.
-/

import DscSigning.Server.Provenance

namespace DscSigning

open Interaction Engine

/-! ### The last attempt in the journal -/

def Write.hashes (name : String) : Write → Bool
  | .setRequest other (.hashed _ _) _ => other == name
  | _ => false

def Write.starts (name : String) : Write → Bool
  | .setRequest other (.started _ _ _) _ => other == name
  | _ => false

def Write.locates (name : String) : Write → Bool
  | .setRequest other (.started _ _ (some _)) _ => other == name
  | _ => false

/-- The call behind the newest commit with such a write. -/
def latest (marks : Write → Bool) : List (Nat × List Write) → Option Nat
  | [] => none
  | (index, writes) :: older => if writes.any marks then some index else latest marks older

/-- The call is an `initiate` that was given a position. -/
def Origin.locates (origin : Origin) : Bool :=
  match origin.endpoint with
  | .initiate arguments =>
      (normalise arguments.signerLat).isSome && (normalise arguments.signerLng).isSome
  | _ => false

def storesAs (sessionId : String) : ServerEvent → Bool
  | ⟨.storeSession stored _, .ok _, _⟩ => stored == sessionId
  | _ => false

/-- The call made the last committed attempt on the request, and was given a
position unless no committed attempt was. -/
def lastAttempt (world : ServerWorld) (name : String) (creator : ServerCall × Nat) : Bool :=
  latest (Write.hashes name) world.journal == some creator.2 &&
    latest (Write.starts name) world.journal == some creator.2 &&
    (creator.1.origin.locates ||
      !world.journal.any fun entry => entry.2.any (Write.locates name))

/-- Evidence is committed only for the session of the last attempt. -/
def signsLastAttempt (world : ServerWorld) (label : ServerLabel) : Bool :=
  match committing world label with
  | some (_, call) => (site.pending call.trace).all fun write =>
      match write, call.origin.endpoint with
      | .setRequest name (.signed _) _, .finalize arguments =>
          world.calls.zipIdx.all fun creator =>
            !creator.1.trace.any (storesAs arguments.sessionId) || lastAttempt world name creator
      | _, _ => true
  | none => true

/-! ### The columns of an attempt through a list of writes -/

theorem onRequest_unhashed {name : String} {write : Write} (row : SigningRequest)
    (plain : write.hashes name = false) :
    (write.onRequest name row).hashAlgorithm = row.hashAlgorithm ∧
      (write.onRequest name row).hashToBeSigned = row.hashToBeSigned := by
  rw [← Prod.mk.injEq]
  refine onRequest_keeps (fun row => (row.hashAlgorithm, row.hashToBeSigned)) row ?_ fun _ _ => rfl
  rintro update at_ rfl
  cases update with
  | hashed algorithm hash => simp [Write.hashes] at plain
  | _ => rfl

theorem fold_unhashed {name : String} {writes : List Write} (row : SigningRequest)
    (plain : writes.any (Write.hashes name) = false) :
    (writes.foldl (Write.onRequest name) row).hashAlgorithm = row.hashAlgorithm ∧
      (writes.foldl (Write.onRequest name) row).hashToBeSigned = row.hashToBeSigned := by
  have kept (write : Write) (member : write ∈ writes) (inner : SigningRequest) :=
    onRequest_unhashed inner (Bool.eq_false_iff.mpr (List.any_eq_false.mp plain write member))
  exact ⟨fold_keeps SigningRequest.hashAlgorithm (fun write member inner =>
      (kept write member inner).1) row,
    fold_keeps SigningRequest.hashToBeSigned (fun write member inner =>
      (kept write member inner).2) row⟩

/-- The last hash of the list stays in the row. -/
theorem fold_hashed {name : String} {writes : List Write} (row : SigningRequest)
    (marked : writes.any (Write.hashes name) = true) :
    ∃ algorithm hash at_, Write.setRequest name (.hashed algorithm hash) at_ ∈ writes ∧
      (writes.foldl (Write.onRequest name) row).hashAlgorithm = some algorithm ∧
      (writes.foldl (Write.onRequest name) row).hashToBeSigned = some hash := by
  induction writes generalizing row with
  | nil => cases marked
  | cons write rest ih =>
      rw [List.foldl_cons]
      cases later : rest.any (Write.hashes name) with
      | true =>
          obtain ⟨algorithm, hash, at_, member, columns⟩ := ih (write.onRequest name row) later
          exact ⟨algorithm, hash, at_, List.mem_cons_of_mem _ member, columns⟩
      | false =>
          simp only [List.any_cons, later, Bool.or_false] at marked
          obtain ⟨sameAlgorithm, sameHash⟩ := fold_unhashed (write.onRequest name row) later
          cases write with
          | setRequest other update at_ =>
              cases update with
              | hashed algorithm hash =>
                  simp only [Write.hashes, beq_iff_eq] at marked
                  subst marked
                  refine ⟨algorithm, hash, at_, List.mem_cons_self, ?_, ?_⟩
                  · rw [sameAlgorithm]
                    simp only [Write.onRequest, if_true]
                    rfl
                  · rw [sameHash]
                    simp only [Write.onRequest, if_true]
                    rfl
              | _ => cases marked
          | _ => cases marked

theorem onRequest_unstarted {name : String} {write : Write} (row : SigningRequest)
    (plain : write.starts name = false) :
    (write.onRequest name row).signerLocation = row.signerLocation := by
  refine onRequest_keeps SigningRequest.signerLocation row ?_ fun _ _ => rfl
  rintro update at_ rfl
  cases update with
  | started clientIp clientUserAgent location => simp [Write.starts] at plain
  | _ => rfl

theorem onRequest_unlocated {name : String} {write : Write} (row : SigningRequest)
    (plain : write.locates name = false) :
    (write.onRequest name row).signerLocation = row.signerLocation := by
  refine onRequest_keeps SigningRequest.signerLocation row ?_ fun _ _ => rfl
  rintro update at_ rfl
  cases update with
  | started clientIp clientUserAgent location =>
      cases location with
      | none => rfl
      | some location => simp [Write.locates] at plain
  | _ => rfl

theorem fold_unlocated {name : String} {writes : List Write} (row : SigningRequest)
    (plain : writes.any (Write.locates name) = false) :
    (writes.foldl (Write.onRequest name) row).signerLocation = row.signerLocation :=
  fold_keeps SigningRequest.signerLocation (fun write member inner =>
    onRequest_unlocated inner (Bool.eq_false_iff.mpr (List.any_eq_false.mp plain write member))) row

theorem fold_unstarted {name : String} {writes : List Write} (row : SigningRequest)
    (plain : writes.any (Write.starts name) = false) :
    (writes.foldl (Write.onRequest name) row).signerLocation = row.signerLocation :=
  fold_keeps SigningRequest.signerLocation (fun write member inner =>
    onRequest_unstarted inner (Bool.eq_false_iff.mpr (List.any_eq_false.mp plain write member))) row

/-- The last position of the list, if the last start has one, stays in the row. -/
theorem fold_started {name : String} {writes : List Write} (row : SigningRequest)
    (marked : writes.any (Write.starts name) = true) :
    ∃ clientIp clientUserAgent location at_,
      Write.setRequest name (.started clientIp clientUserAgent location) at_ ∈ writes ∧
      ∀ given, location = some given →
        (writes.foldl (Write.onRequest name) row).signerLocation = some given := by
  induction writes generalizing row with
  | nil => cases marked
  | cons write rest ih =>
      rw [List.foldl_cons]
      cases later : rest.any (Write.starts name) with
      | true =>
          obtain ⟨clientIp, clientUserAgent, location, at_, member, column⟩ :=
            ih (write.onRequest name row) later
          exact ⟨clientIp, clientUserAgent, location, at_, List.mem_cons_of_mem _ member, column⟩
      | false =>
          simp only [List.any_cons, later, Bool.or_false] at marked
          have kept := fold_unstarted (write.onRequest name row) later
          cases write with
          | setRequest other update at_ =>
              cases update with
              | started clientIp clientUserAgent location =>
                  simp only [Write.starts, beq_iff_eq] at marked
                  subst marked
                  refine ⟨clientIp, clientUserAgent, location, at_, List.mem_cons_self, ?_⟩
                  intro given same
                  subst same
                  rw [kept]
                  simp only [Write.onRequest, if_true]
                  rfl
              | _ => cases marked
          | _ => cases marked

/-! ### The journal and the rows -/

/-- The newest attempt in the journal is the one that the rows show. -/
structure Journaled (world : ServerWorld) : Prop where
  known : Known world
  hashed : ∀ name index, latest (Write.hashes name) world.journal = some index →
    ∃ row algorithm hash at_, world.data.requests.lookup name = some row ∧
      world.Asked index ⟨.setRequest name (.hashed algorithm hash), .ok (), at_⟩ ∧
      row.hashAlgorithm = some algorithm ∧ row.hashToBeSigned = some hash
  started : ∀ name index, latest (Write.starts name) world.journal = some index →
    ∃ row clientIp clientUserAgent location at_, world.data.requests.lookup name = some row ∧
      world.Asked index
        ⟨.setRequest name (.started clientIp clientUserAgent location), .ok (), at_⟩ ∧
      ∀ given, location = some given → row.signerLocation = some given
  unlocated : ∀ name row, world.data.requests.lookup name = some row →
    (world.journal.any fun entry => entry.2.any (Write.locates name)) = false →
    row.signerLocation = none

variable {lib : Libraries}

section Step

variable {world next : ServerWorld} {label : ServerLabel}

/-- A request with an uncommitted `set_value` exists. -/
theorem pending_exists (traced : Traced lib world) (known : Known world) {index : Nat}
    {call : ServerCall} (located : world.calls[index]? = some call) {name : String}
    {update : RequestUpdate} {at_ : Instant}
    (member : Write.setRequest name update at_ ∈ site.pending call.trace) :
    ∃ row, world.data.requests.lookup name = some row := by
  have honours := disciplined_running traced.disciplined located
  have target : name ∈ targets call.trace := by
    cases sets : update.status with
    | some status => exact (statusUpdate_target honours member sets).1
    | none =>
        cases update with
        | hashed algorithm hash =>
            -- The hash is written after the start of the same request.
            obtain ⟨newer, earlier, split, _⟩ := setRequest_pending member
            obtain ⟨_, _, _, location, _, _, ⟨startedAt, started⟩, _⟩ := honoured_at honours split
            have inside : (⟨.setRequest name (.started call.origin.ctx.requestIp
                call.origin.ctx.userAgent location), .ok (), startedAt⟩ : ServerEvent) ∈
                call.trace := by
              rw [split]
              exact List.mem_append_right _ (List.mem_cons_of_mem _ started)
            obtain ⟨before, suffix, permitted⟩ := honours.of_mem inside
            exact targets_mono ((List.suffix_cons _ _).trans suffix) permitted.1.1
        | _ => cases sets
  exact Option.isSome_iff_exists.mp (known_target known located target)

/-- An uncommitted `set_value` is in the trace of the call that holds it. -/
theorem pending_asked {index : Nat} {call : ServerCall}
    (located : world.calls[index]? = some call) {name : String} {update : RequestUpdate}
    {at_ : Instant} (member : Write.setRequest name update at_ ∈ site.pending call.trace) :
    world.Asked index ⟨.setRequest name update, .ok (), at_⟩ := by
  obtain ⟨newer, earlier, split, _⟩ := setRequest_pending member
  exact ⟨call, located, by rw [split]; simp⟩

theorem hashes_setRequest {name : String} {write : Write} (marked : write.hashes name = true) :
    ∃ algorithm hash at_, write = .setRequest name (.hashed algorithm hash) at_ := by
  cases write with
  | setRequest other update at_ =>
      cases update with
      | hashed algorithm hash =>
          simp only [Write.hashes, beq_iff_eq] at marked
          exact ⟨algorithm, hash, at_, by rw [marked]⟩
      | _ => cases marked
  | _ => cases marked

theorem starts_setRequest {name : String} {write : Write} (marked : write.starts name = true) :
    ∃ clientIp clientUserAgent location at_,
      write = .setRequest name (.started clientIp clientUserAgent location) at_ := by
  cases write with
  | setRequest other update at_ =>
      cases update with
      | started clientIp clientUserAgent location =>
          simp only [Write.starts, beq_iff_eq] at marked
          exact ⟨clientIp, clientUserAgent, location, at_, by rw [marked]⟩
      | _ => cases marked
  | _ => cases marked

/-- The newest commit with a mark is the one at hand, or it was the newest before. -/
theorem latest_step (name : String) (shows : ServerWorld → Nat → SigningRequest → Prop)
    {marks : Write → Bool} (stepped : step (body lib) world label = some next)
    (before : ∀ index, latest marks world.journal = some index →
      ∃ row, world.data.requests.lookup name = some row ∧ shows world index row)
    (fresh : ∀ index call, committing world label = some (index, call) →
      (site.pending call.trace).any marks = true →
      ∃ row, world.data.requests.lookup name = some row ∧
        shows next index ((site.pending call.trace).foldl (Write.onRequest name) row))
    (kept : ∀ index row (writes : List Write), shows world index row → writes.any marks = false →
      shows next index (writes.foldl (Write.onRequest name) row)) {index : Nat}
    (newest : latest marks next.journal = some index) :
    ∃ row, next.data.requests.lookup name = some row ∧ shows next index row := by
  rcases step_data (body lib) stepped with ⟨writer, call, committed, after, journal⟩ | ⟨nobody, journal, _⟩
  · rw [journal, latest] at newest
    split at newest
    · rename_i marked
      cases newest
      obtain ⟨row, found, shown⟩ := fresh index call committed marked
      exact ⟨_, by rw [after, view_lookup, found]; rfl, shown⟩
    · rename_i plain
      obtain ⟨row, found, shown⟩ := before index newest
      exact ⟨_, by rw [after, view_lookup, found]; rfl,
        kept index row _ shown (Bool.eq_false_iff.mpr plain)⟩
  · rw [journal] at newest
    obtain ⟨row, found, shown⟩ := before index newest
    rcases row_step stepped found with ⟨there, _⟩ | ⟨_, _, committed, _⟩
    · exact ⟨row, there, kept index row [] shown rfl⟩
    · rw [nobody] at committed
      cases committed

theorem hashed_step (traced : Traced lib world) (journaled : Journaled world)
    (stepped : step (body lib) world label = some next) :
    ∀ name index, latest (Write.hashes name) next.journal = some index →
      ∃ row algorithm hash at_, next.data.requests.lookup name = some row ∧
        next.Asked index ⟨.setRequest name (.hashed algorithm hash), .ok (), at_⟩ ∧
        row.hashAlgorithm = some algorithm ∧ row.hashToBeSigned = some hash := by
  intro name index newest
  refine (latest_step name
    (fun world index row => ∃ algorithm hash at_,
      world.Asked index ⟨.setRequest name (.hashed algorithm hash), .ok (), at_⟩ ∧
        row.hashAlgorithm = some algorithm ∧ row.hashToBeSigned = some hash) stepped ?_ ?_ ?_ newest).imp ?_
  · intro index newest
    obtain ⟨row, algorithm, hash, at_, found, shown⟩ := journaled.hashed name index newest
    exact ⟨row, found, algorithm, hash, at_, shown⟩
  · intro index call committed marked
    have located := (committing_located committed).1
    obtain ⟨write, member, mark⟩ := List.any_eq_true.mp marked
    obtain ⟨_, _, _, same⟩ := hashes_setRequest mark
    rw [same] at member
    obtain ⟨row, found⟩ := pending_exists traced journaled.known located member
    obtain ⟨algorithm, hash, at_, last, columns⟩ := fold_hashed row marked
    exact ⟨row, found, algorithm, hash, at_,
      asked_mono (body lib) stepped (pending_asked located last), columns⟩
  · rintro index row writes ⟨algorithm, hash, at_, asked, sameAlgorithm, sameHash⟩ plain
    obtain ⟨keptAlgorithm, keptHash⟩ := fold_unhashed row plain
    exact ⟨algorithm, hash, at_, asked_mono (body lib) stepped asked,
      keptAlgorithm.trans sameAlgorithm, keptHash.trans sameHash⟩
  · rintro row ⟨found, algorithm, hash, at_, shown⟩
    exact ⟨algorithm, hash, at_, found, shown⟩

theorem started_step (traced : Traced lib world) (journaled : Journaled world)
    (stepped : step (body lib) world label = some next) :
    ∀ name index, latest (Write.starts name) next.journal = some index →
      ∃ row clientIp clientUserAgent location at_, next.data.requests.lookup name = some row ∧
        next.Asked index
          ⟨.setRequest name (.started clientIp clientUserAgent location), .ok (), at_⟩ ∧
        ∀ given, location = some given → row.signerLocation = some given := by
  intro name index newest
  refine (latest_step name
    (fun world index row => ∃ clientIp clientUserAgent location at_,
      world.Asked index ⟨.setRequest name (.started clientIp clientUserAgent location), .ok (), at_⟩ ∧
        ∀ given, location = some given → row.signerLocation = some given) stepped ?_ ?_ ?_ newest).imp ?_
  · intro index newest
    obtain ⟨row, clientIp, clientUserAgent, location, at_, found, shown⟩ :=
      journaled.started name index newest
    exact ⟨row, found, clientIp, clientUserAgent, location, at_, shown⟩
  · intro index call committed marked
    have located := (committing_located committed).1
    obtain ⟨write, member, mark⟩ := List.any_eq_true.mp marked
    obtain ⟨_, _, _, _, same⟩ := starts_setRequest mark
    rw [same] at member
    obtain ⟨row, found⟩ := pending_exists traced journaled.known located member
    obtain ⟨clientIp, clientUserAgent, location, at_, last, column⟩ := fold_started row marked
    exact ⟨row, found, clientIp, clientUserAgent, location, at_,
      asked_mono (body lib) stepped (pending_asked located last), column⟩
  · rintro index row writes ⟨clientIp, clientUserAgent, location, at_, asked, column⟩ plain
    have kept := fold_unstarted row plain
    exact ⟨clientIp, clientUserAgent, location, at_, asked_mono (body lib) stepped asked,
      fun given same => kept.trans (column given same)⟩
  · rintro row ⟨found, clientIp, clientUserAgent, location, at_, shown⟩
    exact ⟨clientIp, clientUserAgent, location, at_, found, shown⟩

theorem unlocated_step (journaled : Journaled world)
    (stepped : step (body lib) world label = some next) :
    ∀ name row, next.data.requests.lookup name = some row →
      (next.journal.any fun entry => entry.2.any (Write.locates name)) = false →
      row.signerLocation = none := by
  intro name row found plain
  rcases row_cases stepped found with
    ⟨there, journal⟩ | ⟨old, index, call, there, _, rfl, journal⟩ | ⟨request, created, _⟩
  · rw [journal] at plain
    exact journaled.unlocated name row there plain
  · rw [journal, List.any_cons, Bool.or_eq_false_iff] at plain
    rw [fold_unlocated old plain.1]
    exact journaled.unlocated name old there plain.2
  · rw [created]
    rfl

theorem journaled_step (traced : Traced lib world) (journaled : Journaled world)
    (stepped : step (body lib) world label = some next) : Journaled next :=
  { known := known_step traced journaled.known stepped
    hashed := hashed_step traced journaled stepped
    started := started_step traced journaled stepped
    unlocated := unlocated_step journaled stepped }

end Step

/-! ### The invariant of Signed requests -/

/-- The row shows the hash of the session and the location that its creator was
given. -/
structure Matches (lib : Libraries) (world : ServerWorld) (creator : Nat)
    (session : SigningSession) (row : SigningRequest) : Prop where
  algorithm : row.hashAlgorithm = some session.hashAlgorithm
  hash : row.hashToBeSigned = some (lib.sha256Hex session.signedAttrs)
  location : ∃ owner, world.calls[creator]? = some owner ∧
    Started lib owner.origin row.signerLocation

/-- The evidence of the row and its attempt belong to one session. -/
def Attested (lib : Libraries) (world : ServerWorld) (name : String) (row : SigningRequest) :
    Prop :=
  ∃ index evidence at_ call arguments creator session,
    world.Asked index ⟨.setRequest name (.signed evidence), .ok (), at_⟩ ∧
    Carries row evidence ∧ world.calls[index]? = some call ∧
    call.origin.endpoint = .finalize arguments ∧
    StoredBy world creator arguments.sessionId session ∧ Matches lib world creator session row

section Step

variable {world next : ServerWorld} {label : ServerLabel}

theorem Attested.mono {name : String} {row later : SigningRequest}
    (stepped : step (body lib) world label = some next) (attested : Attested lib world name row)
    (carried : ∀ evidence, Carries row evidence → Carries later evidence)
    (algorithm : later.hashAlgorithm = row.hashAlgorithm)
    (hash : later.hashToBeSigned = row.hashToBeSigned)
    (location : later.signerLocation = row.signerLocation) : Attested lib next name later := by
  obtain ⟨index, evidence, at_, call, arguments, creator, session, asked, carries, located,
    endpoint, stored, same⟩ := attested
  obtain ⟨call', located', origin, _⟩ := step_grows (body lib) stepped located
  obtain ⟨owner, ownerAt, started⟩ := same.location
  obtain ⟨owner', ownerAt', ownerOrigin, _⟩ := step_grows (body lib) stepped ownerAt
  refine ⟨index, evidence, at_, call', arguments, creator, session,
    asked_mono (body lib) stepped asked, carried evidence carries, located', ?_,
    stored.mono stepped, algorithm.trans same.algorithm, hash.trans same.hash, owner', ownerAt', ?_⟩
  · rw [origin, endpoint]
  · rw [ownerOrigin, location]
    exact started

/-- A location is recorded when both coordinates are given. -/
theorem signerLocation_isSome {lat lng accuracy : Option FormValue}
    {geocoded : Option GeocodeResult} {location : Option SignerLocation}
    (recorded : signerLocation lib lat lng accuracy geocoded = .ok location) :
    location.isSome = (lat.isSome && lng.isSome) := by
  unfold signerLocation at recorded
  split at recorded
  · rename_i lat lng
    cases latRead : FormValue.toFloat lib lat with
    | error exn =>
        simp only [latRead, bind, Except.bind] at recorded
        cases recorded
    | ok latValue =>
        cases lngRead : FormValue.toFloat lib lng with
        | error exn =>
            simp only [latRead, lngRead, bind, Except.bind] at recorded
            cases recorded
        | ok lngValue =>
            cases accuracy with
            | none =>
                simp only [latRead, lngRead, bind, Except.bind] at recorded
                cases recorded
                rfl
            | some value =>
                cases accuracyRead : FormValue.toFloat lib value with
                | error exn =>
                    simp only [latRead, lngRead, accuracyRead, bind, Except.bind, Except.map]
                      at recorded
                    cases recorded
                | ok accuracyValue =>
                    simp only [latRead, lngRead, accuracyRead, bind, Except.bind, Except.map]
                      at recorded
                    cases recorded
                    rfl
  · rename_i incomplete
    cases recorded
    cases lat with
    | none => rfl
    | some lat =>
        cases lng with
        | none => rfl
        | some lng => exact absurd rfl (incomplete lat lng rfl)

/-- The last attempt on a request is shown by its row, if the call behind it
stored the session. -/
theorem lastAttempt_matches (traced : Traced lib world) (journaled : Journaled world)
    {name sessionId : String} {session : SigningSession} {creator : Nat} {owner : ServerCall}
    (stored : StoredBy world creator sessionId session)
    (ownerAt : world.calls[creator]? = some owner)
    (last : lastAttempt world name (owner, creator) = true) {row : SigningRequest}
    (found : world.data.requests.lookup name = some row) :
    Matches lib world creator session row := by
  simp only [lastAttempt, Bool.and_eq_true, beq_iff_eq, Bool.or_eq_true, Bool.not_eq_true'] at last
  obtain ⟨⟨hashed, started⟩, positioned⟩ := last
  obtain ⟨hashRow, algorithm, hash, hashAt, hashFound, hashAsked, sameAlgorithm, sameHash⟩ :=
    journaled.hashed name creator hashed
  rw [found] at hashFound
  cases hashFound
  obtain ⟨startRow, clientIp, clientUserAgent, location, startAt, startFound, startAsked, column⟩ :=
    journaled.started name creator started
  rw [found] at startFound
  cases startFound
  obtain ⟨hasher, hashEarlier, hasherAt, hashSuffix, hashAllowed⟩ := traced.honours hashAsked
  obtain ⟨_, otherId, other, _, _, ⟨storedAt, otherStored⟩, _, _, isAlgorithm, isHash, _⟩ :=
    hashAllowed
  have otherBy : StoredBy world creator otherId other :=
    ⟨storedAt, hasher, hasherAt, hashSuffix.subset (List.mem_cons_of_mem _ otherStored)⟩
  obtain ⟨_, same⟩ := traced.stores_once otherBy stored
  obtain ⟨starter, startEarlier, starterAt, _, startAllowed⟩ := traced.honours startAsked
  rw [ownerAt] at starterAt
  cases starterAt
  obtain ⟨_, _, arguments, geocoded, endpoint, given⟩ := startAllowed
  have shown : row.signerLocation = location := by
    have complete := signerLocation_isSome given
    cases located : location with
    | some given => exact column given located
    | none =>
        rw [located, Option.isSome_none] at complete
        rcases positioned with positioned | nowhere
        · simp only [Origin.locates, endpoint, ← complete] at positioned
          cases positioned
        · exact journaled.unlocated name row found nowhere
  refine ⟨by rw [sameAlgorithm, isAlgorithm, same], by rw [sameHash, isHash, same], owner, ownerAt,
    arguments, geocoded, endpoint, ?_⟩
  rw [shown]
  exact given

/-- A commit with a hash of a request starts it too. -/
theorem hashes_starts {origin : Origin} {trace : ServerTrace}
    (honours : Honours (Permitted lib origin) trace) {name : String}
    (silent : ∀ write ∈ site.pending trace, write.statusOn name = none) :
    (site.pending trace).any (Write.hashes name) = false := by
  refine List.any_eq_false.mpr fun write member mark => ?_
  obtain ⟨algorithm, hash, at_, same⟩ := hashes_setRequest mark
  rw [same] at member
  obtain ⟨newer, earlier, split, quiet⟩ := setRequest_pending member
  obtain ⟨_, _, _, location, _, _, ⟨startedAt, started⟩, _, _, _, uncommitted⟩ :=
    honoured_at honours split
  have pending : Write.setRequest name
      (.started origin.ctx.requestIp origin.ctx.userAgent location) startedAt ∈
      site.pending trace := by
    rw [split]
    exact pending_before quiet rfl uncommitted started (List.mem_singleton_self _)
  have silence := silent _ pending
  simp only [Write.statusOn, if_true] at silence
  cases silence

theorem silent_unstarted {name : String} {writes : List Write}
    (silent : ∀ write ∈ writes, write.statusOn name = none) :
    writes.any (Write.starts name) = false := by
  refine List.any_eq_false.mpr fun write member mark => ?_
  obtain ⟨_, _, _, _, same⟩ := starts_setRequest mark
  have silence := silent write member
  rw [same] at silence
  simp only [Write.statusOn, if_true] at silence
  cases silence

theorem finalize_noAttempt {origin : Origin} {trace : ServerTrace}
    (honours : Honours (Permitted lib origin) trace) {arguments : FinalizeArguments}
    (endpoint : origin.endpoint = .finalize arguments) (name : String) :
    (site.pending trace).any (Write.hashes name) = false ∧
      (site.pending trace).any (Write.starts name) = false := by
  constructor
  · refine List.any_eq_false.mpr fun write member mark => ?_
    obtain ⟨_, _, _, same⟩ := hashes_setRequest mark
    rw [same] at member
    obtain ⟨newer, earlier, split, _⟩ := setRequest_pending member
    obtain ⟨_, _, _, _, initiated, _⟩ := honoured_at honours split
    rw [endpoint] at initiated
    cases initiated
  · refine List.any_eq_false.mpr fun write member mark => ?_
    obtain ⟨_, _, _, _, same⟩ := starts_setRequest mark
    rw [same] at member
    obtain ⟨newer, earlier, split, _⟩ := setRequest_pending member
    obtain ⟨_, _, _, _, initiated, _⟩ := honoured_at honours split
    rw [endpoint] at initiated
    cases initiated

theorem attested_step (traced : Traced lib world) (journaled : Journaled world)
    (attested : ∀ name row, world.data.requests.lookup name = some row → row.status = .signed →
      Attested lib world name row)
    (last : signsLastAttempt world label = true)
    (stepped : step (body lib) world label = some next) :
    ∀ name row, next.data.requests.lookup name = some row → row.status = .signed →
      Attested lib next name row := by
  intro name row found signed
  rcases row_cases stepped found with
    ⟨there, _⟩ | ⟨old, index, call, there, committed, rfl, _⟩ | ⟨request, created, _⟩
  · exact (attested name row there signed).mono stepped (fun _ carries => carries) rfl rfl rfl
  · have located := (committing_located committed).1
    have honours := disciplined_running traced.disciplined located
    rcases fold_signed carries_written (pending_signsNothing honours) signed with
      ⟨evidence, at_, member, carries⟩ | ⟨already, silent, kept⟩
    · obtain ⟨newer, earlier, split, _⟩ := setRequest_pending member
      obtain ⟨arguments, _, session, _, _, _, endpoint, _, _, ⟨loadedAt, loaded⟩, _⟩ :=
        (honoured_at honours split).2
      have asked : world.Asked index ⟨.loadSession arguments.sessionId, .ok (some session), loadedAt⟩ :=
        ⟨call, located, by rw [split]; exact List.mem_append_right _ (List.mem_cons_of_mem _ loaded)⟩
      obtain ⟨creator, stamp, owner, ownerAt, storing⟩ := traced.loaded _ _ _ _ asked
      -- The condition on the commit is about the call that stored the session.
      simp only [signsLastAttempt, committed, List.all_eq_true] at last
      have chosen := last _ member
      simp only [endpoint, List.all_eq_true, Bool.or_eq_true, Bool.not_eq_true'] at chosen
      have stores : owner.trace.any (storesAs arguments.sessionId) = true :=
        List.any_eq_true.mpr ⟨_, storing, by simp only [storesAs, beq_self_eq_true]⟩
      have attempt : lastAttempt world name (owner, creator) = true := by
        rcases chosen (owner, creator) (List.mk_mem_zipIdx_iff_getElem?.mpr ownerAt) with
          absent | attempt
        · rw [stores] at absent
          cases absent
        · exact attempt
      have same := lastAttempt_matches traced journaled ⟨stamp, owner, ownerAt, storing⟩ ownerAt
        attempt there
      obtain ⟨unhashed, unstarted⟩ := finalize_noAttempt honours endpoint name
      obtain ⟨sameAlgorithm, sameHash⟩ := fold_unhashed old unhashed
      have sameLocation := fold_unstarted old unstarted
      obtain ⟨sameOwner, sameOwnerAt, started⟩ := same.location
      have now : Attested lib world name
          ((site.pending call.trace).foldl (Write.onRequest name) old) :=
        ⟨index, evidence, at_, call, arguments, creator, session, pending_asked located member,
          carries, located, endpoint, ⟨stamp, owner, ownerAt, storing⟩,
          sameAlgorithm.trans same.algorithm, sameHash.trans same.hash, sameOwner, sameOwnerAt,
          by rw [sameLocation]; exact started⟩
      exact now.mono stepped (fun _ carried => carried) rfl rfl rfl
    · obtain ⟨sameAlgorithm, sameHash⟩ := fold_unhashed old (hashes_starts honours silent)
      exact (attested name old there already).mono stepped kept sameAlgorithm sameHash
        (fold_unstarted old (silent_unstarted silent))
  · rw [created] at signed
    cases signed

end Step

/-- The evidence on a row names its `finalize`: no two have saved the same file. -/
theorem Signing.unique {world : ServerWorld} (traced : Traced lib world) {name : String}
    {row : SigningRequest} (signing : Signing lib world name row) {index : Nat}
    {evidence : SignedEvidence} {at_ : Instant}
    (asked : world.Asked index ⟨.setRequest name (.signed evidence), .ok (), at_⟩)
    (carries : Carries row evidence) : index = signing.index := by
  obtain ⟨call, earlier, located, suffix, permitted⟩ := traced.honours asked
  obtain ⟨_, _, _, _, file, stored, _, _, _, _, ⟨savedAt, saved⟩, _, _, _, _, sameFile, _⟩ :=
    permitted.2
  obtain ⟨signedAt, signedSave⟩ := signing.saved
  have sameName : stored.name = signing.stored.name := by
    have shown := signing.signedFile
    rw [carries.file, sameFile] at shown
    exact Option.some.inj shown
  exact (traced.distinct index signing.index _ _ stored.name
    ⟨call, located, suffix.subset (List.mem_cons_of_mem _ saved)⟩
    ⟨signing.call, signing.located, signing.suffix.subset (List.mem_cons_of_mem _ signedSave)⟩ rfl
    (by rw [sameName]; rfl)).1

/-- In such a run a Signed request shows the hash and the location of the very
attempt whose session was finalized, and that attempt was answered with it. -/
theorem signed_evidence_one_session (masters : Masters) (now : Instant) (zone : Int)
    (labels : List ServerLabel) (world : ServerWorld)
    (last : Along (body lib) (fun world label => signsLastAttempt world label = true)
      (installed masters now zone) labels)
    (reached : run (body lib) (installed masters now zone) labels = some world)
    (name : String) (row : SigningRequest)
    (found : world.data.requests.lookup name = some row) (signed : row.status = .signed) :
    ∃ signing : Signing lib world name row,
      Matches lib world signing.creator signing.session row ∧
      assemble lib signing.session signing.arguments.signatureBytesB64 signing.chain =
        .ok signing.file.content ∧
      ∀ owner response, world.calls[signing.creator]? = some owner →
        owner.phase = .ended (.ok (.initiated response)) →
        response.sessionId = signing.arguments.sessionId ∧
        row.hashToBeSigned = some response.hashToSign ∧
        row.hashAlgorithm = some response.hashAlgorithm := by
  obtain ⟨traced, journaled, attested⟩ := run_traced
    (fun world => Journaled world ∧ ∀ name row, world.data.requests.lookup name = some row →
      row.status = .signed → Attested lib world name row)
    ⟨⟨known_installed masters now zone, fun _ _ newest => (by cases newest),
        fun _ _ newest => (by cases newest), fun _ _ found => (by cases found)⟩,
      fun _ _ found => (by cases found)⟩
    (fun _ _ _ traced holds met stepped => ⟨journaled_step traced holds.1 stepped,
      attested_step traced holds.1 holds.2 met stepped⟩) last reached
  obtain ⟨signing⟩ := traced.signing found signed
  obtain ⟨index, evidence, at_, call, arguments, creator, session, asked, carries, located,
    endpoint, stored, same⟩ := attested name row found signed
  have sameIndex := signing.unique traced asked carries
  rw [sameIndex, signing.located] at located
  cases located
  rw [signing.endpoint] at endpoint
  cases endpoint
  obtain ⟨sameCreator, sameSession⟩ := traced.creator_unique stored signing.created
  rw [sameCreator, sameSession] at same
  refine ⟨signing, same, signing.assembled, ?_⟩
  intro owner response ownerAt answered
  have ended := (traced.disciplined signing.creator owner ownerAt).2
  rw [answered] at ended
  obtain ⟨other, ⟨storedAt, otherStored⟩, _, sameAlgorithm, sameHash⟩ := ended.2 response rfl
  obtain ⟨sameId, sameOther⟩ := traced.stores_once ⟨storedAt, owner, ownerAt, otherStored⟩
    signing.created
  refine ⟨sameId, ?_, ?_⟩
  · rw [same.hash, sameHash, sameOther]
  · rw [same.algorithm, sameAlgorithm, sameOther]

theorem signed_evidence_one_session_sample :
    ∃ world row, run (body sampleLibraries) sampleSite sampleSigning = some world ∧
      world.data.requests.lookup "SR-1" = some row ∧
      ∃ signing : Signing sampleLibraries world "SR-1" row,
        Matches sampleLibraries world signing.creator signing.session row ∧
        assemble sampleLibraries signing.session signing.arguments.signatureBytesB64
          signing.chain = .ok signing.file.content ∧
        ∀ owner response, world.calls[signing.creator]? = some owner →
          owner.phase = .ended (.ok (.initiated response)) →
          response.sessionId = signing.arguments.sessionId ∧
          row.hashToBeSigned = some response.hashToSign ∧
          row.hashAlgorithm = some response.hashAlgorithm := by
  have last : alongCheck (body sampleLibraries) signsLastAttempt sampleSite sampleSigning = true := by
    decide +kernel
  have ends : statusAfter sampleSigning "SR-1" = some .signed := by decide +kernel
  simp only [statusAfter, Option.bind_eq_some_iff, Option.map_eq_some_iff] at ends
  obtain ⟨world, reached, row, found, signed⟩ := ends
  exact ⟨world, row, reached, found, signed_evidence_one_session sampleMasters 0 0 sampleSigning
    world (along_check (body sampleLibraries) last) reached "SR-1" row found signed⟩

/-- The outside of a second attempt, on a document that has changed. -/
def changedOracle : Oracle :=
  { sampleOracle "S-2" "" with
    given := fun
      | .digestForSigning .. => some ([1, 2, 3], ⟨[8], 1, 2⟩)
      | operation => (sampleOracle "S-2" "").given operation }

/-- An attempt is abandoned, recovered and repeated, and then its own late
signature arrives. -/
def overlappingAttempts : List ServerLabel :=
  .move (.createRequest "SR-1" sampleRequest) ::
    (served 0 ⟨sampleUser "alice", .initiate sampleInitiate⟩ 24 (sampleOracle "S-1" "") ++
      .move (.elapse (seconds 301)) ::
      served 1 ⟨sampleUser "alice", .getSigningStatus "Sales Invoice" "INV-1"⟩ 3 .plain ++
      served 2 ⟨sampleUser "alice", .initiate sampleInitiate⟩ 24 changedOracle ++
      served 3 ⟨sampleUser "alice", .finalize (sampleFinalize "S-1")⟩ 32 (sampleOracle "" "F-1"))

/-- The session and the hash that an `initiate` was answered with. -/
def answeredHash (call : ServerCall) : Option (String × String) :=
  match call.phase with
  | .ended (.ok (.initiated response)) => some (response.sessionId, response.hashToSign)
  | _ => none

/-- Session S-1 was finalized, and the request shows the hash of S-2. -/
theorem overlapping_attempts_mixed :
    ∃ world row first last, run (body sampleLibraries) sampleSite overlappingAttempts = some world ∧
      world.data.requests.lookup "SR-1" = some row ∧ row.status = .signed ∧
      row.signedFile = some "F-1" ∧ row.hashToBeSigned = some "08" ∧
      world.calls[0]? = some first ∧ answeredHash first = some ("S-1", "09") ∧
      world.calls[3]? = some last ∧ last.origin.endpoint = .finalize (sampleFinalize "S-1") := by
  have ends : ((run (body sampleLibraries) sampleSite overlappingAttempts).bind fun world =>
      (world.data.requests.lookup "SR-1").bind fun row =>
        (world.calls[0]?).bind fun first => (world.calls[3]?).map fun last =>
          row.status == .signed && row.signedFile == some "F-1" &&
            row.hashToBeSigned == some "08" && answeredHash first == some ("S-1", "09") &&
            last.origin.endpoint == .finalize (sampleFinalize "S-1")) = some true := by
    decide +kernel
  simp only [Option.bind_eq_some_iff, Option.map_eq_some_iff, Bool.and_eq_true, beq_iff_eq] at ends
  obtain ⟨world, reached, row, found, first, firstAt, last, lastAt,
    ⟨⟨⟨signed, named⟩, hash⟩, answered⟩, endpoint⟩ := ends
  exact ⟨world, row, first, last, reached, found, signed, named, hash, firstAt, answered, lastAt,
    endpoint⟩

end DscSigning
