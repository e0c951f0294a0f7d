/-
Whether a Signed request has a real position while the location is enforced.

`initiate` refuses a missing coordinate and stores whatever `float` makes of the
others.  The position of a request is real in every run in which no `initiate`
starts with coordinates that are numbers but no position, and `finalize` is only
given sessions that an `initiate` was answered with.
-/

import DscSigning.Server.AttemptEvidence
import DscSigning.Server.Preparation

namespace DscSigning

open Interaction Program Engine

/-! ### Positions -/

def PyFloat.within (bound : ℚ) : PyFloat → Bool
  | .finite value => decide (-bound ≤ value) && decide (value ≤ bound)
  | .infinite _ => false
  | .nan => false

/-- The coordinates are those of a place on earth. -/
def SignerLocation.real (location : SignerLocation) : Bool :=
  location.lat.within 90 && location.lng.within 180

variable (lib : Libraries)

/-- What `initiate` makes of a coordinate, if it gets past `float`. -/
def coordinate (value : Option FormValue) : Option PyFloat :=
  (normalise value).bind fun given => (FormValue.toFloat lib given).toOption

/-- The coordinates that the call was given are no numbers, or a real position. -/
def Origin.positioned (origin : Origin) : Bool :=
  match origin.endpoint with
  | .initiate arguments =>
      match coordinate lib arguments.signerLat, coordinate lib arguments.signerLng with
      | some lat, some lng => lat.within 90 && lng.within 180
      | _, _ => true
  | _ => true

def answersWith (sessionId : String) (call : ServerCall) : Bool :=
  match call.phase with
  | .ended (.ok (.initiated response)) => response.sessionId == sessionId
  | _ => false

/-- The location is enforced, a request is started with a real position only, and
a session is used after it was answered only. -/
def keepsPositions (world : ServerWorld) (label : ServerLabel) : Bool :=
  world.data.masters.settings.enforceSignerLocation &&
    match asking world label with
    | some (_, call, ⟨.setRequest _ (.started _ _ _), .ok _, _⟩) => call.origin.positioned lib
    | some (_, _, ⟨.loadSession sessionId, .ok (some _), _⟩) =>
        world.calls.any (answersWith sessionId)
    | _ => true

variable {lib}

/-- A location is stored exactly when both coordinates are given, and `float` has read them. -/
theorem signerLocation_cases {lat lng accuracy : Option FormValue}
    {geocoded : Option GeocodeResult} {location : Option SignerLocation}
    (read : signerLocation lib lat lng accuracy geocoded = .ok location) :
    (location = none ∧ (lat = none ∨ lng = none)) ∨
      ∃ latGiven lngGiven stored, lat = some latGiven ∧ lng = some lngGiven ∧
        location = some stored ∧ FormValue.toFloat lib latGiven = .ok stored.lat ∧
        FormValue.toFloat lib lngGiven = .ok stored.lng := by
  cases lat with
  | none =>
      cases read
      exact Or.inl ⟨rfl, Or.inl rfl⟩
  | some latGiven =>
      cases lng with
      | none =>
          cases read
          exact Or.inl ⟨rfl, Or.inr rfl⟩
      | some lngGiven =>
          obtain ⟨latValue, latRead, read⟩ := bind_ok read
          obtain ⟨lngValue, lngRead, read⟩ := bind_ok read
          have stored : ∃ value address provider,
              location = some ⟨latValue, lngValue, value, address, provider⟩ := by
            cases accuracy with
            | none =>
                cases read
                exact ⟨_, _, _, rfl⟩
            | some given =>
                obtain ⟨value, _, read⟩ := bind_ok read
                cases read
                exact ⟨_, _, _, rfl⟩
          obtain ⟨value, address, provider, rfl⟩ := stored
          exact Or.inr ⟨latGiven, lngGiven, _, rfl, rfl, rfl, latRead, lngRead⟩

/-- Coordinates that a positioned call stores are real. -/
theorem started_real {origin : Origin} {location : SignerLocation}
    (started : Started lib origin (some location)) (positioned : origin.positioned lib = true) :
    location.real = true := by
  obtain ⟨arguments, geocoded, endpoint, read⟩ := started
  rcases signerLocation_cases read with ⟨absent, _⟩ |
    ⟨latGiven, lngGiven, stored, latSame, lngSame, same, latRead, lngRead⟩
  · cases absent
  · cases same
    simpa only [SignerLocation.real, Origin.positioned, endpoint, coordinate, latSame, lngSame,
      Option.bind_some, latRead, lngRead, Except.toOption] using positioned

/-! ### The rule -/

/-- `initiate` writes a location where the settings demand one, and stores a
session after it has started the request. -/
def Located (origin : Origin) (trace : ServerTrace) : Operation → Prop
  | .setRequest _ (.started _ _ location) => origin.initiates = true →
      ∃ settings, Answered trace .getSettings settings ∧
        (settings.enforceSignerLocation = true → location.isSome = true)
  | .storeSession _ session => origin.initiates = true →
      ∃ clientIp clientUserAgent location,
        Answered trace (.setRequest session.signingRequestName
          (.started clientIp clientUserAgent location)) ()
  | _ => True

theorem located_free {origin : Origin} (trace : ServerTrace) (operation : Operation)
    (free : Free operation) : Located origin trace operation := by
  rcases free with peaceful | commit
  · cases operation with
    | setRequest name update => cases peaceful
    | storeSession sessionId session => cases peaceful
    | _ => trivial
  · rw [commit]
    trivial

theorem located_plain {origin : Origin} (trace : ServerTrace) (operation : Operation)
    (simple : Plain operation) : Located origin trace operation :=
  located_free trace operation (Or.inl (calm_of_plain simple))

theorem located_other {origin : Origin} (starts : origin.initiates = false) (trace : ServerTrace)
    (operation : Operation) : Located origin trace operation := by
  cases operation with
  | setRequest name update =>
      cases update with
      | started clientIp clientUserAgent location =>
          exact fun initiates => absurd initiates (by simp [starts])
      | _ => trivial
  | storeSession sessionId session => exact fun initiates => absurd initiates (by simp [starts])
  | _ => trivial

theorem preparePdfForSigning_located {origin : Origin} {trace : ServerTrace}
    (arguments : PrepareArguments) {clientIp clientUserAgent : Text}
    {location : Option SignerLocation}
    (started : Answered trace (.setRequest arguments.signingRequestName
      (.started clientIp clientUserAgent location)) ()) :
    (preparePdfForSigning lib arguments).Follows (Located origin) (fun _ _ => True) trace := by
  refine Uses.past (uses_free (sourcePdf_calm arguments)) located_free ?_ fun _ _ _ => trivial
  intro afterPdf pdf pdfLater
  refine Follows.perform trivial (fun settings settingsAt => ?_) fun _ _ => trivial
  refine Uses.past (buildStampText_plain _ _ _) located_plain ?_ fun _ _ _ => trivial
  intro afterStamp stampText stampLater
  refine Follows.perform trivial (fun sessionId drawnAt => ?_) fun _ _ => trivial
  refine Follows.ofExcept (fun signerCert loaded => ?_) fun _ _ => trivial
  refine Follows.perform trivial (fun prepared preparedAt => ?_) fun _ _ => trivial
  refine Follows.perform trivial (fun signingTime signedAt => ?_) fun _ _ => trivial
  refine Follows.perform trivial (fun createdAt createdStamp => ?_) fun _ _ => trivial
  have later := pdfLater.trans ((List.suffix_cons _ _).trans stampLater)
  exact Follows.perform (fun _ => ⟨_, _, _, (started.mono later).cons.cons.cons.cons⟩)
    (fun _ _ => trivial) fun _ _ => trivial

theorem initiate_located (ctx : Context) (arguments : InitiateArguments) :
    (initiate lib ctx arguments).Follows (Located ⟨ctx, .initiate arguments⟩) (fun _ _ => True)
      [] := by
  refine Follows.demand (fun _ => ?_) fun _ => trivial
  refine Follows.perform trivial (fun found foundAt => ?_) fun _ _ => trivial
  refine Follows.ofOption (fun row taken => ?_) fun _ => trivial
  refine Uses.past (checkSigner_plain _ _) located_plain ?_ fun _ _ _ => trivial
  intro afterSigner _ _
  refine Follows.perform trivial (fun profile profileAt => ?_) fun _ _ => trivial
  refine Uses.past (checkProfile_plain _ _) located_plain ?_ fun _ _ _ => trivial
  intro afterProfile _ _
  refine Follows.perform trivial (fun settings settingsAt => ?_) fun _ _ => trivial
  refine Follows.demand (fun checked => ?_) fun _ => trivial
  refine Uses.past (geocode_plain _ _) located_plain ?_ fun _ _ _ => trivial
  intro afterGeocode geocoded geocodeLater
  refine Uses.past (loadTemplate_plain _) located_plain ?_ fun _ _ _ => trivial
  intro afterTemplate sigTemplate templateLater
  refine Uses.past (loadUpload_plain _ _) located_plain ?_ fun _ _ _ => trivial
  intro afterUpload upload uploadLater
  refine Uses.past (uses_free (choosePrintFormat_calm _ _ _)) located_free ?_ fun _ _ _ => trivial
  intro beforeStart printFormat formatLater
  refine Follows.ofExcept (fun location read => ?_) fun _ _ => trivial
  have told : Answered beforeStart .getSettings settings :=
    Answered.head.mono (geocodeLater.trans (templateLater.trans (uploadLater.trans formatLater)))
  have demanded (enforced : settings.enforceSignerLocation = true) : location.isSome = true := by
    simp only [enforced, Bool.true_and, Bool.not_eq_true', Bool.or_eq_false_iff] at checked
    rcases signerLocation_cases read with ⟨_, latNone | lngNone⟩ | ⟨_, _, _, _, _, same, _⟩
    · rw [latNone] at checked
      cases checked.1
    · rw [lngNone] at checked
      cases checked.2
    · rw [same]
      rfl
  refine Follows.perform (fun _ => ⟨settings, told, demanded⟩) (fun _ startedAt => ?_)
    fun _ _ => trivial
  refine Uses.past (runDevHooks_plain _ _) located_plain ?_ fun _ _ _ => trivial
  intro afterHooks _ hooksLater
  refine Follows.ofExcept (fun certDer decoded => ?_) fun _ _ => trivial
  refine Follows.demand (fun _ => ?_) fun _ => trivial
  refine Follows.bind (preparePdfForSigning_located _ (Answered.head.mono hooksLater)) ?_
    fun _ _ _ _ => trivial
  intro afterPrepare result _ _
  refine Follows.perform trivial (fun _ hashedAt => ?_) fun _ _ => trivial
  refine Uses.past (logPrepared_plain _ _ _ _ _ _) located_plain ?_ fun _ _ _ => trivial
  intro afterLog _ _
  refine Uses.past getOrCreateHmacSecret_free located_free ?_ fun _ _ _ => trivial
  intro afterSecret hmacSecret _
  refine Follows.perform trivial (fun timestamp timedAt => ?_) fun _ _ => trivial
  exact Follows.perform trivial (fun _ _ => trivial) fun _ _ => trivial

theorem body_located (origin : Origin) :
    (body lib origin).Follows (Located origin) (fun _ _ => True) [] := by
  obtain ⟨ctx, endpoint⟩ := origin
  cases endpoint with
  | initiate arguments =>
      exact Follows.bind (initiate_located ctx arguments) (fun _ _ _ _ => trivial)
        fun _ _ _ _ => trivial
  | _ => exact Follows.always fun later operation _ => located_other rfl later operation

/-! ### The start behind a session -/

/-- A start of the request has been committed. -/
def Begun (world : ServerWorld) (name : String) : Prop :=
  ∃ index, latest (Write.starts name) world.journal = some index

theorem latest_mem {marks : Write → Bool} {journal : List (Nat × List Write)} {write : Write}
    (recorded : ∃ entry ∈ journal, write ∈ entry.2) (marked : marks write = true) :
    ∃ index, latest marks journal = some index := by
  induction journal with
  | nil =>
      obtain ⟨entry, impossible, _⟩ := recorded
      cases impossible
  | cons newest older ih =>
      obtain ⟨index, writes⟩ := newest
      by_cases first : writes.any marks = true
      · exact ⟨index, by rw [latest, if_pos first]⟩
      · obtain ⟨entry, member, held⟩ := recorded
        rcases List.mem_cons.mp member with rfl | inside
        · exact absurd (List.any_eq_true.mpr ⟨write, held, marked⟩) first
        · obtain ⟨other, found⟩ := ih ⟨entry, inside, held⟩
          exact ⟨other, by rw [latest, if_neg first, found]⟩

theorem Begun.mono {world next : ServerWorld} {label : ServerLabel} {name : String}
    (begun : Begun world name) (stepped : step (body lib) world label = some next) :
    Begun next name := by
  obtain ⟨index, found⟩ := begun
  rcases step_data (body lib) stepped with ⟨writer, call, _, _, journal⟩ | ⟨_, journal, _⟩
  · by_cases again : (site.pending call.trace).any (Write.starts name) = true
    · exact ⟨writer, by rw [journal, latest, if_pos again]⟩
    · exact ⟨index, by rw [journal, latest, if_neg again, found]⟩
  · exact ⟨index, by rw [journal, found]⟩

/-- An answer about the settings shows that the location is enforced. -/
def ShowsEnforced (_ : Origin) (_ : ServerTrace) : ServerEvent → Prop
  | ⟨.getSettings, .ok settings, _⟩ => settings.enforceSignerLocation = true
  | _ => True

def StartsPositioned (lib : Libraries) (origin : Origin) (_ : ServerTrace) : ServerEvent → Prop
  | ⟨.setRequest _ (.started _ _ _), .ok _, _⟩ => origin.positioned lib = true
  | _ => True

/-- What is known of every call and every session in such a run. -/
structure Positioned (lib : Libraries) (world : ServerWorld) : Prop where
  disciplined : world.Disciplined Located fun _ _ _ => True
  journaled : Journaled world
  persisted : world.Persisted
  enforced : world.Heeds ShowsEnforced
  starts : world.Heeds (StartsPositioned lib)
  begun : ∀ index sessionId session stamp,
    world.Asked index ⟨.loadSession sessionId, .ok (some session), stamp⟩ →
    Begun world session.signingRequestName

section Step

variable {world next : ServerWorld} {label : ServerLabel}

theorem view_enforces (database : Database) (writes : List Write) :
    (site.view database writes).masters.settings.enforceSignerLocation =
      database.masters.settings.enforceSignerLocation := by
  induction writes generalizing database with
  | nil => rfl
  | cons write rest ih =>
      refine (ih (write.perform database)).trans ?_
      cases write <;> rfl

theorem enforced_asking (enforces : world.data.masters.settings.enforceSignerLocation = true)
    (stepped : step (body lib) world label = some next) {index : Nat} {call : ServerCall}
    {event : ServerEvent} (found : asking world label = some (index, call, event)) :
    ShowsEnforced call.origin call.trace event := by
  obtain ⟨oracle, replied⟩ := asking_shared (body lib) stepped found
  obtain ⟨operation, result, stamp⟩ := event
  cases operation with
  | getSettings =>
      cases result with
      | error exn => trivial
      | ok settings =>
          replace replied := answer_of_reply replied
          simp only [answer, Option.some.injEq, Prod.mk.injEq, Except.ok.injEq] at replied
          change settings.enforceSignerLocation = true
          rw [← replied.1, view_enforces, enforces]
  | _ => cases result <;> trivial

/-- The `initiate` that answered with a session has started its request. -/
theorem answered_begun (traced : Traced lib world) (positioned : Positioned lib world)
    {sessionId : String} {session : SigningSession} {creator : Nat}
    (stored : StoredBy world creator sessionId session) {call : ServerCall}
    (member : call ∈ world.calls) (answers : answersWith sessionId call = true) :
    Begun world session.signingRequestName := by
  obtain ⟨index, located⟩ := List.getElem?_of_mem member
  obtain ⟨response, ended⟩ : ∃ response, call.phase = .ended (.ok (.initiated response)) ∧
      response.sessionId = sessionId := by
    simp only [answersWith] at answers
    split at answers
    · rename_i response ended
      exact ⟨response, ended, beq_iff_eq.mp answers⟩
    · cases answers
  -- The answer is about the session that this very call has stored.
  have responds := (traced.disciplined index call located).2
  rw [ended.1] at responds
  obtain ⟨own, ⟨storedAt, storing⟩, _⟩ := responds.2 response rfl
  rw [ended.2] at storing
  obtain ⟨_, same⟩ := traced.creator_unique ⟨storedAt, call, located, storing⟩ stored
  subst same
  obtain ⟨owner, _, ownerAt, _, authorised⟩ := traced.authorised ⟨storedAt, call, located, storing⟩
  rw [located] at ownerAt
  cases ownerAt
  obtain ⟨arguments, _, endpoint, _⟩ := authorised
  obtain ⟨earlier, suffix, rule⟩ := (positioned.disciplined index call located).1.of_mem storing
  obtain ⟨clientIp, clientUserAgent, location, startedAt, started⟩ :=
    rule (by simp [Origin.initiates, endpoint])
  have recorded : ∃ entry ∈ world.journal, Write.setRequest own.signingRequestName
      (.started clientIp clientUserAgent location) startedAt ∈ entry.2 :=
    positioned.persisted.recorded located ended.1
      (suffix.subset (List.mem_cons_of_mem _ started)) rfl List.mem_cons_self
  exact latest_mem recorded (by simp [Write.starts])

theorem positioned_step (traced : Traced lib world) (positioned : Positioned lib world)
    (keeps : keepsPositions lib world label = true)
    (stepped : step (body lib) world label = some next) : Positioned lib next := by
  simp only [keepsPositions, Bool.and_eq_true] at keeps
  obtain ⟨enforces, keeps⟩ := keeps
  refine
    { disciplined := disciplined_step (body lib) body_located positioned.disciplined stepped
      journaled := journaled_step traced positioned.journaled stepped
      persisted := persisted_step (body lib) positioned.persisted stepped
      enforced := heeds_step (body lib) positioned.enforced
        (fun _ _ _ found => enforced_asking enforces stepped found) stepped
      starts := heeds_step (body lib) positioned.starts (fun index call event found => ?_) stepped
      begun := fun index sessionId session stamp asked => ?_ }
  · rw [found] at keeps
    obtain ⟨operation, result, stamp⟩ := event
    cases operation with
    | setRequest name update =>
        cases update with
        | started clientIp clientUserAgent location =>
            cases result with
            | error exn => trivial
            | ok told => exact keeps
        | _ => cases result <;> trivial
    | _ => cases result <;> trivial
  · rcases asked_step (body lib) stepped asked with old | ⟨call, found⟩
    · exact (positioned.begun index sessionId session stamp old).mono stepped
    · obtain ⟨creator, stored⟩ := asking_loaded traced stepped found
      rw [found] at keeps
      obtain ⟨answering, member, answers⟩ := List.any_eq_true.mp keeps
      exact (answered_begun traced positioned stored member answers).mono stepped

end Step

theorem positioned_installed (masters : Masters) (now : Instant) (zone : Int) :
    Positioned lib (installed masters now zone) :=
  { disciplined := by
      intro index call located
      cases located
    journaled := ⟨known_installed masters now zone, fun _ _ newest => (by cases newest),
      fun _ _ newest => (by cases newest), fun _ _ found => (by cases found)⟩
    persisted := by
      intro index call event write located
      cases located
    enforced := by
      intro index call event earlier located
      cases located
    starts := by
      intro index call event earlier located
      cases located
    begun := fun _ _ _ _ asked => absurd asked not_asked_installed }

theorem Positioned.real {world : ServerWorld} (positioned : Positioned lib world)
    (traced : Traced lib world) {name : String} (begun : Begun world name) {row : SigningRequest}
    (found : world.data.requests.lookup name = some row) :
    ∃ location, row.signerLocation = some location ∧ location.real = true := by
  obtain ⟨index, newest⟩ := begun
  obtain ⟨there, clientIp, clientUserAgent, location, at_, lookedUp, asked, shown⟩ :=
    positioned.journaled.started name index newest
  rw [found] at lookedUp
  cases lookedUp
  obtain ⟨call, earlier, located, suffix, permitted⟩ := traced.honours asked
  obtain ⟨arguments, geocoded, endpoint, read⟩ := permitted.2.2
  have rule := ((positioned.disciplined index call located).1.suffix suffix).1
  obtain ⟨settings, ⟨toldAt, told⟩, demanded⟩ := rule (by simp [Origin.initiates, endpoint])
  obtain ⟨newer, before, split⟩ := List.append_of_mem
    (suffix.subset (List.mem_cons_of_mem _ told))
  have enforced : settings.enforceSignerLocation = true :=
    positioned.enforced index call _ before located ⟨newer, split.symm⟩
  obtain ⟨given, rfl⟩ := Option.isSome_iff_exists.mp (demanded enforced)
  have starts : call.origin.positioned lib = true :=
    positioned.starts index call _ earlier located suffix
  exact ⟨given, shown given rfl, started_real ⟨arguments, geocoded, endpoint, read⟩ starts⟩

/-- In every such run a Signed request has a real position. -/
theorem signed_position_real (masters : Masters) (now : Instant) (zone : Int)
    (labels : List ServerLabel) (world : ServerWorld)
    (keeps : Along (body lib) (fun world label => keepsPositions lib world label = true)
      (installed masters now zone) labels)
    (reached : run (body lib) (installed masters now zone) labels = some world)
    (name : String) (row : SigningRequest)
    (found : world.data.requests.lookup name = some row) (signed : row.status = .signed) :
    ∃ location, row.signerLocation = some location ∧ location.real = true := by
  obtain ⟨traced, positioned⟩ := run_traced (Positioned lib)
    (positioned_installed masters now zone)
    (fun _ _ _ traced positioned met stepped => positioned_step traced positioned met stepped)
    keeps reached
  obtain ⟨signing⟩ := traced.signing found signed
  obtain ⟨loadedAt, loaded⟩ := signing.loaded
  have begun := positioned.begun signing.index _ _ loadedAt ⟨signing.call, signing.located,
    signing.suffix.subset (List.mem_cons_of_mem _ loaded)⟩
  rw [signing.request] at begun
  exact positioned.real traced begun found

/-! ### Two signings with coordinates -/

def enforcingMasters : Masters :=
  { sampleMasters with
    settings := { sampleMasters.settings with enforceSignerLocation := true } }

/-- The outside of a signing whose coordinates have no address. -/
def unaddressedOracle (sessionId file : String) : Oracle :=
  { sampleOracle sessionId file with
    given := fun
      | .reverseGeocode .. => some ⟨none, none, false⟩
      | operation => (sampleOracle sessionId file).given operation }

/-- Alice signs, and the browser sends these coordinates. -/
def locatedSigning (lat lng : PyFloat) : List ServerLabel :=
  .move (.createRequest "SR-1" sampleRequest) ::
    (served 0 ⟨sampleUser "alice", .initiate { sampleInitiate with
        signerLat := some (.number lat)
        signerLng := some (.number lng) }⟩ 27 (unaddressedOracle "S-1" "") ++
      served 1 ⟨sampleUser "alice", .finalize (sampleFinalize "S-1")⟩ 32
        (unaddressedOracle "" "F-1"))

def enforcesLocation (world : ServerWorld) (_ : ServerLabel) : Bool :=
  world.data.masters.settings.enforceSignerLocation

theorem signed_position_sample :
    ∃ world row location,
      run (body sampleLibraries) (installed enforcingMasters 0 0)
        (locatedSigning (.finite 19) (.finite 73)) = some world ∧
      world.data.requests.lookup "SR-1" = some row ∧ row.status = .signed ∧
      row.signerLocation = some location ∧ location.real = true := by
  have keeps : alongCheck (body sampleLibraries) (keepsPositions sampleLibraries)
      (installed enforcingMasters 0 0) (locatedSigning (.finite 19) (.finite 73)) = true := by
    decide +kernel
  have ends : ((run (body sampleLibraries) (installed enforcingMasters 0 0)
      (locatedSigning (.finite 19) (.finite 73))).bind fun world =>
        (world.data.requests.lookup "SR-1").map SigningRequest.status) = some .signed := by
    decide +kernel
  simp only [Option.bind_eq_some_iff, Option.map_eq_some_iff] at ends
  obtain ⟨world, reached, row, found, signed⟩ := ends
  obtain ⟨location, stored, real⟩ := signed_position_real enforcingMasters 0 0
    (locatedSigning (.finite 19) (.finite 73)) world (along_check (body sampleLibraries) keeps)
    reached "SR-1" row found signed
  exact ⟨world, row, location, reached, found, signed, stored, real⟩

/-- The location is enforced, and a request is signed at 999 degrees north. -/
theorem signed_off_the_map :
    ∃ world row location,
      Along (body sampleLibraries) (fun world label => enforcesLocation world label = true)
        (installed enforcingMasters 0 0) (locatedSigning (.finite 999) (.finite 0)) ∧
      run (body sampleLibraries) (installed enforcingMasters 0 0)
        (locatedSigning (.finite 999) (.finite 0)) = some world ∧
      world.data.requests.lookup "SR-1" = some row ∧ row.status = .signed ∧
      row.signerLocation = some location ∧ location.lat = .finite 999 ∧
      location.real = false := by
  have enforces : alongCheck (body sampleLibraries) enforcesLocation
      (installed enforcingMasters 0 0) (locatedSigning (.finite 999) (.finite 0)) = true := by
    decide +kernel
  have ends : ((run (body sampleLibraries) (installed enforcingMasters 0 0)
      (locatedSigning (.finite 999) (.finite 0))).bind fun world =>
        (world.data.requests.lookup "SR-1").bind fun row =>
          row.signerLocation.map fun location => row.status == .signed &&
            location.lat == .finite 999 && !location.real) = some true := by
    decide +kernel
  simp only [Option.bind_eq_some_iff, Option.map_eq_some_iff, Bool.and_eq_true, beq_iff_eq,
    Bool.not_eq_true'] at ends
  obtain ⟨world, reached, row, found, location, stored, ⟨signed, lat⟩, unreal⟩ := ends
  exact ⟨world, row, location, along_check (body sampleLibraries) enforces, reached, found,
    signed, stored, lat, unreal⟩

end DscSigning
