/-
Which certificate a Signed request is bound to.

`initiate` compares the certificate it is given with the fingerprint of the
profile, and `finalize` the one it is given; the second comparison is skipped
when nothing is presented.
-/

import DscSigning.Server.Preparation
import DscSigning.Server.Provenance

namespace DscSigning

open Interaction Engine

/-! ### Profiles of requests -/

/-- The request and the profile that an answer names. -/
def profiled : ServerEvent → Option (String × String)
  | ⟨.findPending _ _, .ok (some row), _⟩ => some (row.name, row.profile)
  | ⟨.getRequest name, .ok row, _⟩ => some (name, row.profile)
  | _ => none

/-- A request keeps the profile that any answer has named. -/
def Profiled (world : ServerWorld) : Prop :=
  ∀ index event name profile, world.Asked index event → profiled event = some (name, profile) →
    ∃ row, world.data.requests.lookup name = some row ∧ row.profile = profile

/-- The database answers with the profile that the request has. -/
theorem profiled_answer {oracle : Oracle} {view : Database} {shared later : Shared}
    {event : ServerEvent}
    (replied : reply oracle view shared event.query = some (event.reply, later))
    {name profile : String} (named : profiled event = some (name, profile)) :
    ∃ row, view.requests.lookup name = some row ∧ row.profile = profile := by
  obtain ⟨operation, result, stamp⟩ := event
  simp only [reply] at replied
  split at replied
  · cases replied
    cases operation <;> cases named
  · cases operation with
    | findPending doctype docname =>
        rcases result with _ | _ | row
        · cases named
        · cases named
        · simp only [answer, Option.some.injEq, Prod.mk.injEq, Except.ok.injEq,
            Option.map_eq_some_iff] at replied
          obtain ⟨⟨entry, there, same⟩, _⟩ := replied
          cases named
          rw [← same]
          exact ⟨entry.2, (Table.mem_select.mp (List.mem_of_getElem? there)).1, rfl⟩
    | getRequest target =>
        cases result with
        | error exn => cases named
        | ok row =>
            cases named
            simp only [answer, Option.some.injEq, Prod.mk.injEq] at replied
            cases found : view.requests.lookup name with
            | none =>
                rw [found] at replied
                cases replied.1
            | some there =>
                rw [found] at replied
                cases replied.1
                exact ⟨row, rfl, rfl⟩
    | _ => cases result <;> cases named

variable {lib : Libraries}

theorem profiled_step {world next : ServerWorld} {label : ServerLabel} (kept : Profiled world)
    (stepped : step (body lib) world label = some next) : Profiled next := by
  intro index event name profile asked named
  refine lasting_step (fun lasting => lasting.profile = profile) stepped ?_
  rcases asked_step (body lib) stepped asked with old | ⟨call, found⟩
  · exact kept index event name profile old named
  · obtain ⟨oracle, replied⟩ := asking_shared (body lib) stepped found
    exact (lasting_view fun lasting => lasting.profile = profile).mp
      (profiled_answer replied named)

/-! ### The registered fingerprint -/

/-- The profile has this certificate registered. -/
structure Registered (masters : Masters) (name fingerprint : String) : Prop where
  named : name ≠ ""
  filled : fingerprint ≠ ""
  fingerprint : ∃ profile, masters.profile name = some profile ∧
    profile.certificateFingerprint = some fingerprint

/-- An answer about the profile shows the registered fingerprint. -/
def Shown (name fingerprint : String) (_ : Origin) (_ : ServerTrace) : ServerEvent → Prop
  | ⟨.getProfile other, .ok profile, _⟩ => other = name →
      profile.certificateFingerprint = some fingerprint
  | ⟨.profileFingerprint other, .ok told, _⟩ => other = name → told = some fingerprint
  | _ => True

theorem shown_asking {world next : ServerWorld} {label : ServerLabel} {name fingerprint : String}
    (registered : Registered world.data.masters name fingerprint)
    (stepped : step (body lib) world label = some next) {index : Nat} {call : ServerCall}
    {event : ServerEvent} (found : asking world label = some (index, call, event)) :
    Shown name fingerprint call.origin call.trace event := by
  obtain ⟨oracle, replied⟩ := asking_shared (body lib) stepped found
  obtain ⟨settings, masters⟩ := view_masters world.data (site.pending call.trace)
  obtain ⟨profile, known, shown⟩ := registered.fingerprint
  obtain ⟨operation, result, stamp⟩ := event
  simp only [reply] at replied
  split at replied
  · obtain ⟨failed, _⟩ := Prod.mk.inj (Option.some.inj replied)
    rw [← failed]
    cases operation <;> trivial
  · cases operation with
    | getProfile other =>
        cases result with
        | error exn => trivial
        | ok told =>
            rintro rfl
            simp only [answer, masters, known, orMissing, Option.some.injEq, Prod.mk.injEq,
              Except.ok.injEq] at replied
            rw [← replied.1, shown]
    | profileFingerprint other =>
        cases result with
        | error exn => trivial
        | ok told =>
            rintro rfl
            simp only [answer, masters, known, Option.bind_some, Option.some.injEq,
              Prod.mk.injEq, Except.ok.injEq] at replied
            rw [← replied.1, shown]
    | _ => cases result <;> trivial

/-- What is known of every call and every request while the profile has the
certificate registered. -/
structure Watched (lib : Libraries) (name fingerprint : String) (world : ServerWorld) : Prop where
  disciplined : world.Disciplined (Warranted lib) (Discloses lib)
  profiles : Profiled world
  shown : world.Heeds (Shown name fingerprint)

theorem watched_step {name fingerprint : String} (world : ServerWorld) (label : ServerLabel)
    (next : ServerWorld) (watched : Watched lib name fingerprint world)
    (registered : Registered world.data.masters name fingerprint)
    (stepped : step (body lib) world label = some next) : Watched lib name fingerprint next :=
  { disciplined := disciplined_step (body lib) body_warranted watched.disciplined stepped
    profiles := profiled_step watched.profiles stepped
    shown := heeds_step (body lib) watched.shown
      (fun _ _ _ found => shown_asking registered stepped found) stepped }

theorem watched_installed (name fingerprint : String) (masters : Masters) (now : Instant)
    (zone : Int) : Watched lib name fingerprint (installed masters now zone) :=
  { disciplined := by
      intro index call located
      cases located
    profiles := fun _ _ _ _ asked => absurd asked not_asked_installed
    shown := by
      intro index call event earlier located
      cases located }

/-- The profile keeps the registered certificate through the run. -/
def keepsRegistered (name fingerprint : String) (world : ServerWorld) (_ : ServerLabel) : Prop :=
  Registered world.data.masters name fingerprint

/-! ### Binding -/

/-- A certificate was sent along with the signature. -/
def Presents (arguments : FinalizeArguments) : Prop :=
  ∃ encoded der, arguments.certDerB64 = some encoded ∧ encoded ≠ "" ∧
    b64decode encoded = .ok der ∧ der ≠ []

/-- The presented certificate has the fingerprint, and the CMS in the stored PDF
was built with it. -/
def Bound (lib : Libraries) (fingerprint : String) {world : ServerWorld} {name : String}
    {row : SigningRequest} (signing : Signing lib world name row) : Prop :=
  ∃ encoded der signerCert chain signature cms,
    signing.arguments.certDerB64 = some encoded ∧ b64decode encoded = .ok der ∧
    lower (lib.sha256Hex der) = lower fingerprint ∧ lib.loadCertificate der = .ok signerCert ∧
    lib.dumpContentInfo (signedData signerCert chain signing.session.signedAttrs signature) =
      .ok cms ∧
    lib.fillWithCms signing.session.preparedPdf signing.session.prepDigest cms =
      .ok signing.file.content

theorem assemble_parts {session : SigningSession} {encoded : String} {chain : Json} {pdf : Bytes}
    (assembled : assemble lib session encoded chain = .ok pdf) :
    ∃ signature signerCert chainCerts cms, b64decode encoded = .ok signature ∧
      lib.loadCertificate session.certDer = .ok signerCert ∧
      chainCertificates lib chain = .ok chainCerts ∧
      lib.dumpContentInfo (signedData signerCert chainCerts session.signedAttrs signature) =
        .ok cms ∧
      lib.fillWithCms session.preparedPdf session.prepDigest cms = .ok pdf := by
  obtain ⟨signature, decoded, assembled⟩ := bind_ok assembled
  obtain ⟨signerCert, loaded, assembled⟩ := bind_ok assembled
  obtain ⟨chainCerts, chained, assembled⟩ := bind_ok assembled
  obtain ⟨_, _, assembled⟩ := bind_ok assembled
  obtain ⟨cms, dumped, filled⟩ := bind_ok assembled
  exact ⟨signature, signerCert, chainCerts, cms, decoded, loaded, chained, dumped, filled⟩

/-- An answer that a call was given shows the registered fingerprint. -/
theorem Watched.answered {name fingerprint : String} {world : ServerWorld}
    (watched : Watched lib name fingerprint world) {index : Nat} {call : ServerCall}
    (located : world.calls[index]? = some call) {event : ServerEvent} (member : event ∈ call.trace) :
    Shown name fingerprint call.origin [] event := by
  obtain ⟨newer, earlier, split⟩ := List.append_of_mem member
  exact watched.shown index call event earlier located ⟨newer, split.symm⟩

/-- The `initiate` that stored a session was shown the profile of the request, and
the certificate of the session is the one registered there. -/
theorem session_profile {world : ServerWorld} (traced : Traced lib world)
    (profiles : Profiled world)
    (disciplined : world.Disciplined (Warranted lib) (Discloses lib)) {creator : Nat}
    {sessionId : String} {session : SigningSession}
    (stored : StoredBy world creator sessionId session) {row : SigningRequest}
    (found : world.data.requests.lookup session.signingRequestName = some row) :
    ∃ owner registered, world.calls[creator]? = some owner ∧ owner.origin.initiates = true ∧
      Answered owner.trace (.getProfile row.profile) registered ∧
      (registered.certificateFingerprint.given = true →
        registered.certificateFingerprint = some (lib.sha256Hex session.certDer)) := by
  obtain ⟨owner, _, ownerAt, _, authorised⟩ := traced.authorised stored
  obtain ⟨stamp, call, located, member⟩ := stored
  rw [ownerAt] at located
  cases located
  obtain ⟨arguments, _, endpoint, _⟩ := authorised
  have initiates : owner.origin.initiates = true := by simp [Origin.initiates, endpoint]
  obtain ⟨earlier, suffix, warranted⟩ := (disciplined creator owner ownerAt).1.of_mem member
  obtain ⟨_, chosen, registered, _, preparation⟩ := warranted initiates
  have older := (List.suffix_cons _ _).trans suffix
  obtain ⟨foundAt, foundIn⟩ := preparation.found.mono older
  obtain ⟨kept, there, same⟩ := profiles creator _ _ _ ⟨owner, ownerAt, foundIn⟩ rfl
  rw [← preparation.request, found] at there
  cases there
  exact ⟨owner, registered, ownerAt, initiates, by rw [same]; exact preparation.told.mono older,
    preparation.registered⟩

/-- The certificate of a session on the profile has the registered fingerprint. -/
theorem Watched.session {name fingerprint : String} {world : ServerWorld}
    (watched : Watched lib name fingerprint world) (traced : Traced lib world)
    (filled : fingerprint ≠ "") {creator : Nat} {sessionId : String} {session : SigningSession}
    (stored : StoredBy world creator sessionId session) {row : SigningRequest}
    (found : world.data.requests.lookup session.signingRequestName = some row)
    (profile : row.profile = name) : fingerprint = lib.sha256Hex session.certDer := by
  obtain ⟨owner, registered, ownerAt, _, ⟨toldAt, toldIn⟩, same⟩ :=
    session_profile traced watched.profiles watched.disciplined stored found
  have shown : registered.certificateFingerprint = some fingerprint :=
    watched.answered ownerAt toldIn profile
  have given : registered.certificateFingerprint.given = true := by
    rw [shown]
    simpa [Text.given] using filled
  have bound := same given
  rw [shown] at bound
  exact Option.some.inj bound

/-- A certificate that `finalize` was sent has passed the comparison. -/
theorem Watched.presented {name fingerprint : String} {world : ServerWorld}
    (watched : Watched lib name fingerprint world) (traced : Traced lib world) (named : name ≠ "")
    (filled : fingerprint ≠ "") (digest : ∀ data, lib.sha256 data ≠ []) {request : String}
    {row : SigningRequest} (signing : Signing lib world request row)
    (found : world.data.requests.lookup request = some row) (profile : row.profile = name)
    {encoded : String} {der : Bytes} (sent : signing.arguments.certDerB64 = some encoded)
    (given : encoded ≠ "") (decoded : b64decode encoded = .ok der) (nonempty : der ≠ []) :
    lower fingerprint = lower (lib.sha256Hex der) := by
  have honours := (watched.disciplined signing.index signing.call signing.located).1
  obtain ⟨session, reqDoc, expected, presented, loaded, told, shown, looked, unmismatched⟩ :=
    (honours.suffix signing.suffix).1 signing.arguments signing.endpoint
  have within := (List.suffix_cons _ _).trans signing.suffix
  -- Both readings of the session give the one that was stored.
  obtain ⟨loadedAt, loadedIn⟩ := loaded.mono within
  obtain ⟨creator, stored⟩ := traced.loaded signing.index _ _ _
    ⟨signing.call, signing.located, loadedIn⟩
  have same : session = signing.session := (traced.creator_unique stored signing.created).2
  rw [same, signing.request] at told
  obtain ⟨toldAt, toldIn⟩ := told.mono within
  obtain ⟨kept, there, onProfile⟩ := watched.profiles signing.index _ _ _
    ⟨signing.call, signing.located, toldIn⟩ rfl
  rw [found] at there
  cases there
  rw [← onProfile, profile] at looked
  obtain ⟨lookedAt, lookedIn⟩ := (looked named).mono within
  have expects : expected = some fingerprint := watched.answered signing.located lookedIn rfl
  have presents : presented = some (lib.sha256Hex der) := by
    have present : Text.given (some encoded) = true := by simpa [Text.given] using given
    simp only [presentedFingerprint, sent, present, if_true, Text.show, decoded, Except.map,
      List.isEmpty_iff, nonempty, if_false, Except.ok.injEq] at shown
    exact shown.symm
  have expectedGiven : Text.given (some fingerprint) = true := by simpa [Text.given] using filled
  have presentedGiven : Text.given (some (lib.sha256Hex der)) = true := hex_given (digest der)
  simpa [fingerprintMismatch, expects, presents, expectedGiven, presentedGiven, Text.show]
    using unmismatched

/-- While a profile has a certificate registered, a Signed request on it is
bound to that certificate exactly when its `finalize` was sent a certificate. -/
theorem signed_certificate_bound_iff (masters : Masters) (now : Instant) (zone : Int)
    (labels : List ServerLabel) (world : ServerWorld) (profile fingerprint : String)
    (ideal : Function.Injective lib.sha256) (digest : ∀ data, lib.sha256 data ≠ [])
    (unparsable : ∀ cert, lib.loadCertificate [] ≠ .ok cert)
    (registered : Registered masters profile fingerprint)
    (keeps : Along (body lib) (keepsRegistered profile fingerprint) (installed masters now zone)
      labels)
    (reached : run (body lib) (installed masters now zone) labels = some world)
    (name : String) (row : SigningRequest)
    (found : world.data.requests.lookup name = some row) (onProfile : row.profile = profile)
    (signed : row.status = .signed) :
    ∃ signing : Signing lib world name row,
      Bound lib fingerprint signing ↔ Presents signing.arguments := by
  obtain ⟨traced, watched⟩ := run_traced (Watched lib profile fingerprint)
    (watched_installed profile fingerprint masters now zone)
    (fun world label next _ watched registered stepped =>
      watched_step world label next watched registered stepped) keeps reached
  obtain ⟨signing⟩ := traced.signing found signed
  refine ⟨signing, ?_, ?_⟩
  · rintro ⟨encoded, der, signerCert, chain, signature, cms, sent, decoded, _, loaded, _⟩
    refine ⟨encoded, der, sent, ?_, decoded, ?_⟩
    · rintro rfl
      cases decoded
      exact unparsable signerCert loaded
    · rintro rfl
      exact unparsable signerCert loaded
  · rintro ⟨encoded, der, sent, given, decoded, nonempty⟩
    have hash := watched.session traced registered.filled signing.created
      (by rw [signing.request, found]) onProfile
    have presented := watched.presented traced registered.named registered.filled digest signing
      found onProfile sent given decoded nonempty
    have same : signing.session.certDer = der := by
      rw [hash, Libraries.sha256Hex, Libraries.sha256Hex, lower_hex, lower_hex] at presented
      exact ideal (hex_inj presented)
    obtain ⟨signature, signerCert, chain, cms, _, loaded, _, dumped, filled⟩ :=
      assemble_parts signing.assembled
    rw [same] at loaded
    exact ⟨encoded, der, signerCert, chain, signature, cms, sent, decoded, presented.symm, loaded,
      dumped, filled⟩

/-! ### A certificate sent and a certificate left out -/

/-- Sample libraries whose SHA-256 has no collisions and which parse no empty certificate. -/
def strictLibraries : Libraries :=
  { sampleLibraries with
    sha256 := knownSha256 fun data => 0 :: data
    loadCertificate := fun der =>
      if der = [] then .error ⟨"ValueError", "Insufficient data"⟩ else .ok ⟨der, [], 1⟩ }

def registeredFingerprint : String := hex (strictLibraries.sha256 [1, 2, 3])

def registeredSite : ServerWorld :=
  installed (registeredMasters (some registeredFingerprint)) 0 0

/-- The data of a digest, by its first byte. -/
def strictPreimage : Bytes → Bytes
  | 0 :: data => data
  | 3 :: _ => [1, 2, 3]
  | 43 :: _ => [9]
  | _ => utf8 "{}"

theorem strictLibraries_injective : Function.Injective strictLibraries.sha256 := by
  refine Function.LeftInverse.injective (g := strictPreimage) fun data => ?_
  simp only [strictLibraries, knownSha256]
  split
  · rename_i same
    rw [same]
    rfl
  · split
    · rename_i same
      rw [same]
      rfl
    · split
      · rename_i same
        rw [same]
        rfl
      · rfl

theorem strictLibraries_nonempty (data : Bytes) : strictLibraries.sha256 data ≠ [] := by
  simp only [strictLibraries, knownSha256]
  split
  · simp
  · split
    · simp
    · split <;> simp

theorem strictLibraries_unparsable (cert : X509) : strictLibraries.loadCertificate [] ≠ .ok cert := by
  simp [strictLibraries]

theorem registeredSite_registered :
    Registered (registeredMasters (some registeredFingerprint)) "P-1" registeredFingerprint :=
  { named := by decide
    filled := by decide +kernel
    fingerprint := ⟨_, rfl, rfl⟩ }

/-- Alice signs, and the browser sends this with the signature as the certificate. -/
def registeredSigning (certDerB64 : String) : List ServerLabel :=
  .move (.createRequest "SR-1" sampleRequest) ::
    (served 0 ⟨sampleUser "alice", .initiate sampleInitiate⟩ 24 (sampleOracle "S-1" "") ++
      served 1 ⟨sampleUser "alice",
        .finalize { sampleFinalize "S-1" with certDerB64 := some certDerB64 }⟩ 32
        (sampleOracle "" "F-1"))

def showsRegistered (world : ServerWorld) (_ : ServerLabel) : Bool :=
  match world.data.masters.profile "P-1" with
  | some profile => profile.certificateFingerprint == some registeredFingerprint
  | none => false

theorem showsRegistered_keeps (world : ServerWorld) (label : ServerLabel)
    (shows_ : showsRegistered world label = true) :
    keepsRegistered "P-1" registeredFingerprint world label := by
  simp only [showsRegistered] at shows_
  split at shows_
  · rename_i profile known
    exact ⟨registeredSite_registered.named, registeredSite_registered.filled, profile, known,
      by simpa using shows_⟩
  · cases shows_

theorem signed_certificate_bound_sent :
    ∃ world row, run (body strictLibraries) registeredSite (registeredSigning "AQID") =
        some world ∧
      world.data.requests.lookup "SR-1" = some row ∧ row.status = .signed ∧
      ∃ signing : Signing strictLibraries world "SR-1" row,
        Bound strictLibraries registeredFingerprint signing ↔ Presents signing.arguments := by
  have keeps : alongCheck (body strictLibraries) showsRegistered registeredSite
      (registeredSigning "AQID") = true := by decide +kernel
  have ends : ((run (body strictLibraries) registeredSite (registeredSigning "AQID")).bind
      fun world => (world.data.requests.lookup "SR-1").map fun row =>
        row.profile == "P-1" && row.status == .signed) = some true := by decide +kernel
  simp only [Option.bind_eq_some_iff, Option.map_eq_some_iff, Bool.and_eq_true, beq_iff_eq] at ends
  obtain ⟨world, reached, row, found, onProfile, signed⟩ := ends
  exact ⟨world, row, reached, found, signed,
    signed_certificate_bound_iff (registeredMasters (some registeredFingerprint)) 0 0
      (registeredSigning "AQID") world "P-1" registeredFingerprint strictLibraries_injective
      strictLibraries_nonempty strictLibraries_unparsable registeredSite_registered
      (along_of_check (body strictLibraries) showsRegistered_keeps
        (along_check (body strictLibraries) keeps)) reached "SR-1" row found onProfile signed⟩

/-- A call that presents no certificate, if it is a finalization at all. -/
def presentsNothing (call : ServerCall) : Bool :=
  match call.origin.endpoint with
  | .finalize arguments => arguments.certDerB64 == some ""
  | _ => true

/-- Nothing is presented, and the request becomes Signed. -/
theorem signed_without_certificate :
    ∃ world row, run (body strictLibraries) registeredSite (registeredSigning "") = some world ∧
      world.data.requests.lookup "SR-1" = some row ∧ row.status = .signed ∧
      row.profile = "P-1" ∧
      Registered world.data.masters "P-1" registeredFingerprint ∧
      ∀ call ∈ world.calls, ∀ arguments, call.origin.endpoint = .finalize arguments →
        arguments.certDerB64 = some "" := by
  have ends : ((run (body strictLibraries) registeredSite (registeredSigning "")).bind
      fun world => (world.data.requests.lookup "SR-1").map fun row =>
        row.status == .signed && row.profile == "P-1" && showsRegistered world (.finish 0) &&
          world.calls.all presentsNothing) = some true := by decide +kernel
  simp only [Option.bind_eq_some_iff, Option.map_eq_some_iff, Bool.and_eq_true, beq_iff_eq,
    List.all_eq_true] at ends
  obtain ⟨world, reached, row, found, ⟨⟨signed, onProfile⟩, shows_⟩, sent⟩ := ends
  refine ⟨world, row, reached, found, signed, onProfile, showsRegistered_keeps world _ shows_, ?_⟩
  intro call member arguments endpoint
  have said := sent call member
  rw [presentsNothing, endpoint] at said
  exact beq_iff_eq.mp said

end DscSigning
