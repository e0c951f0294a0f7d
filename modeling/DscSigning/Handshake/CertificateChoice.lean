/-
The certificate the bridge is told to use.

`initiate` stores the certificate it was given with the session, and its answer
names a fingerprint by which the bridge looks for the certificate on the token.
-/

import DscSigning.Server.Preparation
import DscSigning.Server.Provenance
import DscSigning.Bridge.Tokens

namespace DscSigning

open Interaction Engine

/-- Some token shows the certificate without a login. -/
def Bridge.Holds (bridge : Bridge.Libraries) (modules : List Bridge.Module) (certDer : Bytes) :
    Prop :=
  certDer ≠ [] ∧ (bridge.parseCertificate certDer).isSome = true ∧
    ∃ ctx ∈ modules, ∃ slot ∈ ctx.slots.getD [], slot.openSession = none ∧
      ∃ object ∈ slot.certificates false, object.value = .ok certDer

/-- `expected_fingerprint` as Go decodes it: `null` leaves the string empty. -/
def relayed (expected : Text) : String := expected.getD ""

/-- Wherever the certificate is on a token, the bridge finds one with its fingerprint. -/
def Leads (bridge : Bridge.Libraries) (fingerprint : String) (certDer : Bytes) : Prop :=
  ∀ modules, Bridge.Holds bridge modules certDer →
    ∃ cert id, Bridge.findCertByFingerprint bridge modules fingerprint = some (cert, id) ∧
      cert.fingerprintSHA256 = bridge.fingerprint certDer

variable {lib : Libraries} {bridge : Bridge.Libraries}

theorem certInfo_fingerprint {slot : Bridge.Slot} {serial : String}
    {object : Bridge.CertificateObject} {certDer : Bytes} (value : object.value = .ok certDer)
    (nonempty : certDer ≠ []) (parsable : (bridge.parseCertificate certDer).isSome = true) :
    ∃ cert, Bridge.certInfo bridge slot serial object = some cert ∧
      cert.fingerprintSHA256 = bridge.fingerprint certDer := by
  obtain ⟨parsed, parses⟩ := Option.isSome_iff_exists.mp parsable
  simp only [Bridge.certInfo, value, nonempty, if_false, parses, Option.map_some]
  exact ⟨_, rfl, rfl⟩

/-- A certificate is found by its own fingerprint. -/
theorem fingerprint_leads (certDer : Bytes) :
    Leads bridge (bridge.fingerprint certDer) certDer := by
  rintro modules ⟨nonempty, parsable, ctx, loaded, slot, present, opens, object, listed, value⟩
  have shown : ((Bridge.slotCerts bridge slot).find? fun cert =>
      cert.fingerprintSHA256 == bridge.fingerprint certDer).isSome = true := by
    obtain ⟨cert, info, same⟩ := certInfo_fingerprint value nonempty parsable
    rw [List.find?_isSome]
    refine ⟨cert, ?_, by simp [same]⟩
    simp only [Bridge.slotCerts, opens]
    exact List.mem_filterMap.mpr ⟨object, listed, info⟩
  have found : (Bridge.findCertByFingerprint bridge modules
      (bridge.fingerprint certDer)).isSome = true := by
    simp only [Bridge.findCertByFingerprint, List.findSome?_isSome_iff, Option.isSome_map]
    exact ⟨ctx, loaded, slot, present, shown⟩
  obtain ⟨⟨cert, id⟩, located⟩ := Option.isSome_iff_exists.mp found
  refine ⟨cert, id, located, ?_⟩
  obtain ⟨other, _, onModule⟩ := List.exists_of_findSome?_eq_some located
  obtain ⟨there, _, onSlot⟩ := List.exists_of_findSome?_eq_some onModule
  obtain ⟨chosen, matches', same⟩ := Option.map_eq_some_iff.mp onSlot
  cases same
  simpa using List.find?_some matches'

/-- The answer of `initiate` leads to the certificate of its session exactly
when the profile has a registered fingerprint. -/
theorem expected_fingerprint_iff (masters : Masters) (now : Instant) (zone : Int)
    (labels : List ServerLabel) (world : ServerWorld) (index : Nat) (call : ServerCall)
    (response : InitiateResponse) (agreed : bridge.sha256 = lib.sha256)
    (digest : ∀ data, (lib.sha256 data).length = 32)
    (reached : run (body lib) (installed masters now zone) labels = some world)
    (located : world.calls[index]? = some call)
    (answered : call.phase = .ended (.ok (.initiated response))) :
    ∃ arguments row profile session, call.origin.endpoint = .initiate arguments ∧
      Preparation lib arguments row profile call.trace session ∧
      StoredBy world index response.sessionId session ∧
      (response.expectedCertFingerprint = some (lib.sha256Hex session.certDer) ∧
          Leads bridge (relayed response.expectedCertFingerprint) session.certDer ↔
        profile.certificateFingerprint.given = true) := by
  have disciplined := (run_warranted reached index call located).2
  simp only [answered] at disciplined
  obtain ⟨arguments, row, profile, session, endpoint, ⟨stamp, stored⟩, preparation, expected, _⟩ :=
    disciplined response rfl
  refine ⟨arguments, row, profile, session, endpoint, preparation,
    ⟨stamp, call, located, stored⟩, ?_⟩
  rw [expected]
  constructor
  · rintro ⟨same, _⟩
    rw [same]
    refine hex_given fun empty => ?_
    have size := digest session.certDer
    rw [empty] at size
    cases size
  · intro given
    have registered := preparation.registered given
    refine ⟨registered, ?_⟩
    have same : relayed profile.certificateFingerprint = bridge.fingerprint session.certDer := by
      rw [registered, Bridge.Libraries.fingerprint, agreed]
      rfl
    rw [same]
    exact fingerprint_leads session.certDer

/-! ### A registered and an unregistered profile -/

/-- SHA-256 on what the sample runs hash, and 32 bytes for everything else. -/
def sampleSha256 : Bytes → Bytes := knownSha256 fun _ => List.replicate 32 0

def hashingLibraries : Libraries := { sampleLibraries with sha256 := sampleSha256 }

def sampleBridge : Bridge.Libraries :=
  { sha256 := sampleSha256
    hmacSha256 := fun key data => key ++ data
    parseCertificate := fun der => some
      { subjectCN := "A Signer"
        subjectFull := "CN=A Signer"
        issuerCN := "A CA"
        serial := "1"
        notBefore := "2026-01-01T00:00:00Z"
        notAfter := "2028-01-01T00:00:00Z"
        keyUsage := ["digital_signature"]
        publicKey := ⟨der⟩ }
    signatureValue := fun signature => signature.data
    errorText := fun code => toString code }

/-- A token with the certificate of the sample signing. -/
def sampleToken : List Bridge.Module :=
  [{ path := "/usr/lib/token.so"
     slots := some
      [{ number := 0
         info := some ("Token", "01")
         openSession := none
         login := fun _ => none
         objects := [.certificate ⟨.ok [1, 2, 3], false⟩] }] }]

def initiated (call : ServerCall) : Option InitiateResponse :=
  match call.phase with
  | .ended (.ok (.initiated response)) => some response
  | _ => none

theorem initiated_phase {call : ServerCall} {response : InitiateResponse}
    (answered : initiated call = some response) :
    call.phase = .ended (.ok (.initiated response)) := by
  simp only [initiated] at answered
  split at answered
  · rename_i phase
    rw [phase, Option.some.inj answered]
  · cases answered

def firstSigning : List ServerLabel :=
  .move (.createRequest "SR-1" sampleRequest) ::
    served 0 ⟨sampleUser "alice", .initiate sampleInitiate⟩ 24 (sampleOracle "S-1" "")

theorem sampleSha256_length (data : Bytes) : (sampleSha256 data).length = 32 := by
  unfold sampleSha256 knownSha256
  split
  · rfl
  · split
    · rfl
    · split
      · rfl
      · rfl

theorem expected_fingerprint_registered :
    ∃ world call response,
      run (body hashingLibraries)
        (installed (registeredMasters (some (hex (sampleSha256 [1, 2, 3])))) 0 0) firstSigning =
          some world ∧
      world.calls[0]? = some call ∧ call.phase = .ended (.ok (.initiated response)) ∧
      ∃ arguments row profile session, call.origin.endpoint = .initiate arguments ∧
        Preparation hashingLibraries arguments row profile call.trace session ∧
        StoredBy world 0 response.sessionId session ∧
        (response.expectedCertFingerprint = some (hashingLibraries.sha256Hex session.certDer) ∧
            Leads sampleBridge (relayed response.expectedCertFingerprint) session.certDer ↔
          profile.certificateFingerprint.given = true) := by
  have ends : ((run (body hashingLibraries)
      (installed (registeredMasters (some (hex (sampleSha256 [1, 2, 3])))) 0 0)
      firstSigning).bind fun world =>
        (world.calls[0]?).bind fun call => (initiated call).map fun _ => true) = some true := by
    decide +kernel
  simp only [Option.bind_eq_some_iff, Option.map_eq_some_iff] at ends
  obtain ⟨world, reached, call, located, response, answered, _⟩ := ends
  exact ⟨world, call, response, reached, located, initiated_phase answered,
    expected_fingerprint_iff (registeredMasters (some (hex (sampleSha256 [1, 2, 3])))) 0 0
      firstSigning world 0 call response rfl sampleSha256_length reached located
      (initiated_phase answered)⟩

/-- Without a registered fingerprint the answer names none, and the bridge does
not find the certificate that the session was built for. -/
theorem unregistered_fingerprint_lost :
    ∃ world call response stored,
      run (body hashingLibraries) (installed (registeredMasters none) 0 0) firstSigning =
        some world ∧
      world.calls[0]? = some call ∧ call.phase = .ended (.ok (.initiated response)) ∧
      world.shared.sessions.lookup response.sessionId = some stored ∧
      Bridge.Holds sampleBridge sampleToken stored.1.certDer ∧
      response.expectedCertFingerprint ≠ some (hashingLibraries.sha256Hex stored.1.certDer) ∧
      Bridge.findCertByFingerprint sampleBridge sampleToken
        (relayed response.expectedCertFingerprint) = none := by
  have ends : ((run (body hashingLibraries) (installed (registeredMasters none) 0 0)
      firstSigning).bind fun world =>
        (world.calls[0]?).bind fun call => (initiated call).bind fun response =>
          (world.shared.sessions.lookup response.sessionId).map fun stored =>
            response.expectedCertFingerprint == none && stored.1.certDer == [1, 2, 3]) =
      some true := by
    decide +kernel
  simp only [Option.bind_eq_some_iff, Option.map_eq_some_iff, Bool.and_eq_true, beq_iff_eq] at ends
  obtain ⟨world, reached, call, located, response, answered, stored, cached, unnamed, certificate⟩ :=
    ends
  refine ⟨world, call, response, stored, reached, located, initiated_phase answered, cached, ?_, ?_,
    ?_⟩
  · rw [certificate]
    exact ⟨by simp, rfl, _, List.mem_singleton_self _, _, List.mem_singleton_self _, rfl, _,
      List.mem_singleton_self _, rfl⟩
  · rw [unnamed]
    simp
  · rw [unnamed]
    decide

end DscSigning
