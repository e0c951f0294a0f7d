/-
The SignerInfo that server and bridge build together.

The server declares the algorithms and signs for the digest of the attributes;
the token chooses its mechanism by the type of its key.
-/

import DscSigning.Server.CertificateBinding
import DscSigning.Handshake.CertificateChoice
import DscSigning.Bridge.SigningKey

namespace DscSigning

open Interaction Engine

/-! ### DigestInfo -/

/-- A DER value of fewer than 128 bytes behind its tag. -/
def derShort (tag : UInt8) (content : Bytes) : Bytes :=
  tag :: UInt8.ofNat content.length :: content

/-- The object identifiers of the digest algorithms. -/
def digestOid : String → Option Bytes
  | "sha256" => some [0x60, 0x86, 0x48, 0x01, 0x65, 0x03, 0x04, 0x02, 0x01]
  | "sha384" => some [0x60, 0x86, 0x48, 0x01, 0x65, 0x03, 0x04, 0x02, 0x02]
  | _ => none

/-- `SEQUENCE { SEQUENCE { OBJECT IDENTIFIER, NULL }, OCTET STRING }` -/
def digestInfo (oid digest : Bytes) : Bytes :=
  derShort 0x30 (derShort 0x30 (derShort 0x06 oid ++ derShort 0x05 []) ++ derShort 0x04 digest)

theorem digestInfo_sha256 {digest : Bytes} (size : digest.length = 32) :
    digestInfo [0x60, 0x86, 0x48, 0x01, 0x65, 0x03, 0x04, 0x02, 0x01] digest =
      Bridge.sha256DigestInfoPrefix ++ digest := by
  simp [digestInfo, derShort, size, Bridge.sha256DigestInfoPrefix]

/-! ### Verification -/

section Verification

variable (lib : Libraries) (bridge : Bridge.Libraries) (hash : String → Bytes → Bytes)
  (byteRange : Bytes → PreparedDigest → Bytes)

/-- The signature value is in the encoding and the algorithm that are declared,
over the encoded attributes. -/
structure SignatureFits (info : SignerInfo) (key : Bridge.PublicKey) : Prop where
  algorithm : info.signatureAlgorithm = "rsassa_pkcs1v15"
  value : ∃ oid, digestOid info.digestAlgorithm = some oid ∧
    info.signature = bridge.signatureValue
      ⟨key, .rsaPkcs, digestInfo oid (hash info.digestAlgorithm info.signedAttrs)⟩

/-- The SignerInfo verifies under the key: its attributes carry the digest of
the signed byte range, and its signature is one of the attributes. -/
structure Verifies (info : SignerInfo) (pdf : Bytes) (prepDigest : PreparedDigest)
    (key : Bridge.PublicKey) : Prop where
  messageDigest : ∃ attributes, info.signedAttrs = lib.dumpAttributes attributes ∧
    attributes.messageDigest = hash info.digestAlgorithm (byteRange pdf prepDigest)
  signature : SignatureFits bridge hash info key

end Verification

/-! ### The round of a signing -/

/-- The body `callAgent` sends for an answer of `initiate`. -/
def callAgent (initiated : InitiateResponse) (pin : String) : Bridge.SignRequest :=
  { sessionID := initiated.sessionId
    hashToSign := initiated.hashToSign
    hashAlgorithm := initiated.hashAlgorithm
    expectedFingerprint := relayed initiated.expectedCertFingerprint
    timestamp := initiated.timestamp
    nonce := initiated.nonce
    hmac := initiated.hmac
    pin := pin }

/-- The first private key on the slot of the fingerprint is an RSA key, and the
one of the certificate. -/
def SignsRsa (bridge : Bridge.Libraries) (modules : List Bridge.Module) (fingerprint : String)
    (certDer : Bytes) : Prop :=
  ∃ cert id slot key rest parsed,
    Bridge.findCertByFingerprint bridge modules fingerprint = some (cert, id) ∧
    Bridge.slotAt modules id = some slot ∧ slot.privateKeys.head? = some key ∧
    key.keyType = .ok (0 :: rest) ∧ bridge.parseCertificate certDer = some parsed ∧
    key.publicKey = parsed.publicKey

/-- One signing from `initiate` through `/v1/sign` to `finalize`: what the first
answered was sent to the agent, and what the agent answered was given to the last. -/
structure Round {lib : Libraries} {bridge : Bridge.Libraries} {world : ServerWorld} {name : String}
    {row : SigningRequest} (signing : Signing lib world name row)
    (agent : Bridge.BridgeWorld bridge) (modules : List Bridge.Module)
    (response : InitiateResponse) : Prop where
  initiated : ∃ call, world.calls[signing.creator]? = some call ∧
    call.phase = .ended (.ok (.initiated response))
  signed : ∃ (index : Nat) (call : (Bridge.bridge bridge).Call Bridge.Origin Bridge.Response)
    (request : Bridge.HttpRequest) (pin : String) (answer : Bridge.Response)
    (signed : Bridge.SignResponse), agent.calls[index]? = some call ∧
    call.origin = .http request ∧ request.signBody = some (callAgent response pin) ∧
    call.phase = .ended (.ok answer) ∧ answer.body = .signed signed ∧
    Bridge.Steady bridge modules call.trace ∧
    signing.arguments.signatureBytesB64 = signed.signatureBytesB64

/-- pyHanko digests the byte range with the algorithm it is told. -/
def DigestsByteRange (hash : String → Bytes → Bytes) (byteRange : Bytes → PreparedDigest → Bytes)
    (trace : ServerTrace) : Prop :=
  ∀ spec pdf prepared prepDigest,
    Answered trace (.digestForSigning spec pdf) (prepared, prepDigest) →
    prepDigest.documentDigest = hash spec.mdAlgorithm (byteRange prepared prepDigest)

/-- Of the answer of `initiate` the session that it stored, when the session is known. -/
theorem initiated_session {lib : Libraries} {masters : Masters} {now : Instant} {zone : Int}
    {labels : List ServerLabel} {world : ServerWorld}
    (reached : run (body lib) (installed masters now zone) labels = some world) {index : Nat}
    {call : ServerCall} {response : InitiateResponse} (located : world.calls[index]? = some call)
    (answered : call.phase = .ended (.ok (.initiated response))) {sessionId : String}
    {session : SigningSession} (stored : StoredBy world index sessionId session) :
    ∃ arguments row profile, Preparation lib arguments row profile call.trace session ∧
      response.hashAlgorithm = session.hashAlgorithm ∧
      response.hashToSign = lib.sha256Hex session.signedAttrs := by
  have disciplined := (run_warranted reached index call located).2
  simp only [answered] at disciplined
  obtain ⟨arguments, row, profile, other, _, ⟨stamp, fresh⟩, preparation, _, algorithm, hashed⟩ :=
    disciplined response rfl
  obtain ⟨traced, _⟩ := run_traced (fun _ => True) trivial (fun _ _ _ _ _ _ _ => trivial)
    (along_always (body lib)) reached
  obtain ⟨_, rfl⟩ := traced.stores_once stored ⟨stamp, call, located, fresh⟩
  exact ⟨arguments, row, profile, preparation, algorithm, hashed⟩

/-- The agent signs nothing but a sha256 digest, so the session of a round has that algorithm. -/
theorem Round.answer {lib : Libraries} {bridge : Bridge.Libraries} {world : ServerWorld}
    {name : String} {row : SigningRequest} {signing : Signing lib world name row}
    {agent : Bridge.BridgeWorld bridge} {modules : List Bridge.Module} {response : InitiateResponse}
    (round : Round signing agent modules response) {began : Int} {tokens : List Bridge.Module}
    {agentLabels : List (Bridge.BridgeLabel bridge)}
    (ran : run (Bridge.body bridge) (Bridge.started bridge began tokens) agentLabels = some agent) :
    ∃ req signed, req.hashToSign = response.hashToSign ∧
      req.hashAlgorithm = response.hashAlgorithm ∧
      req.expectedFingerprint = relayed response.expectedCertFingerprint ∧
      signing.arguments.signatureBytesB64 = signed.signatureBytesB64 ∧
      Nonempty (Bridge.Answer bridge modules req signed) := by
  obtain ⟨index, call, request, pin, answer, signed, located, origin, sent, ended, body, steady,
    given⟩ := round.signed
  exact ⟨callAgent response pin, signed, rfl, rfl, rfl, given,
    Bridge.run_answer ran located origin sent ended body steady⟩

theorem decode_relayed {encoded : String} {value signature : Bytes}
    (given : encoded = Base64.encode value) (decoded : b64decode encoded = .ok signature) :
    signature = value := by
  rw [given, b64decode, Base64.decode_encode] at decoded
  exact (Except.ok.inj decoded).symm

theorem mechanismFor_rsa {keyType : UInt8} {hashBytes data : Bytes}
    (chosen : Bridge.mechanismFor keyType hashBytes = some (.rsaPkcs, data)) : keyType = 0 := by
  unfold Bridge.mechanismFor at chosen
  split at chosen
  · assumption
  · split at chosen <;> cases chosen

/-- The SignerInfo in the PDF of a round verifies under the certificate of its
session exactly when the key that the token signs with is the one of that
certificate, and an RSA key. -/
theorem signer_info_verifies_iff {lib : Libraries} {bridge : Bridge.Libraries}
    (hash : String → Bytes → Bytes) (byteRange : Bytes → PreparedDigest → Bytes)
    (ideal : Function.Injective bridge.signatureValue) (sha256 : hash "sha256" = lib.sha256)
    (size : ∀ data, (lib.sha256 data).length = 32)
    (fills : ∀ prepared prepDigest cms pdf, lib.fillWithCms prepared prepDigest cms = .ok pdf →
      byteRange pdf prepDigest = byteRange prepared prepDigest)
    (masters : Masters) (now : Instant) (zone : Int) (labels : List ServerLabel)
    (world : ServerWorld) (began : Int) (tokens modules : List Bridge.Module)
    (agentLabels : List (Bridge.BridgeLabel bridge)) (agent : Bridge.BridgeWorld bridge)
    (reached : run (body lib) (installed masters now zone) labels = some world)
    (digests : ∀ call ∈ world.calls, DigestsByteRange hash byteRange call.trace)
    (ran : run (Bridge.body bridge) (Bridge.started bridge began tokens) agentLabels = some agent)
    (name : String) (row : SigningRequest) (signing : Signing lib world name row)
    (response : InitiateResponse) (round : Round signing agent modules response) :
    ∃ signerCert chain signature cms,
      lib.loadCertificate signing.session.certDer = .ok signerCert ∧
      lib.dumpContentInfo (signedData signerCert chain signing.session.signedAttrs signature) =
        .ok cms ∧
      lib.fillWithCms signing.session.preparedPdf signing.session.prepDigest cms =
        .ok signing.file.content ∧
      ((∃ parsed, bridge.parseCertificate signing.session.certDer = some parsed ∧
          Verifies lib bridge hash byteRange
            (signedData signerCert chain signing.session.signedAttrs signature).signerInfo
            signing.file.content signing.session.prepDigest parsed.publicKey) ↔
        SignsRsa bridge modules (relayed response.expectedCertFingerprint)
          signing.session.certDer) := by
  obtain ⟨creator, located, answered⟩ := round.initiated
  obtain ⟨_, _, _, preparation, algorithm, hashed⟩ :=
    initiated_session reached located answered signing.created
  obtain ⟨req, signed, sameHash, sameAlgorithm, sameFingerprint, given, ⟨history⟩⟩ :=
    round.answer ran
  obtain ⟨signature, signerCert, chain, cms, decoded, loaded, _, dumped, filled⟩ :=
    assemble_parts signing.assembled
  have value : signature = bridge.signatureValue history.signature :=
    decode_relayed (given.trans history.signatureBytes) decoded
  have declared : signing.session.hashAlgorithm = "sha256" := by
    rw [← algorithm, ← sameAlgorithm]
    refine history.algorithm.resolve_left ?_
    rw [sameAlgorithm, algorithm]
    exact preparation.algorithm
  have hashBytes : history.hashBytes = lib.sha256 signing.session.signedAttrs := by
    have read := history.decoded
    rw [sameHash, hashed, Libraries.sha256Hex, Bridge.hexDecode_hex] at read
    exact (Option.some.inj read).symm
  have info : digestInfo [0x60, 0x86, 0x48, 0x01, 0x65, 0x03, 0x04, 0x02, 0x01]
      (hash "sha256" signing.session.signedAttrs) =
        Bridge.sha256DigestInfoPrefix ++ history.hashBytes := by
    rw [sha256, hashBytes]
    exact digestInfo_sha256 (size _)
  refine ⟨signerCert, chain, signature, cms, loaded, dumped, filled, ?_⟩
  rw [← sameFingerprint]
  obtain ⟨rest, typed⟩ := history.made.typed
  constructor
  · rintro ⟨parsed, parses, verifies⟩
    obtain ⟨oid, named, made⟩ := verifies.signature.value
    have same : history.signature = ⟨parsed.publicKey, .rsaPkcs,
        digestInfo oid (hash "sha256" signing.session.signedAttrs)⟩ := by
      refine ideal ?_
      rw [← value]
      exact made
    have chosen := history.made.chosen
    rw [same] at chosen
    rw [mechanismFor_rsa chosen] at typed
    refine ⟨history.cert, history.id, history.slot, history.key, rest, parsed, history.found,
      history.made.located, history.made.first, typed, parses, ?_⟩
    rw [← history.made.signer, same]
  · rintro ⟨cert, id, slot, key, more, parsed, found, there, first, rsa, parses, owns⟩
    rw [history.found] at found
    cases found
    rw [history.made.located] at there
    cases there
    rw [history.made.first] at first
    cases first
    rw [typed] at rsa
    obtain ⟨isRsa, _⟩ := List.cons.inj (Except.ok.inj rsa)
    have chosen := history.made.chosen
    simp only [Bridge.mechanismFor, isRsa, if_true, Option.some.injEq, Prod.mk.injEq] at chosen
    refine ⟨parsed, parses, ?_, rfl, _, rfl, ?_⟩
    · obtain ⟨spec, pdf, told, digested⟩ := preparation.digested
      obtain ⟨signingTime, attributes⟩ := preparation.attributes
      refine ⟨_, attributes, ?_⟩
      rw [fills _ _ _ _ filled,
        digests creator (List.mem_of_getElem? located) _ _ _ _ digested, told, declared]
      rfl
    · simp only [signedData]
      rw [info, value, chosen.2, chosen.1, ← owns, ← history.made.signer]

/-! ### An RSA key and an elliptic-curve key -/

def roundBridge : Bridge.Libraries :=
  { Bridge.plainLibraries with sha256 := sampleSha256 }

/-- A token with the certificate of the sample signing and its key. -/
def roundToken (keyType : UInt8) : List Bridge.Module :=
  Bridge.tokenWith [.certificate ⟨.ok [1, 2, 3], false⟩, Bridge.keyOf [1, 2, 3] keyType]

def roundMasters : Masters := registeredMasters (some (hex (sampleSha256 [1, 2, 3])))

/-- The byte range of every PDF is empty. -/
def roundOracle (sessionId file : String) : Oracle :=
  { sampleOracle sessionId file with
    given := fun
      | .digestForSigning .. => some ([1, 2, 3], ⟨sampleSha256 [], 1, 2⟩)
      | operation => (sampleOracle sessionId file).given operation }

/-- What the key of the type makes of the attributes of the sample signing. -/
def roundSignature (mechanism : Bridge.Mechanism) (prefix_ : Bytes) : Bytes :=
  roundBridge.signatureValue ⟨⟨[1, 2, 3]⟩, mechanism, prefix_ ++ sampleSha256 (sampleSha256 [])⟩

def roundSigning (signature : Bytes) : List ServerLabel :=
  .move (.createRequest "SR-1" sampleRequest) ::
    (served 0 ⟨sampleUser "alice", .initiate sampleInitiate⟩ 24 (roundOracle "S-1" "") ++
      served 1 ⟨sampleUser "alice", .finalize
        { sampleFinalize "S-1" with signatureBytesB64 := Base64.encode signature }⟩ 32
        (roundOracle "" "F-1"))

def agentRound (response : InitiateResponse) : List (Bridge.BridgeLabel roundBridge) :=
  Bridge.served roundBridge 0 (.http Bridge.pairing) 7 Bridge.agreeing ++
    Bridge.served roundBridge 1 (.http (Bridge.signing (callAgent response "1234"))) 10
      Bridge.agreeing

/-- Only the first call stores sessions, and only for the sample certificate. -/
def storesSample (world : ServerWorld) : Bool :=
  (world.calls.drop 1).all (fun call => !call.trace.any storesSession) &&
    world.calls.all fun call => call.trace.all fun event =>
      match event with
      | ⟨.storeSession _ session, _, _⟩ => session.certDer == [1, 2, 3]
      | ⟨.digestForSigning _ _, .ok answer, _⟩ => answer.2.documentDigest == sampleSha256 []
      | _ => true

/-- Both runs go through, and the agent answers with this signature. -/
def roundChecked (keyType : UInt8) (signature : Bytes) : Option Bool :=
  (run (body hashingLibraries) (installed roundMasters 0 0) (roundSigning signature)).bind fun world =>
    (world.calls[0]?).bind fun call => (initiated call).bind fun response =>
      (world.data.requests.lookup "SR-1").bind fun row =>
        (run (Bridge.body roundBridge) (Bridge.started roundBridge 0 (roundToken keyType))
          (agentRound response)).bind fun agent =>
            (agent.calls[1]?).bind fun second =>
              (Bridge.answeredSignature second).map fun signed =>
                row.status == .signed && row.signatureBytes == some (Base64.encode signature) &&
                  signed.signatureBytesB64 == Base64.encode signature && storesSample world &&
                  second.origin == .http (Bridge.signing (callAgent response "1234"))

/-- The hash of every algorithm, and the byte range of every PDF. -/
def roundHash (_ : String) : Bytes → Bytes := sampleSha256

def roundByteRange (_ : Bytes) (_ : PreparedDigest) : Bytes := []

theorem roundBridge_ideal : Function.Injective roundBridge.signatureValue :=
  Bridge.plainLibraries_ideal

theorem storesSample_digests {world : ServerWorld} (stores : storesSample world = true)
    {call : ServerCall} (member : call ∈ world.calls) :
    DigestsByteRange roundHash roundByteRange call.trace := by
  simp only [storesSample, Bool.and_eq_true, List.all_eq_true] at stores
  intro spec pdf prepared prepDigest told
  obtain ⟨stamp, asked⟩ := told
  exact beq_iff_eq.mp (stores.2 call member _ asked)

theorem storesSample_stored {world : ServerWorld} (stores : storesSample world = true)
    {index : Nat} {sessionId : String} {session : SigningSession}
    (stored : StoredBy world index sessionId session) : index = 0 ∧ session.certDer = [1, 2, 3] := by
  simp only [storesSample, Bool.and_eq_true, List.all_eq_true] at stores
  obtain ⟨stamp, call, located, asked⟩ := stored
  refine ⟨?_, beq_iff_eq.mp (stores.2 call (List.mem_of_getElem? located) _ asked)⟩
  by_contra later
  have dropped : (world.calls.drop 1)[index - 1]? = some call := by
    rw [List.getElem?_drop, Nat.add_sub_cancel' (Nat.one_le_iff_ne_zero.mpr later), located]
  have silent := stores.1 call (List.mem_of_getElem? dropped)
  simp only [Bool.not_eq_true', List.any_eq_false] at silent
  exact silent _ asked rfl

/-- A checked round goes through, with this signature value for the sample certificate. -/
theorem roundChecked_round {keyType : UInt8} {signature : Bytes}
    (checks : roundChecked keyType signature = some true) :
    ∃ world response row agent,
      run (body hashingLibraries) (installed roundMasters 0 0) (roundSigning signature) = some world ∧
      run (Bridge.body roundBridge) (Bridge.started roundBridge 0 (roundToken keyType))
        (agentRound response) = some agent ∧
      (∀ call ∈ world.calls, DigestsByteRange roundHash roundByteRange call.trace) ∧
      ∃ signing : Signing hashingLibraries world "SR-1" row,
        Round signing agent (roundToken keyType) response ∧
        signing.session.certDer = [1, 2, 3] ∧
        signing.arguments.signatureBytesB64 = Base64.encode signature := by
  simp only [roundChecked, Option.bind_eq_some_iff, Option.map_eq_some_iff, Bool.and_eq_true,
    beq_iff_eq] at checks
  obtain ⟨world, reached, call, located, response, answered, row, found, agent, ran, second,
    secondAt, signed, shown, ⟨⟨⟨isSigned, stored⟩, same⟩, stores⟩, origin⟩ := checks
  obtain ⟨traced, _⟩ := run_traced (fun _ => True) trivial (fun _ _ _ _ _ _ _ => trivial)
    (along_always (body hashingLibraries)) reached
  obtain ⟨signing⟩ := traced.signing found isSigned
  obtain ⟨first, certificate⟩ := storesSample_stored stores signing.created
  have given : signing.arguments.signatureBytesB64 = Base64.encode signature :=
    Option.some.inj (signing.signature.symm.trans stored)
  obtain ⟨answer, ended, body⟩ := Bridge.answeredSignature_ended shown
  have steady : Bridge.Steady roundBridge (roundToken keyType) second.trace := by
    refine Bridge.steady_run ?_ ran secondAt
    intro label member other
    exact (List.mem_append.mp member).elim (Bridge.served_unmoved · other)
      (Bridge.served_unmoved · other)
  refine ⟨world, response, row, agent, reached, ran, fun _ => storesSample_digests stores, signing,
    ⟨⟨call, ?_, initiated_phase answered⟩, ?_⟩, certificate, given⟩
  · rw [first]
    exact located
  · exact ⟨1, second, _, "1234", answer, signed, secondAt, origin, rfl, ended, body, steady,
      given.trans same.symm⟩

theorem signer_info_verifies_rsa :
    ∃ world response row agent,
      run (body hashingLibraries) (installed roundMasters 0 0)
        (roundSigning (roundSignature .rsaPkcs Bridge.sha256DigestInfoPrefix)) = some world ∧
      run (Bridge.body roundBridge) (Bridge.started roundBridge 0 (roundToken 0))
        (agentRound response) = some agent ∧
      ∃ signing : Signing hashingLibraries world "SR-1" row, ∃ signerCert chain signature cms,
        hashingLibraries.loadCertificate signing.session.certDer = .ok signerCert ∧
        hashingLibraries.dumpContentInfo
          (signedData signerCert chain signing.session.signedAttrs signature) = .ok cms ∧
        hashingLibraries.fillWithCms signing.session.preparedPdf signing.session.prepDigest cms =
          .ok signing.file.content ∧
        ((∃ parsed, roundBridge.parseCertificate signing.session.certDer = some parsed ∧
            Verifies hashingLibraries roundBridge roundHash roundByteRange
              (signedData signerCert chain signing.session.signedAttrs signature).signerInfo
              signing.file.content signing.session.prepDigest parsed.publicKey) ↔
          SignsRsa roundBridge (roundToken 0) (relayed response.expectedCertFingerprint)
            signing.session.certDer) := by
  have checks : roundChecked 0 (roundSignature .rsaPkcs Bridge.sha256DigestInfoPrefix) =
      some true := by
    decide +kernel
  obtain ⟨world, response, row, agent, reached, ran, digests, signing, round, _⟩ :=
    roundChecked_round checks
  exact ⟨world, response, row, agent, reached, ran, signing, signer_info_verifies_iff roundHash
    roundByteRange roundBridge_ideal rfl sampleSha256_length (fun _ _ _ _ _ => rfl) roundMasters 0 0 _
    world 0 _ (roundToken 0) _ agent reached digests ran "SR-1" row signing response round⟩

/-- With an elliptic-curve key everything goes through as well, and what is
embedded is declared to be an RSA signature. -/
theorem ec_signer_info_fails :
    ∃ world response row agent,
      run (body hashingLibraries) (installed roundMasters 0 0)
        (roundSigning (roundSignature .ecdsa [])) = some world ∧
      run (Bridge.body roundBridge) (Bridge.started roundBridge 0 (roundToken 3))
        (agentRound response) = some agent ∧
      ∃ signing : Signing hashingLibraries world "SR-1" row,
        Round signing agent (roundToken 3) response ∧
        Bridge.Holds roundBridge (roundToken 3) signing.session.certDer ∧
        ∃ signerCert chain signature cms,
          hashingLibraries.loadCertificate signing.session.certDer = .ok signerCert ∧
          hashingLibraries.dumpContentInfo
            (signedData signerCert chain signing.session.signedAttrs signature) = .ok cms ∧
          hashingLibraries.fillWithCms signing.session.preparedPdf signing.session.prepDigest cms =
            .ok signing.file.content ∧
          ∀ parsed, ¬ Verifies hashingLibraries roundBridge roundHash roundByteRange
            (signedData signerCert chain signing.session.signedAttrs signature).signerInfo
            signing.file.content signing.session.prepDigest parsed := by
  have checks : roundChecked 3 (roundSignature .ecdsa []) = some true := by decide +kernel
  obtain ⟨world, response, row, agent, reached, ran, _, signing, round, certificate, given⟩ :=
    roundChecked_round checks
  obtain ⟨signature, signerCert, chain, cms, decoded, loaded, _, dumped, filled⟩ :=
    assemble_parts signing.assembled
  refine ⟨world, response, row, agent, reached, ran, signing, round, ?_, signerCert, chain,
    signature, cms, loaded, dumped, filled, ?_⟩
  · rw [certificate]
    exact ⟨by simp, rfl, _, List.mem_singleton_self _, _, List.mem_singleton_self _, rfl, _,
      List.mem_singleton_self _, rfl⟩
  · rintro key ⟨_, _, oid, _, made⟩
    have value : signature = roundSignature .ecdsa [] := decode_relayed given decoded
    have same := roundBridge_ideal (value.symm.trans made)
    cases congrArg Bridge.Signature.mechanism same

end DscSigning
