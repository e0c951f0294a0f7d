/-
What the HMAC of a signing request authorises.

`initiate` and the bridge each join five fields by a separator that none of the
fields of `initiate` contains, so the bridge accepts the fields of a response and
no other ones.
-/

import DscSigning.Bridge.SigningKey
import DscSigning.Library.Delimited
import DscSigning.Library.Scripts
import DscSigning.Server.EndpointRules

namespace DscSigning

open Interaction Engine

/-! ### What `initiate` sends out -/

/-- The text of a UUID: five groups of hexadecimal digits. -/
def IsUuid (text : String) : Prop :=
  ∃ a b c d e : Bytes, a.length = 4 ∧ b.length = 2 ∧ c.length = 2 ∧ d.length = 2 ∧ e.length = 6 ∧
    text = "-".intercalate [hex a, hex b, hex c, hex d, hex e]

/-- A response of `initiate` under the secret. -/
structure Issued (lib : Libraries) (secret : String) (response : InitiateResponse) : Prop where
  session : IsUuid response.sessionId
  hash : ∃ digest, response.hashToSign = hex digest
  algorithm : response.hashAlgorithm = "sha256" ∨ response.hashAlgorithm = "sha384"
  nonce : ∃ bytes, response.nonce = hex bytes
  mac : response.hmac = hex (lib.hmacSha256 (utf8 secret)
    (macPayload response.sessionId response.hashToSign response.hashAlgorithm response.timestamp
      response.nonce))

/-- The end of `initiate` sends out such a response under the secret that it has
read or made, as long as its nonce is hexadecimal. -/
theorem authorise_issues {lib : Libraries} {trace : ServerTrace} (signingRequest : PendingRequest)
    (profile : Profile) (settings : Settings) (locationText : Text) (result : PrepareResult)
    (session : IsUuid result.sessionId) (hash : ∃ digest, result.hashToSign = hex digest)
    (algorithm : result.hashAlgorithm = "sha256" ∨ result.hashAlgorithm = "sha384") :
    (authorise lib signingRequest profile settings locationText result).Follows
      (fun _ _ => True)
      (fun _ ended => ∀ response, ended = .ok response → (∃ bytes, response.nonce = hex bytes) →
        ∃ secret, Issued lib secret response) trace := by
  refine Program.Follows.bind ((Program.Uses.follows getOrCreateHmacSecret_free trace
    fun _ _ _ => trivial).weaken fun _ _ _ _ => trivial) ?_ ?_
  · intro later secret _ _
    refine Program.Follows.perform trivial (fun timestamp _ => ?_) ?_
    · refine Program.Follows.perform trivial (fun nonce _ => ?_) ?_
      · intro response same drawn
        cases same
        exact ⟨secret, session, hash, algorithm, drawn, rfl⟩
      · intro _ _ response same
        cases same
    · intro _ _ response same
      cases same
  · intro _ _ _ _ response same
    cases same

/-! ### The separator -/

theorem hexDigit_plain {value : Nat} (small : value < 16) : hexDigit value ≠ '|' := by
  have all : ∀ one : Fin 16, hexDigit one ≠ '|' := by decide
  exact all ⟨value, small⟩

theorem hex_plain (bytes : Bytes) : '|' ∉ (hex bytes).toList := by
  induction bytes with
  | nil => simp [hex]
  | cons byte rest ih =>
      have bound := byte.toNat_lt
      rw [hex_cons, List.mem_cons, List.mem_cons]
      rintro (high | low | tail)
      · exact hexDigit_plain (show byte.toNat / 16 < 16 by omega) high.symm
      · exact hexDigit_plain (show byte.toNat % 16 < 16 by omega) low.symm
      · exact ih tail

theorem uuid_plain {text : String} (uuid : IsUuid text) : '|' ∉ text.toList := by
  obtain ⟨a, b, c, d, e, -, -, -, -, -, rfl⟩ := uuid
  rw [String.toList_intercalate]
  simp [List.intercalate, List.intersperse, hex_plain]

theorem nat_plain (number : Nat) : '|' ∉ (Nat.repr number).toList := by
  intro member
  rw [Nat.toList_repr] at member
  have digit := Nat.isDigit_of_mem_toDigits (by decide) (by decide) member
  revert digit
  decide

theorem int_plain (number : Int) : '|' ∉ (toString number).toList := by
  rw [Int.toString_eq_repr, Int.repr_eq_if]
  split
  · exact nat_plain _
  · rw [String.toList_append, List.mem_append]
    rintro (sign | digits)
    · revert sign
      decide
    · exact nat_plain _ digits

variable {lib : Libraries} {bridge : Bridge.Libraries} {secret : String}

theorem Issued.plain {response : InitiateResponse} (issued : Issued lib secret response) :
    ∀ field ∈ [response.sessionId, response.hashToSign, response.hashAlgorithm,
      toString response.timestamp, response.nonce], '|' ∉ field.toList := by
  obtain ⟨digest, hashed⟩ := issued.hash
  obtain ⟨bytes, drawn⟩ := issued.nonce
  intro field member
  simp only [List.mem_cons, List.not_mem_nil, or_false] at member
  rcases member with rfl | rfl | rfl | rfl | rfl
  · exact uuid_plain issued.session
  · rw [hashed]
    exact hex_plain digest
  · rcases issued.algorithm with same | same <;> rw [same] <;> decide
  · exact int_plain response.timestamp
  · rw [drawn]
    exact hex_plain bytes

/-! ### Acceptance -/

/-- The five fields of the request are those of the response. -/
structure Relays (req : Bridge.SignRequest) (response : InitiateResponse) : Prop where
  session : req.sessionID = response.sessionId
  hash : req.hashToSign = response.hashToSign
  algorithm : req.hashAlgorithm = response.hashAlgorithm
  timestamp : req.timestamp = response.timestamp
  nonce : req.nonce = response.nonce

theorem payload_inj {req : Bridge.SignRequest} {response : InitiateResponse}
    (issued : Issued lib secret response)
    (same : Bridge.hmacPayload req = macPayload response.sessionId response.hashToSign
      response.hashAlgorithm response.timestamp response.nonce) : Relays req response := by
  have fields := Delimited.text_inj (by rfl) issued.plain (utf8_inj same)
  simp only [List.cons.injEq, and_true] at fields
  obtain ⟨session, hash, algorithm, timestamp, nonce⟩ := fields
  exact ⟨session, hash, algorithm, int_text_inj timestamp, nonce⟩

theorem Relays.payload {req : Bridge.SignRequest} {response : InitiateResponse}
    (relays : Relays req response) :
    Bridge.hmacPayload req = macPayload response.sessionId response.hashToSign
      response.hashAlgorithm response.timestamp response.nonce := by
  unfold Bridge.hmacPayload macPayload
  rw [relays.session, relays.hash, relays.algorithm, relays.timestamp, relays.nonce]

/-- A right MAC is that of a response, and the request has its fields. -/
theorem tag_relays (sameMac : bridge.hmacSha256 = lib.hmacSha256)
    (injective : Function.Injective (lib.hmacSha256 (utf8 secret)))
    {issued : Set InitiateResponse} (wellFormed : ∀ response ∈ issued, Issued lib secret response)
    {req : Bridge.SignRequest}
    (unforgeable : ∀ message, req.hmac = hex (lib.hmacSha256 (utf8 secret) message) →
      ∃ response ∈ issued, req.hmac = response.hmac) :
    hex (bridge.hmacSha256 (utf8 secret) (Bridge.hmacPayload req)) = req.hmac ↔
      ∃ response ∈ issued, Relays req response ∧ req.hmac = response.hmac := by
  rw [sameMac]
  constructor
  · intro right
    obtain ⟨response, member, tag⟩ := unforgeable _ right.symm
    have shaped := wellFormed response member
    have payloads := injective (hex_inj (right.trans (tag.trans shaped.mac)))
    exact ⟨response, member, payload_inj shaped payloads, tag⟩
  · rintro ⟨response, member, relays, tag⟩
    rw [tag, (wellFormed response member).mac, relays.payload]

/-- `verifyHMAC` accepts the fields and the MAC of a response, within a minute,
and nothing else. -/
theorem hmac_authenticates_issued (lib : Libraries) (bridge : Bridge.Libraries) (secret : String)
    (sameMac : bridge.hmacSha256 = lib.hmacSha256)
    (injective : Function.Injective (lib.hmacSha256 (utf8 secret)))
    (issued : Set InitiateResponse) (wellFormed : ∀ response ∈ issued, Issued lib secret response)
    (req : Bridge.SignRequest)
    (unforgeable : ∀ message, req.hmac = hex (lib.hmacSha256 (utf8 secret) message) →
      ∃ response ∈ issued, req.hmac = response.hmac)
    (shared : Bridge.Shared) (oracle : Bridge.Oracle) :
    ((Bridge.bridge bridge).play (Bridge.verifyHMAC bridge secret req) () shared [] [oracle]).map
        Outcome.result = some (.ok none) ↔
      (shared.now - req.timestamp).natAbs ≤ 60 ∧ 0 < req.timestamp ∧
        ∃ response ∈ issued, Relays req response ∧ req.hmac = response.hmac := by
  have told : Bridge.reply bridge oracle shared .now = (.ok shared.now, shared) := by
    unfold Bridge.reply
    cases oracle.fault <;> rfl
  have judged : ((Bridge.bridge bridge).play (Bridge.verifyHMAC bridge secret req) () shared []
      [oracle]).map Outcome.result = some (.ok (Bridge.hmacFault bridge secret req shared.now)) := by
    simp only [Bridge.verifyHMAC, Bridge.known, Program.perform, Program.bind_eq, Program.bind]
    rw [play_cons]
    simp only [Option.bind_some, told]
    rfl
  rw [judged, ← tag_relays sameMac injective wellFormed unforgeable, ← Bridge.hmacFault_none_iff,
    Option.some.injEq, Except.ok.injEq]

/-! ### A sample response -/

def sampleResponse : InitiateResponse :=
  let sessionId := "-".intercalate
    [hex [1, 2, 3, 4], hex [5, 6], hex [71, 8], hex [137, 10], hex [11, 12, 13, 14, 15, 16]]
  { sessionId := sessionId
    hashToSign := hex [10, 11]
    hashAlgorithm := "sha256"
    expectedCertFingerprint := some "01"
    signingRequest := "SR-1"
    timestamp := 1000
    nonce := hex [7]
    hmac := hex (sampleLibraries.hmacSha256 (utf8 "secret")
      (macPayload sessionId (hex [10, 11]) "sha256" 1000 (hex [7])))
    visualMetadata := ⟨some "A Signer", "Approved", ""⟩ }

theorem sampleResponse_issued : Issued sampleLibraries "secret" sampleResponse := by
  constructor
  · exact ⟨_, _, _, _, _, rfl, rfl, rfl, rfl, rfl, rfl⟩
  · exact ⟨[10, 11], rfl⟩
  · exact Or.inl rfl
  · exact ⟨[7], rfl⟩
  · rfl

theorem sampleLibraries_mac_injective (key : Bytes) :
    Function.Injective (sampleLibraries.hmacSha256 key) := fun _ _ same =>
  List.append_cancel_left same

/-- The body that the browser makes of the response, for the certificate with the
fingerprint. -/
def relayedBody (fingerprint : String) : Bridge.SignRequest :=
  { sessionID := sampleResponse.sessionId
    hashToSign := sampleResponse.hashToSign
    hashAlgorithm := sampleResponse.hashAlgorithm
    expectedFingerprint := fingerprint
    timestamp := sampleResponse.timestamp
    nonce := sampleResponse.nonce
    hmac := sampleResponse.hmac
    pin := "1234" }

theorem relayedBody_relays (fingerprint : String) :
    Relays (relayedBody fingerprint) sampleResponse := ⟨rfl, rfl, rfl, rfl, rfl⟩

theorem sampleResponse_all :
    ∀ response ∈ ({sampleResponse} : Set InitiateResponse),
      Issued sampleLibraries "secret" response := by
  intro response member
  rw [member]
  exact sampleResponse_issued

theorem hmac_authenticates_issued_sample :
    ∃ shared : Bridge.Shared, ((Bridge.bridge Bridge.plainLibraries).play
      (Bridge.verifyHMAC Bridge.plainLibraries "secret" (relayedBody "01")) () shared []
      [Bridge.agreeing]).map Outcome.result = some (.ok none) := by
  refine ⟨⟨1060, ∅, ∅, ∅, ∅, ∅, []⟩, (hmac_authenticates_issued sampleLibraries
    Bridge.plainLibraries "secret" rfl (sampleLibraries_mac_injective _) {sampleResponse}
    sampleResponse_all (relayedBody "01") (fun _ _ => ⟨sampleResponse, rfl, rfl⟩)
    ⟨1060, ∅, ∅, ∅, ∅, ∅, []⟩ Bridge.agreeing).mpr ?_⟩
  exact ⟨by decide, by decide, sampleResponse, rfl, relayedBody_relays "01", rfl⟩

/-! ### The certificate -/

/-- The call has read the secret for the site and verified the request under it. -/
def VerifiedUnder (bridge : Bridge.Libraries) (secret : String) (trace : Bridge.AgentTrace)
    (site : String) (req : Bridge.SignRequest) : Prop :=
  Bridge.SecretRead trace site secret ∧
    ∃ time, Bridge.Answered trace .now time ∧ Bridge.hmacFault bridge secret req time = none

theorem hmacFault_fingerprint (req : Bridge.SignRequest) (other : String) (now : Int) :
    Bridge.hmacFault bridge secret { req with expectedFingerprint := other } now =
      Bridge.hmacFault bridge secret req now := rfl

/-- What a verified request signs is what `initiate` sent out; the certificate it
signs with is the one the request names, which the MAC says nothing about. -/
theorem verified_sign_relays (lib : Libraries) (bridge : Bridge.Libraries) (secret : String)
    (sameMac : bridge.hmacSha256 = lib.hmacSha256)
    (injective : Function.Injective (lib.hmacSha256 (utf8 secret)))
    (issued : Set InitiateResponse) (wellFormed : ∀ response ∈ issued, Issued lib secret response)
    (now : Int) (tokens : List Bridge.Module) (labels : List (Bridge.BridgeLabel bridge))
    (world : Bridge.BridgeWorld bridge) (index : Nat)
    (call : (Bridge.bridge bridge).Call Bridge.Origin Bridge.Response)
    (newer earlier : Bridge.AgentTrace) (id : Bridge.SlotId) (fingerprint : String)
    (hashBytes : Bytes) (pin : String) (result : Except Bridge.GoError Bridge.Signing) (stamp : Int)
    (reached : run (Bridge.body bridge) (Bridge.started bridge now tokens) labels = some world)
    (located : world.calls[index]? = some call)
    (invoked : call.trace = newer ++
      (⟨.signHash id fingerprint hashBytes pin, result, stamp⟩ : Bridge.AgentEvent) :: earlier)
    (unforgeable : ∀ request req, call.origin = .http request → request.signBody = some req →
      ∀ message, req.hmac = hex (lib.hmacSha256 (utf8 secret) message) →
        ∃ response ∈ issued, req.hmac = response.hmac) :
    ∃ request req, call.origin = .http request ∧ request.signBody = some req ∧
      (VerifiedUnder bridge secret earlier request.origin req →
        ∃ response ∈ issued, Relays req response ∧ req.hmac = response.hmac ∧
          Bridge.hexDecode response.hashToSign = some hashBytes) ∧
      fingerprint = req.expectedFingerprint ∧
      (∃ modules cert, Bridge.Answered earlier .tokens modules ∧
        Bridge.findCertByFingerprint bridge modules req.expectedFingerprint = some (cert, id)) ∧
      (req.pin ≠ "" ∧ pin = req.pin ∨
        req.pin = "" ∧ Bridge.Answered earlier (.pinGet req.expectedFingerprint) (some pin)) ∧
      ∀ other time, Bridge.hmacFault bridge secret { req with expectedFingerprint := other } time =
        Bridge.hmacFault bridge secret req time := by
  have disciplined := Bridge.run_permitted reached
  have honours := (disciplined index call located).1
  rw [invoked] at honours
  obtain ⟨request, req, allowed⟩ := (honours.suffix (List.suffix_append newer _)).1
  refine ⟨request, req, allowed.call, allowed.body, ?_, allowed.named, ?_, ?_, ?_⟩
  · rintro ⟨_, time, _, accepted⟩
    have right := ((Bridge.hmacFault_none_iff bridge).mp accepted).2.2
    obtain ⟨response, member, relays, tag⟩ := (tag_relays sameMac injective wellFormed
      (unforgeable request req allowed.call allowed.body)).mp right
    refine ⟨response, member, relays, tag, ?_⟩
    rw [← relays.hash]
    exact allowed.decoded
  · have found := allowed.found
    rw [allowed.named] at found
    exact found
  · rcases allowed.supplied with own | ⟨absent, _, cached⟩
    · exact Or.inl own
    · rw [allowed.named] at cached
      exact Or.inr ⟨absent, cached⟩
  · exact fun other time => hmacFault_fingerprint req other time

/-! ### A second certificate on the token -/

/-- A site is paired under the secret, and a request reaches the token. -/
def relayedSigning (fingerprint : String) :
    List (Bridge.BridgeLabel Bridge.plainLibraries) :=
  Bridge.served Bridge.plainLibraries 0 (.http Bridge.pairing) 8
      { Bridge.agreeing with pairing := some ⟨"T-1", "A-1", "secret"⟩ } ++
    .start (.http (Bridge.signing (relayedBody fingerprint))) ::
      List.replicate 7 (.ask 1 Bridge.agreeing)

def readsSecret (site secret : String) : Bridge.AgentEvent → Bool
  | ⟨.keychainGet key, .ok value, _⟩ => key == Bridge.secretKey site && value == secret
  | _ => false

def tellsTime (time : Int) : Bridge.AgentEvent → Bool
  | ⟨.now, .ok told, _⟩ => told == time
  | _ => false

theorem readsSecret_read {trace : Bridge.AgentTrace} {site secret : String}
    (shown : trace.any (readsSecret site secret) = true) :
    Bridge.SecretRead trace site secret := by
  obtain ⟨event, member, reads⟩ := List.any_eq_true.mp shown
  unfold readsSecret at reads
  split at reads
  · rename_i key value stamp
    simp only [Bool.and_eq_true, beq_iff_eq] at reads
    obtain ⟨rfl, rfl⟩ := reads
    exact Or.inl ⟨stamp, member⟩
  · cases reads

theorem tellsTime_answered {trace : Bridge.AgentTrace} {time : Int}
    (shown : trace.any (tellsTime time) = true) : Bridge.Answered trace .now time := by
  obtain ⟨event, member, tells⟩ := List.any_eq_true.mp shown
  unfold tellsTime at tells
  split at tells
  · rename_i told stamp
    rw [← beq_iff_eq.mp tells]
    exact ⟨stamp, member⟩
  · cases tells

/-- What the second call has invoked the token with, and its trace until then. -/
def invocation (world : Bridge.BridgeWorld Bridge.plainLibraries) :
    Option (Bridge.Origin × String × Bridge.AgentTrace) :=
  (world.calls[1]?).bind fun call =>
    match call.trace with
    | ⟨.signHash _ fingerprint _ _, _, _⟩ :: earlier => some (call.origin, fingerprint, earlier)
    | _ => none

/-- The response names one certificate, and the bridge is made to use the other. -/
theorem relayedSigning_invokes :
    ∃ world call earlier id hashBytes pin result stamp,
      run (Bridge.body Bridge.plainLibraries)
        (Bridge.started Bridge.plainLibraries 1000 Bridge.twoPairs) (relayedSigning "02") =
          some world ∧
      world.calls[1]? = some call ∧
      call.origin = .http (Bridge.signing (relayedBody "02")) ∧
      call.trace = (⟨.signHash id "02" hashBytes pin, result, stamp⟩ : Bridge.AgentEvent) ::
        earlier ∧
      VerifiedUnder Bridge.plainLibraries "secret" earlier "https://site.example"
        (relayedBody "02") := by
  have ends : ((run (Bridge.body Bridge.plainLibraries)
      (Bridge.started Bridge.plainLibraries 1000 Bridge.twoPairs) (relayedSigning "02")).bind
        fun world => (invocation world).map fun shown =>
          shown.1 == .http (Bridge.signing (relayedBody "02")) && shown.2.1 == "02" &&
            shown.2.2.any (readsSecret "https://site.example" "secret") &&
            shown.2.2.any (tellsTime 1000)) = some true := by
    decide +kernel
  simp only [Option.bind_eq_some_iff, Option.map_eq_some_iff, Bool.and_eq_true, beq_iff_eq] at ends
  obtain ⟨world, reached, ⟨origin, named, earlier⟩, shown, ⟨⟨sender, rfl⟩, reads⟩, tells⟩ := ends
  obtain ⟨call, located, traced⟩ := Option.bind_eq_some_iff.mp shown
  split at traced
  · rename_i id fingerprint hashBytes pin result stamp before split
    simp only [Option.some.injEq, Prod.mk.injEq] at traced
    obtain ⟨called, rfl, rfl⟩ := traced
    have accepted : Bridge.hmacFault Bridge.plainLibraries "secret" (relayedBody "02") 1000 =
        none := by
      decide +kernel
    exact ⟨world, call, before, id, hashBytes, pin, result, stamp, reached, located,
      called.trans sender, split,
      readsSecret_read reads, 1000, tellsTime_answered tells, accepted⟩
  · cases traced

/-- A verified request, changed in nothing but the fingerprint, reaches the token
with another certificate than the one `initiate` returned. -/
theorem other_certificate_signs :
    ∃ world call earlier id hashBytes pin result stamp,
      run (Bridge.body Bridge.plainLibraries)
        (Bridge.started Bridge.plainLibraries 1000 Bridge.twoPairs) (relayedSigning "02") =
          some world ∧
      world.calls[1]? = some call ∧
      call.origin = .http (Bridge.signing (relayedBody "02")) ∧
      call.trace = (⟨.signHash id "02" hashBytes pin, result, stamp⟩ : Bridge.AgentEvent) ::
        earlier ∧
      VerifiedUnder Bridge.plainLibraries "secret" earlier "https://site.example"
        (relayedBody "02") ∧
      Issued sampleLibraries "secret" sampleResponse ∧
      relayedBody "02" = { relayedBody "01" with expectedFingerprint := "02" } ∧
      Relays (relayedBody "01") sampleResponse ∧
      (relayedBody "01").hmac = sampleResponse.hmac ∧
      sampleResponse.expectedCertFingerprint = some "01" := by
  obtain ⟨world, call, earlier, id, hashBytes, pin, result, stamp, reached, located, called, traced,
    verified⟩ := relayedSigning_invokes
  exact ⟨world, call, earlier, id, hashBytes, pin, result, stamp, reached, located, called, traced,
    verified, sampleResponse_issued, rfl, relayedBody_relays "01", rfl, rfl⟩

theorem verified_sign_relays_sample :
    ∃ req hashBytes, ∃ response ∈ ({sampleResponse} : Set InitiateResponse),
      Relays req response ∧ Bridge.hexDecode response.hashToSign = some hashBytes := by
  obtain ⟨world, call, earlier, id, hashBytes, pin, result, stamp, reached, located, called, traced,
    verified⟩ := relayedSigning_invokes
  obtain ⟨request, req, same, body, signs, _⟩ := verified_sign_relays sampleLibraries
    Bridge.plainLibraries "secret" rfl (sampleLibraries_mac_injective _) {sampleResponse}
    sampleResponse_all 1000 Bridge.twoPairs (relayedSigning "02") world 1 call [] earlier id "02"
    hashBytes pin result stamp reached located traced (by
      intro request req same body _ _
      rw [called] at same
      cases same
      cases body
      exact ⟨sampleResponse, rfl, rfl⟩)
  rw [called] at same
  cases same
  cases body
  obtain ⟨response, member, relays, _, decoded⟩ := signs verified
  exact ⟨_, hashBytes, response, member, relays, decoded⟩

end DscSigning
