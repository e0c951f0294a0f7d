/-
The key a signature is made with.

The certificate is looked up by its fingerprint without a login; key and
returned certificate are looked up again in the slot after it, each as the first
of its own search.
-/

import DscSigning.Bridge.AgentRules

namespace DscSigning.Bridge

open Interaction Engine

variable {lib : Libraries}

/-! ### One token content -/

/-- The answer is that of tokens with this content. -/
def ShownBy (lib : Libraries) (modules : List Module) : AgentEvent → Prop
  | ⟨.tokens, .ok told, _⟩ => told = modules
  | ⟨.signHash id fingerprint hashBytes pin, .ok signing, _⟩ =>
      signing = signHash lib modules id fingerprint hashBytes pin
  | _ => True

/-- The tokens have the same content whenever the call asks them. -/
def Steady (lib : Libraries) (modules : List Module) (trace : AgentTrace) : Prop :=
  ∀ event ∈ trace, ShownBy lib modules event

theorem shownBy_asking {world next : BridgeWorld lib} {label : BridgeLabel lib}
    (stepped : step (body lib) world label = some next) {index : Nat}
    {call : (bridge lib).Call Origin Response} {event : AgentEvent}
    (found : asking world label = some (index, call, event)) :
    ShownBy lib world.shared.tokens event := by
  obtain ⟨oracle, replied⟩ := asking_shared (body lib) stepped found
  obtain ⟨operation, result, stamp⟩ := event
  have told := congrArg Prod.fst (Option.some.inj replied)
  simp only [reply] at told
  cases operation with
  | tokens =>
      cases fault : oracle.fault <;>
        simp only [fault, Operation.fallible, Bool.false_eq_true, if_false, answer] at told <;>
        rw [← told] <;> rfl
  | signHash id fingerprint hashBytes pin =>
      cases fault : oracle.fault <;>
        simp only [fault, Operation.fallible, Bool.false_eq_true, if_false, answer] at told <;>
        rw [← told] <;> rfl
  | _ => cases result <;> trivial

theorem reply_tokens (oracle : Oracle) (shared : Shared) (operation : Operation) :
    (reply lib oracle shared operation).2.tokens = shared.tokens := by
  have answered : (answer lib oracle shared operation).2.tokens = shared.tokens := by
    cases operation with
    | keychainGet key => simp only [answer]; split <;> rfl
    | keychainDelete key => simp only [answer]; split <;> rfl
    | validatePairingCode site code =>
        simp only [answer]
        split
        · split <;> rfl
        · rfl
    | fetchOCSP cert issuer => simp only [answer]; split <;> rfl
    | _ => rfl
  unfold reply
  split
  · split
    · cases operation <;> rfl
    · exact answered
  · exact answered

theorem tokens_step {world next : BridgeWorld lib} {label : BridgeLabel lib}
    (stepped : step (body lib) world label = some next)
    (unmoved : ∀ other, label ≠ .move (.tokens other)) :
    next.shared.tokens = world.shared.tokens := by
  rcases step_shared (body lib) stepped with same | ⟨index, call, event, found⟩ |
    ⟨move, data, named, moved⟩
  · rw [same]
  · obtain ⟨oracle, replied⟩ := asking_shared (body lib) stepped found
    rw [← (Prod.mk.inj (Option.some.inj replied)).2]
    exact reply_tokens oracle world.shared event.query
  · obtain ⟨later, applied, same⟩ := Option.map_eq_some_iff.mp moved
    rw [← (Prod.mk.inj same).2]
    cases move with
    | elapse seconds =>
        rw [← Option.some.inj applied]
    | tokens other => exact absurd named (unmoved other)
    | loseSecrets keychain =>
        simp only [Move.apply] at applied
        split at applied
        · rw [← Option.some.inj applied]
        · cases applied

/-- Where no token is changed, every call sees the content of the start. -/
theorem steady_run {now : Int} {modules : List Module} {labels : List (BridgeLabel lib)}
    {world : BridgeWorld lib} (unmoved : ∀ label ∈ labels, ∀ other, label ≠ .move (.tokens other))
    (reached : run (body lib) (started lib now modules) labels = some world) {index : Nat}
    {call : (bridge lib).Call Origin Response} (located : world.calls[index]? = some call) :
    Steady lib modules call.trace := by
  let shown : BridgeWorld lib → Prop := fun world => world.shared.tokens = modules ∧
    world.Heeds fun _ _ event => ShownBy lib modules event
  have start : shown (started lib now modules) := by
    refine ⟨rfl, ?_⟩
    intro index call event earlier located
    cases located
  have preserved (world : BridgeWorld lib) (label : BridgeLabel lib) (next : BridgeWorld lib)
      (kept : shown world) (fixed : ∀ other, label ≠ .move (.tokens other))
      (stepped : step (body lib) world label = some next) : shown next := by
    refine ⟨(tokens_step stepped fixed).trans kept.1, heeds_step (body lib) kept.2 ?_ stepped⟩
    intro index call event found
    rw [← kept.1]
    exact shownBy_asking stepped found
  have heeds := (run_invariant (body lib) preserved start (along_labels (body lib) unmoved)
    reached).2
  intro event member
  obtain ⟨newer, earlier, split⟩ := List.append_of_mem member
  exact heeds index call event earlier located ⟨newer, split.symm⟩

/-! ### The key and the certificate of a signature -/

/-- A signature that was made: the first private key of the slot, its mechanism,
and the first certificate of the slot. -/
structure MadeOn (modules : List Module) (id : SlotId) (hashBytes : Bytes) (signature : Signature)
    (certDER : Bytes) (slot : Slot) (key : KeyObject) (keyType : UInt8) : Prop where
  located : slotAt modules id = some slot
  first : slot.privateKeys.head? = some key
  typed : ∃ rest, key.keyType = .ok (keyType :: rest)
  chosen : mechanismFor keyType hashBytes = some (signature.mechanism, signature.data)
  signer : signature.key = key.publicKey
  certificate : certDER = responseCert slot

theorem signWith_made {slot : Slot} {key : KeyObject} {hashBytes : Bytes} {signature : Signature}
    {certDER : Bytes} (signed : (signWith lib slot key hashBytes).result = .ok (signature, certDER)) :
    ∃ keyType rest, key.keyType = .ok (keyType :: rest) ∧
      mechanismFor keyType hashBytes = some (signature.mechanism, signature.data) ∧
      signature.key = key.publicKey ∧ certDER = responseCert slot := by
  unfold signWith at signed
  split at signed
  · cases signed
  · cases signed
  · rename_i keyType rest typed
    split at signed
    · cases signed
    · rename_i mechanism dataToSign chosen
      split at signed
      · cases signed
      · simp only at signed
        split at signed
        · cases signed
        · cases signed
          exact ⟨keyType, rest, typed, chosen, rfl, rfl⟩

theorem signHash_made {modules : List Module} {id : SlotId} {fingerprint : String}
    {hashBytes : Bytes} {pin : String} {signature : Signature} {certDER : Bytes}
    (signed : (signHash lib modules id fingerprint hashBytes pin).result =
      .ok (signature, certDER)) :
    ∃ slot key keyType, MadeOn modules id hashBytes signature certDER slot key keyType := by
  cases located : slotAt modules id with
  | none =>
      simp only [signHash, located] at signed
      cases signed
  | some slot =>
      simp only [signHash, located] at signed
      split at signed
      · cases signed
      · split at signed
        · cases signed
        · split at signed
          · cases signed
          · rename_i key rest listed
            obtain ⟨keyType, more, typed, chosen, signer, certificate⟩ := signWith_made signed
            exact ⟨slot, key, keyType, located, by rw [listed]; rfl, ⟨more, typed⟩, chosen, signer,
              certificate⟩

/-- What stands behind a signature that the bridge has answered with. -/
structure Answer (lib : Libraries) (modules : List Module) (req : SignRequest)
    (answered : SignResponse) where
  cert : CertInfo
  id : SlotId
  hashBytes : Bytes
  signature : Signature
  slot : Slot
  key : KeyObject
  keyType : UInt8
  found : findCertByFingerprint lib modules req.expectedFingerprint = some (cert, id)
  decoded : hexDecode req.hashToSign = some hashBytes
  algorithm : req.hashAlgorithm = "" ∨ req.hashAlgorithm = "sha256"
  made : MadeOn modules id hashBytes signature (responseCert slot) slot key keyType
  signatureBytes : answered.signatureBytesB64 = Base64.encode (lib.signatureValue signature)
  certificate : answered.certDERB64 = Base64.encode (responseCert slot)

/-- Every answered signature has such a history. -/
theorem run_answer {now : Int} {tokens : List Module} {labels : List (BridgeLabel lib)}
    {world : BridgeWorld lib} (reached : run (body lib) (started lib now tokens) labels = some world)
    {index : Nat} {call : (bridge lib).Call Origin Response} (located : world.calls[index]? = some call)
    {request : HttpRequest} {req : SignRequest} (origin : call.origin = .http request)
    (sent : request.signBody = some req) {response : Response} {answered : SignResponse}
    (ended : call.phase = .ended (.ok response)) (signed : response.body = .signed answered)
    {modules : List Module} (steady : Steady lib modules call.trace) :
    Nonempty (Answer lib modules req answered) := by
  have disciplined : world.Disciplined (Permitted lib) (Ends lib) := run_permitted reached
  obtain ⟨honours, ends⟩ := disciplined index call located
  simp only [ended] at ends
  obtain ⟨asked, body, id, hashBytes, pin, signing, signature, certDER, same, given,
    ⟨stamp, invoked⟩, made, value, returned⟩ := ends response answered rfl signed
  rw [origin] at same
  cases same
  rw [sent] at given
  cases given
  obtain ⟨earlier, suffix, _, _, allowed⟩ := honours.of_mem invoked
  have sameRequest := allowed.call
  rw [origin] at sameRequest
  cases sameRequest
  have sameBody := allowed.body
  rw [sent] at sameBody
  cases sameBody
  obtain ⟨shown, cert, ⟨at_, told⟩, found⟩ := allowed.found
  have content : shown = modules :=
    steady _ (((List.suffix_cons _ earlier).trans suffix).subset told)
  have computed : signing = signHash lib modules id req.expectedFingerprint hashBytes pin :=
    steady _ invoked
  rw [content] at found
  rw [computed] at made
  obtain ⟨slot, key, keyType, madeOn⟩ := signHash_made made
  have certificate := madeOn.certificate
  subst certificate
  exact ⟨cert, id, hashBytes, signature, slot, key, keyType, found, allowed.decoded,
    allowed.algorithm, madeOn, value, returned⟩

variable (lib) in
/-- The signature was made with the key of the returned certificate, and that
certificate has the fingerprint. -/
def RightKey (fingerprint : String) (answered : SignResponse) : Prop :=
  ∃ certDER parsed mechanism data, Base64.decode answered.certDERB64 = .ok certDER ∧
    lib.fingerprint certDER = fingerprint ∧ lib.parseCertificate certDER = some parsed ∧
    answered.signatureBytesB64 =
      Base64.encode (lib.signatureValue ⟨parsed.publicKey, mechanism, data⟩)

variable (lib) in
/-- On the slot where the fingerprint is found, the first certificate and the
first private key after a login belong together and to the fingerprint. -/
def Matching (modules : List Module) (fingerprint : String) : Prop :=
  ∃ cert id slot key parsed, findCertByFingerprint lib modules fingerprint = some (cert, id) ∧
    slotAt modules id = some slot ∧ slot.privateKeys.head? = some key ∧
    lib.fingerprint (responseCert slot) = fingerprint ∧
    lib.parseCertificate (responseCert slot) = some parsed ∧ key.publicKey = parsed.publicKey

/-- The token has signed with the key of the requested certificate exactly when
the firsts of its searches fit the fingerprint. -/
theorem requested_key_signs_iff (lib : Libraries) (ideal : Function.Injective lib.signatureValue)
    (now : Int) (tokens modules : List Module) (labels : List (BridgeLabel lib))
    (world : BridgeWorld lib) (index : Nat) (call : (bridge lib).Call Origin Response)
    (request : HttpRequest) (req : SignRequest) (response : Response) (answered : SignResponse)
    (reached : run (body lib) (started lib now tokens) labels = some world)
    (located : world.calls[index]? = some call) (origin : call.origin = .http request)
    (sent : request.signBody = some req) (ended : call.phase = .ended (.ok response))
    (signed : response.body = .signed answered) (steady : Steady lib modules call.trace) :
    RightKey lib req.expectedFingerprint answered ↔
      Matching lib modules req.expectedFingerprint := by
  obtain ⟨history⟩ := run_answer reached located origin sent ended signed steady
  constructor
  · rintro ⟨certDER, parsed, mechanism, data, decoded, fingerprint, parses, made⟩
    rw [history.certificate, Base64.decode_encode] at decoded
    cases decoded
    rw [history.signatureBytes] at made
    have same := ideal (Base64.encode_inj made)
    refine ⟨history.cert, history.id, history.slot, history.key, parsed, history.found,
      history.made.located, history.made.first, fingerprint, parses, ?_⟩
    rw [← history.made.signer, same]
  · rintro ⟨cert, id, slot, key, parsed, found, located, first, fingerprint, parses, owns⟩
    rw [history.found] at found
    cases found
    rw [history.made.located] at located
    cases located
    rw [history.made.first] at first
    cases first
    refine ⟨responseCert history.slot, parsed, history.signature.mechanism,
      history.signature.data, ?_, fingerprint, parses, ?_⟩
    · rw [history.certificate, Base64.decode_encode]
    · rw [history.signatureBytes, ← owns, ← history.made.signer]

/-! ### A token with one pair, and one with two -/

/-- Libraries in which a certificate is its own public key. -/
def plainLibraries : Libraries :=
  { sha256 := fun data => data
    hmacSha256 := fun key data => key ++ data
    parseCertificate := fun der => some
      { subjectCN := "A Signer"
        subjectFull := "CN=A Signer"
        issuerCN := "A CA"
        serial := "1"
        notBefore := "2026-01-01T00:00:00Z"
        notAfter := "2028-01-01T00:00:00Z"
        keyUsage := ["digital_signature"]
        publicKey := ⟨der⟩ }
    signatureValue := fun signature =>
      (if signature.mechanism = .rsaPkcs then 0 else 1) ::
        (signature.key.encoded.flatMap fun byte => [1, byte]) ++ 0 :: signature.data
    errorText := fun code => toString code }

theorem marked_inj {left right : Bytes} {one other : Bytes}
    (same : (left.flatMap fun byte => [1, byte]) ++ 0 :: one =
      (right.flatMap fun byte => [1, byte]) ++ 0 :: other) : left = right ∧ one = other := by
  induction left generalizing right with
  | nil =>
      cases right with
      | nil => exact ⟨rfl, (List.cons.inj same).2⟩
      | cons byte rest => cases (List.cons.inj same).1
  | cons byte rest ih =>
      cases right with
      | nil => cases (List.cons.inj same).1
      | cons second others =>
          obtain ⟨_, same⟩ := List.cons.inj same
          obtain ⟨head, same⟩ := List.cons.inj same
          obtain ⟨tail, data⟩ := ih same
          exact ⟨by rw [head, tail], data⟩

theorem plainLibraries_ideal : Function.Injective plainLibraries.signatureValue := by
  rintro ⟨⟨key⟩, mechanism, data⟩ ⟨⟨other⟩, second, others⟩ same
  obtain ⟨kind, same⟩ := List.cons.inj same
  obtain ⟨keys, values⟩ := marked_inj same
  have mechanisms : mechanism = second := by
    cases mechanism <;> cases second <;> first | rfl | cases kind
  rw [mechanisms]
  simp only at keys values
  rw [keys, values]

def keyOf (certDER : Bytes) (keyType : UInt8) : TokenObject :=
  .privateKey
    { publicKey := ⟨certDER⟩
      keyType := .ok [keyType, 0, 0, 0]
      signInit := fun _ => none
      sign := fun _ _ => none }

/-- A token with these objects, behind the PIN 1234. -/
def tokenWith (objects : List TokenObject) : List Module :=
  [{ path := "/usr/lib/token.so"
     slots := some
      [{ number := 0
         info := some ("Token", "01")
         openSession := none
         login := fun pin => if pin == "1234" then none else some 0xA0
         objects := objects }] }]

def onePair : List Module := tokenWith [.certificate ⟨.ok [1], false⟩, keyOf [1] 0]

/-- A signing and an encryption pair, the encryption pair first. -/
def twoPairs : List Module :=
  tokenWith [.certificate ⟨.ok [2], false⟩, .certificate ⟨.ok [1], false⟩, keyOf [2] 0, keyOf [1] 0]

def pairing : HttpRequest :=
  { method := "POST"
    path := "/v1/pair"
    origin := "https://site.example"
    siteToken := ""
    pairBody := some ⟨"123456", "https://site.example"⟩
    signBody := none }

def signRequest : SignRequest :=
  { sessionID := "S-1"
    hashToSign := "0a0b"
    hashAlgorithm := "sha256"
    expectedFingerprint := "01"
    timestamp := 0
    nonce := ""
    hmac := ""
    pin := "1234" }

def signing (req : SignRequest) : HttpRequest :=
  { method := "POST"
    path := "/v1/sign"
    origin := "https://site.example"
    siteToken := ""
    pairBody := none
    signBody := some req }

/-- The user agrees, and the site answers without an HMAC secret. -/
def agreeing : Oracle :=
  { fault := none
    leaves := none
    confirms := true
    pairing := some ⟨"T-1", "A-1", ""⟩
    chain := []
    ocsp := none
    text := "2026-01-01" }

def served (lib : Libraries) (index : Nat) (origin : Origin) (questions : Nat) (oracle : Oracle) :
    List (BridgeLabel lib) :=
  .start origin :: (List.replicate questions (.ask index oracle) ++ [.finish index])

/-- A site is paired and has one hash signed. -/
def pairedSigning : List (BridgeLabel plainLibraries) :=
  served plainLibraries 0 (.http pairing) 7 agreeing ++
    served plainLibraries 1 (.http (signing signRequest)) 10 agreeing

theorem served_unmoved {lib : Libraries} {index : Nat} {origin : Origin} {questions : Nat}
    {oracle : Oracle} {label : BridgeLabel lib}
    (member : label ∈ served lib index origin questions oracle) (other : List Module) :
    label ≠ .move (.tokens other) := by
  rintro rfl
  simp [served] at member

theorem pairedSigning_unmoved {label : BridgeLabel plainLibraries} (member : label ∈ pairedSigning)
    (other : List Module) : label ≠ .move (.tokens other) :=
  (List.mem_append.mp member).elim (served_unmoved · other) (served_unmoved · other)

def answeredSignature (call : (bridge lib).Call Origin Response) : Option SignResponse :=
  match call.phase with
  | .ended (.ok response) =>
      match response.body with
      | .signed answered => some answered
      | _ => none
  | _ => none

theorem answeredSignature_ended {call : (bridge lib).Call Origin Response}
    {answered : SignResponse} (shown : answeredSignature call = some answered) :
    ∃ response, call.phase = .ended (.ok response) ∧ response.body = .signed answered := by
  unfold answeredSignature at shown
  split at shown
  · rename_i response ended
    split at shown
    · rename_i signed
      cases shown
      exact ⟨response, ended, signed⟩
    · cases shown
  · cases shown

/-- The second call of the run on these tokens, and its answer. -/
def secondAnswer (tokens : List Module) : Option (Origin × SignResponse) :=
  (run (body plainLibraries) (started plainLibraries 0 tokens) pairedSigning).bind fun world =>
    (world.calls[1]?).bind fun call => (answeredSignature call).map fun answered =>
      (call.origin, answered)

theorem secondAnswer_ended {tokens : List Module} {origin : Origin} {answered : SignResponse}
    (shown : secondAnswer tokens = some (origin, answered)) :
    ∃ world call response,
      run (body plainLibraries) (started plainLibraries 0 tokens) pairedSigning = some world ∧
      world.calls[1]? = some call ∧ call.origin = origin ∧ call.phase = .ended (.ok response) ∧
      response.body = .signed answered := by
  simp only [secondAnswer, Option.bind_eq_some_iff, Option.map_eq_some_iff, Prod.mk.injEq] at shown
  obtain ⟨world, reached, call, located, _, ended, named, rfl⟩ := shown
  obtain ⟨response, finished, signed⟩ := answeredSignature_ended ended
  exact ⟨world, call, response, reached, located, named, finished, signed⟩

theorem requested_key_signs_pair :
    ∃ answered, secondAnswer onePair = some (.http (signing signRequest), answered) ∧
      (RightKey plainLibraries "01" answered ↔ Matching plainLibraries onePair "01") := by
  have ends : (secondAnswer onePair).map Prod.fst = some (.http (signing signRequest)) := by
    decide +kernel
  obtain ⟨⟨origin, answered⟩, shown, rfl⟩ := Option.map_eq_some_iff.mp ends
  obtain ⟨world, call, response, reached, located, named, ended, signed⟩ := secondAnswer_ended shown
  exact ⟨answered, shown, requested_key_signs_iff plainLibraries plainLibraries_ideal 0 onePair onePair
    pairedSigning world 1 call (signing signRequest) signRequest response answered reached located
    named rfl ended signed
    (steady_run (fun _ member => pairedSigning_unmoved member) reached located)⟩

/-- The certificate of the signing pair is asked for, and the encryption pair signs. -/
theorem wrong_key_signs :
    ∃ world call response answered,
      run (body plainLibraries) (started plainLibraries 0 twoPairs) pairedSigning = some world ∧
      world.calls[1]? = some call ∧ call.origin = .http (signing signRequest) ∧
      call.phase = .ended (.ok response) ∧ response.body = .signed answered ∧
      answered.certDERB64 = Base64.encode [2] ∧
      ¬ RightKey plainLibraries signRequest.expectedFingerprint answered := by
  have ends : (secondAnswer twoPairs).map (fun shown => (shown.1, shown.2.certDERB64)) =
      some (.http (signing signRequest), Base64.encode [2]) := by
    decide +kernel
  obtain ⟨⟨origin, answered⟩, shown, same⟩ := Option.map_eq_some_iff.mp ends
  obtain ⟨rfl, returned⟩ := Prod.mk.inj same
  obtain ⟨world, call, response, reached, located, named, ended, signed⟩ := secondAnswer_ended shown
  refine ⟨world, call, response, answered, reached, located, named, ended, signed, returned, ?_⟩
  rintro ⟨certDER, parsed, mechanism, data, decoded, fingerprint, _⟩
  simp only at returned
  rw [returned, Base64.decode_encode] at decoded
  cases decoded
  revert fingerprint
  decide +kernel

end DscSigning.Bridge
