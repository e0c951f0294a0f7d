/-
What the token is asked to sign.

The type of the key is an unsigned long of which only the lowest byte is looked
at, and the data is whatever the hex of the request decodes to.
-/

import DscSigning.Bridge.SigningKey

namespace DscSigning.Bridge

open Interaction Engine

variable {lib : Libraries}

/-- The unsigned long in the bytes of an attribute, the lowest first. -/
def unsignedLong : Bytes → Nat
  | [] => 0
  | byte :: rest => byte.toNat + 256 * unsignedLong rest

/-- A SHA-256 digest, as a key of the type is to be asked to sign it. -/
inductive SignsDigest (signature : Signature) : Nat → Prop where
  | rsa (digest : Bytes) (length : digest.length = 32) (mechanism : signature.mechanism = .rsaPkcs)
      (data : signature.data = sha256DigestInfoPrefix ++ digest) : SignsDigest signature 0
  | ec (mechanism : signature.mechanism = .ecdsa) (length : signature.data.length = 32) :
      SignsDigest signature 3

/-- `C_Sign` is called with nothing but digests. -/
def OnlyDigests (modules : List Module) (id : SlotId) (signing : Signing) : Prop :=
  ∀ signature, .sign signature ∈ signing.operations → ∃ slot key keyType,
    slotAt modules id = some slot ∧ slot.privateKeys.head? = some key ∧
      key.keyType = .ok keyType ∧ SignsDigest signature (unsignedLong keyType)

/-- The slot opens to the PIN, and its first private key takes the mechanism for the
lowest byte of its type. -/
structure Ready (modules : List Module) (id : SlotId) (pin : String) (lowest : UInt8)
    (rest : Bytes) : Prop where
  opened : ∃ slot key, slotAt modules id = some slot ∧ slot.openSession = none ∧
    slot.login pin = none ∧ slot.privateKeys.head? = some key ∧
    key.keyType = .ok (lowest :: rest) ∧
    (lowest = 0 ∧ key.signInit .rsaPkcs = none ∨ lowest = 3 ∧ key.signInit .ecdsa = none)

/-- Where a key is ready, the hex has the length of a digest and the type no higher bytes. -/
def DigestFits (modules : List Module) (id : SlotId) (pin hashToSign : String) : Prop :=
  ∀ lowest rest, Ready modules id pin lowest rest →
    hashToSign.length = 64 ∧ ∀ byte ∈ rest, byte = 0

/-! ### One signing -/

theorem unsignedLong_eq_lowest (lowest : UInt8) (rest : Bytes) :
    unsignedLong (lowest :: rest) = lowest.toNat ↔ ∀ byte ∈ rest, byte = 0 := by
  have zero : ∀ bytes, unsignedLong bytes = 0 ↔ ∀ byte ∈ bytes, byte = 0 := by
    intro bytes
    induction bytes with
    | nil => simp [unsignedLong]
    | cons byte bytes ih =>
        rw [unsignedLong, List.forall_mem_cons, ← ih, ← UInt8.toNat_inj, UInt8.toNat_zero]
        omega
  rw [unsignedLong, ← zero]
  omega

/-- Types that agree with a byte below 256 are that byte with nothing above. -/
theorem unsignedLong_small (lowest : UInt8) (rest : Bytes)
    (small : unsignedLong (lowest :: rest) < 256) : ∀ byte ∈ rest, byte = 0 := by
  rw [← unsignedLong_eq_lowest lowest rest]
  rw [unsignedLong] at small ⊢
  have bound := lowest.toNat_lt
  omega

theorem hexDecodeList_length {text : List Char} {bytes : Bytes}
    (decoded : hexDecodeList text = some bytes) : text.length = 2 * bytes.length := by
  induction text using hexDecodeList.induct generalizing bytes with
  | case1 =>
      cases decoded
      rfl
  | case2 => cases decoded
  | case3 high low rest ih =>
      simp only [hexDecodeList, Option.bind_eq_bind, Option.bind_eq_some_iff, Option.pure_def,
        Option.some.injEq] at decoded
      obtain ⟨_, _, _, _, more, restDecoded, rfl⟩ := decoded
      rw [List.length_cons, List.length_cons, List.length_cons, ih restDecoded]
      omega

theorem hexDecode_length {text : String} {bytes : Bytes} (decoded : hexDecode text = some bytes) :
    text.length = 64 ↔ bytes.length = 32 := by
  have twice := hexDecodeList_length decoded
  rw [String.length_toList] at twice
  omega

/-- A signature that is asked for: by the first key of a slot that has opened, in the
mechanism of the lowest byte of its type. -/
structure AskedOn (modules : List Module) (id : SlotId) (pin : String) (hashBytes : Bytes)
    (signature : Signature) (slot : Slot) (key : KeyObject) (lowest : UInt8) (rest : Bytes) :
    Prop where
  located : slotAt modules id = some slot
  opened : slot.openSession = none
  login : slot.login pin = none
  first : slot.privateKeys.head? = some key
  typed : key.keyType = .ok (lowest :: rest)
  chosen : mechanismFor lowest hashBytes = some (signature.mechanism, signature.data)
  taken : key.signInit signature.mechanism = none
  signer : signature.key = key.publicKey

theorem signWith_asks {slot : Slot} {key : KeyObject} {hashBytes : Bytes} {signature : Signature} :
    .sign signature ∈ (signWith lib slot key hashBytes).operations ↔
      ∃ lowest rest, key.keyType = .ok (lowest :: rest) ∧
        mechanismFor lowest hashBytes = some (signature.mechanism, signature.data) ∧
        key.signInit signature.mechanism = none ∧ signature.key = key.publicKey := by
  constructor
  · intro member
    unfold signWith at member
    split at member
    · cases member
    · cases member
    · rename_i lowest rest typed
      split at member
      · cases member
      · rename_i mechanism data chosen
        split at member
        · cases member
        · rename_i taken
          simp only at member
          have same : signature = ⟨key.publicKey, mechanism, data⟩ := by
            split at member <;> simpa using member
          rw [same]
          exact ⟨lowest, rest, typed, chosen, taken, rfl⟩
  · rintro ⟨lowest, rest, typed, chosen, taken, signer⟩
    obtain ⟨owner, mechanism, data⟩ := signature
    cases signer
    simp only [signWith, typed, chosen, taken]
    split <;> exact List.mem_singleton_self _

theorem signHash_asks {modules : List Module} {id : SlotId} {fingerprint pin : String}
    {hashBytes : Bytes} {signature : Signature} :
    .sign signature ∈ (signHash lib modules id fingerprint hashBytes pin).operations ↔
      ∃ slot key lowest rest,
        AskedOn modules id pin hashBytes signature slot key lowest rest := by
  constructor
  · intro member
    unfold signHash at member
    split at member
    · cases member
    · rename_i slot located
      split at member
      · cases member
      · rename_i opened
        split at member
        · simp at member
        · rename_i login
          split at member
          · simp at member
          · rename_i key others listed
            simp only [List.mem_cons, reduceCtorEq, false_or] at member
            obtain ⟨lowest, rest, typed, chosen, taken, signer⟩ := signWith_asks.mp member
            exact ⟨slot, key, lowest, rest, located, opened, login, by rw [listed]; rfl, typed,
              chosen, taken, signer⟩
  · rintro ⟨slot, key, lowest, rest, asked⟩
    obtain ⟨others, listed⟩ := List.head?_eq_some_iff.mp asked.first
    simp only [signHash, asked.located, asked.opened, asked.login, listed]
    exact List.mem_cons_of_mem _
      (signWith_asks.mpr ⟨lowest, rest, asked.typed, asked.chosen, asked.taken, asked.signer⟩)

/-- What is asked for in the mechanism of the lowest byte. -/
theorem mechanismFor_cases {lowest : UInt8} {hashBytes data : Bytes} {mechanism : Mechanism}
    (chosen : mechanismFor lowest hashBytes = some (mechanism, data)) :
    lowest = 0 ∧ mechanism = .rsaPkcs ∧ data = sha256DigestInfoPrefix ++ hashBytes ∨
      lowest = 3 ∧ mechanism = .ecdsa ∧ data = hashBytes := by
  unfold mechanismFor at chosen
  split at chosen
  · rename_i rsa
    cases chosen
    exact Or.inl ⟨rsa, rfl, rfl⟩
  · split at chosen
    · rename_i ec
      cases chosen
      exact Or.inr ⟨ec, rfl, rfl⟩
    · cases chosen

/-- It is a digest for the type where the hash is one and the type has no higher bytes. -/
theorem signsDigest_iff {signature : Signature} {lowest : UInt8} {rest hashBytes : Bytes}
    (chosen : mechanismFor lowest hashBytes = some (signature.mechanism, signature.data)) :
    SignsDigest signature (unsignedLong (lowest :: rest)) ↔
      hashBytes.length = 32 ∧ ∀ byte ∈ rest, byte = 0 := by
  constructor
  · intro signs
    generalize value : unsignedLong (lowest :: rest) = keyType at signs
    have small : unsignedLong (lowest :: rest) < 256 := by
      cases signs <;> omega
    have clear := unsignedLong_small lowest rest small
    refine ⟨?_, clear⟩
    cases signs with
    | rsa digest length mechanism data =>
        rcases mechanismFor_cases chosen with ⟨_, _, same⟩ | ⟨_, other, _⟩
        · rw [same] at data
          rw [List.append_cancel_left data]
          exact length
        · cases mechanism.symm.trans other
    | ec mechanism length =>
        rcases mechanismFor_cases chosen with ⟨_, other, _⟩ | ⟨_, _, same⟩
        · cases mechanism.symm.trans other
        · rw [← same]
          exact length
  · rintro ⟨length, clear⟩
    rw [(unsignedLong_eq_lowest lowest rest).mpr clear]
    rcases mechanismFor_cases chosen with ⟨rfl, mechanism, data⟩ | ⟨rfl, mechanism, data⟩
    · exact .rsa hashBytes length mechanism data
    · exact .ec mechanism (by rw [data]; exact length)

theorem ready_asked {modules : List Module} {id : SlotId} {pin : String} {lowest : UInt8}
    {rest : Bytes} (hashBytes : Bytes) :
    Ready modules id pin lowest rest ↔ ∃ signature slot key,
      AskedOn modules id pin hashBytes signature slot key lowest rest := by
  constructor
  · rintro ⟨slot, key, located, opened, login, first, typed, ⟨rfl, taken⟩ | ⟨rfl, taken⟩⟩
    · exact ⟨⟨key.publicKey, .rsaPkcs, sha256DigestInfoPrefix ++ hashBytes⟩, slot, key, located,
        opened, login, first, typed, rfl, taken, rfl⟩
    · exact ⟨⟨key.publicKey, .ecdsa, hashBytes⟩, slot, key, located, opened, login, first, typed,
        rfl, taken, rfl⟩
  · rintro ⟨signature, slot, key, asked⟩
    refine ⟨slot, key, asked.located, asked.opened, asked.login, asked.first, asked.typed, ?_⟩
    have taken := asked.taken
    rcases mechanismFor_cases asked.chosen with ⟨same, mechanism, _⟩ | ⟨same, mechanism, _⟩
    · rw [mechanism] at taken
      exact Or.inl ⟨same, taken⟩
    · rw [mechanism] at taken
      exact Or.inr ⟨same, taken⟩

theorem signHash_digests {modules : List Module} {id : SlotId} {fingerprint pin text : String}
    {hashBytes : Bytes} (decoded : hexDecode text = some hashBytes) :
    OnlyDigests modules id (signHash lib modules id fingerprint hashBytes pin) ↔
      DigestFits modules id pin text := by
  constructor
  · intro only lowest rest ready
    obtain ⟨signature, slot, key, asked⟩ := (ready_asked hashBytes).mp ready
    obtain ⟨other, owner, keyType, located, first, typed, signs⟩ :=
      only signature (signHash_asks.mpr ⟨slot, key, lowest, rest, asked⟩)
    rw [asked.located] at located
    cases located
    rw [asked.first] at first
    cases first
    rw [asked.typed] at typed
    cases typed
    rw [hexDecode_length decoded]
    exact (signsDigest_iff asked.chosen).mp signs
  · intro fits signature member
    obtain ⟨slot, key, lowest, rest, asked⟩ := signHash_asks.mp member
    have ready := (ready_asked hashBytes).mpr ⟨signature, slot, key, asked⟩
    have length := fits lowest rest ready
    rw [hexDecode_length decoded] at length
    exact ⟨slot, key, lowest :: rest, asked.located, asked.first, asked.typed,
      (signsDigest_iff asked.chosen).mpr length⟩

/-- Whenever a request comes to the token, the token is asked for nothing but a digest
exactly where the hash has its length and the type of a key that is ready is no longer
than its lowest byte. -/
theorem only_digests_iff (lib : Libraries) (now : Int) (tokens : List Module)
    (labels : List (BridgeLabel lib)) (world next : BridgeWorld lib) (label : BridgeLabel lib)
    (index : Nat) (call : (bridge lib).Call Origin Response) (id : SlotId)
    (fingerprint pin : String) (hashBytes : Bytes) (signing : Signing) (stamp : Int)
    (reached : run (body lib) (started lib now tokens) labels = some world)
    (stepped : step (body lib) world label = some next)
    (asked : asking world label = some
      (index, call, ⟨.signHash id fingerprint hashBytes pin, .ok signing, stamp⟩)) :
    ∃ request req, call.origin = .http request ∧ request.signBody = some req ∧
      (OnlyDigests world.shared.tokens id signing ↔
        DigestFits world.shared.tokens id pin req.hashToSign) := by
  have shown : signing = signHash lib world.shared.tokens id fingerprint hashBytes pin :=
    shownBy_asking stepped asked
  obtain ⟨request, req, allowed⟩ := disciplined_asking (run_permitted reached) asked
  refine ⟨request, req, allowed.call, allowed.body, ?_⟩
  rw [shown]
  exact signHash_digests allowed.decoded

/-! ### A key and a hash -/

/-- The site is paired and has its request come to the token. -/
def comesToToken (req : SignRequest) : List (BridgeLabel plainLibraries) :=
  served plainLibraries 0 (.http pairing) 7 agreeing ++
    .start (.http (signing req)) :: List.replicate 6 (.ask 1 agreeing)

def comingSigning : AgentEvent → Option (SlotId × String × Bytes × String × Signing)
  | ⟨.signHash id fingerprint hashBytes pin, .ok signing, _⟩ =>
      some (id, fingerprint, hashBytes, pin, signing)
  | _ => none

/-- What the token is asked for, for the request. -/
def askedFor (req : SignRequest) : Option (SlotId × String × Bytes × String × Signing) :=
  (run (body plainLibraries) (started plainLibraries 0 onePair) (comesToToken req)).bind fun world =>
    (step (body plainLibraries) world (.ask 1 agreeing)).bind fun _ =>
      (asking world (.ask 1 agreeing)).bind fun found => comingSigning found.2.2

theorem askedFor_asked {req : SignRequest} {id : SlotId} {fingerprint pin : String}
    {hashBytes : Bytes} {signing : Signing}
    (shown : askedFor req = some (id, fingerprint, hashBytes, pin, signing)) :
    ∃ world next index call stamp,
      run (body plainLibraries) (started plainLibraries 0 onePair) (comesToToken req) =
        some world ∧
      step (body plainLibraries) world (.ask 1 agreeing) = some next ∧
      asking world (.ask 1 agreeing) = some
        (index, call, ⟨.signHash id fingerprint hashBytes pin, .ok signing, stamp⟩) := by
  simp only [askedFor, Option.bind_eq_some_iff] at shown
  obtain ⟨world, reached, next, stepped, ⟨index, call, event⟩, asked, same⟩ := shown
  obtain ⟨operation, result, stamp⟩ := event
  refine ⟨world, next, index, call, stamp, reached, stepped, ?_⟩
  rw [asked]
  cases operation with
  | signHash =>
      cases result with
      | ok given =>
          cases same
          rfl
      | error error => cases same
  | _ => cases result <;> cases same

def digestRequest : SignRequest :=
  { signRequest with hashToSign := String.ofList (List.replicate 64 '0') }

theorem only_digests_sample :
    ∃ (world : BridgeWorld plainLibraries) (call : (bridge plainLibraries).Call Origin Response)
        (id : SlotId) (pin : String) (signing : Signing),
      run (body plainLibraries) (started plainLibraries 0 onePair) (comesToToken digestRequest) =
        some world ∧
      ∃ request req, call.origin = .http request ∧ request.signBody = some req ∧
        (OnlyDigests world.shared.tokens id signing ↔
          DigestFits world.shared.tokens id pin req.hashToSign) := by
  have ends : (askedFor digestRequest).isSome = true := by decide +kernel
  obtain ⟨⟨id, fingerprint, hashBytes, pin, signing⟩, shown⟩ := Option.isSome_iff_exists.mp ends
  obtain ⟨world, next, index, call, stamp, reached, stepped, asked⟩ := askedFor_asked shown
  exact ⟨world, call, id, pin, signing, reached, only_digests_iff plainLibraries 0 onePair
    (comesToToken digestRequest) world next (.ask 1 agreeing) index call id fingerprint pin hashBytes
    signing stamp reached stepped asked⟩

/-- A site without an HMAC secret has two bytes signed. -/
theorem two_bytes_signed :
    ¬ ∀ (lib : Libraries) (now : Int) (tokens : List Module) (labels : List (BridgeLabel lib))
        (world next : BridgeWorld lib) (label : BridgeLabel lib) (index : Nat)
        (call : (bridge lib).Call Origin Response) (id : SlotId) (fingerprint pin : String)
        (hashBytes : Bytes) (signing : Signing) (stamp : Int),
      run (body lib) (started lib now tokens) labels = some world →
      step (body lib) world label = some next →
      asking world label = some
        (index, call, ⟨.signHash id fingerprint hashBytes pin, .ok signing, stamp⟩) →
      OnlyDigests world.shared.tokens id signing := by
  intro only
  have ends : (askedFor signRequest).map (fun shown => shown.2.2.2.2.operations) =
      some [.login "1234", .sign ⟨⟨[1]⟩, .rsaPkcs, sha256DigestInfoPrefix ++ [0x0a, 0x0b]⟩] := by
    decide +kernel
  obtain ⟨⟨id, fingerprint, hashBytes, pin, signing⟩, shown, operations⟩ :=
    Option.map_eq_some_iff.mp ends
  obtain ⟨world, next, index, call, stamp, reached, stepped, asked⟩ := askedFor_asked shown
  have digests := only plainLibraries 0 onePair (comesToToken signRequest) world next
    (.ask 1 agreeing) index call id fingerprint pin hashBytes signing stamp reached stepped asked
  simp only at operations
  obtain ⟨_, _, keyType, _, _, _, signs⟩ := digests _
    (by rw [operations]; exact List.mem_cons_of_mem _ (List.mem_singleton_self _))
  generalize unsignedLong keyType = value at signs
  cases signs with
  | rsa digest length _ data =>
      have lengths := congrArg List.length data
      rw [List.length_append, List.length_append, length] at lengths
      exact absurd lengths (by decide)
  | ec mechanism => cases mechanism

end DscSigning.Bridge
