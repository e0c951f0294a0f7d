/-
The request for the status of a certificate, against the encoding that RFC 6960
gives it.

Both encoders nest the same values, so they differ only where a length or the
contents do: the lengths are compared from the outside in.
-/

import DscSigning.Bridge.Aia

namespace DscSigning.Bridge

/-! ### RFC 6960 -/

def sha1Algorithm : Bytes := Der.sequence [Der.tlv 0x06 [0x2b, 0x0e, 0x03, 0x02, 0x1a], Der.null]

/-- A `CertID` with SHA-1. -/
structure CertID where
  issuerNameHash : Bytes
  issuerKeyHash : Bytes
  serialNumber : Nat
deriving DecidableEq

def CertID.der (certID : CertID) : Bytes :=
  Der.sequence [sha1Algorithm, Der.octetString certID.issuerNameHash,
    Der.octetString certID.issuerKeyHash, Der.integer certID.serialNumber]

/-- `OCSPRequest`, its only `Request` made of the `CertID`, without the optional parts. -/
def CertID.ocspRequest (certID : CertID) : Bytes :=
  let request := Der.sequence [certID.der]
  let tbsRequest := Der.sequence [Der.sequence [request]]
  Der.sequence [tbsRequest]

/-- The name of the issuer is that of the certificate being checked; the key is hashed without
the tag, the length and the number of unused bits. -/
def X509.certID (cert issuer : X509) : CertID where
  issuerNameHash := Sha1.hash cert.rawIssuer
  issuerKeyHash := Sha1.hash issuer.subjectPublicKeyInfo.subjectPublicKey
  serialNumber := cert.serialNumber.toNat

/-- Two texts with one digest. -/
structure Sha1Collision (left right : Bytes) : Prop where
  differ : left ≠ right
  same : Sha1.hash left = Sha1.hash right

/-- The octets of the key are a part of the information about it. -/
theorem SubjectPublicKeyInfo.raw_ne (info : SubjectPublicKeyInfo) :
    info.raw ≠ info.subjectPublicKey := by
  intro same
  obtain ⟨algorithm, unused, rest, encoded⟩ := info.encoded
  have sizes := congrArg List.length encoded
  rw [same, Der.sequence, Der.tlv_length] at sizes
  simp only [Der.bitString, List.flatten_cons, List.flatten_nil, List.length_append,
    Der.tlv_length, List.length_cons, List.length_nil] at sizes
  omega

/-! ### The encoder of the bridge -/

theorem asn1Wrap_length (tag : UInt8) (contents : List Bytes) :
    (asn1Wrap tag contents).length = contents.flatten.length +
      if contents.flatten.length < 128 then 2
      else if contents.flatten.length < 256 then 3 else 4 := by
  simp only [asn1Wrap, List.length_append]
  split
  · simp only [List.length_cons, List.length_nil]
    omega
  · split
    · simp only [List.length_cons, List.length_nil]
      omega
    · simp only [List.length_cons, List.length_nil]
      omega

/-- The header is the right one as long as two octets hold the length. -/
theorem asn1Wrap_eq_tlv (tag : UInt8) {contents : List Bytes}
    (small : contents.flatten.length < 65536) :
    asn1Wrap tag contents = Der.tlv tag contents.flatten := by
  simp only [asn1Wrap, Der.tlv, Nat.shiftRight_eq_div_pow]
  by_cases short : contents.flatten.length < 128
  · rw [if_pos short, Der.lengthOctets, if_pos short]
    rfl
  · rw [if_neg short]
    by_cases one : contents.flatten.length < 256
    · rw [if_pos one, Der.lengthOctets_one (by omega) one]
      rfl
    · rw [if_neg one, Der.lengthOctets_two (by omega) small]
      rfl

theorem asn1Wrap_length_le (tag : UInt8) (contents : List Bytes) :
    (asn1Wrap tag contents).length ≤ (Der.tlv tag contents.flatten).length := by
  by_cases small : contents.flatten.length < 65536
  · rw [asn1Wrap_eq_tlv tag small]
  · have long := Der.lengthOctets_long (Nat.le_of_not_lt small)
    rw [asn1Wrap_length, Der.tlv_length, if_neg (by omega), if_neg (by omega)]
    omega

/-- Where the encoding of a body that may be shorter has the length it should have, the body has
its length too, and its length fits the header. -/
theorem asn1Wrap_exact {tag : UInt8} {contents : List Bytes} {body : Bytes}
    (shorter : contents.flatten.length ≤ body.length)
    (same : (asn1Wrap tag contents).length = (Der.tlv tag body).length) :
    contents.flatten.length = body.length ∧ body.length < 65536 := by
  have bound := asn1Wrap_length_le tag contents
  have equal : contents.flatten.length = body.length := by
    by_contra different
    have strict := Der.tlv_length_lt tag tag
      (show contents.flatten.length < body.length by omega)
    omega
  refine ⟨equal, ?_⟩
  by_contra large
  have long := Der.lengthOctets_long (Nat.le_of_not_lt large)
  rw [asn1Wrap_length, equal, Der.tlv_length, if_neg (by omega), if_neg (by omega)] at same
  omega

theorem asn1Wrap_length_mono {tag : UInt8} {contents : List Bytes} {body : Bytes}
    (shorter : contents.flatten.length ≤ body.length) :
    (asn1Wrap tag contents).length ≤ (Der.tlv tag body).length := by
  have bound := asn1Wrap_length_le tag contents
  rcases Nat.lt_or_eq_of_le shorter with less | equal
  · have strict := Der.tlv_length_lt tag tag less
    omega
  · rw [Der.tlv_length, equal] at bound
    rw [Der.tlv_length]
    exact bound

theorem asn1Integer_eq {serial : Nat} (nonzero : serial ≠ 0) :
    asn1Integer (Der.bigEndian serial) = asn1Wrap 0x02 [Der.unsigned serial] := by
  have high : ∀ value : Fin 256, UInt8.ofNat value &&& 0x80 ≠ 0 ↔ 128 ≤ value.val := by
    decide +kernel
  unfold asn1Integer Der.unsigned
  cases octets : Der.bigEndian serial with
  | nil => exact absurd (Der.bigEndian_eq_nil.mp octets) nonzero
  | cons first rest =>
      have bit := high ⟨first.toNat, first.toNat_lt⟩
      simp only [UInt8.ofNat_toNat] at bit
      by_cases top : 128 ≤ first.toNat
      · simp only [if_pos (bit.mpr top), if_pos top]
      · simp only [if_neg (mt bit.mp top), if_neg top]

theorem asn1Integer_zero : asn1Integer (Der.bigEndian 0) = [0x02, 0x00] := by
  rw [Der.bigEndian_zero]
  rfl

/-! ### Nesting -/

/-- A value inside sequences of one. -/
def nested (sequence : List Bytes → Bytes) : Nat → Bytes → Bytes
  | 0, body => body
  | depth + 1, body => sequence [nested sequence depth body]

theorem nested_length_mono {inner body : Bytes} (shorter : inner.length ≤ body.length)
    (depth : Nat) :
    (nested asn1Sequence depth inner).length ≤ (nested Der.sequence depth body).length := by
  induction depth with
  | zero => exact shorter
  | succ depth ih =>
      rw [nested, nested, asn1Sequence, Der.sequence, List.flatten_singleton]
      exact asn1Wrap_length_mono (by rwa [List.flatten_singleton])

/-- The lengths agree outside only where they agree inside, and every header holds its own. -/
theorem nested_exact {inner body : Bytes} (shorter : inner.length ≤ body.length) {depth : Nat}
    (same : (nested asn1Sequence depth inner).length = (nested Der.sequence depth body).length) :
    inner.length = body.length ∧
      ∀ level < depth, (nested Der.sequence level body).length < 65536 := by
  induction depth with
  | zero => exact ⟨same, fun level below => absurd below (Nat.not_lt_zero level)⟩
  | succ depth ih =>
      rw [nested, nested, asn1Sequence, Der.sequence, List.flatten_singleton] at same
      have mono := nested_length_mono shorter depth
      obtain ⟨equal, small⟩ := asn1Wrap_exact (by rwa [List.flatten_singleton]) same
      rw [List.flatten_singleton] at equal
      obtain ⟨sizes, below⟩ := ih equal
      refine ⟨sizes, fun level within => ?_⟩
      rcases Nat.lt_succ_iff_lt_or_eq.mp within with less | rfl
      · exact below level less
      · exact small

theorem nested_eq {body : Bytes} {depth : Nat}
    (small : ∀ level < depth, (nested Der.sequence level body).length < 65536) :
    nested asn1Sequence depth body = nested Der.sequence depth body := by
  induction depth with
  | zero => rfl
  | succ depth ih =>
      have outer := small depth (Nat.lt_succ_self depth)
      rw [nested, nested, ih fun level below => small level (Nat.lt_succ_of_lt below),
        asn1Sequence, Der.sequence, asn1Wrap_eq_tlv 0x30 (by rwa [List.flatten_singleton])]

theorem nested_length_le {body : Bytes} {depth bound : Nat} (size : body.length ≤ bound)
    (small : bound + 4 * depth < 65540) :
    (nested Der.sequence depth body).length ≤ bound + 4 * depth := by
  induction depth with
  | zero => exact size
  | succ depth ih =>
      have inner := ih (by omega)
      have outer := Der.tlv_length_le 0x30
        (show (nested Der.sequence depth body).length < 65536 by omega)
      rw [nested, Der.sequence, List.flatten_singleton]
      omega

theorem nested_length_ge {body : Bytes} (large : 256 ≤ body.length) (depth : Nat) :
    body.length + 4 * depth ≤ (nested Der.sequence depth body).length := by
  induction depth with
  | zero => exact Nat.le_refl _
  | succ depth ih =>
      have outer := Der.tlv_length_ge 0x30
        (show 256 ≤ (nested Der.sequence depth body).length by omega)
      rw [nested, Der.sequence, List.flatten_singleton]
      omega

theorem nested_inj {depth : Nat} {left right : Bytes}
    (same : nested Der.sequence depth left = nested Der.sequence depth right) : left = right := by
  induction depth with
  | zero => exact same
  | succ depth ih =>
      have inner := (Der.tlv_inj same).2
      rw [List.flatten_singleton, List.flatten_singleton] at inner
      exact ih inner

/-! ### The request -/

/-- The serial number is not zero, and the headers hold the lengths that come of it. -/
structure Encodable (serial : Nat) : Prop where
  nonzero : serial ≠ 0
  small : (Der.unsigned serial).length ≤ 65460

/-- What the bridge puts into the `CertID`. -/
def X509.hashedCertID (cert issuer : X509) : CertID :=
  { cert.certID issuer with issuerKeyHash := Sha1.hash issuer.subjectPublicKeyInfo.raw }

/-- What stands in the `CertID` before the serial number. -/
def X509.hashes (cert issuer : X509) : Bytes :=
  sha1Algorithm ++ Der.octetString (Sha1.hash cert.rawIssuer) ++
    Der.octetString (Sha1.hash issuer.subjectPublicKeyInfo.raw)

theorem hashes_length (cert issuer : X509) : (cert.hashes issuer).length = 55 := by
  have algorithm : sha1Algorithm.length = 11 := by decide
  have octets : ∀ message, (Der.octetString (Sha1.hash message)).length = 22 := by
    intro message
    rw [Der.octetString, Der.tlv_length, Sha1.hash_length]
    rfl
  rw [X509.hashes, List.length_append, List.length_append, algorithm, octets, octets]

theorem hashedCertID_der (cert issuer : X509) : (cert.hashedCertID issuer).ocspRequest =
    nested Der.sequence 5 (cert.hashes issuer ++ Der.integer cert.serialNumber.toNat) := by
  simp only [CertID.ocspRequest, CertID.der, X509.hashedCertID, X509.certID, nested, X509.hashes,
    Der.sequence, List.flatten_cons, List.flatten_nil, List.append_nil, List.append_assoc]

theorem buildOCSPRequest_eq (cert issuer : X509) : buildOCSPRequest cert issuer =
    nested asn1Sequence 5
      (cert.hashes issuer ++ asn1Integer (Der.bigEndian cert.serialNumber.natAbs)) := by
  have algorithm : asn1Sequence [sha1OID, asn1Null] = sha1Algorithm := by decide
  have octets : ∀ message,
      asn1OctetString (Sha1.hash message) = Der.octetString (Sha1.hash message) := by
    intro message
    rw [asn1OctetString, asn1Wrap_eq_tlv 0x04 (by simp)]
    simp [Der.octetString]
  have flat : ∀ items, asn1Sequence items = asn1Sequence [items.flatten] := by
    intro items
    rw [asn1Sequence, asn1Sequence, asn1Wrap, asn1Wrap, List.flatten_singleton]
  rw [buildOCSPRequest, algorithm, octets, octets]
  simp only [asn1SequenceOf, nested]
  rw [← asn1Sequence, flat [_, _, _, _]]
  simp only [X509.hashes, List.flatten_cons, List.flatten_nil, List.append_nil, List.append_assoc]

/-- With an integer that fits, every header on the way out does. -/
theorem build_encodable {cert issuer : X509} (nonneg : 0 ≤ cert.serialNumber)
    (encodable : Encodable cert.serialNumber.toNat) :
    buildOCSPRequest cert issuer = (cert.hashedCertID issuer).ocspRequest := by
  have absolute : cert.serialNumber.natAbs = cert.serialNumber.toNat := by omega
  have short := encodable.small
  have integer : asn1Integer (Der.bigEndian cert.serialNumber.toNat) =
      Der.integer cert.serialNumber.toNat := by
    rw [asn1Integer_eq encodable.nonzero, asn1Wrap_eq_tlv 0x02 (by simp; omega)]
    simp [Der.integer]
  have size : (Der.integer cert.serialNumber.toNat).length ≤ 65464 := by
    have bound := Der.tlv_length_le 0x02
      (show (Der.unsigned cert.serialNumber.toNat).length < 65536 by omega)
    rw [Der.integer]
    omega
  have body : (cert.hashes issuer ++ Der.integer cert.serialNumber.toNat).length ≤ 65519 := by
    rw [List.length_append, hashes_length]
    omega
  rw [buildOCSPRequest_eq, hashedCertID_der, absolute, integer]
  apply nested_eq
  intro level below
  have bound := @nested_length_le _ level _ body (by omega)
  omega

/-- A request of the length it should have was made of an integer that fits. -/
theorem encodable_of_length {cert issuer : X509} (nonneg : 0 ≤ cert.serialNumber)
    (same : (buildOCSPRequest cert issuer).length =
      (cert.hashedCertID issuer).ocspRequest.length) : Encodable cert.serialNumber.toNat := by
  have absolute : cert.serialNumber.natAbs = cert.serialNumber.toNat := by omega
  rw [buildOCSPRequest_eq, hashedCertID_der, absolute] at same
  by_cases zero : cert.serialNumber.toNat = 0
  · have shorter : (asn1Integer (Der.bigEndian 0)).length < (Der.integer 0).length := by
      rw [asn1Integer_zero]
      decide
    rw [zero] at same
    have sizes := (nested_exact (by
      rw [List.length_append, List.length_append]
      omega) same).1
    rw [List.length_append, List.length_append] at sizes
    omega
  · have integer : (asn1Integer (Der.bigEndian cert.serialNumber.toNat)).length ≤
        (Der.integer cert.serialNumber.toNat).length := by
      rw [asn1Integer_eq zero, Der.integer]
      exact asn1Wrap_length_mono (by simp)
    have fits := (nested_exact (by
      rw [List.length_append, List.length_append]
      omega) same).2 4 (by norm_num)
    refine ⟨zero, ?_⟩
    by_contra long
    have contents := Der.tlv_length_ge 0x02
      (show 256 ≤ (Der.unsigned cert.serialNumber.toNat).length by omega)
    have body : (cert.hashes issuer ++ Der.integer cert.serialNumber.toNat).length =
        55 + (Der.integer cert.serialNumber.toNat).length := by
      rw [List.length_append, hashes_length]
    rw [Der.integer] at body
    have outer := @nested_length_ge (cert.hashes issuer ++
      Der.tlv 0x02 (Der.unsigned cert.serialNumber.toNat)) (by omega) 4
    rw [Der.integer] at fits
    omega

/-- The digests have one length, so the two requests have one length too. -/
theorem ocspRequest_length (cert issuer : X509) :
    (cert.certID issuer).ocspRequest.length = (cert.hashedCertID issuer).ocspRequest.length := by
  simp only [CertID.ocspRequest, CertID.der, X509.certID, X509.hashedCertID, Der.sequence,
    Der.octetString, Der.tlv_length, List.flatten_cons, List.flatten_nil, List.length_append,
    Sha1.hash_length]

theorem keyHash_of_ocspRequest {certID : CertID} {keyHash : Bytes}
    (same : { certID with issuerKeyHash := keyHash }.ocspRequest = certID.ocspRequest) :
    keyHash = certID.issuerKeyHash := by
  have contents := @nested_inj 4 _ _ same
  have parts := (Der.tlv_inj contents).2
  simp only [List.flatten_cons, List.flatten_nil, List.append_nil, List.append_cancel_left_eq,
    List.append_cancel_right_eq] at parts
  exact (Der.tlv_inj parts).2

/-- The request is the one that RFC 6960 defines exactly where the hash of the whole key
information happens to be that of the key, and the serial number is one the encoder handles. -/
theorem buildOCSPRequest_conforms (cert issuer : X509) (nonneg : 0 ≤ cert.serialNumber) :
    buildOCSPRequest cert issuer = (cert.certID issuer).ocspRequest ↔
      Sha1Collision issuer.subjectPublicKeyInfo.raw issuer.subjectPublicKeyInfo.subjectPublicKey ∧
        Encodable cert.serialNumber.toNat := by
  constructor
  · intro same
    have encodable : Encodable cert.serialNumber.toNat :=
      encodable_of_length nonneg (by rw [same, ocspRequest_length])
    rw [build_encodable nonneg encodable] at same
    exact ⟨⟨issuer.subjectPublicKeyInfo.raw_ne, keyHash_of_ocspRequest same⟩, encodable⟩
  · rintro ⟨collision, encodable⟩
    rw [build_encodable nonneg encodable, X509.hashedCertID, collision.same]
    rfl

/-- The name `CN=CA`. -/
def caName : Bytes := Der.sequence [Der.tlv 0x31 (Der.sequence
  [Der.tlv 0x06 [0x55, 0x04, 0x03], Der.tlv 0x0c [0x43, 0x41]])]

/-- An Ed25519 key. -/
def caKey : SubjectPublicKeyInfo where
  raw := Der.sequence [Der.sequence [Der.tlv 0x06 [0x2b, 0x65, 0x70]],
    Der.bitString 0 (List.replicate 32 0x58), []]
  subjectPublicKey := List.replicate 32 0x58
  encoded := ⟨_, _, _, rfl⟩

/-- A certificate of the authority, with the serial number 2024. -/
def caCertificate : X509 where
  rawSubject := caName
  rawIssuer := caName
  serialNumber := 2024
  subjectPublicKeyInfo := caKey
  issuingCertificateURL := []
  ocspServer := ["http://ocsp.example"]
  signedByOwnKey := true

theorem buildOCSPRequest_at_ca : 0 ≤ caCertificate.serialNumber ∧
    (buildOCSPRequest caCertificate caCertificate =
        (caCertificate.certID caCertificate).ocspRequest ↔
      Sha1Collision caKey.raw caKey.subjectPublicKey ∧ Encodable 2024) :=
  ⟨by decide, buildOCSPRequest_conforms caCertificate caCertificate (by decide)⟩

theorem buildOCSPRequest_wrong_key_hash :
    0 ≤ caCertificate.serialNumber ∧ buildOCSPRequest caCertificate caCertificate ≠
      (caCertificate.certID caCertificate).ocspRequest := by
  decide +kernel

end DscSigning.Bridge
