/-
The issuers and the revocation status that the bridge fetches for a certificate
by its Authority Information Access extension.

The network is a mapping from addresses to what they serve.  What `crypto/x509`
and `encoding/pem` compute is a parameter; of a parsed certificate the model
keeps what is read here.
-/

import DscSigning.Primitives
import DscSigning.Library.Der
import DscSigning.Library.Sha1

namespace DscSigning.Bridge

/-- `RawSubjectPublicKeyInfo`, from which the parser has read the contents of the
`BIT STRING`; it does not look at what follows them. -/
structure SubjectPublicKeyInfo where
  raw : Bytes
  subjectPublicKey : Bytes
  encoded : ∃ algorithm unused rest,
    raw = Der.sequence [algorithm, Der.bitString unused subjectPublicKey, rest]

structure X509 where
  rawSubject : Bytes
  rawIssuer : Bytes
  serialNumber : Int
  subjectPublicKeyInfo : SubjectPublicKeyInfo
  issuingCertificateURL : List String
  ocspServer : List String
  /-- The signature verifies under the certificate's own key; nothing here asks. -/
  signedByOwnKey : Bool

structure X509Libraries where
  parseCertificate : Bytes → Except String X509
  /-- `Name.String()` -/
  nameString : Bytes → String
  /-- The contents of the first block; `none` where there is none. -/
  pemDecode : Bytes → Option Bytes

structure HttpResponse where
  statusCode : Nat
  /-- What `io.ReadAll` returns. -/
  body : Except String Bytes

structure Network where
  get : String → Except String HttpResponse
  post : String → Bytes → Except String HttpResponse

/-! ### `bytes.TrimSpace` -/

/-- The white space of Unicode, in UTF-8. -/
def spaces : List Bytes :=
  [[0x09], [0x0A], [0x0B], [0x0C], [0x0D], [0x20], [0xC2, 0x85], [0xC2, 0xA0], [0xE1, 0x9A, 0x80],
    [0xE2, 0x80, 0xA8], [0xE2, 0x80, 0xA9], [0xE2, 0x80, 0xAF], [0xE2, 0x81, 0x9F],
    [0xE3, 0x80, 0x80]] ++
  (List.range 11).map fun offset => [0xE2, 0x80, UInt8.ofNat (0x80 + offset)]

/-- Each round drops one space, so that the length bounds the rounds. -/
def dropSpaces (spaces : List Bytes) : Nat → Bytes → Bytes
  | 0, bytes => bytes
  | rounds + 1, bytes =>
      match spaces.find? (·.isPrefixOf bytes) with
      | some space => dropSpaces spaces rounds (bytes.drop space.length)
      | none => bytes

def trimSpace (bytes : Bytes) : Bytes :=
  let left := dropSpaces spaces bytes.length bytes
  (dropSpaces (spaces.map List.reverse) left.length left.reverse).reverse

/-- `-----BEGIN` -/
def pemHeader : Bytes := [0x2D, 0x2D, 0x2D, 0x2D, 0x2D, 0x42, 0x45, 0x47, 0x49, 0x4E]

/-! ### The chain -/

section

variable (lib : X509Libraries) (network : Network)

def fetchDER (url : String) : Except String Bytes :=
  match network.get url with
  | .error error => .error error
  | .ok response =>
      if response.statusCode ≠ 200 then .error s!"HTTP {response.statusCode} from {url}"
      else
        match response.body with
        | .error error => .error error
        | .ok body =>
            if pemHeader.isPrefixOf (trimSpace body) then
              match lib.pemDecode body with
              | none => .error s!"failed to decode PEM from {url}"
              | some bytes => .ok bytes
            else .ok body

/-- The loop of `FetchCertChain`: what is appended from the current certificate on. -/
def walkChain : Nat → X509 → List Bytes
  | 0, _ => []
  | levels + 1, current =>
      match current.issuingCertificateURL with
      | [] => []
      | url :: _ =>
          -- self-signed = root, stop here
          if lib.nameString current.rawSubject = lib.nameString current.rawIssuer then []
          else
            match fetchDER lib network url with
            | .error _ => []
            | .ok issuerDER =>
                -- appended before it is parsed
                issuerDER ::
                  match lib.parseCertificate issuerDER with
                  | .error _ => []
                  | .ok issuer => walkChain levels issuer

def fetchCertChain (leafDER : Bytes) : Except String (List Bytes) :=
  match lib.parseCertificate leafDER with
  | .error error => .error s!"parsing leaf cert: {error}"
  | .ok leaf => .ok (walkChain lib network 5 leaf)

end

/-! ### The request for the status -/

/-- `asn1Wrap`, for contents that are shorter than an `int` can say. -/
def asn1Wrap (tag : UInt8) (contents : List Bytes) : Bytes :=
  let body := contents.flatten
  let length := body.length
  let header : Bytes :=
    if length < 128 then [tag, UInt8.ofNat length]
    else if length < 256 then [tag, 0x81, UInt8.ofNat length]
    else [tag, 0x82, UInt8.ofNat (length >>> 8), UInt8.ofNat length]
  header ++ body

def asn1Sequence (items : List Bytes) : Bytes := asn1Wrap 0x30 items

def asn1SequenceOf (items : List Bytes) : Bytes := asn1Wrap 0x30 items

def asn1OctetString (data : Bytes) : Bytes := asn1Wrap 0x04 [data]

/-- The leading zero keeps an integer positive. -/
def asn1Integer (data : Bytes) : Bytes :=
  match data with
  | [] => asn1Wrap 0x02 [[]]
  | first :: rest =>
      if first &&& 0x80 ≠ 0 then asn1Wrap 0x02 [0 :: first :: rest]
      else asn1Wrap 0x02 [first :: rest]

def asn1Null : Bytes := [0x05, 0x00]

def sha1OID : Bytes := [0x06, 0x05, 0x2b, 0x0e, 0x03, 0x02, 0x1a]

def buildOCSPRequest (cert issuer : X509) : Bytes :=
  let issuerNameHash := Sha1.hash cert.rawIssuer
  let issuerKeyHash := Sha1.hash issuer.subjectPublicKeyInfo.raw
  -- `Bytes()` is the absolute value
  let serial := Der.bigEndian cert.serialNumber.natAbs
  let certID := asn1Sequence
    [asn1Sequence [sha1OID, asn1Null],
      asn1OctetString issuerNameHash,
      asn1OctetString issuerKeyHash,
      asn1Integer serial]
  let request := asn1Sequence [certID]
  let tbsRequest := asn1Sequence [asn1SequenceOf [request]]
  asn1Sequence [tbsRequest]

def fetchOCSP (lib : X509Libraries) (network : Network) (certDER issuerDER : Bytes) :
    Except String Bytes :=
  match lib.parseCertificate certDER with
  | .error error => .error s!"parsing cert: {error}"
  | .ok cert =>
      match cert.ocspServer with
      | [] => .error "no OCSP server URL in certificate"
      | ocspURL :: _ =>
          match lib.parseCertificate issuerDER with
          | .error error => .error s!"parsing issuer cert: {error}"
          | .ok issuer =>
              match network.post ocspURL (buildOCSPRequest cert issuer) with
              | .error error => .error s!"OCSP request failed: {error}"
              | .ok response =>
                  if response.statusCode ≠ 200 then
                    .error s!"OCSP responder returned status {response.statusCode}"
                  else
                    match response.body with
                    | .error error => .error s!"reading OCSP response: {error}"
                    | .ok bytes => .ok bytes

end DscSigning.Bridge
