/-
The tokens as the PKCS#11 handler of the bridge sees them, and what it computes
from them.

A search lists the objects of a slot in their order on the token.  Signatures
are ideal: a signature is the key, the mechanism and the data it was made of.
-/

import DscSigning.Primitives

namespace DscSigning.Bridge

/-- A public key in its encoding; it stands for the pair. -/
structure PublicKey where
  encoded : Bytes
deriving DecidableEq

/-- A parsed X.509 certificate, as far as the bridge uses it. -/
structure Certificate where
  subjectCN : String
  subjectFull : String
  issuerCN : String
  serial : String
  notBefore : String
  notAfter : String
  keyUsage : List String
  publicKey : PublicKey
deriving DecidableEq

inductive Mechanism where
  | rsaPkcs
  | ecdsa
deriving DecidableEq

structure Signature where
  key : PublicKey
  mechanism : Mechanism
  data : Bytes
deriving DecidableEq

/-- What `crypto`, `crypto/x509` and the PKCS#11 binding compute. -/
structure Libraries where
  sha256 : Bytes → Bytes
  hmacSha256 : Bytes → Bytes → Bytes
  parseCertificate : Bytes → Option Certificate
  /-- The bytes of a signature, as the token returns them. -/
  signatureValue : Signature → Bytes
  /-- `pkcs11.Error.Error()` -/
  errorText : Nat → String

def Libraries.fingerprint (lib : Libraries) (der : Bytes) : String := hex (lib.sha256 der)

/-! ### Token content -/

structure CertificateObject where
  /-- `CKA_VALUE`, or the code of the failed read. -/
  value : Except Nat Bytes
  /-- `CKA_PRIVATE`: found only after a login. -/
  isPrivate : Bool

structure KeyObject where
  publicKey : PublicKey
  /-- `CKA_KEY_TYPE`, or the code of the failed read. -/
  keyType : Except Nat Bytes
  /-- The code with which `C_SignInit` refuses the mechanism. -/
  signInit : Mechanism → Option Nat
  /-- The code with which `C_Sign` refuses the data. -/
  sign : Mechanism → Bytes → Option Nat

inductive TokenObject where
  | certificate (object : CertificateObject)
  | privateKey (object : KeyObject)

structure Slot where
  number : Nat
  /-- Label and serial number, where the token information can be read. -/
  info : Option (String × String)
  /-- The code with which `C_OpenSession` fails. -/
  openSession : Option Nat
  /-- The code with which `C_Login` refuses the PIN. -/
  login : String → Option Nat
  objects : List TokenObject

/-- A loaded PKCS#11 library with its slots, if they can be listed. -/
structure Module where
  path : String
  slots : Option (List Slot)

/-- The certificate objects of a search, with or without a login. -/
def Slot.certificates (slot : Slot) (user : Bool) : List CertificateObject :=
  slot.objects.filterMap fun
    | .certificate object => if object.isPrivate && !user then none else some object
    | .privateKey _ => none

/-- The private keys of a search after a login. -/
def Slot.privateKeys (slot : Slot) : List KeyObject :=
  slot.objects.filterMap fun
    | .certificate _ => none
    | .privateKey object => some object

/-! ### Reading certificates -/

structure TokenInfo where
  label : String
  serial : String
  slot : Nat
deriving DecidableEq

structure CertInfo where
  fingerprintSHA256 : String
  subjectCN : String
  subjectFull : String
  issuerCN : String
  serial : String
  notBefore : String
  notAfter : String
  keyUsage : List String
  slot : Nat
  tokenSerial : String
  certDERBase64 : String
deriving DecidableEq

/-- The context and the slot that a certificate was found on. -/
structure SlotId where
  path : String
  number : Nat
deriving DecidableEq

variable (lib : Libraries)

/-- The entry of one certificate object; unreadable and unparsable ones are skipped. -/
def certInfo (slot : Slot) (tokenSerial : String) (object : CertificateObject) :
    Option CertInfo :=
  match object.value with
  | .error _ => none
  | .ok certDER =>
      if certDER = [] then none
      else (lib.parseCertificate certDER).map fun parsed =>
        { fingerprintSHA256 := lib.fingerprint certDER
          subjectCN := parsed.subjectCN
          subjectFull := parsed.subjectFull
          issuerCN := parsed.issuerCN
          serial := parsed.serial
          notBefore := parsed.notBefore
          notAfter := parsed.notAfter
          keyUsage := parsed.keyUsage
          slot := slot.number
          tokenSerial := tokenSerial
          certDERBase64 := Base64.encode certDER }

def readCertsFromSession (slot : Slot) (tokenSerial : String) : List CertInfo :=
  (slot.certificates false).filterMap (certInfo lib slot tokenSerial)

/-- `DetectTokens` -/
def detectTokens (modules : List Module) : List TokenInfo :=
  modules.flatMap fun ctx => (ctx.slots.getD []).filterMap fun slot =>
    slot.info.map fun info => ⟨info.1, info.2, slot.number⟩

/-- `EnumerateCerts` -/
def enumerateCerts (modules : List Module) : List CertInfo :=
  modules.flatMap fun ctx => (ctx.slots.getD []).flatMap fun slot =>
    match slot.info, slot.openSession with
    | some info, none => readCertsFromSession lib slot info.2
    | _, _ => []

/-- The certificates `FindCertByFingerprint` looks at on one slot; an unreadable
token information leaves the serial number empty. -/
def slotCerts (slot : Slot) : List CertInfo :=
  match slot.openSession with
  | some _ => []
  | none => readCertsFromSession lib slot ((slot.info.map Prod.snd).getD "")

/-- `FindCertByFingerprint`, with the contexts in the order of the iteration. -/
def findCertByFingerprint (modules : List Module) (fingerprint : String) :
    Option (CertInfo × SlotId) :=
  modules.findSome? fun ctx => (ctx.slots.getD []).findSome? fun slot =>
    ((slotCerts lib slot).find? fun cert => cert.fingerprintSHA256 == fingerprint).map
      fun cert => (cert, ⟨ctx.path, slot.number⟩)

/-- The slot behind a context and a slot number. -/
def slotAt (modules : List Module) (id : SlotId) : Option Slot :=
  (modules.find? fun ctx => ctx.path == id.path).bind fun ctx =>
    (ctx.slots.getD []).find? fun slot => slot.number == id.number

/-! ### Signing -/

/-- An error of the handler: its text, and the PKCS#11 code it wraps. -/
structure Failure where
  message : String
  code : Option Nat
deriving DecidableEq

def Failure.wrap (what : String) (code : Nat) : Failure :=
  ⟨what ++ ": " ++ lib.errorText code, some code⟩

inductive TokenOperation where
  | login (pin : String)
  | sign (signature : Signature)
deriving DecidableEq

/-- What `SignHash` does on the token, and what it returns. -/
structure Signing where
  operations : List TokenOperation
  result : Except Failure (Signature × Bytes)

/-- `sha256DigestInfoPrefix` -/
def sha256DigestInfoPrefix : Bytes :=
  [0x30, 0x31, 0x30, 0x0d, 0x06, 0x09, 0x60, 0x86, 0x48, 0x01, 0x65, 0x03, 0x04, 0x02, 0x01, 0x05,
    0x00, 0x04, 0x20]

/-- Mechanism and data by the first byte of the key type. -/
def mechanismFor (keyType : UInt8) (hashBytes : Bytes) : Option (Mechanism × Bytes) :=
  if keyType = 0 then some (.rsaPkcs, sha256DigestInfoPrefix ++ hashBytes)
  else if keyType = 3 then some (.ecdsa, hashBytes)
  else none

/-- The certificate of the response: the first one of a search, whichever it is. -/
def responseCert (slot : Slot) : Bytes :=
  match slot.certificates true with
  | [] => []
  | first :: _ => first.value.toOption.getD []

def unsupported (keyType : UInt8) : Failure :=
  ⟨"unsupported CKA_KEY_TYPE 0x" ++ String.ofList (Nat.toDigits 16 keyType.toNat) ++
    " — only RSA and ECDSA supported", none⟩

/-- `SignHash` from the first private key on. -/
def signWith (slot : Slot) (key : KeyObject) (hashBytes : Bytes) : Signing :=
  match key.keyType with
  | .error code => ⟨[], .error (.wrap lib "could not read CKA_KEY_TYPE" code)⟩
  | .ok [] => ⟨[], .error ⟨"could not read CKA_KEY_TYPE: %!w(<nil>)", none⟩⟩
  | .ok (keyType :: _) =>
      match mechanismFor keyType hashBytes with
      | none => ⟨[], .error (unsupported keyType)⟩
      | some (mechanism, dataToSign) =>
          match key.signInit mechanism with
          | some code => ⟨[], .error (.wrap lib "sign init" code)⟩
          | none =>
              let signature : Signature := ⟨key.publicKey, mechanism, dataToSign⟩
              match key.sign mechanism dataToSign with
              | some code => ⟨[.sign signature], .error (.wrap lib "sign" code)⟩
              | none => ⟨[.sign signature], .ok (signature, responseCert slot)⟩

/-- `SignHash`; the fingerprint it is given plays no part. -/
def signHash (modules : List Module) (id : SlotId) (_fingerprint : String) (hashBytes : Bytes)
    (pin : String) : Signing :=
  match slotAt modules id with
  | none => ⟨[], .error (.wrap lib "opening session" 0xE0)⟩
  | some slot =>
      match slot.openSession with
      | some code => ⟨[], .error (.wrap lib "opening session" code)⟩
      | none =>
          match slot.login pin with
          | some code => ⟨[.login pin], .error (.wrap lib "login" code)⟩
          | none =>
              match slot.privateKeys with
              | [] =>
                  ⟨[.login pin], .error ⟨s!"no private key found on slot {id.number}", none⟩⟩
              | key :: _ =>
                  let signed := signWith lib slot key hashBytes
                  ⟨.login pin :: signed.operations, signed.result⟩

end DscSigning.Bridge
