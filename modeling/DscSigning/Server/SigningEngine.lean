/-
The PDF signing engine: preparing a document, building the CMS, storing the
signed PDF and verifying it.  What pyHanko, asn1crypto and the hash functions
compute is a parameter.
-/

import DscSigning.Server.Database

namespace DscSigning

open Interaction

/-! ### What the libraries compute -/

/-- A parsed certificate. -/
structure X509 where
  der : Bytes
  issuer : Bytes
  serialNumber : Int
deriving DecidableEq

/-- The CMS attributes the engine builds: content type `data`, the signing time
to the second and the document digest. -/
structure CmsAttributes where
  signingTime : Nat
  messageDigest : Bytes
deriving DecidableEq

structure SignerInfo where
  version : String
  issuer : Bytes
  serialNumber : Int
  digestAlgorithm : String
  /-- The encoding that was parsed, which asn1crypto writes back unchanged. -/
  signedAttrs : Bytes
  signatureAlgorithm : String
  signature : Bytes
deriving DecidableEq

/-- A `signed_data` ContentInfo with one signer. -/
structure SignedData where
  version : String
  digestAlgorithm : String
  encapContentType : String
  certificates : List X509
  signerInfo : SignerInfo
deriving DecidableEq

/-- A signature that a PDF reader finds, before validation. -/
structure EmbeddedSignature where
  fieldName : String
  contents : Bytes
deriving DecidableEq

structure SignatureStatus where
  intact : Bool
  valid : Bool
  trusted : Bool
  bottomLine : Bool
deriving DecidableEq

/-- The dictionary `locate_signature_anchor` returns. -/
structure Anchor where
  page : Nat
  x : ℚ
  top : ℚ
  width : ℚ
  height : ℚ

structure Libraries where
  sha256 : Bytes → Bytes
  hmacSha256 : Bytes → Bytes → Bytes
  jsonLoads : String → Except Exn Json
  /-- `json.dumps(value, default=str)` -/
  jsonDumps : Json → String
  /-- `json.dumps(value, sort_keys=True)` -/
  jsonDumpsSorted : Json → String
  /-- `str` of a datetime -/
  showInstant : Instant → String
  /-- `float` of a string -/
  parseFloat : String → Option PyFloat
  escapeHtml : String → String
  siteUrl : String
  loadCertificate : Bytes → Except Exn X509
  dumpAttributes : CmsAttributes → Bytes
  /-- Whether `cms.CMSAttributes.load` accepts the encoding. -/
  loadAttributes : Bytes → Except Exn Unit
  dumpContentInfo : SignedData → Except Exn Bytes
  fillWithCms : Bytes → PreparedDigest → Bytes → Except Exn Bytes
  embeddedSignatures : Bytes → Except Exn (List EmbeddedSignature)
  parsePemCerts : Bytes → Except Exn (List X509)
  /-- Whether `ValidationContext` accepts the trust roots. -/
  validationContext : List X509 → Except Exn Unit
  /-- `async_validate_pdf_signature` on a signature of the document -/
  validate : Option (List X509) → Bytes → EmbeddedSignature → Except Exn SignatureStatus
  locateSignatureAnchor : Bytes → Option Anchor

variable (lib : Libraries)

/-- `hashlib.sha256(data).hexdigest()` -/
def Libraries.sha256Hex (data : Bytes) : String := hex (lib.sha256 data)

def FormValue.toFloat : FormValue → Except Exn PyFloat
  | .number value => .ok value
  | .text value =>
      match lib.parseFloat value with
      | some parsed => .ok parsed
      | none => .error ⟨"ValueError", s!"could not convert string to float: '{value}'"⟩

/-! ### Preparing -/

/-- The interactive placement on a DSC Document Sign record. -/
structure Placement where
  page : Int
  x : ℚ
  y : ℚ
  width : ℚ
  height : ℚ
deriving DecidableEq

/-- Page and box of the new signature field. -/
def signaturePlace (pdf : Bytes) (sigTemplate : SignatureTemplate) :
    Option Placement → Int × Option Box
  | some placement =>
      let page := if placement.page = 0 then 1 else placement.page
      let width := if placement.width = 0 then 200 else placement.width
      let height := if placement.height = 0 then 80 else placement.height
      (max (page - 1) 0,
        some ⟨placement.x, placement.y, placement.x + width, placement.y + height⟩)
  | none =>
      match lib.locateSignatureAnchor pdf with
      | some anchor =>
          (anchor.page, some ⟨anchor.x, anchor.top - anchor.height, anchor.x + anchor.width, anchor.top⟩)
      | none =>
          match sigTemplate.fields with
          | [] => (0, none)
          | row :: _ =>
              let width := if row.width = 0 then 200 else row.width
              let height := if row.height = 0 then 80 else row.height
              (row.pageNumber - 1,
                if row.x = 0 ∨ row.y = 0 then none
                else some ⟨row.x, row.y, row.x + width, row.y + height⟩)

/-- `certificate_common_name or label or profile_name` -/
def Profile.signerName (profile : Profile) : String :=
  (profile.certificateCommonName.orElse profile.label).orValue profile.profileName

/-- The stamp lines that need no settings. -/
def stampHead (sigTemplate : SignatureTemplate) (profile : Profile) : List String :=
  let designation := profile.designationForStamp.orElse profile.label
  (if sigTemplate.stampShowDigitallySignedBy then ["Digitally signed by"] else []) ++
    (if sigTemplate.stampShowSignerName then [profile.signerName] else []) ++
    (if sigTemplate.stampShowDesignation && designation.given then [designation.show] else []) ++
    (if sigTemplate.stampShowTimestamp then
      ["Date: " ++ sigTemplate.stampTimestampFormat.orValue "%d-%m-%Y %H:%M:%S %Z"]
    else [])

def stampReason (sigTemplate : SignatureTemplate) : Server (List String) :=
  if sigTemplate.stampShowReason then do
    let settings ← ask .getSettings
    pure ["Reason: " ++ settings.defaultReason.orValue "Approved"]
  else pure []

def stampLocation (sigTemplate : SignatureTemplate) (signerLocationText : String) :
    Server (List String) :=
  if sigTemplate.stampShowLocation then
    if signerLocationText != "" then pure ["Location: " ++ signerLocationText]
    else do
      let settings ← ask .getSettings
      pure ["Location: " ++ settings.defaultLocation.orValue ""]
  else pure []

def buildStampText (sigTemplate : SignatureTemplate) (profile : Profile)
    (signerLocationText : String) : Server String := do
  let reason ← stampReason sigTemplate
  let location ← stampLocation sigTemplate signerLocationText
  pure ("\n".intercalate (stampHead sigTemplate profile ++ reason ++ location))

/-- `_store_session` -/
def storeSession (sessionId : String) (session : SigningSession) : Server Unit :=
  ask (.storeSession sessionId session)

/-- `_load_session` -/
def loadSession (sessionId : String) (pop : Bool) : Server (Option SigningSession) := do
  let raw ← ask (.loadSession sessionId)
  match raw with
  | none => pure none
  | some session =>
      if pop then do
        ask (.dropSession sessionId)
        pure (some session)
      else pure (some session)

structure PrepareArguments where
  doctype : String
  docname : String
  printFormat : Text
  sigTemplate : SignatureTemplate
  profile : Profile
  signingRequestName : String
  certDer : Bytes
  signerLocationText : Text
  pdfBytes : Option Bytes
  placement : Option Placement

structure PrepareResult where
  sessionId : String
  hashToSign : String
  hashAlgorithm : String
  expectedCertFingerprint : String
deriving DecidableEq

def fieldName (signingRequestName : String) : String := "DSC_Signature_" ++ signingRequestName

/-- The given PDF, or one rendered from the print format. -/
def sourcePdf (arguments : PrepareArguments) : Server Bytes :=
  match arguments.pdfBytes with
  | some bytes => pure bytes
  | none => ask (.renderPdf arguments.doctype arguments.docname arguments.printFormat)

def preparePdfForSigning (arguments : PrepareArguments) : Server PrepareResult := do
  let pdf ← sourcePdf arguments
  let place := signaturePlace lib pdf arguments.sigTemplate arguments.placement
  let settings ← ask .getSettings
  let hashAlgorithm := settings.defaultHashAlgorithm.orValue "sha256"
  let reason := settings.defaultReason.orValue "Approved"
  let location :=
    (arguments.signerLocationText.orElse settings.defaultLocation).orValue ""
  -- The stamp text is built and not used further.
  let _stampText ← buildStampText arguments.sigTemplate arguments.profile location
  let sessionId ← ask .uuid4
  let _signerCert ← attempt (lib.loadCertificate arguments.certDer)
  let prepared ← ask (.digestForSigning
    { fieldName := fieldName arguments.signingRequestName
      onPage := place.1
      box := place.2
      mdAlgorithm := hashAlgorithm
      location := location
      reason := reason
      name := arguments.profile.signerName
      signingCert := arguments.certDer
      bytesReserved := 32768 } pdf)
  let signingTime ← ask .utcNow
  let signedAttrs := lib.dumpAttributes
    { signingTime := signingTime / 1000000
      messageDigest := prepared.2.documentDigest }
  let createdAt ← ask .now
  storeSession sessionId
    { hashAlgorithm := hashAlgorithm
      fieldName := fieldName arguments.signingRequestName
      signingRequestName := arguments.signingRequestName
      doctype := arguments.doctype
      docname := arguments.docname
      printFormat := arguments.printFormat
      createdAt := createdAt
      preparedPdf := prepared.1
      signedAttrs := signedAttrs
      certDer := arguments.certDer
      prepDigest := prepared.2 }
  pure
    { sessionId := sessionId
      hashToSign := lib.sha256Hex signedAttrs
      hashAlgorithm := hashAlgorithm
      expectedCertFingerprint := lib.sha256Hex arguments.certDer }

/-! ### Finishing -/

structure SignedResult where
  signedPdfBytes : Bytes
  fileName : String
  doctype : String
  docname : String
  signingRequestName : String
  certificateFingerprint : String
deriving DecidableEq

/-- The CMS of a signature value over the attributes of the session. -/
def signedData (signerCert : X509) (chain : List X509) (signedAttrs signature : Bytes) :
    SignedData :=
  { version := "v1"
    digestAlgorithm := "sha256"
    encapContentType := "data"
    certificates := signerCert :: chain
    signerInfo :=
      { version := "v1"
        issuer := signerCert.issuer
        serialNumber := signerCert.serialNumber
        digestAlgorithm := "sha256"
        signedAttrs := signedAttrs
        signatureAlgorithm := "rsassa_pkcs1v15"
        signature := signature } }

/-- The items a Python `for` visits. -/
def Json.iterate : Json → Except Exn (List Json)
  | .list items => .ok items
  | .object fields => .ok (fields.map fun field => .text field.1)
  | .text value => .ok (value.toList.map fun character => .text (String.ofList [character]))
  | .null => .error ⟨"TypeError", "'NoneType' object is not iterable"⟩
  | .bool _ => .error ⟨"TypeError", "'bool' object is not iterable"⟩
  | .int _ => .error ⟨"TypeError", "'int' object is not iterable"⟩
  | .number _ => .error ⟨"TypeError", "'float' object is not iterable"⟩

/-- Python's truth value -/
def Json.truthy : Json → Bool
  | .null => false
  | .bool value => value
  | .int value => value != 0
  | .number value => value != .finite 0
  | .text value => value != ""
  | .list items => !items.isEmpty
  | .object fields => !fields.isEmpty

def chainCertificate : Json → Except Exn X509
  | .text encoded => (b64decode encoded).bind lib.loadCertificate
  | _ => .error ⟨"TypeError", "argument should be a bytes-like object or ASCII string"⟩

/-- `chain_certs` -/
def chainCertificates (chain : Json) : Except Exn (List X509) :=
  if chain.truthy then chain.iterate.bind fun items => items.mapM (chainCertificate lib)
  else .ok []

/-- The signed PDF of a session, a signature value and further certificates. -/
def assemble (session : SigningSession) (signatureBytesB64 : String) (chain : Json) :
    Except Exn Bytes := do
  let signature ← b64decode signatureBytesB64
  let signerCert ← lib.loadCertificate session.certDer
  let chainCerts ← chainCertificates lib chain
  lib.loadAttributes session.signedAttrs
  let cmsBytes ← lib.dumpContentInfo
    (signedData signerCert chainCerts session.signedAttrs signature)
  lib.fillWithCms session.preparedPdf session.prepDigest cmsBytes

def sessionExpired : Exn := thrown "Signing session expired or not found. Please try again."

def finalizeSignedPdf (sessionId signatureBytesB64 : String) (chain : Json) :
    Server SignedResult := do
  let found ← loadSession sessionId true
  let session ← Program.ofOption found sessionExpired
  let signedPdfBytes ← attempt (assemble lib session signatureBytesB64 chain)
  let existing ← ask (.countSignedFiles session.doctype session.docname)
  let version : Nat := if existing = 0 then 1 else existing + 1
  pure
    { signedPdfBytes := signedPdfBytes
      fileName := s!"{session.docname}_signed_v{version}.pdf"
      doctype := session.doctype
      docname := session.docname
      signingRequestName := session.signingRequestName
      certificateFingerprint := lib.sha256Hex session.certDer }

/-- The File document `save_signed_pdf` saves. -/
def SignedResult.file (signedResult : SignedResult) : FileRow :=
  { fileName := signedResult.fileName
    fileUrl := ""
    attachedToDoctype := signedResult.doctype
    attachedToName := signedResult.docname
    content := signedResult.signedPdfBytes
    isPrivate := true
    isDscSigned := false }

def saveSignedPdf (signedResult : SignedResult) : Server StoredFile := do
  let fileDoc ← ask (.insertFile signedResult.file)
  let flagged ← ask .fileFlag
  if flagged then do
    ask (.flagFile fileDoc.name)
    pure fileDoc
  else pure fileDoc

/-! ### Verifying -/

def shippedAnchors : Server (List X509) := do
  let builtin ← ask .builtinBundle
  match builtin with
  | some bundle => attempt (lib.parsePemCerts bundle)
  | none => pure []

def uploadedAnchors : Server (List X509) := do
  let bundleUrl ← ask .trustStoreBundle
  if bundleUrl.given then do
    let content ← ask (.fileContent bundleUrl.show)
    attempt (lib.parsePemCerts content)
  else pure []

/-- `_load_trust_store`; a trust store is the list of its roots. -/
def loadTrustStore : Server (Option (List X509)) :=
  Program.recover
    (do
      let shipped ← shippedAnchors lib
      let uploaded ← uploadedAnchors lib
      let anchors := shipped ++ uploaded
      if anchors.isEmpty then pure none
      else do
        attempt (lib.validationContext anchors)
        pure (some anchors))
    (fun _ => do
      ask (.logError "DSC trust store load failed")
      pure none)

/-- One entry of the `signatures` list. -/
structure SignatureReport where
  fieldName : String
  intact : Option Bool
  valid : Option Bool
  trusted : Bool
  bottomLine : Bool
  validationError : Text
deriving DecidableEq

/-- The dictionary `verify_signed_pdf` returns. -/
structure Verification where
  isValid : Bool
  error : Text
  signatures : Option (List SignatureReport)
  signatureCount : Option Nat
  trustStoreConfigured : Option Bool
deriving DecidableEq

def reportSignature (trust : Option (List X509)) (pdf : Bytes) (sig : EmbeddedSignature) :
    SignatureReport :=
  match lib.validate trust pdf sig with
  | .ok status =>
      { fieldName := sig.fieldName
        intact := some status.intact
        valid := some status.valid
        trusted := status.trusted
        bottomLine := status.bottomLine
        validationError := none }
  | .error exn =>
      { fieldName := sig.fieldName
        intact := none
        valid := none
        trusted := false
        bottomLine := false
        validationError := some exn.message }

def failedVerification (error : String) : Verification :=
  { isValid := false
    error := some error
    signatures := none
    signatureCount := none
    trustStoreConfigured := none }

/-- The reports on a document whose signatures could be read. -/
def verification (trust : Option (List X509)) (pdf : Bytes) (sigs : List EmbeddedSignature) :
    Verification :=
  let results := sigs.map (reportSignature lib trust pdf)
  { isValid := results.all SignatureReport.bottomLine
    error := none
    signatures := some results
    signatureCount := some results.length
    trustStoreConfigured := some trust.isSome }

def verifySignedPdf (pdf : Bytes) : Server Verification :=
  Program.recover
    (do
      let sigs ← attempt (lib.embeddedSignatures pdf)
      if sigs.isEmpty then pure (failedVerification "No signatures found in PDF")
      else do
        let trust ← loadTrustStore lib
        pure (verification lib trust pdf sigs))
    (fun exn => pure (failedVerification exn.message))

end DscSigning
