/-
The rows of the application's tables, and the values a signing keeps in the
cache.  Only the columns that the signing flow reads or writes are kept.
-/

import DscSigning.Primitives
import DscSigning.Library.Table

namespace DscSigning

inductive RequestStatus where
  | pending
  | inProgress
  | signed
  | failed
  | cancelled
deriving DecidableEq, Repr

def RequestStatus.text : RequestStatus → String
  | .pending => "Pending"
  | .inProgress => "In Progress"
  | .signed => "Signed"
  | .failed => "Failed"
  | .cancelled => "Cancelled"

inductive DocumentStatus where
  | draft
  | pending
  | inProgress
  | signed
  | failed
  | cancelled
deriving DecidableEq, Repr

inductive Role where
  | dscAdministrator
  | dscSigner
  | dscAuditor
  | systemManager
  | other (name : String)
deriving DecidableEq, Repr

/-- Where the signer was, as `initiate` stores it on the request. -/
structure SignerLocation where
  lat : PyFloat
  lng : PyFloat
  accuracy : Option PyFloat
  address : String
  provider : String
deriving DecidableEq

/-- DSC Signing Request -/
structure SigningRequest where
  sourceDoctype : String
  sourceName : String
  rule : Text
  profile : String
  signatureTemplate : Text
  expectedSignerUser : Text
  actualSignerUser : Text
  status : RequestStatus
  failureReason : Text
  hashAlgorithm : Text
  hashToBeSigned : Text
  signatureBytes : Text
  certificateFingerprintPresented : Text
  ocspResponseB64 : Text
  signedFile : Text
  createdOn : Option Instant
  signedOn : Option Instant
  cancelledOn : Option Instant
  signDurationSeconds : Option Nat
  clientIp : Text
  clientUserAgent : Text
  signerLocation : Option SignerLocation
  creation : Instant
  modified : Instant
deriving DecidableEq

/-- DSC Document Sign -/
structure DocumentSign where
  uploadedPdf : Text
  sigPage : Int
  sigX : ℚ
  sigY : ℚ
  sigWidth : ℚ
  sigHeight : ℚ
  status : DocumentStatus
  signingRequest : Text
  signedFile : Text
deriving DecidableEq

/-- DSC Profile -/
structure Profile where
  profileName : String
  label : Text
  isActive : Bool
  allowedUsers : List Text
  certificateFingerprint : Text
  certificateCommonName : Text
  certificateNotAfter : Option Instant
  designationForStamp : Text
deriving DecidableEq

/-- The first row of a template's signature fields. -/
structure SignatureField where
  pageNumber : Int
  x : ℚ
  y : ℚ
  width : ℚ
  height : ℚ
deriving DecidableEq

/-- DSC Signature Template -/
structure SignatureTemplate where
  fields : List SignatureField
  stampShowSignerName : Bool
  stampShowDesignation : Bool
  stampShowDigitallySignedBy : Bool
  stampShowTimestamp : Bool
  stampTimestampFormat : Text
  stampShowReason : Bool
  stampShowLocation : Bool
deriving DecidableEq

/-- DSC Settings -/
structure Settings where
  defaultReason : Text
  defaultLocation : Text
  signingTimeoutSeconds : Int
  agentListenPort : Int
  defaultHashAlgorithm : Text
  trustStoreBundle : Text
  enforceSignerLocation : Bool
  hmacSecret : Text
deriving DecidableEq

/-- File -/
structure FileRow where
  fileName : String
  fileUrl : String
  attachedToDoctype : String
  attachedToName : String
  content : Bytes
  isPrivate : Bool
  isDscSigned : Bool
deriving DecidableEq

/-- DSC Audit Event -/
structure AuditEvent where
  request : String
  eventType : String
  occurredAt : Instant
  actorUser : String
  clientIp : Text
  userAgent : Text
  detailsJson : Text
  eventHash : String
deriving DecidableEq

structure Comment where
  referenceDoctype : String
  referenceName : String
  content : String
deriving DecidableEq

/-! ### The signing session -/

/-- pyHanko's digest of the prepared document and the region kept for the CMS. -/
structure PreparedDigest where
  documentDigest : Bytes
  reservedRegionStart : Nat
  reservedRegionEnd : Nat
deriving DecidableEq

/-- The payload of `_store_session`. -/
structure SigningSession where
  hashAlgorithm : String
  fieldName : String
  signingRequestName : String
  doctype : String
  docname : String
  printFormat : Text
  createdAt : Instant
  preparedPdf : Bytes
  signedAttrs : Bytes
  certDer : Bytes
  prepDigest : PreparedDigest
deriving DecidableEq

/-! ### The database -/

/-- What administrators configure and the signing flow only reads, except for
the secret in the settings. -/
structure Masters where
  profile : String → Option Profile
  template : String → Option SignatureTemplate
  /-- The print format of a DSC Rule. -/
  rule : String → Option Text
  settings : Settings
  roles : String → List Role
  /-- Users with the role DSC Administrator, as `Has Role` lists them. -/
  administrators : List Text
  defaultPrintFormat : String → Text
  /-- The owner of a source document. -/
  owner : String → String → Option String
  /-- The content behind a file URL. -/
  upload : String → Option Bytes
  fileFlag : Bool

structure Database where
  requests : Table String SigningRequest
  docSigns : Table String DocumentSign
  files : Table String FileRow
  events : List AuditEvent
  comments : List Comment
  masters : Masters

/-- The rows a transaction locks. -/
inductive RowKey where
  | request (name : String)
  | docSign (name : String)
  | file (name : String)
  | settings
deriving DecidableEq

end DscSigning
