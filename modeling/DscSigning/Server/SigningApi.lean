/-
The whitelisted endpoints of the signing workflow and the hourly cleanup, each
as a program over the questions it asks, in the order of the source.
-/

import DscSigning.Server.SigningEngine
import DscSigning.Server.Permissions

namespace DscSigning

open Interaction

/-- `frappe.session.user` and what `frappe.local` knows of the request. -/
structure Context where
  user : String
  requestIp : Text
  userAgent : Text
deriving DecidableEq

variable (lib : Libraries)

/-! ### Audit events and settings -/

/-- `DSCAuditEvent.compute_event_hash` -/
def computeEventHash (request eventType : String) (occurredAt : Instant) (actorUser : String)
    (detailsJson : Text) : String :=
  lib.sha256Hex (utf8 (lib.jsonDumpsSorted (.object
    [("request", .text request),
      ("event_type", .text eventType),
      ("occurred_at", .text (lib.showInstant occurredAt)),
      ("actor_user", .text actorUser),
      ("details_json", .text (detailsJson.orValue ""))])))

/-- `log_event`, with the hash that `before_insert` computes. -/
def logEvent (ctx : Context) (signingRequest eventType : String) (details : List (String × Json)) :
    Server Unit := do
  let occurredAt ← ask .now
  let detailsJson := if details.isEmpty then none else some (lib.jsonDumps (.object details))
  ask (.insertEvent
    { request := signingRequest
      eventType := eventType
      occurredAt := occurredAt
      actorUser := ctx.user
      clientIp := ctx.requestIp
      userAgent := ctx.userAgent
      detailsJson := detailsJson
      eventHash := computeEventHash lib signingRequest eventType occurredAt ctx.user detailsJson })

def currentSecret : Server Text := do
  let doc ← ask .getSettings
  if doc.hmacSecret.given then ask .getPassword else pure none

/-- A secret that is generated here is committed before it is returned. -/
def getOrCreateHmacSecret : Server String := do
  let current ← currentSecret
  if current.given then pure current.show
  else do
    let newSecret ← ask (.tokenUrlsafe 48)
    ask (.saveSecret newSecret)
    ask .commit
    pure newSecret

/-- `_run_dev_hooks` -/
def runDevHooks (hookName : String) (arguments : List (String × Text)) : Server Unit := do
  let handlers ← ask (.getHooks hookName)
  Program.forEach handlers fun handler =>
    (ask (.runHook handler arguments)).recover fun _ =>
      ask (.logError s!"DSC dev hook {hookName} -> {handler} failed")

/-! ### initiate -/

def documentSign : String := "DSC Document Sign"

/-- The status of a request copied to the DSC Document Sign record it stands for. -/
def mirror (doctype docname : String) (edit : DocSignEdit) : Server Unit :=
  if doctype == documentSign then ask (.setDocSign docname edit) else pure ()

def isPdf (content : Bytes) : Bool := (utf8 "%PDF").isPrefixOf content

/-- `_read_uploaded_pdf` -/
def readUploadedPdf (fileUrl : Text) : Server Bytes := do
  demand fileUrl.given (thrown "No PDF has been uploaded on this document.")
  let content ← ask (.fileContent fileUrl.show)
  demand (isPdf content) (thrown "The uploaded file is not a valid PDF.")
  pure content

/-- Form values that stand for `None`. -/
def normalise : Option FormValue → Option FormValue
  | some (.text value) =>
      if value == "" || value == "null" || value == "None" then none else some (.text value)
  | value => value

structure InitiateArguments where
  doctype : String
  docname : String
  certDerB64 : String
  signerLat : Option FormValue
  signerLng : Option FormValue
  signerAccuracyM : Option FormValue
deriving DecidableEq

structure VisualMetadata where
  signerName : Text
  reason : String
  location : String
deriving DecidableEq

structure InitiateResponse where
  sessionId : String
  hashToSign : String
  hashAlgorithm : String
  expectedCertFingerprint : Text
  signingRequest : String
  timestamp : Int
  nonce : String
  hmac : String
  visualMetadata : VisualMetadata
deriving DecidableEq

/-- The current user is the expected signer or has the write permission. -/
def checkSigner (ctx : Context) (signingRequest : PendingRequest) : Server Unit :=
  if signingRequest.expectedSignerUser.given &&
      signingRequest.expectedSignerUser != some ctx.user then do
    let roles ← ask (.getRoles ctx.user)
    demand (hasPermission roles .write) (thrown "You are not authorized to sign this document.")
  else pure ()

def Profile.allowed (profile : Profile) : List Text := profile.allowedUsers.filter Text.given

def Profile.allows (profile : Profile) (user : String) : Bool :=
  profile.allowed.isEmpty || profile.allowed.contains (some user)

/-- The profile is active, lists the user, and has an unexpired certificate. -/
def checkProfile (ctx : Context) (profile : Profile) : Server Unit := do
  demand profile.isActive (thrown s!"DSC Profile '{profile.profileName}' is not active.")
  demand (profile.allows ctx.user) (thrown (
    s!"You are not authorised to sign with DSC Profile '{profile.profileName}'. " ++
    "The profile owner has restricted signing to a specific list of users."))
  match profile.certificateNotAfter with
  | none => pure ()
  | some notAfter => do
      let now ← ask .now
      demand (!decide (Instant.day notAfter < Instant.day now)) (thrown (
        s!"Certificate for profile '{profile.profileName}' expired on " ++
        s!"{lib.showInstant notAfter}. Please renew."))

/-- The minimal template of a rule without one. -/
def defaultTemplate : SignatureTemplate :=
  { fields := []
    stampShowSignerName := true
    stampShowDesignation := true
    stampShowDigitallySignedBy := true
    stampShowTimestamp := true
    stampTimestampFormat := none
    stampShowReason := true
    stampShowLocation := true }

/-- Coordinates, once both are given. -/
def geocode (lat lng : Option FormValue) : Server (Option GeocodeResult) :=
  match lat, lng with
  | some lat, some lng => do
      let result ← ask (.reverseGeocode lat lng)
      pure (some result)
  | _, _ => pure none

def loadTemplate (name : Text) : Server SignatureTemplate :=
  if name.given then ask (.getTemplate name.show) else pure defaultTemplate

/-- The uploaded PDF and the placement of a DSC Document Sign record, which
becomes In Progress; nothing for other documents. -/
def loadUpload (doctype docname : String) : Server (Option (Bytes × Placement)) :=
  if doctype == documentSign then do
    let docSign ← ask (.getDocSign docname)
    let content ← readUploadedPdf docSign.uploadedPdf
    demand (docSign.sigWidth != 0 && docSign.sigHeight != 0) (thrown (
      "No signature position has been set. Open the document, drag the " ++
      "signature box onto the page, and save before signing."))
    ask (.setDocSign docname ⟨.inProgress, none⟩)
    pure (some (content,
      { page := if docSign.sigPage = 0 then 1 else docSign.sigPage
        x := docSign.sigX
        y := docSign.sigY
        width := docSign.sigWidth
        height := docSign.sigHeight }))
  else pure none

/-- `signing_request.get("rule")`: the rule is not among the fetched fields. -/
def PendingRequest.rule (_signingRequest : PendingRequest) : Text := none

def rulePrintFormat (signingRequest : PendingRequest) : Server Text :=
  if signingRequest.rule.given then ask (.getRule signingRequest.rule.show) else pure none

def choosePrintFormat (doctype : String) (signingRequest : PendingRequest) (uploaded : Bool) :
    Server Text :=
  if uploaded then pure none
  else do
    let ofRule ← rulePrintFormat signingRequest
    if ofRule.given then pure ofRule
    else do
      let default ← ask (.defaultPrintFormat doctype)
      pure (some (default.orValue "Standard"))

/-- The location columns, with the `float` conversions that may raise. -/
def signerLocation (lat lng accuracy : Option FormValue) (geocoded : Option GeocodeResult) :
    Except Exn (Option SignerLocation) :=
  match lat, lng with
  | some lat, some lng => do
      let lat ← FormValue.toFloat lib lat
      let lng ← FormValue.toFloat lib lng
      let accuracy ← match accuracy with
        | some value => (FormValue.toFloat lib value).map some
        | none => pure none
      pure (some
        { lat := lat
          lng := lng
          accuracy := accuracy
          address := Text.orValue (geocoded.bind GeocodeResult.address) ""
          provider := Text.orValue (geocoded.bind GeocodeResult.provider) "" })
  | _, _ => pure none

/-- The certificate of the browser is the one registered on the profile. -/
def checkFingerprint (profileName : String) (profile : Profile) (certDer : Bytes) : Server Unit :=
  let presented := lib.sha256Hex certDer
  demand (!(profile.certificateFingerprint.given &&
      profile.certificateFingerprint != some presented)) (thrown (
    s!"Certificate on token does not match the one registered on DSC Profile {profileName}. " ++
    s!"Expected fingerprint {clip profile.certificateFingerprint.show 16}…, " ++
    s!"got {clip presented 16}…."))

def logLocation (ctx : Context) (name : String) (location : Option SignerLocation)
    (geocoded : Option GeocodeResult) : Server Unit :=
  match location, geocoded with
  | some location, some geocoded =>
      logEvent lib ctx name "Signer Location Captured"
        [("lat", .number location.lat),
          ("lng", .number location.lng),
          ("accuracy_m", (location.accuracy.map Json.number).getD .null),
          ("address", .ofText geocoded.address),
          ("provider", .ofText geocoded.provider),
          ("geocode_ok", .bool geocoded.ok)]
  | _, _ => pure ()

/-- The audit events of a prepared hash. -/
def logPrepared (ctx : Context) (name : String) (settings : Settings)
    (location : Option SignerLocation) (geocoded : Option GeocodeResult) (result : PrepareResult) :
    Server Unit := do
  logLocation lib ctx name location geocoded
  logEvent lib ctx name "Hash Computed"
    [("algorithm", .text result.hashAlgorithm),
      ("hash_preview", .text (clip result.hashToSign 16 ++ "..."))]
  let port := if settings.agentListenPort = 0 then 4645 else settings.agentListenPort
  logEvent lib ctx name "Agent Called"
    [("agent_port", .int port), ("hash_algorithm", .text result.hashAlgorithm)]

/-- The payload the bridge recomputes. -/
def macPayload (sessionId hashToSign hashAlgorithm : String) (timestamp : Int) (nonce : String) :
    Bytes :=
  utf8 ("|".intercalate [sessionId, hashToSign, hashAlgorithm, toString timestamp, nonce])

/-- The HMAC, the nonce and the response to the browser. -/
def authorise (signingRequest : PendingRequest) (profile : Profile) (settings : Settings)
    (locationText : Text) (result : PrepareResult) : Server InitiateResponse := do
  let hmacSecret ← getOrCreateHmacSecret
  let timestamp ← ask .epochSeconds
  let nonce ← ask (.tokenHex 16)
  let mac := hex (lib.hmacSha256 (utf8 hmacSecret)
    (macPayload result.sessionId result.hashToSign result.hashAlgorithm timestamp nonce))
  pure
    { sessionId := result.sessionId
      hashToSign := result.hashToSign
      hashAlgorithm := result.hashAlgorithm
      expectedCertFingerprint := profile.certificateFingerprint
      signingRequest := signingRequest.name
      timestamp := timestamp
      nonce := nonce
      hmac := mac
      visualMetadata :=
        { signerName := profile.certificateCommonName.orElse profile.label
          reason := settings.defaultReason.orValue "Approved"
          location := (locationText.orElse settings.defaultLocation).orValue "" } }

/-- From the selected request on: everything that `initiate` checks before it writes. -/
def initiate (ctx : Context) (arguments : InitiateArguments) : Server InitiateResponse := do
  let lat := normalise arguments.signerLat
  let lng := normalise arguments.signerLng
  let accuracy := normalise arguments.signerAccuracyM
  demand (arguments.certDerB64 != "") (thrown (
    "Signer certificate is required (cert_der_b64 was empty). " ++
    "The browser must fetch it from the bridge before calling initiate."))
  let found ← ask (.findPending arguments.doctype arguments.docname)
  let signingRequest ← Program.ofOption found (thrown
    s!"No pending signing request found for {arguments.doctype} {arguments.docname}")
  checkSigner ctx signingRequest
  let profile ← ask (.getProfile signingRequest.profile)
  checkProfile lib ctx profile
  let settings ← ask .getSettings
  demand (!(settings.enforceSignerLocation && (lat.isNone || lng.isNone))) (thrown (
    "Location access is required to digitally sign documents. " ++
    "Please allow your browser to share its location and try again."))
  let geocoded ← geocode lat lng
  let sigTemplate ← loadTemplate signingRequest.signatureTemplate
  let upload ← loadUpload arguments.doctype arguments.docname
  let printFormat ← choosePrintFormat arguments.doctype signingRequest upload.isSome
  let location ← attempt (signerLocation lib lat lng accuracy geocoded)
  ask (.setRequest signingRequest.name (.started ctx.requestIp ctx.userAgent location))
  runDevHooks "dsc_before_sign"
    [("signing_request", some signingRequest.name), ("doctype", some arguments.doctype),
      ("docname", some arguments.docname), ("profile", some signingRequest.profile)]
  let certDer ← attempt (b64decode arguments.certDerB64)
  checkFingerprint lib signingRequest.profile profile certDer
  let locationText := geocoded.bind GeocodeResult.address
  let result ← preparePdfForSigning lib
    { doctype := arguments.doctype
      docname := arguments.docname
      printFormat := printFormat
      sigTemplate := sigTemplate
      profile := profile
      signingRequestName := signingRequest.name
      certDer := certDer
      signerLocationText := locationText
      pdfBytes := upload.map Prod.fst
      placement := upload.map Prod.snd }
  ask (.setRequest signingRequest.name (.hashed result.hashAlgorithm result.hashToSign))
  logPrepared lib ctx signingRequest.name settings location geocoded result
  authorise lib signingRequest profile settings locationText result

/-! ### finalize -/

/-- `cert_chain_der_b64` as the form delivers it. -/
inductive ChainArgument where
  | absent
  | text (value : String)
  | items (values : List String)
deriving DecidableEq

def ChainArgument.given : ChainArgument → Bool
  | .absent => false
  | .text value => value != ""
  | .items values => !values.isEmpty

/-- A chain given as a string is JSON, or else one certificate. -/
def ChainArgument.parse : ChainArgument → Except Exn Json
  | .absent => .ok .null
  | .items values => .ok (.list (values.map Json.text))
  | .text value =>
      match lib.jsonLoads value with
      | .ok chain => .ok chain
      | .error exn =>
          if exn.kind == "JSONDecodeError" || exn.kind == "TypeError" then
            .ok (.list (if value != "" then [.text value] else []))
          else .error exn

structure FinalizeArguments where
  sessionId : String
  signatureBytesB64 : String
  certDerB64 : Text
  certChainDerB64 : ChainArgument
  ocspDerB64 : Text
deriving DecidableEq

structure FinalizeResponse where
  fileUrl : String
  fileName : String
  signingRequest : String
  verification : Verification
deriving DecidableEq

/-- `presented_fingerprint` -/
def presentedFingerprint (certDerB64 : Text) : Except Exn Text :=
  if certDerB64.given then
    (b64decode certDerB64.show).map fun der =>
      if der.isEmpty then none else some (lib.sha256Hex der)
  else .ok none

def SignatureReport.json (report : SignatureReport) : Json :=
  .object ([("field_name", .text report.fieldName),
    ("intact", .ofFlag report.intact),
    ("valid", .ofFlag report.valid),
    ("trusted", .bool report.trusted),
    ("bottom_line", .bool report.bottomLine)] ++
    match report.validationError with
    | some error => [("validation_error", .text error)]
    | none => [])

def Verification.json (verification : Verification) : Json :=
  .object ([("is_valid", .bool verification.isValid)] ++
    (match verification.error with
      | some error => [("error", .text error)]
      | none => []) ++
    (match verification.signatures with
      | some reports => [("signatures", .list (reports.map SignatureReport.json))]
      | none => []) ++
    (match verification.signatureCount with
      | some count => [("signature_count", .int count)]
      | none => []) ++
    (match verification.trustStoreConfigured with
      | some configured => [("trust_store_configured", .bool configured)]
      | none => []))

/-- `verification.get("signatures")` is there and not empty. -/
def Verification.hasSignatures (verification : Verification) : Bool :=
  match verification.signatures with
  | some reports => !reports.isEmpty
  | none => false

/-- The session, and the certificate in the answer of the agent. -/
def receiveSignature (ctx : Context) (arguments : FinalizeArguments) :
    Server (SigningSession × Instant × Text) := do
  let found ← loadSession arguments.sessionId false
  let session ← Program.ofOption found sessionExpired
  let startTime ← ask .now
  let presented ← attempt (presentedFingerprint lib arguments.certDerB64)
  logEvent lib ctx session.signingRequestName "Signature Returned"
    [("cert_fingerprint", .ofText presented),
      ("has_chain", .bool arguments.certChainDerB64.given),
      ("has_ocsp", .bool arguments.ocspDerB64.given)]
  logEvent lib ctx session.signingRequestName "Cert Presented" [("fingerprint", .ofText presented)]
  pure (session, startTime, presented)

/-- The fingerprint the profile of the request binds the signature to. -/
def expectedFingerprint (reqDoc : SigningRequest) : Server Text :=
  if reqDoc.profile != "" then ask (.profileFingerprint reqDoc.profile) else pure none

def fingerprintMismatch (expected presented : Text) : Bool :=
  expected.given && presented.given && lower expected.show != lower presented.show

/-- The mismatch is persisted before the request is rolled back. -/
def rejectFingerprint (ctx : Context) (name : String) (expected presented : Text) :
    Server FinalizeResponse := do
  ask (.setRequest name (.failed
    "Certificate fingerprint mismatch — token cert does not match profile"))
  logEvent lib ctx name "Request Failed"
    [("reason", .text "Fingerprint mismatch"),
      ("expected", .ofText expected),
      ("presented", .ofText presented)]
  ask .commit
  .fail (thrown ("The certificate on the token does not match this profile. " ++
    "Pair the correct token or contact a DSC Administrator."))

def addTimelineEntry (doctype docname signingRequestName : String) : Server Unit := do
  let req ← ask (.getRequest signingRequestName)
  let profile ← ask (.getProfile req.profile)
  let signedOn := (req.signedOn.map lib.showInstant).getD "None"
  ask (.insertComment
    { referenceDoctype := doctype
      referenceName := docname
      content := s!"Digitally signed by <b>{profile.signerName}</b> " ++
        "(" ++ (profile.designationForStamp.orElse profile.label).orValue "" ++ s!") at {signedOn}" })

def sendSignedNotification (ctx : Context) (doctype docname signingRequestName : String) :
    Server Unit := do
  let creator ← ask (.sourceOwner doctype docname)
  if creator == ctx.user then pure ()
  else do
    let req ← ask (.getRequest signingRequestName)
    let profile ← ask (.getProfile req.profile)
    let signerName := (profile.certificateCommonName.orElse profile.label).show
    ask (.sendMail
      { recipients := [creator]
        subject := s!"{doctype} {docname} has been digitally signed"
        message := s!"<p>{doctype} <b>{docname}</b> has been digitally signed by " ++
          s!"<b>{signerName}</b>.</p><p>The signed PDF is attached to the document.</p>" })

def notifyAdminsOfFailure (signingRequestName errorMessage : String) : Server Unit := do
  let admins ← ask .administrators
  let recipients := admins.filterMap fun parent : Text =>
    if parent.given && parent != some "Administrator" then parent else none
  if recipients.isEmpty then pure ()
  else do
    let req ← ask (.requestValues signingRequestName)
    let doctype := (req.map SigningRequest.sourceDoctype).getD ""
    let docname := (req.map SigningRequest.sourceName).getD ""
    let profile := (req.map SigningRequest.profile).getD ""
    let rule := (req.map fun row => row.rule.show).getD ""
    ask (.sendMail
      { recipients := recipients
        subject := s!"DSC signing failed: {doctype} {docname}"
        message := "<p>A DSC signing request has failed and needs investigation.</p><ul>" ++
          s!"<li><b>Request:</b> {signingRequestName}</li>" ++
          s!"<li><b>Document:</b> {doctype} {docname}</li>" ++
          s!"<li><b>Profile:</b> {profile}</li><li><b>Rule:</b> {rule}</li>" ++
          s!"<li><b>Error:</b> <code>{clip (lib.escapeHtml errorMessage) 500}</code></li></ul>" ++
          s!"<p><a href='{lib.siteUrl}/app/dsc-signing-request/{signingRequestName}'>" ++
          "Open request</a> · " ++
          s!"<a href='{lib.siteUrl}/app/dsc-audit-event?request={signingRequestName}'>" ++
          "View audit trail</a></p>" })

/-- The verification of the built PDF, which refuses only a PDF without signatures. -/
def checkSignedPdf (ctx : Context) (name : String) (signedResult : SignedResult) :
    Server Verification := do
  let verification ← verifySignedPdf lib signedResult.signedPdfBytes
  logEvent lib ctx name "PDF Verified"
    [("is_valid", .bool verification.isValid),
      ("signature_count",
        match verification.signatureCount with
        | some count => .int count
        | none => .null)]
  if !verification.isValid && !verification.hasSignatures then do
    ask (.setRequest name (.failed
      ("Signed PDF verification failed: " ++ verification.error.orValue "Unknown")))
    logEvent lib ctx name "Request Failed"
      [("reason", .text "PDF verification failed"), ("details", verification.json)]
    .fail (thrown "Signed PDF verification failed. The signature may be invalid.")
  else pure verification

/-- The evidence of a success: the file, the request and its mirror, committed
before the hooks run. -/
def recordSigned (ctx : Context) (arguments : FinalizeArguments) (name : String)
    (startTime : Instant) (signedResult : SignedResult) (verification : Verification) :
    Server FinalizeResponse := do
  let fileDoc ← saveSignedPdf signedResult
  let finished ← ask .now
  let duration : Nat := (finished - startTime) / 1000000
  let signedOn ← ask .now
  ask (.setRequest name (.signed
    { actualSignerUser := ctx.user
      signedOn := signedOn
      signDurationSeconds := duration
      signatureBytes := arguments.signatureBytesB64
      certificateFingerprintPresented := signedResult.certificateFingerprint
      ocspResponseB64 := arguments.ocspDerB64
      signedFile := fileDoc.name }))
  mirror signedResult.doctype signedResult.docname ⟨.signed, some fileDoc.name⟩
  logEvent lib ctx name "Request Signed"
    [("duration_seconds", .int duration),
      ("file_name", .text fileDoc.fileName),
      ("file_size", .int signedResult.signedPdfBytes.length)]
  addTimelineEntry lib signedResult.doctype signedResult.docname name
  (sendSignedNotification ctx signedResult.doctype signedResult.docname name).recover fun _ =>
    ask (.logError "DSC: signed notification email failed")
  ask .commit
  runDevHooks "dsc_after_sign"
    [("signing_request", some name), ("doctype", some signedResult.doctype),
      ("docname", some signedResult.docname), ("file_url", some fileDoc.fileUrl)]
  pure
    { fileUrl := fileDoc.fileUrl
      fileName := fileDoc.fileName
      signingRequest := name
      verification := verification }

/-- The `try` block of `finalize`. -/
def completeSigning (ctx : Context) (arguments : FinalizeArguments) (name : String)
    (startTime : Instant) (chain : Json) : Server FinalizeResponse := do
  let signedResult ← finalizeSignedPdf lib arguments.sessionId arguments.signatureBytesB64 chain
  let verification ← checkSignedPdf lib ctx name signedResult
  recordSigned lib ctx arguments name startTime signedResult verification

/-- The `except` clause: the failure is committed, whatever was written before
it included, and the exception raised again. -/
def recordFailure (ctx : Context) (name : String) (reqDoc : SigningRequest) (exn : Exn) :
    Server FinalizeResponse := do
  ask (.setRequest name (.failed (clip exn.message 500)))
  mirror reqDoc.sourceDoctype reqDoc.sourceName ⟨.failed, none⟩
  logEvent lib ctx name "Request Failed"
    [("reason", .text exn.message), ("error_type", .text exn.kind)]
  (notifyAdminsOfFailure lib name exn.message).recover fun _ =>
    ask (.logError "DSC: admin failure-notification email failed")
  ask .commit
  .fail exn

def finalize (ctx : Context) (arguments : FinalizeArguments) : Server FinalizeResponse := do
  let received ← receiveSignature lib ctx arguments
  let name := received.1.signingRequestName
  let reqDoc ← ask (.getRequest name)
  let expected ← expectedFingerprint reqDoc
  if fingerprintMismatch expected received.2.2 then
    rejectFingerprint lib ctx name expected received.2.2
  else do
    let chain ← attempt (arguments.certChainDerB64.parse lib)
    (completeSigning lib ctx arguments name received.2.1 chain).recover
      (recordFailure lib ctx name reqDoc)

/-! ### Status -/

/-- `STALE_IN_PROGRESS_SECONDS` -/
def staleInProgress : Instant := seconds 300

def ListedRequest.stale (now : Instant) (row : ListedRequest) : Bool :=
  row.status == .inProgress && decide (staleInProgress ≤ now - row.modified)

def recoverRow (doctype docname : String) (now : Instant) (row : ListedRequest) :
    Server ListedRequest :=
  if row.stale now then do
    ask (.setRequest row.name .recovered)
    mirror doctype docname ⟨.pending, none⟩
    pure { row with status := .pending }
  else pure row

/-- The auto-recovery of stale requests, in the order of the list. -/
def recoverStale (doctype docname : String) (now : Instant) :
    List ListedRequest → Server (List ListedRequest)
  | [] => pure []
  | row :: rest => do
      let row ← recoverRow doctype docname now row
      let rest ← recoverStale doctype docname now rest
      pure (row :: rest)

def overallStatus (statuses : List RequestStatus) : String :=
  if statuses.all (· == .signed) then "Signed"
  else if statuses.contains .inProgress then "Signature In Progress"
  else if statuses.contains .failed then "Signing Failed"
  else if statuses.contains .pending then "Awaiting Signature"
  else "Not Applicable"

structure StatusResponse where
  status : String
  signingRequests : List ListedRequest
  canSign : Bool
deriving DecidableEq

def getSigningStatus (ctx : Context) (doctype docname : String) : Server StatusResponse := do
  let requests ← ask (.listRequests doctype docname)
  if requests.isEmpty then pure ⟨"Not Applicable", [], false⟩
  else do
    let now ← ask .now
    let requests ← recoverStale doctype docname now requests
    pure
      { status := overallStatus (requests.map ListedRequest.status)
        signingRequests := requests
        canSign := requests.any fun row =>
          row.status == .pending && row.expectedSignerUser == some ctx.user }

structure FormActionsResponse where
  statusInfo : StatusResponse
  agentPort : Int
deriving DecidableEq

def getFormActions (ctx : Context) (doctype docname : String) : Server FormActionsResponse := do
  let statusInfo ← getSigningStatus ctx doctype docname
  let settings ← ask .getSettings
  pure ⟨statusInfo, if settings.agentListenPort = 0 then 4645 else settings.agentListenPort⟩

/-! ### retry, cancel and abort -/

def retry (ctx : Context) (signingRequest : String) : Server RequestStatus := do
  let doc ← ask (.getRequest signingRequest)
  demand (doc.status == .failed) (thrown "Only failed requests can be retried.")
  ask (.saveRequest signingRequest doc
    { status := .pending
      failureReason := some ""
      cancelledOn := doc.cancelledOn })
  mirror doc.sourceDoctype doc.sourceName ⟨.pending, none⟩
  logEvent lib ctx signingRequest "Request Retried" [("previous_failure", .text "")]
  pure .pending

def cancel (ctx : Context) (signingRequest reason : String) : Server RequestStatus := do
  let doc ← ask (.getRequest signingRequest)
  demand (doc.status == .pending || doc.status == .failed)
    (thrown "Only pending or failed requests can be cancelled.")
  let now ← ask .now
  ask (.saveRequest signingRequest doc
    { status := .cancelled
      failureReason := doc.failureReason
      cancelledOn := some now })
  mirror doc.sourceDoctype doc.sourceName ⟨.cancelled, none⟩
  logEvent lib ctx signingRequest "Request Cancelled" [("reason", .text reason)]
  runDevHooks "dsc_on_decline"
    [("signing_request", some signingRequest), ("reason", some reason),
      ("doctype", some doc.sourceDoctype), ("docname", some doc.sourceName)]
  pure .cancelled

def abortInProgress (ctx : Context) (signingRequest reason : String) : Server RequestStatus := do
  let doc ← ask (.getRequest signingRequest)
  if doc.status != .inProgress then pure doc.status
  else do
    let failureReason := clip (if reason == "" then "Client-side abort" else reason) 140
    ask (.saveRequest signingRequest doc
      { status := .pending
        failureReason := some failureReason
        cancelledOn := doc.cancelledOn })
    mirror doc.sourceDoctype doc.sourceName ⟨.pending, none⟩
    logEvent lib ctx signingRequest "Request Aborted" [("reason", .text reason)]
    pure .pending

/-! ### The hourly cleanup -/

def expireStalePendingRequests : Server Unit := do
  let settings ← ask .getSettings
  let timeoutSeconds := if settings.signingTimeoutSeconds = 0 then 180
    else settings.signingTimeoutSeconds
  let now ← ask .now
  let cutoff : Int := (now : Int) - timeoutSeconds * 1000000
  let staleRequests ← ask (.staleRequests cutoff)
  Program.forEach staleRequests fun name =>
    ask (.setRequest name (.failed s!"Signing timed out after {timeoutSeconds} seconds"))
  if staleRequests.isEmpty then pure () else ask .commit

/-! ### Endpoints -/

inductive Endpoint where
  | initiate (arguments : InitiateArguments)
  | finalize (arguments : FinalizeArguments)
  | getSigningStatus (doctype docname : String)
  | getFormActions (doctype docname : String)
  | retry (signingRequest : String)
  | cancel (signingRequest reason : String)
  | abortInProgress (signingRequest reason : String)
  | expireStalePendingRequests
deriving DecidableEq

/-- One call: who makes it, and what. -/
structure Origin where
  ctx : Context
  endpoint : Endpoint
deriving DecidableEq

inductive Response where
  | initiated (response : InitiateResponse)
  | finalized (response : FinalizeResponse)
  | status (response : StatusResponse)
  | formActions (response : FormActionsResponse)
  | request (status : RequestStatus)
  | expired
deriving DecidableEq

def serve (ctx : Context) : Endpoint → Server Response
  | .initiate arguments => (initiate lib ctx arguments).bind fun response =>
      .done (.initiated response)
  | .finalize arguments => (finalize lib ctx arguments).bind fun response =>
      .done (.finalized response)
  | .getSigningStatus doctype docname =>
      (getSigningStatus ctx doctype docname).bind fun response => .done (.status response)
  | .getFormActions doctype docname =>
      (getFormActions ctx doctype docname).bind fun response => .done (.formActions response)
  | .retry signingRequest =>
      (retry lib ctx signingRequest).bind fun status => .done (.request status)
  | .cancel signingRequest reason =>
      (cancel lib ctx signingRequest reason).bind fun status => .done (.request status)
  | .abortInProgress signingRequest reason =>
      (abortInProgress lib ctx signingRequest reason).bind fun status => .done (.request status)
  | .expireStalePendingRequests => expireStalePendingRequests.bind fun _ => .done .expired

def body (origin : Origin) : Server Response := serve lib origin.ctx origin.endpoint

/-! ### Worlds -/

abbrev ServerCall : Type := site.Call Origin Response

abbrev ServerWorld : Type := site.World Origin Response

abbrev ServerLabel : Type := site.Label Origin

/-- A freshly installed site: masters, and no requests, sessions or calls. -/
def installed (masters : Masters) (now : Instant) (zone : Int) : ServerWorld :=
  { data :=
      { requests := ∅
        docSigns := ∅
        files := ∅
        events := []
        comments := []
        masters := masters }
    shared := ⟨now, zone, ∅, []⟩
    calls := []
    journal := [] }

/-! ### A sample site -/

/-- Libraries that accept every encoding; a PDF shows the one signature written
into it, which verifies if its value is right. -/
def sampleLibraries : Libraries :=
  { sha256 := fun data => data
    hmacSha256 := fun key data => key ++ data
    jsonLoads := fun _ => .error ⟨"JSONDecodeError", "Expecting value"⟩
    jsonDumps := fun _ => "{}"
    jsonDumpsSorted := fun _ => "{}"
    showInstant := fun instant => toString instant
    parseFloat := fun _ => none
    escapeHtml := fun text => text
    siteUrl := "https://site.example"
    loadCertificate := fun der => .ok ⟨der, [], 1⟩
    dumpAttributes := fun attributes => attributes.messageDigest
    loadAttributes := fun _ => .ok ()
    dumpContentInfo := fun content => .ok content.signerInfo.signature
    fillWithCms := fun prepared _ contents => .ok (prepared ++ contents)
    embeddedSignatures := fun pdf => .ok [⟨"DSC_Signature_SR-1", pdf⟩]
    parsePemCerts := fun _ => .ok []
    validationContext := fun _ => .ok ()
    validate := fun _ pdf _ =>
      let verifies := [4, 5, 6].isSuffixOf pdf
      .ok ⟨true, verifies, verifies, verifies⟩
    locateSignatureAnchor := fun _ => none }

def sampleMasters : Masters :=
  { profile := fun name =>
      if name == "P-1" then some
        { profileName := "P-1"
          label := some "Director"
          isActive := true
          allowedUsers := []
          certificateFingerprint := none
          certificateCommonName := some "A Signer"
          certificateNotAfter := none
          designationForStamp := none }
      else none
    template := fun _ => none
    rule := fun _ => none
    settings :=
      { defaultReason := none
        defaultLocation := none
        signingTimeoutSeconds := 180
        agentListenPort := 4645
        defaultHashAlgorithm := some "sha256"
        trustStoreBundle := none
        enforceSignerLocation := false
        hmacSecret := some "secret" }
    roles := fun user => if user == "alice" then [.dscSigner] else []
    administrators := []
    defaultPrintFormat := fun _ => none
    owner := fun _ _ => some "owner"
    upload := fun _ => none
    fileFlag := true }

/-- Outside answers for a signing with this session id and this file name. -/
def sampleOracle (sessionId file : String) : Oracle :=
  { fault := none
    pick := 0
    given := fun
      | .uuid4 => some sessionId
      | .insertFile row => some ⟨file, row.fileName, "/private/files/" ++ row.fileName⟩
      | .renderPdf .. => some [1, 2]
      | .digestForSigning .. => some ([1, 2, 3], ⟨[9], 1, 2⟩)
      | .tokenHex _ => some "00"
      | .builtinBundle => some none
      | .getHooks _ => some []
      | .sendMail _ => some ()
      | _ => none }

/-- One question after another of one call. -/
def asks (index count : Nat) (oracle : Oracle) : List ServerLabel :=
  List.replicate count (.ask index oracle)

/-- One call from its start to its end, without interruption. -/
def served (index : Nat) (origin : Origin) (questions : Nat) (oracle : Oracle) :
    List ServerLabel :=
  .start origin :: (asks index questions oracle ++ [.finish index])

def sampleUser (user : String) : Context := ⟨user, some "10.0.0.1", some "browser"⟩

def sampleRequest : NewRequest :=
  { sourceDoctype := "Sales Invoice"
    sourceName := "INV-1"
    rule := some "R-1"
    profile := "P-1"
    signatureTemplate := none
    expectedSignerUser := some "alice" }

def sampleInitiate : InitiateArguments :=
  { doctype := "Sales Invoice"
    docname := "INV-1"
    certDerB64 := "AQID"
    signerLat := none
    signerLng := none
    signerAccuracyM := none }

def sampleFinalize (sessionId : String) : FinalizeArguments :=
  { sessionId := sessionId
    signatureBytesB64 := "BAUG"
    certDerB64 := some "AQID"
    certChainDerB64 := .absent
    ocspDerB64 := none }

/-- Alice starts and finishes the signing of a new request. -/
def sampleSigning : List ServerLabel :=
  .move (.createRequest "SR-1" sampleRequest) ::
    (served 0 ⟨sampleUser "alice", .initiate sampleInitiate⟩ 24 (sampleOracle "S-1" "") ++
      served 1 ⟨sampleUser "alice", .finalize (sampleFinalize "S-1")⟩ 32 (sampleOracle "" "F-1"))

def sampleSite : ServerWorld := installed sampleMasters 0 0

def statusAfter (labels : List ServerLabel) (name : String) : Option RequestStatus :=
  (Engine.run (body sampleLibraries) sampleSite labels).bind fun world =>
    (world.data.requests.lookup name).map SigningRequest.status

end DscSigning
