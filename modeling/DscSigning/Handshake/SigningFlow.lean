/-
The signing script of the desk, from the button to the signed PDF: it pairs the
agent if it has to, takes the location of the signer, lets the server prepare
the PDF, the signer enter a PIN, the agent sign and the server finalize.
-/

import DscSigning.Handshake.Page

namespace DscSigning.Page

open Interaction

variable (platform : Platform) (window : Window)

/-! ### Pairing -/

def firstTimeQuestion : String :=
  "This is the first time signing from this computer. " ++
  "Allow it to be paired with this site so signing works automatically from now on?"

def pairingDeclined : String :=
  "Pairing was declined. This computer must be paired with the site before it can sign documents."

/-- Step 1b of `runSigningPipeline` -/
def ensurePaired (agentStatus : Bridge.Response) (port : Int) : Script Unit :=
  if isAlreadyPaired platform.toBrowser window.origin agentStatus then pure ()
  else do
    ask (.setState .checkingAgent "Pairing this computer with the site…")
    let ok ← ask (.confirm firstTimeQuestion)
    if ok then autoPairBridge window "Could not pair this computer with the signing site." port
    else raise pairingDeclined

/-! ### The location of the signer -/

structure Coordinates where
  lat : Option PyFloat
  lng : Option PyFloat
  accuracyM : Option PyFloat
deriving DecidableEq

/-- Where browsers give a location to a page. -/
def Window.isSecure : Bool :=
  window.protocol == "https:" || window.hostname == "localhost" || window.hostname == "127.0.0.1"

def PositionError.text : PositionError → String
  | .permissionDenied =>
      "Location access was blocked. Open your browser's site settings, " ++
      "allow location for this site, then click Sign again."
  | .positionUnavailable =>
      "Your device could not determine its location. " ++
      "Enable location services in your operating system and try again."
  | .timeout =>
      "Timed out waiting for location. Move closer to a window or check that " ++
      "location services are enabled, then try again."
  | .other => "Location access is required to sign documents."

def captureSignerLocation : Script Coordinates :=
  if !window.geolocation then
    raise ("This browser does not support location services. " ++
      "Digital signing requires a browser that can provide location.")
  else if !window.isSecure then pure ⟨none, none, none⟩
  else do
    match ← ask .getCurrentPosition with
    | .ok position => pure ⟨some position.latitude, some position.longitude, some position.accuracy⟩
    | .error error => raise error.text

/-- A number or `null` in a form: the server reads the digits of a number back, and an
empty text for `null`. -/
def posted : Option PyFloat → Option FormValue
  | some value => some (.number value)
  | none => some (.text "")

/-! ### Up to the answer of `initiate` -/

/-- `fetchSignerCertDer` with its request. -/
def readCertificate (port : Int) : Script String := do
  let siteToken ← getSiteToken
  let resp ← ask (.fetch port (getRequest window "/v1/certs" siteToken))
  Program.ofExcept ((fetchSignerCertDer resp).mapError JsError.mk)

def callInitiate (arguments : InitiateArguments) : Script InitiateResponse := do
  match ← ask (.signing (.initiate arguments)) with
  | .initiated response => pure response
  | _ => raise emptyResponse

/-- `runSigningPipeline` until `ctx.signing_request` is set. -/
def prepareSigning (doctype docname : String) (port : Int) : Script InitiateResponse := do
  ask (.setState .checkingAgent "Connecting to local DSC agent…")
  match ← pingAgent window port with
  | none => raise (
      s!"Cannot reach the dsc-bridge agent at https://127.0.0.1:{port}. " ++
      "Is it running on this machine? See the system tray for the DSC Bridge icon.")
  | some agentStatus =>
      if (tokensDetected agentStatus).isEmpty then
        raise "No USB DSC token detected by the agent. Plug it in and try again."
      else do
        ensurePaired platform window agentStatus port
        ask (.setState .locating "Capturing signer location…")
        let coords ← captureSignerLocation window
        let certDerB64 ← readCertificate window port
        ask (.setState .preparing "Preparing PDF and computing document hash…")
        callInitiate
          { doctype := doctype
            docname := docname
            certDerB64 := certDerB64
            signerLat := posted coords.lat
            signerLng := posted coords.lng
            signerAccuracyM := posted coords.accuracyM }

/-! ### From the answer of `initiate` -/

/-- `response.statusText` -/
def statusText : Nat → String
  | 400 => "Bad Request"
  | 401 => "Unauthorized"
  | 403 => "Forbidden"
  | 404 => "Not Found"
  | 405 => "Method Not Allowed"
  | 500 => "Internal Server Error"
  | _ => ""

/-- What `callAgent` throws at an answer that is not ok. -/
def agentError (resp : Bridge.Response) : String :=
  (errorOf resp.body).orValue "AGENT_ERROR" ++ ": " ++
    (messageOf resp.body).orValue (statusText resp.status)

/-- `callAgent` with its request. -/
def signWithAgent (port : Int) (initiated : InitiateResponse) (pin : String) :
    Script Bridge.SignResponse := do
  let siteToken ← getSiteToken
  let resp ← ask (.fetch port (signRequest window siteToken (callAgent initiated pin)))
  if !isJson resp.body then raise platform.syntaxError
  else if !isOk resp then raise (agentError resp)
  else
    match resp.body with
    | .signed signed => pure signed
    -- No other body comes with a success of `/v1/sign`.
    | _ => raise platform.syntaxError

/-- `JSON.stringify` of a list of texts. -/
def stringify (items : List String) : String :=
  JsonText.bare.compact (.list (items.map .text))

/-- What `finalize` is called with. -/
def finalizeArguments (initiated : InitiateResponse) (signed : Bridge.SignResponse) :
    FinalizeArguments :=
  { sessionId := initiated.sessionId
    signatureBytesB64 := signed.signatureBytesB64
    certDerB64 := some signed.certDERB64
    certChainDerB64 := .text (stringify signed.certChainDERB64)
    -- A missing answer is sent as `null`, which the form posts as an empty text.
    ocspDerB64 := some signed.ocspDERB64 }

def callFinalize (arguments : FinalizeArguments) : Script FinalizeResponse := do
  match ← ask (.signing (.finalize arguments)) with
  | .finalized response => pure response
  | _ => raise emptyResponse

/-- `runSigningPipeline` from the moment `ctx.signing_request` is set. -/
def completeSigning (initiated : InitiateResponse) (port : Int) : Script Unit := do
  let pin := (← ask .promptForPIN).orValue ""
  if pin == "" then raise "PIN entry cancelled"
  else do
    ask (.setState .awaitingPin ("Signing on token…" ++
      "<br/><small class='text-muted'>Do not unplug the token while signing.</small>"))
    let signed ← signWithAgent platform window port initiated pin
    ask (.setState .finalising "Injecting signature and verifying PDF…")
    let finalized ← callFinalize (finalizeArguments initiated signed)
    ask (.setState .done ("Document signed successfully." ++
      s!"<br/><a href=\"{finalized.fileUrl}\" target=\"_blank\">Download signed PDF</a>"))
    ask .reloadDoc

/-! ### The flow -/

/-- `formatError` -/
def formatError (err : JsError) : String :=
  "<strong>Signing failed</strong><br/>" ++ platform.escapeHtml
    (if err.message == "" then "[object Object]" else err.message)

/-- `reason` of the abort. -/
def abortReason (err : JsError) : String :=
  if err.message == "" then "Client error" else err.message

/-- The handler of `startSigningFlow`; `ctx.signing_request` is empty until it is set. -/
def failSigning (err : JsError) (signingRequest : String) : Script Unit := do
  ask (.setState .error (formatError platform err))
  if signingRequest == "" then pure ()
  else
    ((ask (.signing (.abortInProgress signingRequest (abortReason err)))).bind fun _ =>
      ask .reloadDoc).recover fun _ => .done ()

/-- The program with its errors as results. -/
def settle {Value : Type} (program : Script Value) : Script (Except JsError Value) :=
  (program.bind fun value => .done (.ok value)).recover fun err => .done (.error err)

def startSigningFlow (doctype docname : String) (agentPort : Int) : Script Unit := do
  let port := portOr agentPort
  match ← pingAgent window port with
  | none => ask (.showBridgeDownload port)
  | some _ => do
      ask (.showProgress doctype docname)
      match ← settle (prepareSigning platform window doctype docname port) with
      | .error err => failSigning platform err ""
      | .ok initiated =>
          (completeSigning platform window initiated port).recover fun err =>
            failSigning platform err initiated.signingRequest

/-- `primary_action` of the download dialog -/
def checkAgain (port : Int) : Script Unit := do
  match ← pingAgent window port with
  | some _ => ask (.message "DSC Bridge detected ✓ — click 'Sign with DSC' now.")
  | none => ask (.message ("Still not detected. Make sure the installer finished and the " ++
      "DSC Bridge is running, then try again."))

/-- `retryLastFailed`, with the name of the first failed request -/
def retryLastFailed (target : String) : Script Unit := do
  let ok ← ask (.confirm s!"Retry signing request {target}?")
  if ok then
    ((ask (.signing (.retry target))).bind fun _ =>
      (ask (.message "Reset to Pending")).bind fun _ => ask .reloadDoc).recover fun _ => .done ()
  else pure ()

end DscSigning.Page
