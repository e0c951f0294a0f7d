/-
What the scripts of the desk ask of the page they run in: the agent on the
computer, the endpoints of the site, the user, the browser and the dialogs.
-/

import DscSigning.Handshake.SigningScript
import DscSigning.Handshake.SignerInfo
import DscSigning.Library.PythonText
import DscSigning.Server.AgentApi

namespace DscSigning.Page

open Interaction

/-- A page of the desk, its user, and the computer it is open on. -/
structure Window where
  ctx : Context
  machine : Nat
  protocol : String
  hostname : String
  /-- `window.location.origin` -/
  origin : String
  /-- `"geolocation" in navigator` -/
  geolocation : Bool
  /-- What the server reads of a request of the page. -/
  request : Option AgentApi.WebRequest
deriving DecidableEq

/-- The `message` of an error, empty where it has none. -/
structure JsError where
  message : String
deriving DecidableEq

/-- What the scripts need of the browser and of the framework. -/
structure Platform extends Browser where
  /-- What `frappe.call` gives to its error callback. -/
  rejected : Exn → JsError
  /-- The message of what `fetch` throws. -/
  networkError : String
  /-- The message of what `response.json()` throws. -/
  syntaxError : String
  /-- `frappe.utils.escape_html` -/
  escapeHtml : String → String

/-- The steps of the progress dialog, and its error. -/
inductive Progress where
  | checkingAgent
  | locating
  | preparing
  | awaitingPin
  | finalising
  | done
  | error
deriving DecidableEq

/-- `GeolocationCoordinates`, as far as it is read. -/
structure Position where
  latitude : PyFloat
  longitude : PyFloat
  accuracy : PyFloat
deriving DecidableEq

/-- The `code` of a `GeolocationPositionError`. -/
inductive PositionError where
  | permissionDenied
  | positionUnavailable
  | timeout
  | other
deriving DecidableEq

inductive Operation where
  | fetch (port : Int) (request : Bridge.HttpRequest)
  | signing (endpoint : Endpoint)
  | agentApi (endpoint : AgentApi.Endpoint)
  /-- `frappe.db.get_single_value("DSC Settings", "agent_listen_port")`, parsed. -/
  | agentListenPort
  | getItem (key : String)
  | getCurrentPosition
  | confirm (question : String)
  | promptForPIN
  | chooseCertificate (labels : List String)
  | showProgress (doctype docname : String)
  | setState (state : Progress) (message : String)
  | showBridgeDownload (port : Int)
  | message (text : String)
  | reloadDoc
deriving DecidableEq

@[reducible] def Operation.Answer : Operation → Type
  | .fetch .. => Bridge.Response
  | .signing _ => Response
  | .agentApi _ => AgentApi.Response
  | .agentListenPort => Option Int
  | .getItem _ => Text
  | .getCurrentPosition => Except PositionError Position
  | .confirm _ => Bool
  | .promptForPIN => Text
  | .chooseCertificate _ => Nat
  | .showProgress .. => Unit
  | .setState .. => Unit
  | .showBridgeDownload _ => Unit
  | .message _ => Unit
  | .reloadDoc => Unit

abbrev face : Interface :=
  { Query := Operation
    Answer := Operation.Answer
    Error := JsError }

abbrev Script (Value : Type) : Type := Program face Value

abbrev ask (operation : Operation) : Script operation.Answer := @Program.perform face operation

abbrev raise {Value : Type} (message : String) : Script Value := .fail ⟨message⟩

/-- What the user, the browser and the dialogs answer. -/
def Operation.isLocal : Operation → Bool
  | .fetch .. => false
  | .signing _ => false
  | .agentApi _ => false
  | .agentListenPort => false
  | _ => true

def Operation.isFetch : Operation → Bool
  | .fetch .. => true
  | _ => false

/-- How the surroundings of a page answer: a request fails where no agent listens, and
nothing that is local fails. -/
def tells (operation : Operation) : face.Reply operation → Bool
  | .ok _ => !operation.isFetch
  | .error _ => !operation.isLocal

/-! ### The agent -/

/-- `DEFAULT_AGENT_PORT` -/
def defaultAgentPort : Int := 4645

/-- `info.agent_port || DEFAULT_AGENT_PORT` -/
def portOr (port : Int) : Int := if port = 0 then defaultAgentPort else port

variable (platform : Platform) (window : Window)

def getRequest (path siteToken : String) : Bridge.HttpRequest :=
  { method := "GET"
    path := path
    origin := window.origin
    siteToken := siteToken
    pairBody := none
    signBody := none }

def pairRequest (body : Bridge.PairRequest) : Bridge.HttpRequest :=
  { method := "POST"
    path := "/v1/pair"
    origin := window.origin
    siteToken := ""
    pairBody := some body
    signBody := none }

def signRequest (siteToken : String) (body : Bridge.SignRequest) : Bridge.HttpRequest :=
  { method := "POST"
    path := "/v1/sign"
    origin := window.origin
    siteToken := siteToken
    pairBody := none
    signBody := some body }

/-- `response.ok` -/
def isOk (resp : Bridge.Response) : Bool := 200 ≤ resp.status && resp.status ≤ 299

/-- Whether `response.json()` does not throw. -/
def isJson : Bridge.Body → Bool
  | .empty => false
  | .text _ => false
  | _ => true

/-- `error` of the body. -/
def errorOf : Bridge.Body → Text
  | .error code _ _ => some code.text
  | _ => none

/-- `message` of the body. -/
def messageOf : Bridge.Body → Text
  | .error _ message _ => some message
  | _ => none

/-- `pingAgent`, and `ping_agent` of the profile form -/
def pingAgent (port : Int) : Script (Option Bridge.Response) :=
  ((ask (.fetch port (getRequest window "/v1/status" ""))).bind fun resp =>
    .done (if isOk resp && isJson resp.body then some resp else none)).recover fun _ => .done none

/-- `tokens_detected` of the status. -/
def tokensDetected (agentStatus : Bridge.Response) : List Bridge.TokenInfo :=
  match agentStatus.body with
  | .status _ tokens => tokens
  | _ => []

/-- `getSiteToken` -/
def getSiteToken : Script String := do
  let stored ← ask (.getItem "dsc_site_token")
  pure (stored.orValue "")

/-! ### The endpoints of the site -/

/-- `generate_pairing_code`; both errors are told alike. -/
def pairingCode : Script AgentApi.PairingCode := do
  let response ← (ask (.agentApi (.generatePairingCode window.request))).recover fun _ =>
    raise "Could not generate a pairing code."
  match response with
  | .code response => pure response
  | _ => raise "Could not generate a pairing code."

/-- `autoPairBridge`, and `auto_pair` of the profile form with its own text -/
def autoPairBridge (failure : String) (port : Int) : Script Unit := do
  let codeResp ← pairingCode window
  let resp ← ask (.fetch port (pairRequest window ⟨codeResp.pairingCode, window.origin⟩))
  if isOk resp then pure ()
  else
    let detail := (messageOf resp.body).orValue ""
    raise (failure ++ if detail == "" then "" else " " ++ detail)

def emptyResponse : String := "Empty response from server"

end DscSigning.Page
