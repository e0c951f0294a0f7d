/-
The forms that talk to the agent besides the signing script: DSC Profile
registers a certificate of the token, and DSC Agent Registration pairs the
computer.
-/

import DscSigning.Handshake.Page

namespace DscSigning.Page

open Interaction

variable (platform : Platform) (window : Window)

/-! ### DSC Profile -/

/-- `ensure_paired`, which asks nobody. -/
def ensurePairedForm : Script Unit := do
  match ← pingAgent window defaultAgentPort with
  | none => raise ("Cannot reach the DSC Bridge on this computer. " ++
      "Make sure it is installed and running, then try again.")
  | some status =>
      if isAlreadyPaired platform.toBrowser window.origin status then pure ()
      else autoPairBridge window "Could not pair this computer with the site." defaultAgentPort

/-- `certs` of the answer, where it is a list of them. -/
def listedCerts : Bridge.Body → List Bridge.CertInfo
  | .certs certs => certs
  | _ => []

/-- `fetch_token_certs` -/
def fetchTokenCerts : Script (List Bridge.CertInfo) := do
  let siteToken ← getSiteToken
  let resp ← (ask (.fetch defaultAgentPort (getRequest window "/v1/certs" siteToken))).recover fun _ =>
    raise (s!"Cannot reach the dsc-bridge agent at https://127.0.0.1:{defaultAgentPort}/v1/certs. " ++
      "Is it running and is the token plugged in?")
  if !isOk resp then
    raise s!"The agent could not read certificates from the token (HTTP {resp.status})."
  else if !isJson resp.body then raise platform.syntaxError
  else if (listedCerts resp.body).isEmpty then
    raise "No certificate found on the connected token."
  else pure (listedCerts resp.body)

/-- `register_selected`; where the call fails, the framework tells the user. -/
def registerSelected (profileName : String) (cert : Option Bridge.CertInfo) : Script Unit :=
  match cert with
  | none => ask (.message ("The selected certificate did not include its DER data. " ++
      "Update the dsc-bridge agent."))
  | some cert =>
      if cert.certDERBase64 == "" then
        ask (.message ("The selected certificate did not include its DER data. " ++
          "Update the dsc-bridge agent."))
      else
        ((ask (.agentApi (.registerCertificate profileName cert.certDERBase64))).bind fun response =>
          match response with
          | .registered registered =>
              (ask (.message ("Certificate registered for " ++
                if registered.commonName == "" then profileName else registered.commonName))).bind
                fun _ => ask .reloadDoc
          | _ => .done ()).recover fun _ => .done ()

/-- `label` of an option. -/
def certificateLabel (cert : Bridge.CertInfo) : String :=
  let subject :=
    if cert.subjectCN != "" then cert.subjectCN
    else if cert.subjectFull != "" then cert.subjectFull
    else "Certificate"
  s!"{subject} — {cert.issuerCN} ({clip cert.fingerprintSHA256 12}…)"

/-- `await ensure_paired()` and `await fetch_token_certs()` -/
def tokenCerts : Script (List Bridge.CertInfo) := do
  ensurePairedForm platform window
  fetchTokenCerts platform window

/-- `register_certificate_from_token`; an error is told and ends it. -/
def registerCertificateFromToken (profileName : String) : Script Unit := do
  let certs ← ((tokenCerts platform window).bind fun certs => .done (some certs)).recover fun err =>
    (ask (.message err.message)).bind fun _ => .done none
  match certs with
  | none => pure ()
  | some [cert] => registerSelected profileName (some cert)
  | some certs => do
      let index ← ask (.chooseCertificate (certs.map certificateLabel))
      registerSelected profileName certs[index]?

/-! ### DSC Agent Registration -/

/-- `getAgentPort` -/
def getAgentPort : Script Int :=
  ((ask .agentListenPort).bind fun value =>
    .done (portOr (value.getD 0))).recover fun _ => .done defaultAgentPort

/-- The `try` block of `pairThisComputer`. -/
def pairWithAgent (port : Int) : Script Unit := do
  match ← pingAgent window port with
  | none => raise "The DSC Bridge agent is not reachable on this computer."
  | some _ => do
      match ← ask (.agentApi (.generatePairingCode window.request)) with
      | .code codeResp =>
          if codeResp.pairingCode == "" then raise "The server did not return a pairing code."
          else do
            let resp ← ask (.fetch port (pairRequest window ⟨codeResp.pairingCode, window.origin⟩))
            if isOk resp then ask (.message "This computer is paired ✓")
            else raise (((messageOf resp.body).orElse (errorOf resp.body)).orValue
              "The agent could not complete pairing.")
      | _ => raise "The server did not return a pairing code."

/-- What `showPairError` shows, without its advice. -/
def pairErrorText (err : JsError) : String :=
  "Pairing failed: " ++ platform.escapeHtml err.message

/-- `pairThisComputer` -/
def pairThisComputer : Script Unit := do
  let port ← getAgentPort
  (pairWithAgent window port).recover fun err => ask (.message (pairErrorText platform err))

end DscSigning.Page
