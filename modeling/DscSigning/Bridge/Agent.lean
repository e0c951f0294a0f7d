/-
The keystore, the HTTP handlers and the middleware of the bridge.
-/

import DscSigning.Bridge.Surroundings

namespace DscSigning.Bridge

open Interaction

/-- An operation on the bridge's own memory, which cannot fail. -/
abbrev known (operation : Operation) : Agent operation.Answer :=
  @Program.perform face operation

/-! ### Keystore -/

def keyringHMACPrefix : String := "hmac:"

def loadTokenFile : Agent (Table String String) := do
  match ← ask .readTokenFile with
  | .ok tokens => pure tokens
  | .error _ => pure ∅

def setTokenFile (siteURL token : String) : Agent (Except GoError Unit) := do
  let tokens ← loadTokenFile
  ask (.writeTokenFile (tokens.insert siteURL token))

def getTokenFile (siteURL : String) : Agent (Except GoError String) := do
  let tokens ← loadTokenFile
  match tokens.lookup siteURL with
  | some token => pure (.ok token)
  | none => pure (.error ⟨false, "no fallback token for " ++ siteURL⟩)

def deleteTokenFile (siteURL : String) : Agent (Except GoError Unit) := do
  let tokens ← loadTokenFile
  match tokens.lookup siteURL with
  | none => pure (.ok ())
  | some _ =>
      let rest := tokens.erase siteURL
      if (Table.rows rest).isEmpty then ask .removeTokenFile else ask (.writeTokenFile rest)

/-- `keyring.Set`, or else the fallback file. -/
def storeSecret (key value : String) : Agent (Except GoError Unit) := do
  match ← ask (.keychainSet key value) with
  | .ok _ => pure (.ok ())
  | .error _ => setTokenFile key value

/-- A secret that is there to be stored. -/
def storeGiven (key value : String) : Agent (Except GoError Unit) :=
  if value != "" then storeSecret key value else pure (.ok ())

/-- `AddSite` -/
def addSite (site : PairedSite) (siteToken : String) : Agent (Except GoError Unit) := do
  let stored ← storeGiven site.siteURL siteToken
  match stored with
  | .error error =>
      pure (.error ⟨error.notFound, "storing token (file fallback): " ++ error.message⟩)
  | .ok _ => do
      known (.putSite site)
      ask .saveSites

/-- `Token` -/
def siteToken (siteURL : String) : Agent (Except GoError String) := do
  let paired ← known (.isPaired siteURL)
  if !paired then pure (.error ⟨false, s!"site {siteURL} is not paired"⟩)
  else do
    match ← ask (.keychainGet siteURL) with
    | .ok token => pure (.ok token)
    | .error error => do
        match ← getTokenFile siteURL with
        | .ok token => pure (.ok token)
        | .error _ =>
            if error.notFound then
              pure (.error ⟨false, s!"no token for {siteURL} — agent must re-pair"⟩)
            else pure (.error error)

/-- `ValidateToken` -/
def validateToken (siteURL token : String) : Agent Bool := do
  match ← siteToken siteURL with
  | .ok stored => pure (stored == token)
  | .error _ => pure false

/-- `SetHMACSecret` -/
def setHMACSecret (siteURL secret : String) : Agent (Except GoError Unit) :=
  storeGiven (keyringHMACPrefix ++ siteURL) secret

/-- `HMACSecret`; a secret that cannot be read is no secret. -/
def getHMACSecret (siteURL : String) : Agent (Except GoError String) := do
  let paired ← known (.isPaired siteURL)
  if !paired then pure (.error ⟨false, s!"site {siteURL} is not paired"⟩)
  else do
    let key := keyringHMACPrefix ++ siteURL
    match ← ask (.keychainGet key) with
    | .ok secret => pure (.ok secret)
    | .error _ => do
        match ← getTokenFile key with
        | .ok secret => pure (.ok secret)
        | .error _ => pure (.ok "")

/-- `RemoveSite` -/
def removeSite (siteURL : String) : Agent (Except GoError Unit) := do
  known (.dropSite siteURL)
  let hmacKey := keyringHMACPrefix ++ siteURL
  let _ ← ask (.keychainDelete siteURL)
  let _ ← ask (.keychainDelete hmacKey)
  let _ ← deleteTokenFile siteURL
  let _ ← deleteTokenFile hmacKey
  ask .saveSites

/-! ### Responses -/

inductive ErrorCode where
  | tokenNotFound
  | certNotFound
  | certMismatch
  | pinCancelled
  | pinIncorrect
  | pinLocked
  | pinRequired
  | ocspUnavailable
  | unsupportedAlgo
  | internalError
  | unauthorized
  | invalidPairingCode
deriving DecidableEq

/-- The codes as the responses carry them. -/
def ErrorCode.text : ErrorCode → String
  | .tokenNotFound => "TOKEN_NOT_FOUND"
  | .certNotFound => "CERT_NOT_FOUND"
  | .certMismatch => "CERT_MISMATCH"
  | .pinCancelled => "PIN_CANCELLED"
  | .pinIncorrect => "PIN_INCORRECT"
  | .pinLocked => "PIN_LOCKED"
  | .pinRequired => "PIN_REQUIRED"
  | .ocspUnavailable => "OCSP_UNAVAILABLE"
  | .unsupportedAlgo => "UNSUPPORTED_ALGORITHM"
  | .internalError => "INTERNAL_ERROR"
  | .unauthorized => "UNAUTHORIZED"
  | .invalidPairingCode => "INVALID_PAIRING_CODE"

/-- `errorMessages` -/
def ErrorCode.message : ErrorCode → String
  | .tokenNotFound => "No USB token detected"
  | .certNotFound => "No certificate found on token"
  | .certMismatch => "Certificate does not match the expected fingerprint"
  | .pinCancelled => "PIN entry was cancelled"
  | .pinIncorrect => "Incorrect PIN entered"
  | .pinLocked => "Token PIN is locked — contact your token administrator"
  | .pinRequired => "Token PIN is required"
  | .ocspUnavailable =>
      "OCSP responder is unreachable — signing succeeded but revocation check failed"
  | .unsupportedAlgo => "The requested signing algorithm is not supported by this token"
  | .internalError => "An unexpected error occurred in the agent"
  | .unauthorized => "Request is not authorized — missing or invalid site token"
  | .invalidPairingCode => "Pairing code is invalid or has expired"

/-- `recoverableErrors` -/
def ErrorCode.recoverable : ErrorCode → Bool
  | .tokenNotFound => true
  | .certNotFound => true
  | .pinCancelled => true
  | .pinIncorrect => true
  | .pinRequired => true
  | .ocspUnavailable => true
  | _ => false

structure SignResponse where
  sessionID : String
  signatureBytesB64 : String
  certDERB64 : String
  certChainDERB64 : List String
  ocspDERB64 : String
  signedAtUTC : String
deriving DecidableEq

inductive Body where
  | empty
  | text (message : String)
  | error (code : ErrorCode) (message : String) (recoverable : Bool)
  | status (pairedSites : List String) (tokensDetected : List TokenInfo)
  | certs (certs : List CertInfo)
  | paired
  | signed (response : SignResponse)
deriving DecidableEq

structure Response where
  status : Nat
  body : Body
  /-- `Access-Control-Allow-Origin` -/
  allowOrigin : Option String
deriving DecidableEq

def respond (status : Nat) (body : Body) : Response := ⟨status, body, none⟩

/-- `writeError` -/
def writeError (code : ErrorCode) (status : Nat) : Response :=
  respond status (.error code code.message code.recoverable)

/-- `writeErrorMsg` -/
def writeErrorMsg (code : ErrorCode) (message : String) (status : Nat) : Response :=
  respond status (.error code message code.recoverable)

def methodNotAllowed : Response := respond 405 (.text "method not allowed")

/-- `mapPKCS11Error` -/
def mapPKCS11Error (failure : Failure) : ErrorCode × Nat :=
  match failure.code with
  | some 0xA0 => (.pinIncorrect, 401)
  | some 0xA4 => (.pinLocked, 403)
  | some 0xA1 => (.pinIncorrect, 401)
  | some 0xA2 => (.pinIncorrect, 401)
  | some 0x50 => (.pinCancelled, 400)
  | some 0xE0 => (.tokenNotFound, 404)
  | some 0xE1 => (.tokenNotFound, 404)
  | some 0x32 => (.tokenNotFound, 404)
  | some 0x70 => (.unsupportedAlgo, 400)
  | some 0x71 => (.unsupportedAlgo, 400)
  | some 0x60 => (.certNotFound, 404)
  | some 0x82 => (.certNotFound, 404)
  | _ => (.internalError, 500)

/-! ### Requests -/

structure PairRequest where
  pairingCode : String
  siteURL : String
deriving DecidableEq

structure SignRequest where
  sessionID : String
  hashToSign : String
  hashAlgorithm : String
  expectedFingerprint : String
  timestamp : Int
  nonce : String
  hmac : String
  pin : String
deriving DecidableEq

/-- A request; an absent header reads as the empty string, and a body that does
not decode as none. -/
structure HttpRequest where
  method : String
  path : String
  origin : String
  siteToken : String
  pairBody : Option PairRequest
  signBody : Option SignRequest
deriving DecidableEq

variable (lib : Libraries)

/-! ### Handlers -/

def handleStatus (request : HttpRequest) : Agent Response :=
  if request.method != "GET" then pure methodNotAllowed
  else do
    let sites ← known .pairedSites
    let modules ← known .tokens
    pure (respond 200 (.status sites (detectTokens modules)))

def handleCerts (request : HttpRequest) : Agent Response :=
  if request.method != "GET" then pure methodNotAllowed
  else do
    let modules ← known .tokens
    pure (respond 200 (.certs (enumerateCerts lib modules)))

def handlePair (request : HttpRequest) : Agent Response :=
  if request.method != "POST" then pure methodNotAllowed
  else
    match request.pairBody with
    | none => pure (writeErrorMsg .internalError "invalid request body" 400)
    | some req =>
        if req.pairingCode == "" || req.siteURL == "" then
          pure (writeErrorMsg .internalError "pairing_code and site_url are required" 400)
        else do
          let approved ← known (.confirmPairing req.siteURL)
          if !approved then pure (writeError .unauthorized 403)
          else do
            match ← ask (.validatePairingCode req.siteURL req.pairingCode) with
            | .error _ => pure (writeError .invalidPairingCode 403)
            | .ok pairing => do
                let pairedOn ← known .timeText
                match ← addSite ⟨req.siteURL, pairedOn, pairing.agentRegistration⟩
                    pairing.siteToken with
                | .error error =>
                    pure (writeErrorMsg .internalError ("failed to store pairing: " ++ error.message)
                      500)
                | .ok _ => do
                    -- Best effort: a failure is logged and the pairing stands.
                    let _ ← setHMACSecret req.siteURL pairing.hmacSecret
                    pure (respond 200 .paired)

/-- The bytes that the HMAC of a request is over. -/
def hmacPayload (req : SignRequest) : Bytes :=
  utf8 ("|".intercalate
    [req.sessionID, req.hashToSign, req.hashAlgorithm, toString req.timestamp, req.nonce])

/-- What `verifyHMAC` finds wrong at a time. -/
def hmacFault (secret : String) (req : SignRequest) (now : Int) : Option String :=
  if req.timestamp ≤ 0 then some "missing timestamp"
  else if 60 < (now - req.timestamp).natAbs then
    some s!"timestamp outside 60s window (skew={(now - req.timestamp).natAbs}s)"
  else if hex (lib.hmacSha256 (utf8 secret) (hmacPayload req)) != req.hmac then
    some "hmac mismatch"
  else none

/-- `verifyHMAC` -/
def verifyHMAC (secret : String) (req : SignRequest) : Agent (Option String) := do
  let now ← known .now
  pure (hmacFault lib secret req now)

/-- The HMAC check of `HandleSign`; the response, if it refuses. -/
def checkHMAC (origin : String) (req : SignRequest) : Agent (Option Response) :=
  if req.hmac != "" && req.timestamp != 0 && req.nonce != "" then
    if origin == "" then
      pure (some (writeErrorMsg .unauthorized "missing Origin for HMAC" 403))
    else do
      match ← getHMACSecret origin with
      | .error _ => pure none
      | .ok secret =>
          if secret == "" then pure none
          else do
            match ← verifyHMAC lib secret req with
            | some _ => pure (some (writeErrorMsg .unauthorized "HMAC verification failed" 403))
            | none => pure none
  else if origin != "" then do
    match ← getHMACSecret origin with
    | .error _ => pure none
    | .ok secret =>
        if secret == "" then pure none
        else pure (some (writeErrorMsg .unauthorized "HMAC required but missing" 403))
  else pure none

/-- `hex.DecodeString` -/
def hexValue (character : Char) : Option Nat :=
  let code := character.toNat
  if 48 ≤ code ∧ code ≤ 57 then some (code - 48)
  else if 97 ≤ code ∧ code ≤ 102 then some (code - 87)
  else if 65 ≤ code ∧ code ≤ 70 then some (code - 55)
  else none

def hexDecodeList : List Char → Option Bytes
  | [] => some []
  | [_] => none
  | high :: low :: rest => do
      let high ← hexValue high
      let low ← hexValue low
      let rest ← hexDecodeList rest
      pure (UInt8.ofNat (high * 16 + low) :: rest)

def hexDecode (text : String) : Option Bytes := hexDecodeList text.toList

theorem hexValue_digit {value : Nat} (small : value < 16) :
    hexValue (hexDigit value) = some value := by
  have all : ∀ one : Fin 16, hexValue (hexDigit one) = some one.val := by decide
  exact all ⟨value, small⟩

/-- What the server writes as hex is read back. -/
theorem hexDecode_hex (bytes : Bytes) : hexDecode (hex bytes) = some bytes := by
  induction bytes with
  | nil => rfl
  | cons byte rest ih =>
      have bound := byte.toNat_lt
      rw [hexDecode] at ih ⊢
      rw [hex_cons]
      simp only [hexDecodeList, hexValue_digit (show byte.toNat / 16 < 16 by omega),
        hexValue_digit (show byte.toNat % 16 < 16 by omega), ih, Option.bind_eq_bind,
        Option.bind_some, Option.pure_def]
      rw [show byte.toNat / 16 * 16 + byte.toNat % 16 = byte.toNat by omega, UInt8.ofNat_toNat]

/-- The PIN of the request, or the cached one of the certificate. -/
def resolvePIN (req : SignRequest) : Agent (Option String) :=
  if req.pin != "" then pure (some req.pin)
  else if req.expectedFingerprint == "" then pure none
  else known (.pinGet req.expectedFingerprint)

/-- `PINCache.Set` -/
def rememberPIN (fingerprint pin : String) : Agent Unit :=
  if fingerprint == "" || pin == "" then pure () else known (.pinSet fingerprint pin)

/-- `PINCache.Forget` -/
def forgetPIN (fingerprint : String) : Agent Unit :=
  if fingerprint == "" then pure () else known (.pinForget fingerprint)

/-- The chain of a certificate; an error leaves it empty. -/
def chainOf (certDER : Bytes) : Agent (List Bytes) := do
  match ← ask (.fetchCertChain certDER) with
  | .ok chain => pure chain
  | .error _ => pure []

/-- The OCSP answer in base64, if there is an issuer to ask about. -/
def ocspOf (certDER : Bytes) : List Bytes → Agent String
  | [] => pure ""
  | issuer :: _ => do
      match ← ask (.fetchOCSP certDER issuer) with
      | .ok ocsp => pure (Base64.encode ocsp)
      | .error _ => pure ""

/-- The response to a signature, with the chain and the OCSP answer if they come. -/
def signedResponse (req : SignRequest) (signature : Signature) (certDER : Bytes) :
    Agent Response := do
  let chainDER ← chainOf certDER
  let ocspB64 ← ocspOf certDER chainDER
  let signedAt ← known .timeText
  pure (respond 200 (.signed
    { sessionID := req.sessionID
      signatureBytesB64 := Base64.encode (lib.signatureValue signature)
      certDERB64 := Base64.encode certDER
      certChainDERB64 := chainDER.map Base64.encode
      ocspDERB64 := ocspB64
      signedAtUTC := signedAt }))

/-- A wrong or locked PIN does not stay in the cache. -/
def dropPIN (code : ErrorCode) (fingerprint : String) : Agent Unit :=
  if code == .pinIncorrect || code == .pinLocked then forgetPIN fingerprint else pure ()

/-- `HandleSign` once the certificate is found, the hash decoded and the PIN known. -/
def signAndRespond (req : SignRequest) (slot : SlotId) (hashBytes : Bytes) (pin : String) :
    Agent Response := do
  let signing ← known (.signHash slot req.expectedFingerprint hashBytes pin)
  match signing.result with
  | .error failure => do
      let mapped := mapPKCS11Error failure
      dropPIN mapped.1 req.expectedFingerprint
      pure (writeErrorMsg mapped.1 failure.message mapped.2)
  | .ok (signature, certDER) => do
      rememberPIN req.expectedFingerprint pin
      signedResponse lib req signature certDER

/-- `HandleSign` behind the HMAC check. -/
def signWithToken (req : SignRequest) : Agent Response := do
  let modules ← known .tokens
  match findCertByFingerprint lib modules req.expectedFingerprint with
  | none => do
      let present ← known .tokens
      if (detectTokens present).isEmpty then pure (writeError .tokenNotFound 404)
      else pure (writeError .certNotFound 404)
  | some (_, slot) =>
      match hexDecode req.hashToSign with
      | none => pure (writeErrorMsg .internalError "invalid hash_to_sign hex" 400)
      | some hashBytes => do
          match ← resolvePIN req with
          | none => pure (writeError .pinRequired 401)
          | some pin => signAndRespond lib req slot hashBytes pin

def handleSign (request : HttpRequest) : Agent Response :=
  if request.method != "POST" then pure methodNotAllowed
  else
    match request.signBody with
    | none => pure (writeErrorMsg .internalError "invalid request body" 400)
    | some req =>
        if req.hashAlgorithm != "" && req.hashAlgorithm != "sha256" then
          pure (writeError .unsupportedAlgo 400)
        else do
          match ← checkHMAC lib request.origin req with
          | some refusal => pure refusal
          | none => signWithToken lib req

/-! ### Server -/

/-- The mux, which routes by exact path. -/
def mux (request : HttpRequest) : Agent Response :=
  if request.path == "/v1/status" then handleStatus request
  else if request.path == "/v1/certs" then handleCerts lib request
  else if request.path == "/v1/pair" then handlePair request
  else if request.path == "/v1/sign" then handleSign lib request
  else pure (respond 404 (.text "404 page not found"))

/-- A supplied token has to match; without one the origin has to be paired. -/
def admits (request : HttpRequest) : Agent Bool :=
  if request.siteToken != "" then validateToken request.origin request.siteToken
  else known (.isPaired request.origin)

/-- `securityMiddleware` -/
def securityMiddleware (request : HttpRequest) : Agent Response :=
  if request.path == "/v1/pair" then mux lib request
  else if request.path == "/v1/status" && request.method == "GET" then mux lib request
  else if request.origin == "" then pure (writeError .unauthorized 403)
  else do
    let admitted ← admits request
    if admitted then mux lib request else pure (writeError .unauthorized 403)

/-- `corsOriginAllowed` -/
def corsOriginAllowed (origin path : String) : Agent Bool := do
  let paired ← known (.isPaired origin)
  pure (paired || path == "/v1/pair" || path == "/v1/status")

/-- The origin the response allows to read it. -/
def allowedOrigin (request : HttpRequest) : Agent (Option String) :=
  if request.origin != "" then do
    let allowed ← corsOriginAllowed request.origin request.path
    pure (if allowed then some request.origin else none)
  else pure none

/-- `corsMiddleware` -/
def corsMiddleware (request : HttpRequest) : Agent Response := do
  let allowOrigin ← allowedOrigin request
  if request.method == "OPTIONS" then pure ⟨204, .empty, allowOrigin⟩
  else do
    let response ← securityMiddleware lib request
    pure { response with allowOrigin := allowOrigin }

/-! ### Calls -/

/-- What the bridge is set to work by: a request, or the removal of a site. -/
inductive Origin where
  | http (request : HttpRequest)
  | remove (siteURL : String)
deriving DecidableEq

def body : Origin → Agent Response
  | .http request => corsMiddleware lib request
  | .remove siteURL => (removeSite siteURL).bind fun removed =>
      .done (match removed with
        | .ok _ => respond 200 .empty
        | .error error => respond 500 (.text error.message))

abbrev BridgeWorld : Type := (bridge lib).World Origin Response

abbrev BridgeLabel : Type := (bridge lib).Label Origin

/-- A bridge that has just started for the first time. -/
def started (now : Int) (tokens : List Module) : BridgeWorld lib :=
  { data := ()
    shared :=
      { now := now
        sites := ∅
        saved := ∅
        keychain := ∅
        tokenFile := ∅
        pins := ∅
        tokens := tokens }
    calls := []
    journal := [] }

end DscSigning.Bridge
