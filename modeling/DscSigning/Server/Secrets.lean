/-
What the signing endpoints do with the secret of the site: they key a MAC with
it, and nothing else.
-/

import DscSigning.Server.Exchange

namespace DscSigning

open Interaction Program

variable {lib : Libraries} (swap : Exchange)

/-- Questions whose replies carry no secret. -/
@[reducible, simp] def Operation.ordinary : Operation → Bool
  | .getSettings => false
  | .getPassword => false
  | .tokenUrlsafe _ => false
  | .saveSecret _ => false
  | _ => true

def secrets : Relabelling face := (exchange swap).toRelabelling

@[simp] theorem relabel_ask {operation : Operation} (ordinary : operation.ordinary = true) :
    @Program.relabel face (no_index operation.Answer) (secrets swap) (ask operation) =
      ask operation := by
  cases operation <;> first | exact relabel_fixed fun _ => rfl | cases ordinary

@[simp] theorem relabel_settings :
    @Program.relabel face (no_index Settings) (secrets swap) (ask .getSettings) =
      (ask .getSettings).bind fun settings => .done (settings.exchanged swap) := by
  simp only [perform, relabel, Program.bind]
  congr 1
  funext reply
  cases reply <;> rfl

@[simp] theorem relabel_token (bytes : Nat) :
    @Program.relabel face (no_index String) (secrets swap) (ask (.tokenUrlsafe bytes)) =
      (ask (.tokenUrlsafe bytes)).bind fun token => .done (swap.token bytes token) := by
  simp only [perform, relabel, Program.bind]
  congr 1
  funext reply
  cases reply <;> rfl

@[simp] theorem relabel_saveSecret (secret : String) :
    @Program.relabel face (no_index Unit) (secrets swap) (ask (.saveSecret secret)) =
      ask (.saveSecret (swap.map secret)) := by
  simp only [perform, relabel]
  congr 1
  funext reply
  cases reply <;> rfl

@[simp] theorem relabel_password :
    @Program.relabel face (no_index Text) (secrets swap) (ask .getPassword) =
      (ask .getPassword).bind fun secret => .done (swap.text secret) := by
  simp only [perform, relabel, Program.bind]
  congr 1
  funext reply
  cases reply <;> rfl

/-! ### Parts that see no secret -/

@[simp] theorem logEvent_relabel (ctx : Context) (name eventType : String)
    (details : List (String × Json)) :
    (logEvent lib ctx name eventType details).relabel (secrets swap) = logEvent lib ctx name eventType details := by
  simp [logEvent]

@[simp] theorem runDevHooks_relabel (hookName : String) (arguments : List (String × Text)) :
    (runDevHooks hookName arguments).relabel (secrets swap) = runDevHooks hookName arguments := by
  simp [runDevHooks, relabel_forEach]

@[simp] theorem mirror_relabel (doctype docname : String) (edit : DocSignEdit) :
    (mirror doctype docname edit).relabel (secrets swap) = mirror doctype docname edit := by
  simp [mirror]

@[simp] theorem readUploadedPdf_relabel (fileUrl : Text) :
    (readUploadedPdf fileUrl).relabel (secrets swap) = readUploadedPdf fileUrl := by
  simp [readUploadedPdf]

@[simp] theorem checkSigner_relabel (ctx : Context) (signingRequest : PendingRequest) :
    (checkSigner ctx signingRequest).relabel (secrets swap) = checkSigner ctx signingRequest := by
  simp [checkSigner]

@[simp] theorem checkProfile_relabel (ctx : Context) (profile : Profile) :
    (checkProfile lib ctx profile).relabel (secrets swap) = checkProfile lib ctx profile := by
  unfold checkProfile
  cases profile.certificateNotAfter <;> simp

@[simp] theorem geocode_relabel (lat lng : Option FormValue) :
    (geocode lat lng).relabel (secrets swap) = geocode lat lng := by
  cases lat <;> cases lng <;> simp [geocode]

@[simp] theorem loadTemplate_relabel (name : Text) :
    (loadTemplate name).relabel (secrets swap) = loadTemplate name := by
  simp [loadTemplate]

@[simp] theorem loadUpload_relabel (doctype docname : String) :
    (loadUpload doctype docname).relabel (secrets swap) = loadUpload doctype docname := by
  unfold loadUpload
  split <;> simp

@[simp] theorem choosePrintFormat_relabel (doctype : String) (signingRequest : PendingRequest)
    (uploaded : Bool) :
    (choosePrintFormat doctype signingRequest uploaded).relabel (secrets swap) = choosePrintFormat doctype signingRequest uploaded := by
  simp [choosePrintFormat, rulePrintFormat]

@[simp] theorem checkFingerprint_relabel (name : String) (profile : Profile) (certDer : Bytes) :
    (checkFingerprint lib name profile certDer).relabel (secrets swap) = checkFingerprint lib name profile certDer := by
  simp [checkFingerprint]

@[simp] theorem logLocation_relabel (ctx : Context) (name : String)
    (location : Option SignerLocation) (geocoded : Option GeocodeResult) :
    (logLocation lib ctx name location geocoded).relabel (secrets swap) = logLocation lib ctx name location geocoded := by
  cases location <;> cases geocoded <;> simp [logLocation]

@[simp] theorem logPrepared_relabel (ctx : Context) (name : String) (settings : Settings)
    (location : Option SignerLocation) (geocoded : Option GeocodeResult) (result : PrepareResult) :
    (logPrepared lib ctx name settings location geocoded result).relabel (secrets swap) = logPrepared lib ctx name settings location geocoded result := by
  simp [logPrepared]

@[simp] theorem sourcePdf_relabel (arguments : PrepareArguments) :
    (sourcePdf arguments).relabel (secrets swap) = sourcePdf arguments := by
  unfold sourcePdf
  cases arguments.pdfBytes <;> simp

@[simp] theorem stampReason_relabel (sigTemplate : SignatureTemplate) :
    (stampReason sigTemplate).relabel (secrets swap) = stampReason sigTemplate := by
  simp [stampReason, Settings.exchanged, bind_assoc]

@[simp] theorem stampLocation_relabel (sigTemplate : SignatureTemplate) (text : String) :
    (stampLocation sigTemplate text).relabel (secrets swap) = stampLocation sigTemplate text := by
  simp [stampLocation, Settings.exchanged, bind_assoc]

@[simp] theorem buildStampText_relabel (sigTemplate : SignatureTemplate) (profile : Profile)
    (text : String) :
    (buildStampText sigTemplate profile text).relabel (secrets swap) = buildStampText sigTemplate profile text := by
  simp [buildStampText]

@[simp] theorem preparePdfForSigning_relabel (arguments : PrepareArguments) :
    (preparePdfForSigning lib arguments).relabel (secrets swap) = preparePdfForSigning lib arguments := by
  simp [preparePdfForSigning, storeSession, Settings.exchanged, bind_assoc]

@[simp] theorem loadSession_relabel (sessionId : String) (pop : Bool) :
    (loadSession sessionId pop).relabel (secrets swap) = loadSession sessionId pop := by
  unfold loadSession
  simp only [bind_eq, relabel_bind]
  rw [relabel_ask swap rfl]
  congr 1
  funext raw
  cases raw <;> simp

@[simp] theorem finalizeSignedPdf_relabel (sessionId signature : String) (chain : Json) :
    (finalizeSignedPdf lib sessionId signature chain).relabel (secrets swap) = finalizeSignedPdf lib sessionId signature chain := by
  simp [finalizeSignedPdf]

@[simp] theorem saveSignedPdf_relabel (signedResult : SignedResult) :
    (saveSignedPdf signedResult).relabel (secrets swap) = saveSignedPdf signedResult := by
  simp [saveSignedPdf]

@[simp] theorem shippedAnchors_relabel :
    (shippedAnchors lib).relabel (secrets swap) = shippedAnchors lib := by
  unfold shippedAnchors
  simp only [bind_eq, relabel_bind]
  rw [relabel_ask swap rfl]
  congr 1
  funext builtin
  cases builtin <;> simp

@[simp] theorem uploadedAnchors_relabel :
    (uploadedAnchors lib).relabel (secrets swap) = uploadedAnchors lib := by
  simp [uploadedAnchors]

@[simp] theorem loadTrustStore_relabel :
    (loadTrustStore lib).relabel (secrets swap) = loadTrustStore lib := by
  simp [loadTrustStore]

@[simp] theorem verifySignedPdf_relabel (pdf : Bytes) :
    (verifySignedPdf lib pdf).relabel (secrets swap) = verifySignedPdf lib pdf := by
  simp [verifySignedPdf]

@[simp] theorem receiveSignature_relabel (ctx : Context) (arguments : FinalizeArguments) :
    (receiveSignature lib ctx arguments).relabel (secrets swap) = receiveSignature lib ctx arguments := by
  simp [receiveSignature]

@[simp] theorem expectedFingerprint_relabel (reqDoc : SigningRequest) :
    (expectedFingerprint reqDoc).relabel (secrets swap) = expectedFingerprint reqDoc := by
  simp [expectedFingerprint]

@[simp] theorem rejectFingerprint_relabel (ctx : Context) (name : String) (expected presented : Text) :
    (rejectFingerprint lib ctx name expected presented).relabel (secrets swap) = rejectFingerprint lib ctx name expected presented := by
  simp [rejectFingerprint]

@[simp] theorem addTimelineEntry_relabel (doctype docname name : String) :
    (addTimelineEntry lib doctype docname name).relabel (secrets swap) = addTimelineEntry lib doctype docname name := by
  simp [addTimelineEntry]

@[simp] theorem sendSignedNotification_relabel (ctx : Context) (doctype docname name : String) :
    (sendSignedNotification ctx doctype docname name).relabel (secrets swap) = sendSignedNotification ctx doctype docname name := by
  simp [sendSignedNotification]

@[simp] theorem notifyAdminsOfFailure_relabel (name message : String) :
    (notifyAdminsOfFailure lib name message).relabel (secrets swap) = notifyAdminsOfFailure lib name message := by
  simp [notifyAdminsOfFailure]

@[simp] theorem checkSignedPdf_relabel (ctx : Context) (name : String) (signedResult : SignedResult) :
    (checkSignedPdf lib ctx name signedResult).relabel (secrets swap) = checkSignedPdf lib ctx name signedResult := by
  simp [checkSignedPdf]

@[simp] theorem recordSigned_relabel (ctx : Context) (arguments : FinalizeArguments) (name : String)
    (startTime : Instant) (signedResult : SignedResult) (verification : Verification) :
    (recordSigned lib ctx arguments name startTime signedResult verification).relabel (secrets swap) = recordSigned lib ctx arguments name startTime signedResult verification := by
  simp [recordSigned]

@[simp] theorem completeSigning_relabel (ctx : Context) (arguments : FinalizeArguments) (name : String)
    (startTime : Instant) (chain : Json) :
    (completeSigning lib ctx arguments name startTime chain).relabel (secrets swap) = completeSigning lib ctx arguments name startTime chain := by
  simp [completeSigning]

@[simp] theorem recordFailure_relabel (ctx : Context) (name : String) (reqDoc : SigningRequest) (exn : Exn) :
    (recordFailure lib ctx name reqDoc exn).relabel (secrets swap) = recordFailure lib ctx name reqDoc exn := by
  simp [recordFailure]

theorem finalize_relabel (ctx : Context) (arguments : FinalizeArguments) :
    (finalize lib ctx arguments).relabel (secrets swap) = finalize lib ctx arguments := by
  simp [finalize]

@[simp] theorem recoverRow_relabel (doctype docname : String) (now : Instant) (row : ListedRequest) :
    (recoverRow doctype docname now row).relabel (secrets swap) = recoverRow doctype docname now row := by
  simp [recoverRow]

@[simp] theorem recoverStale_relabel (doctype docname : String) (now : Instant)
    (rows : List ListedRequest) :
    (recoverStale doctype docname now rows).relabel (secrets swap) = recoverStale doctype docname now rows := by
  induction rows with
  | nil => rfl
  | cons row rest ih => simp [recoverStale, ih]

@[simp] theorem getSigningStatus_relabel (ctx : Context) (doctype docname : String) :
    (getSigningStatus ctx doctype docname).relabel (secrets swap) = getSigningStatus ctx doctype docname := by
  simp [getSigningStatus]

theorem getFormActions_relabel (ctx : Context) (doctype docname : String) :
    (getFormActions ctx doctype docname).relabel (secrets swap) = getFormActions ctx doctype docname := by
  simp [getFormActions, Settings.exchanged, bind_assoc]

theorem retry_relabel (ctx : Context) (signingRequest : String) :
    (retry lib ctx signingRequest).relabel (secrets swap) = retry lib ctx signingRequest := by
  simp [retry]

theorem cancel_relabel (ctx : Context) (signingRequest reason : String) :
    (cancel lib ctx signingRequest reason).relabel (secrets swap) = cancel lib ctx signingRequest reason := by
  simp [cancel]

theorem abortInProgress_relabel (ctx : Context) (signingRequest reason : String) :
    (abortInProgress lib ctx signingRequest reason).relabel (secrets swap) = abortInProgress lib ctx signingRequest reason := by
  simp [abortInProgress]

theorem expireStalePendingRequests_relabel :
    (expireStalePendingRequests).relabel (secrets swap) = expireStalePendingRequests := by
  simp [expireStalePendingRequests, Settings.exchanged, bind_assoc, relabel_forEach]

/-! ### The secret -/

def Libraries.withMac (lib : Libraries) (mac : Bytes → Bytes → Bytes) : Libraries :=
  { lib with hmacSha256 := mac }

theorem currentSecret_relabel :
    currentSecret.relabel (secrets swap) =
      currentSecret.bind fun secret => .done (swap.text secret) := by
  simp only [currentSecret, bind_eq, pure_eq, relabel_bind, relabel_settings, bind_assoc, done_bind,
    relabel_ite, relabel_password, relabel_done, Settings.exchanged, Exchange.text_given]
  congr 1
  funext settings
  split <;> rfl

theorem getOrCreateHmacSecret_relabel :
    getOrCreateHmacSecret.relabel (secrets swap) =
      getOrCreateHmacSecret.bind fun secret => .done (swap.map secret) := by
  simp only [getOrCreateHmacSecret, bind_eq, pure_eq, relabel_bind, currentSecret_relabel, bind_assoc,
    done_bind]
  congr 1
  funext current
  rw [Exchange.text_given]
  split
  · rename_i given
    cases current with
    | none => cases given
    | some secret => rfl
  · simp only [relabel_bind, relabel_token, bind_assoc, done_bind, relabel_saveSecret, relabel_done]
    congr 1
    funext token
    have kept : swap.map (swap.token 48 token) = token := swap.twice token
    rw [kept, relabel_ask swap rfl]
    rfl

variable {mac : Bytes → Bytes → Bytes}

/-- The MAC gives under the exchanged secrets what it gave under the secrets. -/
def SameMac (lib : Libraries) (mac : Bytes → Bytes → Bytes) : Prop :=
  ∀ secret message, mac (utf8 (swap.map secret)) message = lib.hmacSha256 (utf8 secret) message

variable {swap}

theorem authorise_relabel (same : SameMac swap lib mac) (signingRequest : PendingRequest)
    (profile : Profile) (settings : Settings) (locationText : Text) (result : PrepareResult) :
    (authorise lib signingRequest profile settings locationText result).relabel (secrets swap) =
      authorise (lib.withMac mac) signingRequest profile settings locationText result := by
  simp only [authorise, bind_eq, pure_eq, relabel_bind, getOrCreateHmacSecret_relabel, bind_assoc,
    done_bind]
  congr 1
  funext secret
  have keyed (message : Bytes) : lib.hmacSha256 (utf8 (swap.map secret)) message =
      (lib.withMac mac).hmacSha256 (utf8 secret) message := by
    rw [← same, swap.twice]
    rfl
  simp only [keyed]
  rw [relabel_ask swap rfl]
  congr 1
  funext timestamp
  rw [relabel_ask swap rfl]
  rfl

theorem initiate_relabel (same : SameMac swap lib mac) (ctx : Context)
    (arguments : InitiateArguments) :
    (initiate lib ctx arguments).relabel (secrets swap) =
      initiate (lib.withMac mac) ctx arguments := by
  simp [initiate, authorise_relabel same, Settings.exchanged, bind_assoc]
  rfl

theorem body_relabel (same : SameMac swap lib mac) (origin : Origin) :
    (body lib origin).relabel (secrets swap) = body (lib.withMac mac) origin := by
  obtain ⟨ctx, endpoint⟩ := origin
  cases endpoint with
  | initiate arguments =>
      simp only [body, serve, relabel_bind, initiate_relabel same, relabel_done]
  | finalize arguments =>
      simp only [body, serve, relabel_bind, finalize_relabel, relabel_done]
      rfl
  | getSigningStatus doctype docname =>
      simp only [body, serve, relabel_bind, getSigningStatus_relabel, relabel_done]
  | getFormActions doctype docname =>
      simp only [body, serve, relabel_bind, getFormActions_relabel, relabel_done]
  | retry signingRequest =>
      simp only [body, serve, relabel_bind, retry_relabel, relabel_done]
      rfl
  | cancel signingRequest reason =>
      simp only [body, serve, relabel_bind, cancel_relabel, relabel_done]
      rfl
  | abortInProgress signingRequest reason =>
      simp only [body, serve, relabel_bind, abortInProgress_relabel, relabel_done]
      rfl
  | expireStalePendingRequests =>
      simp only [body, serve, relabel_bind, expireStalePendingRequests_relabel, relabel_done]

end DscSigning

/-! ### The endpoints of the agent -/

namespace DscSigning.AgentApi

open Interaction Program

variable {lib : Libraries} (swap : Exchange)

/-- Questions whose replies carry no secret. -/
@[reducible, simp] def Operation.ordinary : Operation → Bool
  | .getPassword => false
  | .tokenUrlsafe _ => false
  | .saveSecret _ => false
  | _ => true

def secrets : Relabelling face := (exchange swap).toRelabelling

@[simp] theorem relabel_ask {operation : Operation} (ordinary : operation.ordinary = true) :
    @Program.relabel face (no_index operation.Answer) (secrets swap) (ask operation) =
      ask operation := by
  cases operation <;> first | exact relabel_fixed fun _ => rfl | cases ordinary

theorem relabel_token (bytes : Nat) :
    (ask (.tokenUrlsafe bytes)).relabel (secrets swap) =
      (ask (.tokenUrlsafe bytes)).bind fun token => .done (swap.token bytes token) := by
  simp only [perform, relabel, Program.bind]
  congr 1
  funext reply
  cases reply <;> rfl

theorem relabel_saveSecret (secret : String) :
    @Program.relabel face (no_index Unit) (secrets swap) (ask (.saveSecret secret)) =
      ask (.saveSecret (swap.map secret)) := by
  simp only [perform, relabel]
  congr 1
  funext reply
  cases reply <;> rfl

theorem relabel_password :
    (ask .getPassword).relabel (secrets swap) =
      (ask .getPassword).bind fun secret => .done (swap.text secret) := by
  simp only [perform, relabel, Program.bind]
  congr 1
  funext reply
  cases reply <;> rfl

theorem relabel_other (bytes : Nat) (other : bytes ≠ secretBytes) :
    (ask (.tokenUrlsafe bytes)).relabel (secrets swap) = ask (.tokenUrlsafe bytes) := by
  rw [relabel_token]
  simp only [Exchange.token, if_neg other]
  exact bind_done _

theorem generatePairingCode_relabel (user : String) (request : Option WebRequest) :
    (generatePairingCode lib user request).relabel (secrets swap) =
      generatePairingCode lib user request := by
  simp only [generatePairingCode, bind_eq, relabel_bind]
  rw [relabel_other swap 16 (by decide)]
  congr 1
  funext code
  rw [relabel_ask swap rfl]
  congr 1
  funext createdAt
  rw [relabel_ask swap rfl]
  rfl

theorem currentSecret_relabel :
    currentSecret.relabel (secrets swap) =
      currentSecret.bind fun secret => .done (swap.text secret) := by
  simp only [currentSecret, bind_eq, pure_eq, relabel_bind, bind_assoc]
  rw [relabel_ask swap rfl]
  congr 1
  funext stored
  rw [relabel_ite, relabel_password]
  split <;> rfl

theorem getOrCreateHmacSecret_relabel :
    getOrCreateHmacSecret.relabel (secrets swap) =
      getOrCreateHmacSecret.bind fun secret => .done (swap.map secret) := by
  simp only [getOrCreateHmacSecret, bind_eq, pure_eq, relabel_bind, currentSecret_relabel, bind_assoc,
    done_bind, relabel_ite]
  congr 1
  funext current
  rw [Exchange.text_given]
  split
  · rename_i given
    cases current with
    | none => cases given
    | some secret => rfl
  · rw [relabel_token, bind_assoc, bind_assoc]
    congr 1
    funext token
    have kept : swap.map (swap.token 48 token) = token := swap.twice token
    simp only [done_bind, relabel_saveSecret, bind_assoc, relabel_done]
    rw [kept, relabel_ask swap rfl]
    rfl

def Paired.exchanged (response : Paired) : Paired :=
  { response with hmacSecret := swap.map response.hmacSecret }

def Response.exchanged : Response → Response
  | .paired response => .paired (response.exchanged swap)
  | response => response

theorem Response.exchanged_twice (response : Response) :
    (response.exchanged swap).exchanged swap = response := by
  cases response with
  | paired response =>
      have twice : swap.map (swap.map response.hmacSecret) = response.hmacSecret := swap.twice _
      simp only [Response.exchanged, Paired.exchanged, twice]
  | _ => rfl

theorem registerAgent_relabel (arguments : PairingArguments) (data : CodeData) :
    (registerAgent lib arguments data).relabel (secrets swap) =
      (registerAgent lib arguments data).bind fun response => .done (response.exchanged swap) := by
  simp only [registerAgent, bind_eq, pure_eq, relabel_bind, bind_assoc,
    getOrCreateHmacSecret_relabel, done_bind]
  rw [relabel_other swap 32 (by decide)]
  congr 1
  funext siteToken
  rw [relabel_ask swap rfl]
  congr 1
  funext pairedOn
  congr 1
  funext lastSeenOn
  rw [relabel_ask swap rfl]
  congr 1
  funext name
  rw [relabel_ask swap rfl]
  rfl

theorem validatePairingCode_relabel (arguments : PairingArguments) :
    (validatePairingCode lib arguments).relabel (secrets swap) =
      (validatePairingCode lib arguments).bind fun response => .done (response.exchanged swap) := by
  simp only [validatePairingCode, bind_eq, relabel_bind, bind_assoc]
  rw [relabel_ask swap rfl]
  congr 1
  funext raw
  cases raw with
  | none => rfl
  | some data =>
      simp only [relabel_bind, bind_assoc, registerAgent_relabel]
      rw [relabel_ask swap rfl]

theorem verifySiteToken_relabel (siteToken agentFingerprint : Text) :
    (verifySiteToken lib siteToken agentFingerprint).relabel (secrets swap) =
      verifySiteToken lib siteToken agentFingerprint := by
  simp [verifySiteToken]

theorem registerCertificate_relabel (user profileName certDerB64 : String) :
    (registerCertificate lib user profileName certDerB64).relabel (secrets swap) =
      registerCertificate lib user profileName certDerB64 := by
  simp [registerCertificate, ProfileCertificates.replacedOn]

/-- An endpoint exchanges the secret in its response, and nothing else. -/
theorem body_relabel (origin : Origin) :
    (body lib origin).relabel (secrets swap) =
      (body lib origin).bind fun response => .done (response.exchanged swap) := by
  unfold body
  split
  · rfl
  · cases origin.endpoint with
    | generatePairingCode request =>
        simp only [serve, relabel_bind, generatePairingCode_relabel, relabel_done, bind_assoc,
          done_bind, Response.exchanged]
    | validatePairingCode arguments =>
        simp only [serve, relabel_bind, validatePairingCode_relabel, relabel_done, bind_assoc,
          done_bind, Response.exchanged]
    | verifySiteToken siteToken agentFingerprint =>
        simp only [serve, relabel_bind, verifySiteToken_relabel, relabel_done, bind_assoc,
          done_bind, Response.exchanged]
    | registerCertificate profileName certDerB64 =>
        simp only [serve, relabel_bind, registerCertificate_relabel, relabel_done, bind_assoc,
          done_bind, Response.exchanged]
    | listAgentCertificates agentPort => rfl

end DscSigning.AgentApi
