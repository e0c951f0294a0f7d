/-
Every endpoint obeys the rule of `Server/Discipline.lean`: one lemma for each
part of an endpoint, put together in the order of the source.
-/

import DscSigning.Server.Discipline

namespace DscSigning

open Interaction Program

variable {lib : Libraries}

/-! ### What the parts ask -/

section Parts

variable {kind : Operation → Prop}

theorem checkSigner_uses (ctx : Context) (signingRequest : PendingRequest)
    (roles : kind (.getRoles ctx.user)) : (checkSigner ctx signingRequest).Uses kind := by
  unfold checkSigner
  split
  · exact Uses.bind (Uses.perform roles) fun _ => Uses.demand _ _
  · trivial

theorem checkProfile_uses (ctx : Context) (profile : Profile) (now : kind .now) :
    (checkProfile lib ctx profile).Uses kind := by
  apply Uses.bind (Uses.demand _ _)
  intro _
  apply Uses.bind (Uses.demand _ _)
  intro _
  cases profile.certificateNotAfter with
  | none => trivial
  | some notAfter => exact Uses.bind (Uses.perform now) fun _ => Uses.demand _ _

theorem runDevHooks_uses (hookName : String) (arguments : List (String × Text))
    (hooks : kind (.getHooks hookName)) (hook : ∀ handler, kind (.runHook handler arguments))
    (failed : ∀ title, kind (.logError title)) : (runDevHooks hookName arguments).Uses kind := by
  apply Uses.bind (Uses.perform hooks)
  intro handlers
  apply Uses.forEach
  intro handler _
  exact Uses.recover (Uses.perform (hook handler)) fun _ => Uses.perform (failed _)

theorem geocode_uses (lat lng : Option FormValue)
    (reverse : ∀ lat lng, kind (.reverseGeocode lat lng)) : (geocode lat lng).Uses kind := by
  cases lat with
  | none => trivial
  | some lat =>
      cases lng with
      | none => trivial
      | some lng => exact Uses.bind (Uses.perform (reverse lat lng)) fun _ => trivial

theorem readUploadedPdf_uses (fileUrl : Text) (content : kind (.fileContent fileUrl.show)) :
    (readUploadedPdf fileUrl).Uses kind := by
  apply Uses.bind (Uses.demand _ _)
  intro _
  apply Uses.bind (Uses.perform content)
  intro _
  exact Uses.bind (Uses.demand _ _) fun _ => trivial

theorem loadUpload_uses (doctype docname : String) (record : kind (.getDocSign docname))
    (content : ∀ url, kind (.fileContent url))
    (inProgress : kind (.setDocSign docname ⟨.inProgress, none⟩)) :
    (loadUpload doctype docname).Uses kind := by
  unfold loadUpload
  split
  · apply Uses.bind (Uses.perform record)
    intro docSign
    apply Uses.bind (readUploadedPdf_uses docSign.uploadedPdf (content _))
    intro _
    apply Uses.bind (Uses.demand _ _)
    intro _
    exact Uses.bind (Uses.perform inProgress) fun _ => trivial
  · trivial

theorem choosePrintFormat_uses (doctype : String) (signingRequest : PendingRequest)
    (uploaded : Bool) (default : kind (.defaultPrintFormat doctype)) :
    (choosePrintFormat doctype signingRequest uploaded).Uses kind := by
  unfold choosePrintFormat
  split
  · trivial
  · apply Uses.bind
    · unfold rulePrintFormat
      exact trivial
    · intro ofRule
      split
      · trivial
      · exact Uses.bind (Uses.perform default) fun _ => trivial

theorem buildStampText_uses (sigTemplate : SignatureTemplate) (profile : Profile)
    (text : String) (settings : kind .getSettings) :
    (buildStampText sigTemplate profile text).Uses kind := by
  apply Uses.bind
  · unfold stampReason
    split
    · exact Uses.bind (Uses.perform settings) fun _ => trivial
    · trivial
  · intro reason
    apply Uses.bind
    · unfold stampLocation
      split
      · split
        · trivial
        · exact Uses.bind (Uses.perform settings) fun _ => trivial
      · trivial
    · intro location
      trivial

theorem sourcePdf_uses (arguments : PrepareArguments)
    (rendered : kind (.renderPdf arguments.doctype arguments.docname arguments.printFormat)) :
    (sourcePdf arguments).Uses kind := by
  unfold sourcePdf
  split
  · trivial
  · exact Uses.perform rendered

theorem mirror_uses (doctype docname : String) {edit : DocSignEdit}
    (copied : kind (.setDocSign docname edit)) : (mirror doctype docname edit).Uses kind := by
  unfold mirror
  split
  · exact Uses.perform copied
  · trivial

theorem getOrCreateHmacSecret_uses (settings : kind .getSettings) (password : kind .getPassword)
    (drawn : kind (.tokenUrlsafe 48)) (saved : ∀ secret, kind (.saveSecret secret))
    (commit : kind .commit) : getOrCreateHmacSecret.Uses kind := by
  apply Uses.bind
  · apply Uses.bind (Uses.perform settings)
    intro doc
    split
    · exact Uses.perform password
    · trivial
  · intro current
    split
    · trivial
    · apply Uses.bind (Uses.perform drawn)
      intro newSecret
      apply Uses.bind (Uses.perform (saved newSecret))
      intro _
      exact Uses.bind (Uses.perform commit) fun _ => trivial

theorem authorise_uses (row : PendingRequest) (profile : Profile) (settings : Settings)
    (locationText : Text) (result : PrepareResult) (secret : getOrCreateHmacSecret.Uses kind)
    (epoch : kind .epochSeconds) (nonce : kind (.tokenHex 16)) :
    (authorise lib row profile settings locationText result).Uses kind := by
  apply Uses.bind secret
  intro hmacSecret
  apply Uses.bind (Uses.perform epoch)
  intro timestamp
  exact Uses.bind (Uses.perform nonce) fun _ => trivial

end Parts

/-! ### Calm parts -/

theorem calm_ask {operation : Operation} (peaceful : calm operation = true) :
    (ask operation).Uses Calm :=
  Uses.perform peaceful

/-- Calm questions that render nothing. -/
def plain (operation : Operation) : Bool :=
  calm operation &&
    match operation with
    | .renderPdf .. => false
    | _ => true

def Plain (operation : Operation) : Prop := plain operation = true

theorem plain_ask {operation : Operation} (simple : plain operation = true) :
    (ask operation).Uses Plain :=
  Uses.perform simple

theorem calm_of_plain {operation : Operation} (simple : Plain operation) : Calm operation := by
  simp only [Plain, plain, Bool.and_eq_true] at simple
  exact simple.1

theorem plain_calm {Value : Type} {program : Server Value} (uses : program.Uses Plain) :
    program.Uses Calm :=
  uses.weaken fun _ => calm_of_plain

/-- The status of the request that an event of the audit trail reports. -/
def eventStatus : String → Option RequestStatus
  | "Request Created" => some .pending
  | "Agent Called" => some .inProgress
  | "Request Signed" => some .signed
  | "Request Failed" => some .failed
  | "Request Retried" => some .pending
  | "Request Aborted" => some .pending
  | "Request Cancelled" => some .cancelled
  | _ => none

/-- Plain questions that change no status, and report no change of one. -/
def basic (operation : Operation) : Bool :=
  plain operation &&
    match operation with
    | .setDocSign .. => false
    | .insertEvent event => (eventStatus event.eventType).isNone
    | _ => true

def Basic (operation : Operation) : Prop := basic operation = true

theorem basic_ask {operation : Operation} (simple : basic operation = true) :
    (ask operation).Uses Basic :=
  Uses.perform simple

theorem plain_of_basic {operation : Operation} (simple : Basic operation) : Plain operation := by
  simp only [Basic, basic, Bool.and_eq_true] at simple
  exact simple.1

theorem basic_plain {Value : Type} {program : Server Value} (uses : program.Uses Basic) :
    program.Uses Plain :=
  uses.weaken fun _ => plain_of_basic

theorem basic_calm {Value : Type} {program : Server Value} (uses : program.Uses Basic) :
    program.Uses Calm :=
  plain_calm (basic_plain uses)

theorem logEvent_plain (ctx : Context) (name eventType : String) (details : List (String × Json)) :
    (logEvent lib ctx name eventType details).Uses Plain :=
  Uses.bind (plain_ask rfl) fun _ => plain_ask rfl

theorem logEvent_basic (ctx : Context) (name : String) {eventType : String}
    (details : List (String × Json)) (silent : (eventStatus eventType).isNone = true) :
    (logEvent lib ctx name eventType details).Uses Basic :=
  Uses.bind (basic_ask rfl) fun _ => basic_ask silent

theorem runDevHooks_basic (hookName : String) (arguments : List (String × Text)) :
    (runDevHooks hookName arguments).Uses Basic :=
  runDevHooks_uses hookName arguments rfl (fun _ => rfl) fun _ => rfl

theorem runDevHooks_plain (hookName : String) (arguments : List (String × Text)) :
    (runDevHooks hookName arguments).Uses Plain :=
  basic_plain (runDevHooks_basic hookName arguments)

theorem loadSession_basic (sessionId : String) (pop : Bool) :
    (loadSession sessionId pop).Uses Basic := by
  apply Uses.bind (basic_ask rfl)
  intro raw
  cases raw with
  | none => trivial
  | some session =>
      cases pop with
      | false => trivial
      | true => exact Uses.bind (basic_ask rfl) fun _ => trivial

theorem readUploadedPdf_basic (fileUrl : Text) : (readUploadedPdf fileUrl).Uses Basic :=
  readUploadedPdf_uses fileUrl rfl

theorem geocode_basic (lat lng : Option FormValue) : (geocode lat lng).Uses Basic :=
  geocode_uses lat lng fun _ _ => rfl

theorem geocode_plain (lat lng : Option FormValue) : (geocode lat lng).Uses Plain :=
  basic_plain (geocode_basic lat lng)

theorem loadTemplate_basic (name : Text) : (loadTemplate name).Uses Basic := by
  unfold loadTemplate
  split
  · exact basic_ask rfl
  · trivial

theorem loadTemplate_plain (name : Text) : (loadTemplate name).Uses Plain :=
  basic_plain (loadTemplate_basic name)

theorem loadUpload_plain (doctype docname : String) : (loadUpload doctype docname).Uses Plain :=
  loadUpload_uses doctype docname rfl (fun _ => rfl) rfl

theorem choosePrintFormat_basic (doctype : String) (signingRequest : PendingRequest)
    (uploaded : Bool) : (choosePrintFormat doctype signingRequest uploaded).Uses Basic :=
  choosePrintFormat_uses doctype signingRequest uploaded rfl

theorem choosePrintFormat_calm (doctype : String) (signingRequest : PendingRequest)
    (uploaded : Bool) : (choosePrintFormat doctype signingRequest uploaded).Uses Calm :=
  basic_calm (choosePrintFormat_basic doctype signingRequest uploaded)

theorem checkFingerprint_plain (name : String) (profile : Profile) (certDer : Bytes) :
    (checkFingerprint lib name profile certDer).Uses Plain :=
  Uses.demand _ _

theorem logLocation_basic (ctx : Context) (name : String) (location : Option SignerLocation)
    (geocoded : Option GeocodeResult) :
    (logLocation lib ctx name location geocoded).Uses Basic := by
  unfold logLocation
  split
  · exact logEvent_basic _ _ _ rfl
  · trivial

theorem logPrepared_plain (ctx : Context) (name : String) (settings : Settings)
    (location : Option SignerLocation) (geocoded : Option GeocodeResult)
    (result : PrepareResult) :
    (logPrepared lib ctx name settings location geocoded result).Uses Plain := by
  apply Uses.bind (basic_plain (logLocation_basic _ _ _ _))
  intro _
  exact Uses.bind (logEvent_plain _ _ _ _) fun _ => logEvent_plain _ _ _ _

theorem buildStampText_basic (sigTemplate : SignatureTemplate) (profile : Profile)
    (text : String) : (buildStampText sigTemplate profile text).Uses Basic :=
  buildStampText_uses sigTemplate profile text rfl

theorem buildStampText_plain (sigTemplate : SignatureTemplate) (profile : Profile)
    (text : String) : (buildStampText sigTemplate profile text).Uses Plain :=
  basic_plain (buildStampText_basic sigTemplate profile text)

theorem sourcePdf_calm (arguments : PrepareArguments) : (sourcePdf arguments).Uses Calm :=
  sourcePdf_uses arguments rfl

theorem shippedAnchors_basic : (shippedAnchors lib).Uses Basic := by
  apply Uses.bind (basic_ask rfl)
  intro builtin
  cases builtin with
  | none => trivial
  | some bundle => exact Uses.ofExcept _

theorem uploadedAnchors_basic : (uploadedAnchors lib).Uses Basic := by
  apply Uses.bind (basic_ask rfl)
  intro bundleUrl
  split
  · exact Uses.bind (basic_ask rfl) fun _ => Uses.ofExcept _
  · trivial

theorem loadTrustStore_basic : (loadTrustStore lib).Uses Basic := by
  apply Uses.recover
  · apply Uses.bind shippedAnchors_basic
    intro shipped
    apply Uses.bind uploadedAnchors_basic
    intro uploaded
    simp only
    split
    · trivial
    · exact Uses.bind (Uses.ofExcept _) fun _ => trivial
  · intro exn
    exact Uses.bind (basic_ask rfl) fun _ => trivial

theorem verifySignedPdf_basic (pdf : Bytes) : (verifySignedPdf lib pdf).Uses Basic := by
  apply Uses.recover
  · apply Uses.bind (Uses.ofExcept _)
    intro sigs
    split
    · trivial
    · exact Uses.bind loadTrustStore_basic fun _ => trivial
  · intro exn
    trivial

theorem verifySignedPdf_calm (pdf : Bytes) : (verifySignedPdf lib pdf).Uses Calm :=
  basic_calm (verifySignedPdf_basic pdf)

theorem sendSignedNotification_basic (ctx : Context) (doctype docname name : String) :
    (sendSignedNotification ctx doctype docname name).Uses Basic := by
  apply Uses.bind (basic_ask rfl)
  intro creator
  split
  · trivial
  · apply Uses.bind (basic_ask rfl)
    intro req
    apply Uses.bind (basic_ask rfl)
    intro profile
    exact basic_ask rfl

theorem sendSignedNotification_calm (ctx : Context) (doctype docname name : String) :
    (sendSignedNotification ctx doctype docname name).Uses Calm :=
  basic_calm (sendSignedNotification_basic ctx doctype docname name)

theorem notifyAdminsOfFailure_basic (name message : String) :
    (notifyAdminsOfFailure lib name message).Uses Basic := by
  apply Uses.bind (basic_ask rfl)
  intro admins
  simp only
  split
  · trivial
  · exact Uses.bind (basic_ask rfl) fun _ => basic_ask rfl

theorem notifyAdminsOfFailure_calm (name message : String) :
    (notifyAdminsOfFailure lib name message).Uses Calm :=
  basic_calm (notifyAdminsOfFailure_basic name message)

theorem mirror_calm (doctype docname : String) (edit : DocSignEdit) :
    (mirror doctype docname edit).Uses Calm :=
  mirror_uses doctype docname rfl

theorem receiveSignature_basic (ctx : Context) (arguments : FinalizeArguments) :
    (receiveSignature lib ctx arguments).Uses Basic := by
  apply Uses.bind (loadSession_basic _ _)
  intro found
  apply Uses.bind (Uses.ofOption _ _)
  intro session
  apply Uses.bind (basic_ask rfl)
  intro startTime
  apply Uses.bind (Uses.ofExcept _)
  intro presented
  apply Uses.bind (logEvent_basic _ _ _ rfl)
  intro _
  exact Uses.bind (logEvent_basic _ _ _ rfl) fun _ => trivial

/-! ### Walking through an endpoint -/

section Walk

variable {origin : Origin} {Value Result : Type} {trace : ServerTrace}
  {settles : ServerTrace → Except Exn Result → Prop}

/-- A calm part of a program that has neither committed nor saved a file. -/
theorem follows_calm {program : Server Value} {next : Value → Server Result}
    (uses : program.Uses Calm) (quiet : Quiet trace)
    (onDone : ∀ later value, trace <:+ later → Quiet later →
      (next value).Follows (Permitted lib origin) settles later)
    (onFail : ∀ later error, trace <:+ later → Quiet later → settles later (.error error)) :
    (program.bind next).Follows (Permitted lib origin) settles trace :=
  Follows.bind (quiet_follows uses quiet)
    (fun later value suffix still => onDone later value suffix still)
    (fun later error suffix still => onFail later error suffix still)

/-- One calm question on the way. -/
theorem follows_ask {operation : Operation} {next : operation.Answer → Server Result}
    (peaceful : calm operation = true) (quiet : Quiet trace)
    (onDone : ∀ answer stamp, Quiet (⟨operation, .ok answer, stamp⟩ :: trace) →
      (next answer).Follows (Permitted lib origin) settles (⟨operation, .ok answer, stamp⟩ :: trace))
    (onFail : ∀ error stamp, Quiet (⟨operation, .error error, stamp⟩ :: trace) →
      settles (⟨operation, .error error, stamp⟩ :: trace) (.error error)) :
    ((ask operation).bind next).Follows (Permitted lib origin) settles trace := by
  have still (reply : Except Exn operation.Answer) (stamp : Instant) :
      Quiet ([⟨operation, reply, stamp⟩] ++ trace) := by
    apply quiet.calm
    intro event member
    rw [List.mem_singleton.mp member]
    exact peaceful
  exact Follows.perform (permitted_calm trace operation peaceful)
    (fun answer stamp => onDone answer stamp (still _ stamp))
    (fun error stamp => onFail error stamp (still _ stamp))

end Walk

/-! ### initiate -/

/-- What `initiate` knows once it may prepare the signing of a request. -/
structure Selected (origin : Origin) (arguments : InitiateArguments) (row : PendingRequest)
    (trace : ServerTrace) : Prop where
  endpoint : origin.endpoint = .initiate arguments
  quiet : Quiet trace
  found : Answered trace (.findPending arguments.doctype arguments.docname) (some row)
  target : row.name ∈ targets trace
  signer : SignerChecked origin trace row
  profile : ProfileChecked origin trace row

theorem SignerChecked.mono {origin : Origin} {trace later : ServerTrace} {row : PendingRequest}
    (checked : SignerChecked origin trace row) (suffix : trace <:+ later) :
    SignerChecked origin later row := by
  rcases checked with nobody | expected | ⟨roles, told, permitted⟩
  · exact Or.inl nobody
  · exact Or.inr (Or.inl expected)
  · exact Or.inr (Or.inr ⟨roles, told.mono suffix, permitted⟩)

theorem ProfileChecked.mono {origin : Origin} {trace later : ServerTrace} {row : PendingRequest}
    (checked : ProfileChecked origin trace row) (suffix : trace <:+ later) :
    ProfileChecked origin later row := by
  obtain ⟨profile, told, active, allowed⟩ := checked
  exact ⟨profile, told.mono suffix, active, allowed⟩

theorem Selected.mono {origin : Origin} {arguments : InitiateArguments} {row : PendingRequest}
    {trace later : ServerTrace} (selected : Selected origin arguments row trace)
    (suffix : trace <:+ later) (quiet : Quiet later) : Selected origin arguments row later :=
  { endpoint := selected.endpoint
    quiet := quiet
    found := selected.found.mono suffix
    target := targets_mono suffix selected.target
    signer := selected.signer.mono suffix
    profile := selected.profile.mono suffix }

theorem Selected.step {origin : Origin} {arguments : InitiateArguments} {row : PendingRequest}
    {trace : ServerTrace} {event : ServerEvent} (selected : Selected origin arguments row trace)
    (plain : notable event = false) : Selected origin arguments row (event :: trace) :=
  selected.mono (List.suffix_cons _ _) (selected.quiet.cons plain)

theorem checkSigner_follows {origin : Origin} {trace : ServerTrace} (row : PendingRequest)
    (quiet : Quiet trace) :
    (checkSigner origin.ctx row).Follows (Permitted lib origin)
      (fun later result => Quiet later ∧
        ∀ value, result = .ok value → SignerChecked origin later row) trace := by
  unfold checkSigner
  split
  · refine Follows.perform trivial ?_ ?_
    · intro roles stamp
      have still : Quiet (⟨.getRoles origin.ctx.user, .ok roles, stamp⟩ :: trace) :=
        quiet.cons rfl
      cases permitted : hasPermission roles .write with
      | false => exact ⟨still, by simp⟩
      | true => exact ⟨still, fun _ _ => Or.inr (Or.inr ⟨roles, Answered.head, permitted⟩)⟩
    · intro exn stamp
      exact ⟨quiet.cons rfl, by simp⟩
  · rename_i own
    refine ⟨quiet, fun _ _ => ?_⟩
    simp only [Bool.and_eq_true, bne_iff_ne, ne_eq, not_and, not_not] at own
    cases given : row.expectedSignerUser.given with
    | false => exact Or.inl given
    | true => exact Or.inr (Or.inl (own given))

theorem checkProfile_follows {origin : Origin} {trace : ServerTrace} {row : PendingRequest}
    {profile : Profile} (told : Answered trace (.getProfile row.profile) profile)
    (quiet : Quiet trace) :
    (checkProfile lib origin.ctx profile).Follows (Permitted lib origin)
      (fun later result => Quiet later ∧
        ∀ value, result = .ok value → ProfileChecked origin later row) trace := by
  refine Follows.demand ?_ fun _ => ⟨quiet, by simp⟩
  intro active
  refine Follows.demand ?_ fun _ => ⟨quiet, by simp⟩
  intro allowed
  have checked : ProfileChecked origin trace row := ⟨profile, told, active, allowed⟩
  cases profile.certificateNotAfter with
  | none => exact ⟨quiet, fun _ _ => checked⟩
  | some notAfter =>
      refine Follows.perform trivial ?_ fun _ _ => ⟨quiet.cons rfl, by simp⟩
      intro now stamp
      have still : Quiet (⟨.now, .ok now, stamp⟩ :: trace) := quiet.cons rfl
      simp only [Program.demand]
      split
      · exact ⟨still, fun _ _ => checked.mono (List.suffix_cons _ _)⟩
      · exact ⟨still, by simp⟩

variable (lib) in
/-- A prepared signing has stored the session its hash belongs to. -/
def Prepared (row : PendingRequest) (trace : ServerTrace) (result : PrepareResult) : Prop :=
  ∃ session, Answered trace (.storeSession result.sessionId session) () ∧
    session.signingRequestName = row.name ∧ result.hashAlgorithm = session.hashAlgorithm ∧
    result.hashToSign = lib.sha256Hex session.signedAttrs ∧ Uncommitted trace

theorem preparePdfForSigning_follows {origin : Origin} {trace : ServerTrace}
    {arguments : InitiateArguments} {row : PendingRequest}
    (selected : Selected origin arguments row trace) (prepare : PrepareArguments)
    (named : prepare.signingRequestName = row.name) :
    (preparePdfForSigning lib prepare).Follows (Permitted lib origin)
      (fun later result => ∀ value, result = .ok value → Prepared lib row later value) trace := by
  have quit (later : ServerTrace) (exn : Exn) :
      ∀ value : PrepareResult, (.error exn : Except Exn PrepareResult) = .ok value →
        Prepared lib row later value := by simp
  refine follows_calm (sourcePdf_calm _) selected.quiet ?_ fun _ _ _ _ => quit _ _
  intro afterPdf pdf pdfLater pdfQuiet
  refine follows_ask rfl pdfQuiet ?_ fun _ _ _ => quit _ _
  intro settings settingsAt settingsQuiet
  refine follows_calm (plain_calm (buildStampText_plain _ _ _)) settingsQuiet ?_ fun _ _ _ _ => quit _ _
  intro afterStamp stampText stampLater stampQuiet
  refine follows_ask rfl stampQuiet ?_ fun _ _ _ => quit _ _
  intro sessionId drawnAt drawnQuiet
  refine Follows.ofExcept ?_ fun _ _ => quit _ _
  intro signerCert loaded
  refine follows_ask rfl drawnQuiet ?_ fun _ _ _ => quit _ _
  intro prepared preparedAt preparedQuiet
  refine follows_ask rfl preparedQuiet ?_ fun _ _ _ => quit _ _
  intro signingTime signedAt signedQuiet
  refine follows_ask rfl signedQuiet ?_ fun _ _ _ => quit _ _
  intro createdAt createdStamp createdQuiet
  have known := selected.mono ((pdfLater.trans (List.suffix_cons _ _)).trans
    (stampLater.trans ((((List.suffix_cons _ _).trans (List.suffix_cons _ _)).trans
      (List.suffix_cons _ _)).trans (List.suffix_cons _ _)))) createdQuiet
  refine Follows.perform ?_ ?_ fun _ _ => quit _ _
  · exact ⟨arguments, row, known.endpoint, known.found, known.signer, known.profile, known.quiet,
      ⟨drawnAt, by simp⟩, named, by rw [named]⟩
  · intro _ storedAt value same
    cases same
    refine ⟨_, Answered.head, named, rfl, rfl, fun event member => ?_⟩
    rcases List.mem_cons.mp member with own | older
    · rw [own]
      rfl
    · exact known.quiet.uncommitted event older

/-- Calm questions and commits. -/
def Free (operation : Operation) : Prop := Calm operation ∨ operation = .commit

theorem permitted_free {origin : Origin} (trace : ServerTrace) (operation : Operation)
    (free : Free operation) : Permitted lib origin trace operation := by
  rcases free with peaceful | commit
  · exact permitted_calm trace operation peaceful
  · rw [commit]
    trivial

/-- Plain questions and commits. -/
def Settling (operation : Operation) : Prop := Plain operation ∨ operation = .commit

theorem getOrCreateHmacSecret_basic :
    getOrCreateHmacSecret.Uses fun operation : Operation => Basic operation ∨ operation = .commit :=
  getOrCreateHmacSecret_uses (Or.inl rfl) (Or.inl rfl) (Or.inl rfl) (fun _ => Or.inl rfl)
    (Or.inr rfl)

theorem getOrCreateHmacSecret_settling : getOrCreateHmacSecret.Uses Settling :=
  getOrCreateHmacSecret_basic.weaken fun _ settling => settling.imp_left plain_of_basic

theorem getOrCreateHmacSecret_free : getOrCreateHmacSecret.Uses Free :=
  getOrCreateHmacSecret_settling.weaken fun _ settling => settling.imp_left calm_of_plain

theorem uses_free {Value : Type} {program : Server Value} (uses : program.Uses Calm) :
    program.Uses Free := uses.weaken fun _ peaceful => Or.inl peaceful

theorem free_follows {origin : Origin} {trace : ServerTrace} {Value : Type}
    {program : Server Value} (uses : program.Uses Free) :
    program.Follows (Permitted lib origin) (fun _ _ => True) trace :=
  (Uses.follows uses trace permitted_free).weaken fun _ _ _ _ => trivial

variable (lib) in
/-- The post of `initiate`. -/
def InitiateEnds (trace : ServerTrace) (result : Except Exn InitiateResponse) : Prop :=
  ∀ response, result = .ok response → Responds lib trace response

theorem initiateEnds_error {trace : ServerTrace} {exn : Exn} :
    InitiateEnds lib trace (.error exn) := by
  intro response impossible
  cases impossible

theorem authorise_follows {origin : Origin} {trace : ServerTrace} {row : PendingRequest}
    {result : PrepareResult} (profile : Profile) (settings : Settings) (locationText : Text)
    {session : SigningSession} (stored : Answered trace (.storeSession result.sessionId session) ())
    (named : session.signingRequestName = row.name)
    (sameAlgorithm : result.hashAlgorithm = session.hashAlgorithm)
    (sameHash : result.hashToSign = lib.sha256Hex session.signedAttrs) :
    (authorise lib row profile settings locationText result).Follows (Permitted lib origin)
      (InitiateEnds lib) trace := by
  refine Uses.past getOrCreateHmacSecret_free permitted_free ?_ fun _ _ _ => initiateEnds_error
  intro afterSecret secret suffix
  refine Follows.perform trivial (fun timestamp timedAt => ?_) fun _ _ => initiateEnds_error
  refine Follows.perform trivial (fun nonce nonceAt => ?_) fun _ _ => initiateEnds_error
  intro response same
  cases same
  exact ⟨session, stored.mono (suffix.trans ((List.suffix_cons _ _).trans (List.suffix_cons _ _))),
    named, sameAlgorithm, sameHash⟩

theorem initiate_follows (ctx : Context) (arguments : InitiateArguments) :
    (initiate lib ctx arguments).Follows (Permitted lib ⟨ctx, .initiate arguments⟩)
      (InitiateEnds lib) [] := by
  refine Follows.demand (fun _ => ?_) fun _ => initiateEnds_error
  refine Follows.perform rfl (fun found foundAt => ?_) fun _ _ => initiateEnds_error
  refine Follows.ofOption (fun row taken => ?_) fun _ => initiateEnds_error
  have foundQuiet : Quiet
      [⟨.findPending arguments.doctype arguments.docname, .ok found, foundAt⟩] := by
    intro event member
    rw [List.mem_singleton.mp member]
    rfl
  subst taken
  refine Follows.bind (checkSigner_follows row foundQuiet) ?_ fun _ _ _ _ => initiateEnds_error
  rintro afterSigner _ signerLater ⟨signerQuiet, signerChecked⟩
  refine follows_ask rfl signerQuiet ?_ fun _ _ _ => initiateEnds_error
  intro profile profileAt profileQuiet
  refine Follows.bind (checkProfile_follows Answered.head profileQuiet) ?_ fun _ _ _ _ => initiateEnds_error
  rintro afterProfile _ profileLater ⟨checkedQuiet, profileChecked⟩
  have suffix := signerLater.trans ((List.suffix_cons _ _).trans profileLater)
  have selected : Selected ⟨ctx, .initiate arguments⟩ arguments row afterProfile :=
    { endpoint := rfl
      quiet := checkedQuiet
      found := Answered.head.mono suffix
      target := targets_mono suffix (by simp [targets, DscSigning.selected])
      signer := (signerChecked () rfl).mono ((List.suffix_cons _ _).trans profileLater)
      profile := profileChecked () rfl }
  refine follows_ask rfl selected.quiet ?_ fun _ _ _ => initiateEnds_error
  intro settings settingsAt settingsQuiet
  refine Follows.demand (fun _ => ?_) fun _ => initiateEnds_error
  refine follows_calm (plain_calm (geocode_plain _ _)) settingsQuiet ?_ fun _ _ _ _ => initiateEnds_error
  intro afterGeocode geocoded geocodeLater geocodeQuiet
  refine follows_calm (plain_calm (loadTemplate_plain _)) geocodeQuiet ?_ fun _ _ _ _ => initiateEnds_error
  intro afterTemplate sigTemplate templateLater templateQuiet
  refine follows_calm (plain_calm (loadUpload_plain _ _)) templateQuiet ?_ fun _ _ _ _ => initiateEnds_error
  intro afterUpload upload uploadLater uploadQuiet
  refine follows_calm (choosePrintFormat_calm _ _ _) uploadQuiet ?_ fun _ _ _ _ => initiateEnds_error
  intro beforeStart printFormat formatLater formatQuiet
  refine Follows.ofExcept (fun location located => ?_) fun _ _ => initiateEnds_error
  have starting := selected.mono ((List.suffix_cons _ _).trans (geocodeLater.trans
    (templateLater.trans (uploadLater.trans formatLater)))) formatQuiet
  -- The first statement on the request: In Progress.
  refine Follows.perform ⟨⟨starting.target, starting.quiet.sealed⟩, starting.quiet.filed,
    arguments, geocoded, rfl, located⟩ (fun _ startedAt => ?_) fun _ _ => initiateEnds_error
  have started : Selected ⟨ctx, .initiate arguments⟩ arguments row
      (⟨.setRequest row.name (.started ctx.requestIp ctx.userAgent location), .ok (), startedAt⟩ ::
        beforeStart) := starting.step rfl
  refine follows_calm (plain_calm (runDevHooks_plain _ _)) started.quiet ?_ fun _ _ _ _ => initiateEnds_error
  intro afterHooks _ hooksLater hooksQuiet
  refine Follows.ofExcept (fun certDer decoded => ?_) fun _ _ => initiateEnds_error
  refine follows_calm (plain_calm (checkFingerprint_plain _ _ _)) hooksQuiet ?_ fun _ _ _ _ => initiateEnds_error
  intro afterCheck _ checkLater checkQuiet
  have bound := started.mono (hooksLater.trans checkLater) checkQuiet
  refine Follows.bind (preparePdfForSigning_follows bound _ rfl) ?_ fun _ _ _ _ => initiateEnds_error
  intro afterPrepare result prepareLater prepared
  have known := prepared result rfl
  obtain ⟨session, stored, named, sameAlgorithm, sameHash, uncommitted⟩ := known
  have begun : Answered afterPrepare (.setRequest row.name
      (.started ctx.requestIp ctx.userAgent location)) () :=
    Answered.head.mono (hooksLater.trans (checkLater.trans prepareLater))
  -- The second statement: the hash of the session just stored.
  refine Follows.perform ⟨arguments, result.sessionId, session, location, rfl, stored, begun, named,
    sameAlgorithm, sameHash, uncommitted⟩ (fun _ hashedAt => ?_) fun _ _ => initiateEnds_error
  refine Uses.past (uses_free (plain_calm (logPrepared_plain _ _ _ _ _ _))) permitted_free ?_
    fun _ _ _ => initiateEnds_error
  intro afterLog _ logLater
  exact authorise_follows profile settings _ (stored.mono ((List.suffix_cons _ _).trans logLater))
    named sameAlgorithm sameHash

/-! ### finalize: before the file is saved -/

/-- What `finalize` knows of the session it was called with. -/
structure Holding (arguments : FinalizeArguments) (session : SigningSession)
    (trace : ServerTrace) : Prop where
  loaded : Answered trace (.loadSession arguments.sessionId) (some session)
  target : session.signingRequestName ∈ targets trace

theorem Holding.mono {arguments : FinalizeArguments} {session : SigningSession}
    {trace later : ServerTrace} (holding : Holding arguments session trace)
    (suffix : trace <:+ later) : Holding arguments session later :=
  { loaded := holding.loaded.mono suffix
    target := targets_mono suffix holding.target }

theorem loadSession_follows {origin : Origin} {trace : ServerTrace}
    (arguments : FinalizeArguments) (pop : Bool) (quiet : Quiet trace) :
    (loadSession arguments.sessionId pop).Follows (Permitted lib origin)
      (fun later result => Quiet later ∧
        ∀ session, result = .ok (some session) → Holding arguments session later) trace := by
  refine follows_ask rfl quiet ?_ fun _ _ still => ⟨still, by simp⟩
  intro raw loadedAt loadedQuiet
  cases raw with
  | none => exact ⟨loadedQuiet, by simp⟩
  | some session =>
      have holding : Holding arguments session
          (⟨.loadSession arguments.sessionId, .ok (some session), loadedAt⟩ :: trace) :=
        ⟨Answered.head, by simp [targets, selected]⟩
      have kept (value : SigningSession)
          (same : (.ok (some session) : Except Exn (Option SigningSession)) = .ok (some value)) :
          value = session := by
        cases same
        rfl
      cases pop with
      | false =>
          refine ⟨loadedQuiet, fun value same => ?_⟩
          rw [kept value same]
          exact holding
      | true =>
          refine follows_ask rfl loadedQuiet ?_ fun _ _ still => ⟨still, by simp⟩
          intro _ _ droppedQuiet
          refine ⟨droppedQuiet, fun value same => ?_⟩
          rw [kept value same]
          exact holding.mono (List.suffix_cons _ _)

theorem receiveSignature_follows {origin : Origin} {trace : ServerTrace} (ctx : Context)
    (arguments : FinalizeArguments) (quiet : Quiet trace) :
    (receiveSignature lib ctx arguments).Follows (Permitted lib origin)
      (fun later result => Quiet later ∧
        ∀ received, result = .ok received → Holding arguments received.1 later) trace := by
  refine Follows.bind (loadSession_follows arguments false quiet) ?_
    fun _ _ _ ended => ⟨ended.1, by simp⟩
  rintro afterLoad found loadLater ⟨loadQuiet, loaded⟩
  refine Follows.ofOption (fun session taken => ?_) fun _ => ⟨loadQuiet, by simp⟩
  subst taken
  have holding := loaded session rfl
  refine follows_ask rfl loadQuiet ?_ fun _ _ still => ⟨still, by simp⟩
  intro startTime startedAt startedQuiet
  refine Follows.ofExcept (fun presented computed => ?_) fun _ _ => ⟨startedQuiet, by simp⟩
  refine follows_calm (plain_calm (logEvent_plain _ _ _ _)) startedQuiet ?_ fun _ _ _ still => ⟨still, by simp⟩
  intro afterFirst _ firstLater firstQuiet
  refine follows_calm (plain_calm (logEvent_plain _ _ _ _)) firstQuiet ?_ fun _ _ _ still => ⟨still, by simp⟩
  intro afterSecond _ secondLater secondQuiet
  refine ⟨secondQuiet, fun received same => ?_⟩
  cases same
  exact holding.mono ((List.suffix_cons _ _).trans (firstLater.trans secondLater))

/-- A verification that `finalize` does not refuse has found signatures. -/
theorem accepted_ran {pdf : Bytes} {before after : ServerTrace} {verified : Verification}
    (ran : (verifySignedPdf lib pdf).Ran before after (.ok verified))
    (kept : (!verified.isValid && !verified.hasSignatures) = false) : Accepted lib after pdf := by
  have whole := ran
  have refused (error : String) : verified ≠ failedVerification error := by
    rintro rfl
    simp [failedVerification, Verification.hasSignatures] at kept
  rcases Ran.of_recover ran with ⟨value, inner, same⟩ | ⟨exn, between, _, handled⟩
  · cases same
    rcases Ran.of_bind inner with ⟨start, sigs, read, rest⟩ | ⟨exn, _, impossible⟩
    · cases found : lib.embeddedSignatures pdf with
      | error exn =>
          simp only [attempt, Program.ofExcept, found, Ran] at read
          cases read.2
      | ok embedded =>
          simp only [attempt, Program.ofExcept, found, Ran] at read
          obtain ⟨rfl, same⟩ := read
          cases same
          cases empty : sigs.isEmpty with
          | true =>
              simp only [empty, if_true, Program.pure_eq, Ran, Except.ok.injEq] at rest
              exact absurd rest.2 (refused _)
          | false =>
              simp only [empty, Bool.false_eq_true, if_false] at rest
              rcases Ran.of_bind rest with ⟨stop, trust, loaded, final⟩ | ⟨exn, _, impossible⟩
              · obtain ⟨rfl, same⟩ := final
                cases same
                exact ⟨start, after, sigs, trust, List.suffix_refl _, found, empty, loaded, whole⟩
              · cases impossible
    · cases impossible
  · simp only [Program.pure_eq, Ran, Except.ok.injEq] at handled
    exact absurd handled.2 (refused _)

/-- What `finalize_signed_pdf` has built, and from which session. -/
def Built (lib : Libraries) (arguments : FinalizeArguments) (chain : Json) (trace : ServerTrace)
    (signedResult : SignedResult) : Prop :=
  ∃ session, Holding arguments session trace ∧ arguments.certChainDerB64.parse lib = .ok chain ∧
    assemble lib session arguments.signatureBytesB64 chain = .ok signedResult.signedPdfBytes ∧
    signedResult.certificateFingerprint = lib.sha256Hex session.certDer

theorem finalizeSignedPdf_follows {origin : Origin} {trace : ServerTrace}
    (arguments : FinalizeArguments) {chain : Json}
    (parsed : arguments.certChainDerB64.parse lib = .ok chain) (quiet : Quiet trace) :
    (finalizeSignedPdf lib arguments.sessionId arguments.signatureBytesB64 chain).Follows
      (Permitted lib origin)
      (fun later result => Quiet later ∧
        ∀ value, result = .ok value → Built lib arguments chain later value) trace := by
  refine Follows.bind (loadSession_follows arguments true quiet) ?_
    fun _ _ _ ended => ⟨ended.1, by simp⟩
  rintro afterLoad found loadLater ⟨loadQuiet, loaded⟩
  refine Follows.ofOption (fun session taken => ?_) fun _ => ⟨loadQuiet, by simp⟩
  subst taken
  refine Follows.ofExcept (fun pdf assembled => ?_) fun _ _ => ⟨loadQuiet, by simp⟩
  refine follows_ask rfl loadQuiet ?_ fun _ _ still => ⟨still, by simp⟩
  intro existing countedAt countedQuiet
  refine ⟨countedQuiet, fun value same => ?_⟩
  cases same
  exact ⟨session, (loaded session rfl).mono (List.suffix_cons _ _), parsed, assembled, rfl⟩

theorem checkSignedPdf_follows {origin : Origin} {trace : ServerTrace} (ctx : Context)
    (name : String) (signedResult : SignedResult) (quiet : Quiet trace)
    (target : name ∈ targets trace) :
    (checkSignedPdf lib ctx name signedResult).Follows (Permitted lib origin)
      (fun later result => Quiet later ∧
        ∀ value, result = .ok value → Accepted lib later signedResult.signedPdfBytes) trace := by
  refine Follows.bind (quiet_follows (verifySignedPdf_calm _) quiet).ran ?_
    fun _ _ _ ended => ⟨ended.1, by simp⟩
  rintro afterVerify verified verifyLater ⟨verifyQuiet, ran⟩
  refine follows_calm (plain_calm (logEvent_plain _ _ _ _)) verifyQuiet ?_ fun _ _ _ still => ⟨still, by simp⟩
  intro afterLog _ logLater logQuiet
  split
  · refine Follows.perform ⟨⟨targets_mono (verifyLater.trans logLater) target, logQuiet.sealed⟩,
      logQuiet.filed⟩ ?_ fun _ _ => ⟨logQuiet.cons rfl, by simp⟩
    intro _ failedAt
    refine follows_calm (plain_calm (logEvent_plain _ _ _ _)) (logQuiet.cons rfl) ?_
      fun _ _ _ still => ⟨still, by simp⟩
    intro later _ _ still
    exact ⟨still, by simp⟩
  · rename_i kept
    refine ⟨logQuiet, fun value _ => ?_⟩
    obtain ⟨start, stop, sigs, trust, within, rest⟩ := accepted_ran ran (by simpa using kept)
    exact ⟨start, stop, sigs, trust, within.trans logLater, rest⟩

/-! ### finalize: from the file to the commit -/

/-- No commit and no timeline entry so far: every exception here is uncaught. -/
structure Filing (trace : ServerTrace) : Prop where
  uncommitted : ∀ event ∈ trace, commits event = false
  uncommented : ∀ event ∈ trace, insertsComment event = false

/-- The questions between the file and the timeline entry. -/
def noisy : Operation → Bool
  | .fileFlag => true
  | .flagFile _ => true
  | .insertFile _ => true
  | .now => true
  | .setRequest .. => true
  | .setDocSign .. => true
  | .insertEvent _ => true
  | .getRequest _ => true
  | .getProfile _ => true
  | _ => false

/-- The post of a part of this phase. -/
def Files {Value : Type} (trace : ServerTrace) : Except Exn Value → Prop
  | .ok _ => Filing trace
  | .error _ => Loud trace

theorem Filing.cons {trace : ServerTrace} {event : ServerEvent} (filing : Filing trace)
    (uncommitted : commits event = false) (uncommented : insertsComment event = false) :
    Filing (event :: trace) := by
  constructor
  · intro other member
    rcases List.mem_cons.mp member with same | older
    · rw [same]
      exact uncommitted
    · exact filing.uncommitted other older
  · intro other member
    rcases List.mem_cons.mp member with same | older
    · rw [same]
      exact uncommented
    · exact filing.uncommented other older

theorem Quiet.filing {trace : ServerTrace} (quiet : Quiet trace) : Filing trace :=
  { uncommitted := fun event member => (notable_false (quiet event member)).1
    uncommented := fun event member => (notable_false (quiet event member)).2.2.1 }

theorem Filing.sealed {trace : ServerTrace} (filing : Filing trace) : sealed trace = false :=
  standing_false filing.uncommitted

theorem Filing.harmful {trace : ServerTrace} (filing : Filing trace) {operation : Operation}
    (loud : noisy operation = true) : harmless trace operation = false := by
  have comments : trace.any insertsComment = false := by
    rw [List.any_eq_false]
    intro event member
    rw [filing.uncommented event member]
    exact Bool.false_ne_true
  cases operation <;> first | rfl | exact comments | cases loud

section Filing

variable {origin : Origin} {Result : Type} {trace : ServerTrace}
  {settles : ServerTrace → Except Exn Result → Prop}

theorem filing_ask {operation : Operation} {next : operation.Answer → Server Result}
    (filing : Filing trace) (loud : noisy operation = true)
    (permitted : Permitted lib origin trace operation)
    (onDone : ∀ answer stamp, Filing (⟨operation, .ok answer, stamp⟩ :: trace) →
      (next answer).Follows (Permitted lib origin) settles (⟨operation, .ok answer, stamp⟩ :: trace))
    (onFail : ∀ later error, Loud later → settles later (.error error)) :
    ((ask operation).bind next).Follows (Permitted lib origin) settles trace := by
  refine Follows.perform permitted ?_ fun exn stamp => onFail _ _ (loud_raised (filing.harmful loud))
  intro answer stamp
  apply onDone answer stamp
  cases operation <;> first | exact filing.cons rfl rfl | cases loud

end Filing

theorem logEvent_filing {origin : Origin} {trace : ServerTrace} (ctx : Context)
    (name eventType : String) (details : List (String × Json)) (filing : Filing trace) :
    (logEvent lib ctx name eventType details).Follows (Permitted lib origin) Files trace := by
  refine filing_ask filing rfl trivial ?_ fun _ _ loud => loud
  intro occurredAt stamp filingNow
  refine ⟨trivial, fun reply stamp => ?_⟩
  cases reply with
  | ok _ => exact filingNow.cons rfl rfl
  | error exn => exact loud_raised rfl

theorem mirror_filing {origin : Origin} {trace : ServerTrace} (doctype docname : String)
    (edit : DocSignEdit) (filing : Filing trace) :
    (mirror doctype docname edit).Follows (Permitted lib origin) Files trace := by
  unfold mirror
  split
  · refine ⟨trivial, fun reply stamp => ?_⟩
    cases reply with
    | ok _ => exact filing.cons rfl rfl
    | error exn => exact loud_raised rfl
  · exact filing

theorem saveSignedPdf_filing {origin : Origin} {trace : ServerTrace}
    {arguments : FinalizeArguments} (endpoint : origin.endpoint = .finalize arguments)
    (signedResult : SignedResult) (quiet : Quiet trace) :
    (saveSignedPdf signedResult).Follows (Permitted lib origin)
      (fun later result => Files later result ∧
        ∀ stored, result = .ok stored → Answered later (.insertFile signedResult.file) stored)
      trace := by
  refine filing_ask quiet.filing rfl ⟨arguments, endpoint, quiet⟩ ?_ fun _ _ loud => ⟨loud, by simp⟩
  intro stored storedAt filingStored
  refine filing_ask filingStored rfl trivial ?_ fun _ _ loud => ⟨loud, by simp⟩
  intro flagged flaggedAt filingFlagged
  have saved : Answered (⟨.fileFlag, .ok flagged, flaggedAt⟩ ::
      ⟨.insertFile signedResult.file, .ok stored, storedAt⟩ :: trace)
      (.insertFile signedResult.file) stored :=
    Answered.head.mono (List.suffix_cons _ _)
  split
  · refine filing_ask filingFlagged rfl trivial ?_ fun _ _ loud => ⟨loud, by simp⟩
    intro _ setAt filingSet
    refine ⟨filingSet, fun value same => ?_⟩
    cases same
    exact saved.mono (List.suffix_cons _ _)
  · refine ⟨filingFlagged, fun value same => ?_⟩
    cases same
    exact saved

/-- From the timeline entry on; its own failure is still uncaught. -/
theorem addTimelineEntry_raises {origin : Origin} {trace : ServerTrace}
    (doctype docname name : String) (filing : Filing trace) :
    (addTimelineEntry lib doctype docname name).Follows (Permitted lib origin) Raises trace := by
  refine filing_ask filing rfl trivial ?_ fun _ _ loud => loud
  intro req reqAt filingReq
  refine filing_ask filingReq rfl trivial ?_ fun _ _ loud => loud
  intro profile profileAt filingProfile
  refine ⟨trivial, fun reply stamp => ?_⟩
  cases reply with
  | ok _ => trivial
  | error exn => exact loud_raised rfl

/-- `try` with a handler that only logs. -/
theorem logged_raises {origin : Origin} {trace : ServerTrace} {program : Server Unit}
    (uses : program.Uses Calm) (title : String) :
    (program.recover fun _ => ask (.logError title)).Follows (Permitted lib origin) Raises
      trace := by
  refine Follows.recover (Uses.follows uses trace permitted_calm) (fun _ _ _ _ => trivial) ?_
  intro later exn _ _
  refine ⟨trivial, fun reply stamp => ?_⟩
  cases reply with
  | ok _ => trivial
  | error exn => exact loud_raised rfl

theorem runDevHooks_raises {origin : Origin} {trace : ServerTrace} (hookName : String)
    (arguments : List (String × Text)) :
    (runDevHooks hookName arguments).Follows (Permitted lib origin) Raises trace := by
  refine Follows.perform trivial ?_ fun _ _ => loud_raised rfl
  intro handlers stamp
  apply Follows.forEach (fun _ => True) trivial
  · intro handler _ later _ _
    refine (logged_raises (calm_ask rfl) _).weaken ?_
    intro after result _ ended
    cases result with
    | ok _ => trivial
    | error exn => exact ended
  · intro later _ _
    trivial

theorem recordSigned_raises {origin : Origin} {trace : ServerTrace}
    {arguments : FinalizeArguments} {first : SigningSession} {chain : Json}
    (endpoint : origin.endpoint = .finalize arguments) (startTime : Instant)
    (signedResult : SignedResult) (verified : Verification) (quiet : Quiet trace)
    (holding : Holding arguments first trace)
    (built : Built lib arguments chain trace signedResult)
    (accepted : Accepted lib trace signedResult.signedPdfBytes) :
    (recordSigned lib origin.ctx arguments first.signingRequestName startTime signedResult
      verified).Follows (Permitted lib origin) Raises trace := by
  refine Follows.bind (saveSignedPdf_filing endpoint signedResult quiet) ?_
    fun _ _ _ ended => ended.1
  rintro afterSave stored saveLater ⟨filingSave, saved⟩
  refine filing_ask filingSave rfl trivial ?_ fun _ _ loud => loud
  intro finished finishedAt filingFinished
  refine filing_ask filingFinished rfl trivial ?_ fun _ _ loud => loud
  intro signedOn signedAt filingSigned
  have suffix := saveLater.trans ((List.suffix_cons ⟨.now, .ok finished, finishedAt⟩ _).trans
    (List.suffix_cons ⟨.now, .ok signedOn, signedAt⟩ _))
  obtain ⟨session, held, parsed, assembled, fingerprint⟩ := built
  obtain ⟨start, stop, sigs, trust, within, reports⟩ := accepted
  refine filing_ask filingSigned rfl ⟨⟨(holding.mono suffix).target, filingSigned.sealed⟩,
    arguments, first, session, chain, signedResult.file, stored, endpoint,
    (holding.mono suffix).loaded, rfl, (held.mono suffix).loaded,
    (saved stored rfl).mono ((List.suffix_cons _ _).trans (List.suffix_cons _ _)),
    filingSigned.uncommitted, parsed, assembled,
    ⟨start, stop, sigs, trust, within.trans suffix, reports⟩, rfl, rfl, rfl, fingerprint⟩ ?_
    fun _ _ loud => loud
  intro _ writtenAt filingWritten
  refine Follows.bind (mirror_filing _ _ _ filingWritten) ?_ fun _ _ _ loud => loud
  intro afterMirror _ _ filingMirror
  refine Follows.bind (logEvent_filing _ _ _ _ filingMirror) ?_ fun _ _ _ loud => loud
  intro afterLog _ _ filingLog
  refine Follows.bind (addTimelineEntry_raises _ _ _ filingLog) ?_ fun _ _ _ loud => loud
  intro afterTimeline _ _ _
  refine Follows.bind (logged_raises (sendSignedNotification_calm _ _ _ _) _) ?_
    fun _ _ _ loud => loud
  intro afterMail _ _ _
  refine Follows.perform trivial ?_ fun _ _ => loud_raised rfl
  intro _ committedAt
  refine Follows.bind (runDevHooks_raises _ _) ?_ fun _ _ _ loud => loud
  intro _ _ _ _
  trivial

theorem completeSigning_raises {origin : Origin} {trace : ServerTrace}
    {arguments : FinalizeArguments} {first : SigningSession}
    (endpoint : origin.endpoint = .finalize arguments) (startTime : Instant) {chain : Json}
    (parsed : arguments.certChainDerB64.parse lib = .ok chain) (quiet : Quiet trace)
    (holding : Holding arguments first trace) :
    (completeSigning lib origin.ctx arguments first.signingRequestName startTime chain).Follows
      (Permitted lib origin) Raises trace := by
  refine Follows.bind (finalizeSignedPdf_follows arguments parsed quiet) ?_
    fun _ _ _ ended => ended.1.loud
  rintro afterBuild signedResult buildLater ⟨buildQuiet, built⟩
  refine Follows.bind (checkSignedPdf_follows _ _ signedResult buildQuiet
    (holding.mono buildLater).target) ?_ fun _ _ _ ended => ended.1.loud
  rintro afterCheck verified checkLater ⟨checkQuiet, accepted⟩
  obtain ⟨session, held, parsed, assembled, fingerprint⟩ := built signedResult rfl
  exact recordSigned_raises endpoint startTime signedResult verified checkQuiet
    (holding.mono (buildLater.trans checkLater))
    ⟨session, held.mono checkLater, parsed, assembled, fingerprint⟩ (accepted verified rfl)

/-! ### finalize: failures -/

/-- No file was saved, or an uncaught exception came after it. -/
def Unfiled {Value : Type} (trace : ServerTrace) (_ : Except Exn Value) : Prop :=
  filed trace = false

theorem filed_free {trace newer : ServerTrace} (unfiled : filed trace = false)
    (free : ∀ event ∈ newer, Free event.query) : filed (newer ++ trace) = false := by
  induction newer with
  | nil => exact unfiled
  | cons event rest ih =>
      have fileless : insertsFile event = false := by
        obtain ⟨operation, reply, stamp⟩ := event
        rcases free _ List.mem_cons_self with peaceful | commit
        · cases operation <;> first | rfl | cases peaceful
        · cases commit
          rfl
      have before := ih fun other member => free other (List.mem_cons_of_mem _ member)
      change (!uncaught (rest ++ trace) event && (insertsFile event || filed (rest ++ trace))) = false
      rw [fileless, before]
      simp

theorem unfiled_follows {origin : Origin} {trace : ServerTrace} {Value : Type}
    {program : Server Value} (uses : program.Uses Free) (unfiled : filed trace = false) :
    program.Follows (Permitted lib origin) Unfiled trace := by
  refine (Uses.follows uses trace permitted_free).weaken ?_
  rintro later result - ⟨newer, rfl, free⟩
  exact filed_free unfiled free

theorem setFailed_follows {origin : Origin} {trace : ServerTrace} {Value : Type} {name : String}
    {reason : String} {next : Server Value} (loud : Loud trace) (target : name ∈ targets trace)
    (rest : next.Uses Free) :
    ((ask (.setRequest name (.failed reason))).bind fun _ => next).Follows (Permitted lib origin)
      Unfiled trace := by
  have unfiled (reply : Except Exn Unit) (stamp : Instant) :
      filed (⟨.setRequest name (.failed reason), reply, stamp⟩ :: trace) = false := by
    change (!uncaught trace _ && (false || filed trace)) = false
    rw [loud.2]
    simp
  exact Follows.perform ⟨⟨target, loud.1⟩, loud.2⟩
    (fun _ stamp => unfiled_follows rest (unfiled _ stamp)) fun _ stamp => unfiled _ stamp

theorem recordFailure_follows {origin : Origin} {trace : ServerTrace} {name : String}
    (ctx : Context) (reqDoc : SigningRequest) (exn : Exn) (loud : Loud trace)
    (target : name ∈ targets trace) :
    (recordFailure lib ctx name reqDoc exn).Follows (Permitted lib origin) Unfiled trace := by
  refine setFailed_follows loud target ?_
  apply Uses.bind (uses_free (mirror_calm _ _ _))
  intro _
  apply Uses.bind (uses_free (plain_calm (logEvent_plain _ _ _ _)))
  intro _
  apply Uses.bind (uses_free (Uses.recover (notifyAdminsOfFailure_calm _ _) fun _ => calm_ask rfl))
  intro _
  exact Uses.bind (Uses.perform (Or.inr rfl)) fun _ => trivial

theorem rejectFingerprint_follows {origin : Origin} {trace : ServerTrace} {name : String}
    (ctx : Context) (expected presented : Text) (loud : Loud trace)
    (target : name ∈ targets trace) :
    (rejectFingerprint lib ctx name expected presented).Follows (Permitted lib origin) Unfiled
      trace := by
  refine setFailed_follows loud target ?_
  apply Uses.bind (uses_free (plain_calm (logEvent_plain _ _ _ _)))
  intro _
  exact Uses.bind (Uses.perform (Or.inr rfl)) fun _ => trivial

theorem expectedFingerprint_basic (reqDoc : SigningRequest) :
    (expectedFingerprint reqDoc).Uses Basic := by
  unfold expectedFingerprint
  split
  · exact basic_ask rfl
  · trivial

theorem expectedFingerprint_calm (reqDoc : SigningRequest) :
    (expectedFingerprint reqDoc).Uses Calm :=
  basic_calm (expectedFingerprint_basic reqDoc)

/-- The post of `finalize` as a whole. -/
def FinalizeEnds {Value : Type} (trace : ServerTrace) (result : Except Exn Value) : Prop :=
  ∀ exn, result = .error exn → filed trace = false

theorem finalize_follows (ctx : Context) (arguments : FinalizeArguments) :
    (finalize lib ctx arguments).Follows (Permitted lib ⟨ctx, .finalize arguments⟩) FinalizeEnds
      [] := by
  refine Follows.bind (receiveSignature_follows ctx arguments (by intro event member; cases member))
    ?_ fun _ _ _ ended _ _ => ended.1.filed
  rintro afterReceive ⟨first, startTime, presented⟩ receiveLater ⟨receiveQuiet, held⟩
  have holding : Holding arguments first afterReceive := held _ rfl
  refine follows_ask rfl receiveQuiet ?_ fun _ _ still _ _ => still.filed
  intro reqDoc reqAt reqQuiet
  refine follows_calm (expectedFingerprint_calm reqDoc) reqQuiet ?_ fun _ _ _ still _ _ => still.filed
  intro afterExpected expected expectedLater expectedQuiet
  have still := (holding.mono (List.suffix_cons ⟨.getRequest first.signingRequestName, .ok reqDoc,
    reqAt⟩ _)).mono expectedLater
  split
  · exact (rejectFingerprint_follows ctx _ _ expectedQuiet.loud still.target).weaken
      fun _ _ _ unfiled _ _ => unfiled
  · refine Follows.ofExcept (fun chain parsed => ?_) fun _ _ _ _ => expectedQuiet.filed
    refine Follows.recover (completeSigning_raises rfl startTime parsed expectedQuiet still) (fun _ _ _ _ _ impossible => by cases impossible) ?_
    intro later exn suffix loud
    exact (recordFailure_follows ctx reqDoc exn loud (targets_mono suffix still.target)).weaken
      fun _ _ _ unfiled _ _ => unfiled

/-! ### The other endpoints -/

theorem retry_follows {origin : Origin} (ctx : Context) (name : String) :
    (retry lib ctx name).Follows (Permitted lib origin) (fun _ _ => True) [] := by
  refine Follows.perform trivial (fun doc docAt => ?_) fun _ _ => trivial
  refine Follows.demand (fun _ => ?_) fun _ => trivial
  refine Follows.perform ⟨rfl, by simp⟩ (fun _ savedAt => ?_) fun _ _ => trivial
  apply free_follows
  apply Uses.bind (uses_free (mirror_calm _ _ _))
  intro _
  exact Uses.bind (uses_free (plain_calm (logEvent_plain _ _ _ _))) fun _ => trivial

theorem cancel_follows {origin : Origin} (ctx : Context) (name reason : String) :
    (cancel lib ctx name reason).Follows (Permitted lib origin) (fun _ _ => True) [] := by
  refine Follows.perform trivial (fun doc docAt => ?_) fun _ _ => trivial
  refine Follows.demand (fun _ => ?_) fun _ => trivial
  refine Follows.perform trivial (fun now nowAt => ?_) fun _ _ => trivial
  refine Follows.perform ⟨rfl, by simp⟩ (fun _ savedAt => ?_) fun _ _ => trivial
  apply free_follows
  apply Uses.bind (uses_free (mirror_calm _ _ _))
  intro _
  apply Uses.bind (uses_free (plain_calm (logEvent_plain _ _ _ _)))
  intro _
  exact Uses.bind (uses_free (plain_calm (runDevHooks_plain _ _))) fun _ => trivial

theorem abortInProgress_follows {origin : Origin} (ctx : Context) (name reason : String) :
    (abortInProgress lib ctx name reason).Follows (Permitted lib origin) (fun _ _ => True) [] := by
  refine Follows.perform trivial (fun doc docAt => ?_) fun _ _ => trivial
  split
  · trivial
  · refine Follows.perform ⟨rfl, by simp⟩ (fun _ savedAt => ?_) fun _ _ => trivial
    apply free_follows
    apply Uses.bind (uses_free (mirror_calm _ _ _))
    intro _
    exact Uses.bind (uses_free (plain_calm (logEvent_plain _ _ _ _))) fun _ => trivial

theorem recoverStale_follows {origin : Origin} (doctype docname : String) (now : Instant)
    (rows : List ListedRequest) {trace : ServerTrace} (quiet : Quiet trace)
    (chosen : ∀ row ∈ rows, row.stale now = true → row.name ∈ targets trace) :
    (recoverStale doctype docname now rows).Follows (Permitted lib origin) (fun _ _ => True)
      trace := by
  induction rows generalizing trace with
  | nil => trivial
  | cons row rest ih =>
      have row_follows : (recoverRow doctype docname now row).Follows (Permitted lib origin)
          (fun later _ => Quiet later) trace := by
        unfold recoverRow
        split
        · rename_i stale
          refine Follows.perform ⟨⟨chosen row (by simp) stale, quiet.sealed⟩, quiet.filed⟩ ?_
            fun _ _ => quiet.cons rfl
          intro _ recoveredAt
          refine follows_calm (mirror_calm _ _ _) (quiet.cons rfl) ?_ fun _ _ _ still => still
          intro later _ _ still
          exact still
        · exact quiet
      refine Follows.bind row_follows ?_ fun _ _ _ _ => trivial
      intro afterRow _ rowLater rowQuiet
      refine Follows.bind (ih rowQuiet ?_) (fun _ _ _ _ => trivial) fun _ _ _ _ => trivial
      intro other member stale
      exact targets_mono rowLater (chosen other (by simp [member]) stale)

theorem getSigningStatus_follows {origin : Origin} (ctx : Context) (doctype docname : String) :
    (getSigningStatus ctx doctype docname).Follows (Permitted lib origin) (fun _ _ => True)
      [] := by
  refine Follows.perform rfl (fun requests listedAt => ?_) fun _ _ => trivial
  split
  · trivial
  · refine Follows.perform trivial (fun now nowAt => ?_) fun _ _ => trivial
    have quiet : Quiet [⟨.now, .ok now, nowAt⟩,
        ⟨.listRequests doctype docname, .ok requests, listedAt⟩] := by
      intro event member
      simp only [List.mem_cons, List.not_mem_nil, or_false] at member
      rcases member with same | same
      · rw [same]
        rfl
      · rw [same]
        rfl
    refine Follows.bind (recoverStale_follows doctype docname now requests quiet ?_)
      (fun _ _ _ _ => trivial) fun _ _ _ _ => trivial
    intro row member stale
    apply List.mem_append_left
    exact List.mem_map.mpr ⟨row, List.mem_filter.mpr ⟨member, stale⟩, rfl⟩

theorem getFormActions_follows {origin : Origin} (ctx : Context) (doctype docname : String) :
    (getFormActions ctx doctype docname).Follows (Permitted lib origin) (fun _ _ => True) [] := by
  refine Follows.bind (getSigningStatus_follows ctx doctype docname) ?_ fun _ _ _ _ => trivial
  intro later statusInfo _ _
  exact free_follows (Uses.bind (Uses.perform (Or.inl rfl)) fun _ => trivial)

theorem expireStalePendingRequests_follows {origin : Origin} :
    expireStalePendingRequests.Follows (Permitted lib origin) (fun _ _ => True) [] := by
  refine Follows.perform trivial (fun settings settingsAt => ?_) fun _ _ => trivial
  refine Follows.perform trivial (fun now nowAt => ?_) fun _ _ => trivial
  refine Follows.perform rfl (fun names staleAt => ?_) fun _ _ => trivial
  have start : Quiet (⟨.staleRequests _, .ok names, staleAt⟩ ::
      [⟨.now, .ok now, nowAt⟩, ⟨.getSettings, .ok settings, settingsAt⟩]) := by
    intro event member
    simp only [List.mem_cons, List.not_mem_nil, or_false] at member
    rcases member with same | same | same
    · rw [same]
      rfl
    · rw [same]
      rfl
    · rw [same]
      rfl
  have expired (reason : String) : (Program.forEach names fun name =>
      ask (.setRequest name (.failed reason))).Follows (Permitted lib origin) (fun _ _ => True)
      (⟨.staleRequests _, .ok names, staleAt⟩ ::
        [⟨.now, .ok now, nowAt⟩, ⟨.getSettings, .ok settings, settingsAt⟩]) := by
    refine Follows.forEach Quiet start ?_ fun _ _ _ => trivial
    intro name member later suffix quiet
    refine ⟨⟨⟨targets_mono suffix (List.mem_append_left _ member), quiet.sealed⟩, quiet.filed⟩,
      fun reply stamp => ?_⟩
    cases reply with
    | ok _ => exact quiet.cons rfl
    | error exn => trivial
  refine Follows.bind (expired _) ?_ fun _ _ _ _ => trivial
  intro later _ _ _
  split
  · trivial
  · exact free_follows (Uses.perform (Or.inr rfl))

/-- Every call obeys the rule of its origin, whatever it is told. -/
theorem body_follows (origin : Origin) :
    (body lib origin).Follows (Permitted lib origin) (Ends lib origin) [] := by
  have wrapped {Value : Type} {program : Server Value} {finish : Value → Response}
      (follows : program.Follows (Permitted lib origin) (fun _ _ => True) [])
      (other : ∀ arguments, origin.endpoint ≠ .finalize arguments)
      (silent : ∀ value response, finish value ≠ .initiated response) :
      (program.bind fun value => .done (finish value)).Follows (Permitted lib origin)
        (Ends lib origin) [] := by
    refine Follows.bind follows (fun _ value _ _ => ?_) fun _ _ _ _ => ?_
    · refine ⟨fun arguments _ endpoint => absurd endpoint (other arguments), ?_⟩
      intro response same
      exact absurd (Except.ok.inj same) (silent value response)
    · refine ⟨fun arguments _ endpoint => absurd endpoint (other arguments), ?_⟩
      intro response impossible
      cases impossible
  obtain ⟨ctx, endpoint⟩ := origin
  cases endpoint with
  | initiate arguments =>
      refine Follows.bind (initiate_follows ctx arguments) ?_ ?_
      · intro later value _ ended
        refine ⟨fun _ _ endpoint => ?_, fun response same => ?_⟩
        · cases endpoint
        · cases same
          exact ended value rfl
      · intro later exn _ _
        refine ⟨fun _ _ endpoint => ?_, fun response impossible => ?_⟩
        · cases endpoint
        · cases impossible
  | finalize arguments =>
      refine Follows.bind (finalize_follows ctx arguments) ?_ ?_
      · intro later value _ _
        refine ⟨fun _ exn _ impossible => ?_, fun response impossible => ?_⟩
        · cases impossible
        · cases impossible
      · intro later error _ ended
        refine ⟨fun _ _ _ _ => ended error rfl, fun response impossible => ?_⟩
        cases impossible
  | getSigningStatus doctype docname =>
      exact wrapped (getSigningStatus_follows ctx doctype docname) (by simp) (by simp)
  | getFormActions doctype docname =>
      exact wrapped (getFormActions_follows ctx doctype docname) (by simp) (by simp)
  | retry name => exact wrapped (retry_follows ctx name) (by simp) (by simp)
  | cancel name reason => exact wrapped (cancel_follows ctx name reason) (by simp) (by simp)
  | abortInProgress name reason =>
      exact wrapped (abortInProgress_follows ctx name reason) (by simp) (by simp)
  | expireStalePendingRequests =>
      exact wrapped expireStalePendingRequests_follows (by simp) (by simp)

end DscSigning
