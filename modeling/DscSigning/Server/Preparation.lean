/-
What `initiate` and `finalize` have established before they act on it: the
print format before a document is rendered, the certificate and the digest
before a session is stored, and the comparison with the fingerprint of the
profile before a request becomes Signed.
-/

import DscSigning.Server.EndpointRules

namespace DscSigning

open Interaction Program Engine

/-! ### The rule -/

def Origin.initiates (origin : Origin) : Bool :=
  match origin.endpoint with
  | .initiate _ => true
  | _ => false

/-- The print format `initiate` chooses for a document that was not uploaded. -/
def Chosen (trace : ServerTrace) (doctype docname : String) (format : Text) : Prop :=
  ∃ row default, Answered trace (.findPending doctype docname) (some row) ∧
    Answered trace (.defaultPrintFormat doctype) default ∧
    format = some (default.orValue "Standard")

variable (lib : Libraries)

/-- What a session of `initiate` was made of. -/
structure Preparation (arguments : InitiateArguments) (row : PendingRequest) (profile : Profile)
    (trace : ServerTrace) (session : SigningSession) : Prop where
  found : Answered trace (.findPending arguments.doctype arguments.docname) (some row)
  told : Answered trace (.getProfile row.profile) profile
  request : session.signingRequestName = row.name
  document : session.doctype = arguments.doctype ∧ session.docname = arguments.docname
  decoded : b64decode arguments.certDerB64 = .ok session.certDer
  parsed : ∃ cert, lib.loadCertificate session.certDer = .ok cert
  registered : profile.certificateFingerprint.given = true →
    profile.certificateFingerprint = some (lib.sha256Hex session.certDer)
  algorithm : session.hashAlgorithm ≠ ""
  digested : ∃ spec pdf, spec.mdAlgorithm = session.hashAlgorithm ∧
    Answered trace (.digestForSigning spec pdf) (session.preparedPdf, session.prepDigest)
  attributes : ∃ signingTime, session.signedAttrs =
    lib.dumpAttributes ⟨signingTime, session.prepDigest.documentDigest⟩

def Prepares (origin : Origin) (trace : ServerTrace) (session : SigningSession) : Prop :=
  ∃ arguments row profile, origin.endpoint = .initiate arguments ∧
    Preparation lib arguments row profile trace session

/-- The presented certificate was compared with the fingerprint of the profile. -/
def Compared (arguments : FinalizeArguments) (trace : ServerTrace) : Prop :=
  ∃ session reqDoc expected presented,
    Answered trace (.loadSession arguments.sessionId) (some session) ∧
    Answered trace (.getRequest session.signingRequestName) reqDoc ∧
    presentedFingerprint lib arguments.certDerB64 = .ok presented ∧
    (reqDoc.profile ≠ "" → Answered trace (.profileFingerprint reqDoc.profile) expected) ∧
    fingerprintMismatch expected presented = false

/-- When a call may ask a question: `initiate` for a rendering or a session, and
`finalize` for a signing. -/
def Warranted (origin : Origin) (trace : ServerTrace) : Operation → Prop
  | .renderPdf doctype docname format => origin.initiates = true →
      Chosen trace doctype docname format
  | .storeSession _ session => origin.initiates = true → Prepares lib origin trace session
  | .setRequest _ (.signed _) => ∀ arguments, origin.endpoint = .finalize arguments →
      Compared lib arguments trace
  | _ => True

/-- What the answer of `initiate` says of the session it stored. -/
def Discloses (origin : Origin) (trace : ServerTrace) (result : Except Exn Response) : Prop :=
  ∀ response, result = .ok (.initiated response) →
    ∃ arguments row profile session, origin.endpoint = .initiate arguments ∧
      Answered trace (.storeSession response.sessionId session) () ∧
      Preparation lib arguments row profile trace session ∧
      response.expectedCertFingerprint = profile.certificateFingerprint ∧
      response.hashAlgorithm = session.hashAlgorithm ∧
      response.hashToSign = lib.sha256Hex session.signedAttrs

variable {lib}

theorem Preparation.mono {arguments : InitiateArguments} {row : PendingRequest} {profile : Profile}
    {trace later : ServerTrace} {session : SigningSession}
    (preparation : Preparation lib arguments row profile trace session)
    (suffix : trace <:+ later) : Preparation lib arguments row profile later session :=
  { preparation with
    found := preparation.found.mono suffix
    told := preparation.told.mono suffix
    digested := by
      obtain ⟨spec, pdf, algorithm, answered⟩ := preparation.digested
      exact ⟨spec, pdf, algorithm, answered.mono suffix⟩ }

theorem Compared.mono {arguments : FinalizeArguments} {trace later : ServerTrace}
    (compared : Compared lib arguments trace) (suffix : trace <:+ later) :
    Compared lib arguments later := by
  obtain ⟨session, reqDoc, expected, presented, loaded, told, decoded, looked, same⟩ := compared
  exact ⟨session, reqDoc, expected, presented, loaded.mono suffix, told.mono suffix, decoded,
    fun profiled => (looked profiled).mono suffix, same⟩

/-- Nothing is rendered, stored or signed. -/
theorem warranted_plain {origin : Origin} (trace : ServerTrace) (operation : Operation)
    (simple : Plain operation) : Warranted lib origin trace operation := by
  cases operation with
  | setRequest name update => cases simple
  | renderPdf doctype docname format => cases simple
  | storeSession sessionId session => cases simple
  | _ => trivial

theorem warranted_settling {origin : Origin} (trace : ServerTrace) (operation : Operation)
    (settling : Settling operation) : Warranted lib origin trace operation := by
  rcases settling with simple | commit
  · exact warranted_plain trace operation simple
  · rw [commit]
    trivial

/-! ### initiate -/

theorem checkSigner_plain (ctx : Context) (row : PendingRequest) :
    (checkSigner ctx row).Uses Plain :=
  checkSigner_uses ctx row rfl

theorem checkProfile_plain (ctx : Context) (profile : Profile) :
    (checkProfile lib ctx profile).Uses Plain :=
  checkProfile_uses ctx profile rfl

theorem choosePrintFormat_follows {origin : Origin} {trace : ServerTrace} (doctype : String)
    (row : PendingRequest) (uploaded : Bool) :
    (choosePrintFormat doctype row uploaded).Follows (Warranted lib origin)
      (fun later result => ∀ format, result = .ok format → uploaded = true ∨
        ∃ default, Answered later (.defaultPrintFormat doctype) default ∧
          format = some (default.orValue "Standard")) trace := by
  unfold choosePrintFormat
  split
  · rename_i given
    exact fun _ _ => Or.inl given
  · -- The rule is never among the fetched fields, so only the default is asked for.
    refine Follows.perform trivial (fun default stamp => ?_) fun _ _ => by simp
    intro format same
    cases same
    exact Or.inr ⟨default, Answered.head, rfl⟩

/-- What `preparePdfForSigning` is given, and what it stores and returns. -/
theorem preparePdfForSigning_prepares {ctx : Context} {trace : ServerTrace}
    {arguments : InitiateArguments} {row : PendingRequest} {profile : Profile}
    (prepare : PrepareArguments)
    (found : Answered trace (.findPending arguments.doctype arguments.docname) (some row))
    (told : Answered trace (.getProfile row.profile) profile)
    (decoded : b64decode arguments.certDerB64 = .ok prepare.certDer)
    (registered : profile.certificateFingerprint.given = true →
      profile.certificateFingerprint = some (lib.sha256Hex prepare.certDer))
    (named : prepare.signingRequestName = row.name)
    (document : prepare.doctype = arguments.doctype ∧ prepare.docname = arguments.docname)
    (format : prepare.pdfBytes.isSome = true ∨
      Chosen trace prepare.doctype prepare.docname prepare.printFormat) :
    (preparePdfForSigning lib prepare).Follows (Warranted lib ⟨ctx, .initiate arguments⟩)
      (fun later result => ∀ value, result = .ok value →
        ∃ session, Answered later (.storeSession value.sessionId session) () ∧
          Preparation lib arguments row profile later session ∧
          value.hashAlgorithm = session.hashAlgorithm ∧
          value.hashToSign = lib.sha256Hex session.signedAttrs) trace := by
  have source : (sourcePdf prepare).Follows (Warranted lib ⟨ctx, .initiate arguments⟩)
      (fun _ _ => True) trace := by
    unfold sourcePdf
    split
    · trivial
    · rename_i rendered
      refine ⟨fun _ => format.resolve_left (by simp [rendered]), fun reply stamp => ?_⟩
      cases reply <;> trivial
  refine Follows.bind source ?_ fun _ _ _ _ => by simp
  intro afterPdf pdf pdfLater _
  refine Follows.perform trivial (fun settings settingsAt => ?_) fun _ _ => by simp
  refine Uses.past (buildStampText_plain _ _ _) warranted_plain ?_ fun _ _ _ => by simp
  intro afterStamp stampText stampLater
  refine Follows.perform trivial (fun sessionId drawnAt => ?_) fun _ _ => by simp
  refine Follows.ofExcept (fun signerCert loaded => ?_) fun _ _ => by simp
  refine Follows.perform trivial (fun prepared preparedAt => ?_) fun _ _ => by simp
  refine Follows.perform trivial (fun signingTime signedAt => ?_) fun _ _ => by simp
  refine Follows.perform trivial (fun createdAt createdStamp => ?_) fun _ _ => by simp
  have still := pdfLater.trans ((List.suffix_cons _ _).trans stampLater)
  have algorithm : settings.defaultHashAlgorithm.orValue "sha256" ≠ "" := orValue_ne (by decide)
  refine Follows.perform (fun _ => ⟨arguments, row, profile, rfl, (found.mono still).cons.cons.cons.cons,
    (told.mono still).cons.cons.cons.cons, named, document, decoded, ⟨signerCert, loaded⟩, registered,
    algorithm, ⟨_, pdf, rfl, Answered.head.cons.cons⟩, ⟨_, rfl⟩⟩) (fun _ storedAt => ?_) fun _ _ => by simp
  intro value same
  cases same
  exact ⟨_, Answered.head, ⟨(found.mono still).cons.cons.cons.cons.cons,
    (told.mono still).cons.cons.cons.cons.cons, named, document, decoded, ⟨signerCert, loaded⟩, registered,
    algorithm, ⟨_, pdf, rfl, Answered.head.cons.cons.cons⟩, ⟨_, rfl⟩⟩, rfl, rfl⟩

/-- The post of `initiate`. -/
def InitiateDiscloses (lib : Libraries) (arguments : InitiateArguments) (trace : ServerTrace)
    (result : Except Exn InitiateResponse) : Prop :=
  ∀ response, result = .ok response → ∃ row profile session,
    Answered trace (.storeSession response.sessionId session) () ∧
    Preparation lib arguments row profile trace session ∧
    response.expectedCertFingerprint = profile.certificateFingerprint ∧
    response.hashAlgorithm = session.hashAlgorithm ∧
    response.hashToSign = lib.sha256Hex session.signedAttrs

theorem initiateDiscloses_error {arguments : InitiateArguments} {trace : ServerTrace} {exn : Exn} :
    InitiateDiscloses lib arguments trace (.error exn) := by
  intro response impossible
  cases impossible

theorem initiate_discloses (ctx : Context) (arguments : InitiateArguments) :
    (initiate lib ctx arguments).Follows (Warranted lib ⟨ctx, .initiate arguments⟩)
      (InitiateDiscloses lib arguments) [] := by
  have quit (later : ServerTrace) (error : Exn) :
      InitiateDiscloses lib arguments later (.error error) := initiateDiscloses_error
  refine Follows.demand (fun _ => ?_) fun _ => quit _ _
  refine Follows.perform trivial (fun found foundAt => ?_) fun _ _ => quit _ _
  refine Follows.ofOption (fun row taken => ?_) fun _ => quit _ _
  subst taken
  refine Uses.past (checkSigner_plain _ _) warranted_plain ?_ fun _ _ _ => quit _ _
  intro afterSigner _ signerLater
  refine Follows.perform trivial (fun profile profileAt => ?_) fun _ _ => quit _ _
  refine Uses.past (checkProfile_plain _ _) warranted_plain ?_ fun _ _ _ => quit _ _
  intro afterProfile _ profileLater
  refine Follows.perform trivial (fun settings settingsAt => ?_) fun _ _ => quit _ _
  refine Follows.demand (fun _ => ?_) fun _ => quit _ _
  refine Uses.past (geocode_plain _ _) warranted_plain ?_ fun _ _ _ => quit _ _
  intro afterGeocode geocoded geocodeLater
  refine Uses.past (loadTemplate_plain _) warranted_plain ?_ fun _ _ _ => quit _ _
  intro afterTemplate sigTemplate templateLater
  refine Uses.past (loadUpload_plain _ _) warranted_plain ?_ fun _ _ _ => quit _ _
  intro afterUpload upload uploadLater
  refine Follows.bind (choosePrintFormat_follows _ _ _) ?_ fun _ _ _ _ => quit _ _
  intro beforeStart printFormat formatLater chosen
  refine Follows.ofExcept (fun location located => ?_) fun _ _ => quit _ _
  refine Follows.perform trivial (fun _ startedAt => ?_) fun _ _ => quit _ _
  refine Uses.past (runDevHooks_plain _ _) warranted_plain ?_ fun _ _ _ => quit _ _
  intro afterHooks _ hooksLater
  refine Follows.ofExcept (fun certDer decoded => ?_) fun _ _ => quit _ _
  refine Follows.demand (fun unmismatched => ?_) fun _ => quit _ _
  have toldLater := (profileLater.trans ((List.suffix_cons _ _).trans (geocodeLater.trans
    (templateLater.trans (uploadLater.trans (formatLater.trans
      ((List.suffix_cons _ _).trans hooksLater)))))))
  have registered (given : profile.certificateFingerprint.given = true) :
      profile.certificateFingerprint = some (lib.sha256Hex certDer) := by
    simp only [given, Bool.true_and, Bool.not_eq_true', bne_eq_false_iff_eq] at unmismatched
    exact unmismatched
  have foundLater := signerLater.trans ((List.suffix_cons _ _).trans toldLater)
  refine Follows.bind (preparePdfForSigning_prepares _ (Answered.head.mono foundLater)
    (Answered.head.mono toldLater) decoded registered rfl ⟨rfl, rfl⟩ ?_) ?_ fun _ _ _ _ => quit _ _
  · rcases chosen printFormat rfl with uploaded | ⟨default, answered, same⟩
    · refine Or.inl ?_
      rw [Option.isSome_map]
      exact uploaded
    · exact Or.inr ⟨row, default, Answered.head.mono foundLater,
        answered.mono ((List.suffix_cons _ _).trans hooksLater), same⟩
  intro afterPrepare result prepareLater prepared
  obtain ⟨session, stored, preparation, algorithm, hash⟩ := prepared result rfl
  refine Follows.perform trivial (fun _ hashedAt => ?_) fun _ _ => quit _ _
  refine Uses.past (logPrepared_plain _ _ _ _ _ _) warranted_plain ?_ fun _ _ _ => quit _ _
  intro afterLog _ logLater
  refine Follows.bind (Uses.follows getOrCreateHmacSecret_settling afterLog warranted_settling) ?_
    fun _ _ _ _ => quit _ _
  intro afterSecret hmacSecret secretLater _
  refine Follows.perform trivial (fun timestamp timedAt => ?_) fun _ _ => quit _ _
  refine Follows.perform trivial (fun nonce nonceAt => ?_) fun _ _ => quit _ _
  intro response same
  cases same
  have disclosed := (List.suffix_cons _ _).trans (logLater.trans secretLater)
  exact ⟨row, profile, session, (stored.mono disclosed).cons.cons,
    (preparation.mono disclosed).mono ((List.suffix_cons _ _).trans (List.suffix_cons _ _)), rfl,
    algorithm, hash⟩

/-! ### finalize and the other endpoints -/

/-- A calm question of `finalize`, or a statement that signs nothing. -/
theorem warranted_finalize {ctx : Context} {arguments : FinalizeArguments} (trace : ServerTrace)
    (operation : Operation) (peaceful : Free operation) :
    Warranted lib ⟨ctx, .finalize arguments⟩ trace operation := by
  rcases peaceful with peaceful | commit
  · cases operation with
    | setRequest name update => cases peaceful
    | storeSession sessionId session => cases peaceful
      | renderPdf doctype docname format => exact fun starts => by cases starts
    | _ => trivial
  · rw [commit]
    trivial

theorem finalize_free {ctx : Context} {arguments : FinalizeArguments} {trace : ServerTrace}
    {Value : Type} {program : Server Value} (uses : program.Uses Free) :
    program.Follows (Warranted lib ⟨ctx, .finalize arguments⟩) (fun _ _ => True) trace :=
  (Uses.follows uses trace warranted_finalize).weaken fun _ _ _ _ => trivial

/-- Once the certificate was compared, everything `finalize` asks is warranted. -/
theorem warranted_compared {ctx : Context} {arguments : FinalizeArguments} {trace : ServerTrace}
    (compared : Compared lib arguments trace) (later : ServerTrace) (operation : Operation)
    (suffix : trace <:+ later) : Warranted lib ⟨ctx, .finalize arguments⟩ later operation := by
  cases operation with
  | setRequest name update =>
      cases update with
      | signed evidence =>
          intro others same
          cases same
          exact compared.mono suffix
      | _ => trivial
  | storeSession sessionId session => exact fun starts => by cases starts
  | renderPdf doctype docname format => exact fun starts => by cases starts
  | _ => trivial

theorem loadSession_answers {origin : Origin} {trace : ServerTrace} (sessionId : String) :
    (loadSession sessionId false).Follows (Warranted lib origin)
      (fun later result => ∀ session, result = .ok (some session) →
        Answered later (.loadSession sessionId) (some session)) trace := by
  refine Follows.perform trivial (fun found foundAt => ?_) fun _ _ => by simp
  cases found with
  | none => exact fun _ impossible => by cases impossible
  | some stored =>
      intro session same
      cases same
      exact Answered.head

theorem receiveSignature_presents (ctx : Context) (arguments : FinalizeArguments) :
    (receiveSignature lib ctx arguments).Follows (Warranted lib ⟨ctx, .finalize arguments⟩)
      (fun later result => ∀ received, result = .ok received →
        Answered later (.loadSession arguments.sessionId) (some received.1) ∧
        presentedFingerprint lib arguments.certDerB64 = .ok received.2.2) [] := by
  refine Follows.bind (loadSession_answers _) ?_ fun _ _ _ _ => by simp
  intro afterLoad found _ answered
  refine Follows.ofOption (fun session taken => ?_) fun _ => by simp
  have loaded := answered session (by rw [taken])
  refine Follows.perform trivial (fun startTime startedAt => ?_) fun _ _ => by simp
  refine Follows.ofExcept (fun presented decoded => ?_) fun _ _ => by simp
  refine Uses.past (logEvent_plain _ _ _ _) warranted_plain ?_ fun _ _ _ => by simp
  intro afterReturned _ returnedLater
  refine Uses.past (logEvent_plain _ _ _ _) warranted_plain ?_ fun _ _ _ => by simp
  intro afterPresented _ presentedLater received same
  cases same
  exact ⟨loaded.cons.mono (returnedLater.trans presentedLater), decoded⟩

theorem expectedFingerprint_answers {origin : Origin} {trace : ServerTrace}
    (reqDoc : SigningRequest) :
    (expectedFingerprint reqDoc).Follows (Warranted lib origin)
      (fun later result => ∀ expected, result = .ok expected → reqDoc.profile ≠ "" →
        Answered later (.profileFingerprint reqDoc.profile) expected) trace := by
  unfold expectedFingerprint
  split
  · refine ⟨trivial, fun reply stamp => ?_⟩
    cases reply with
    | error exn => exact fun _ impossible => by cases impossible
    | ok told =>
        intro expected same _
        cases same
        exact Answered.head
  · rename_i blank
    exact fun _ _ profiled => absurd profiled (by simpa using blank)

theorem finalize_compares (ctx : Context) (arguments : FinalizeArguments) :
    (finalize lib ctx arguments).Follows (Warranted lib ⟨ctx, .finalize arguments⟩)
      (fun _ _ => True) [] := by
  refine Follows.bind (receiveSignature_presents ctx arguments) ?_ fun _ _ _ _ => trivial
  rintro afterReceive ⟨session, startTime, presented⟩ _ received
  obtain ⟨loaded, decoded⟩ := received _ rfl
  refine Follows.perform trivial (fun reqDoc reqAt => ?_) fun _ _ => trivial
  refine Follows.bind (expectedFingerprint_answers reqDoc) ?_ fun _ _ _ _ => trivial
  intro afterExpected expected expectedLater looked
  split
  · refine Follows.perform trivial (fun _ failedAt => ?_) fun _ _ => trivial
    apply finalize_free
    apply Uses.bind (uses_free (plain_calm (logEvent_plain _ _ _ _)))
    intro _
    exact Uses.bind (Uses.perform (Or.inr rfl)) fun _ => trivial
  · rename_i matches'
    have compared : Compared lib arguments afterExpected :=
      ⟨session, reqDoc, expected, presented, loaded.cons.mono expectedLater,
        Answered.head.mono expectedLater, decoded, looked expected rfl, by simpa using matches'⟩
    exact Follows.always (warranted_compared compared)

/-- The other endpoints neither prepare nor sign anything. -/
theorem warranted_other {origin : Origin} (starts : origin.initiates = false)
    (ends : ∀ arguments, origin.endpoint ≠ .finalize arguments) (trace : ServerTrace)
    (operation : Operation) : Warranted lib origin trace operation := by
  cases operation with
  | setRequest name update =>
      cases update with
      | signed evidence => exact fun arguments same => absurd same (ends arguments)
      | _ => trivial
  | storeSession sessionId session => exact fun initiates => absurd initiates (by simp [starts])
  | renderPdf doctype docname format => exact fun initiates => absurd initiates (by simp [starts])
  | _ => trivial

theorem other_discloses {origin : Origin} {Value : Type} {program : Server Value}
    {wrap : Value → Response} (starts : origin.initiates = false)
    (ends : ∀ arguments, origin.endpoint ≠ .finalize arguments)
    (silent : ∀ value response, wrap value ≠ .initiated response) :
    (program.bind fun value => .done (wrap value)).Follows (Warranted lib origin)
      (Discloses lib origin) [] := by
  refine Follows.bind (Follows.always fun later operation _ =>
    warranted_other starts ends later operation) ?_ fun _ _ _ _ => by simp [Discloses]
  intro later value _ _ response same
  exact absurd (Except.ok.inj same) (silent value response)

theorem body_warranted (origin : Origin) :
    (body lib origin).Follows (Warranted lib origin) (Discloses lib origin) [] := by
  obtain ⟨ctx, endpoint⟩ := origin
  cases endpoint with
  | initiate arguments =>
      refine Follows.bind (initiate_discloses ctx arguments) ?_ fun _ _ _ _ => by simp [Discloses]
      intro later response _ disclosed other same
      cases same
      obtain ⟨row, profile, session, stored, preparation, rest⟩ := disclosed response rfl
      exact ⟨arguments, row, profile, session, rfl, stored, preparation, rest⟩
  | finalize arguments =>
      refine Follows.bind (finalize_compares ctx arguments) ?_ fun _ _ _ _ => by simp [Discloses]
      intro later response _ _ other impossible
      cases impossible
  | getSigningStatus doctype docname =>
      exact other_discloses rfl (by simp) fun _ _ => by simp
  | getFormActions doctype docname => exact other_discloses rfl (by simp) fun _ _ => by simp
  | retry name => exact other_discloses rfl (by simp) fun _ _ => by simp
  | cancel name reason => exact other_discloses rfl (by simp) fun _ _ => by simp
  | abortInProgress name reason => exact other_discloses rfl (by simp) fun _ _ => by simp
  | expireStalePendingRequests => exact other_discloses rfl (by simp) fun _ _ => by simp

/-- In every run every call asks what is warranted. -/
theorem run_warranted {masters : Masters} {now : Instant} {zone : Int} {labels : List ServerLabel}
    {world : ServerWorld}
    (reached : run (body lib) (installed masters now zone) labels = some world) :
    world.Disciplined (Warranted lib) (Discloses lib) := by
  have preserved (world : ServerWorld) (label : ServerLabel) (next : ServerWorld)
      (disciplined : world.Disciplined (Warranted lib) (Discloses lib)) (_ : True)
      (stepped : step (body lib) world label = some next) :
      next.Disciplined (Warranted lib) (Discloses lib) :=
    disciplined_step (body lib) body_warranted disciplined stepped
  refine run_invariant (body lib) preserved ?_ (along_always (body lib)) reached
  intro index call located
  cases located

/-! ### A sample site with SHA-256 -/

/-- SHA-256 on what the sample runs hash, and another function on the rest. -/
def knownSha256 (other : Bytes → Bytes) (data : Bytes) : Bytes :=
  if data = [1, 2, 3] then
    [3, 144, 88, 198, 242, 192, 203, 73, 44, 83, 59, 10, 77, 20, 239, 119, 204, 15, 120, 171, 204,
      206, 213, 40, 125, 132, 161, 162, 1, 28, 251, 129]
  else if data = [9] then
    [43, 76, 52, 47, 84, 51, 235, 229, 145, 161, 218, 119, 224, 19, 209, 183, 36, 117, 86, 45, 72,
      87, 141, 202, 139, 132, 186, 198, 101, 28, 60, 185]
  else if data = utf8 "{}" then
    [68, 19, 111, 163, 85, 179, 103, 138, 17, 70, 173, 22, 247, 232, 100, 158, 148, 251, 79, 194,
      31, 231, 126, 131, 16, 192, 96, 246, 28, 170, 255, 138]
  else other data

def registeredMasters (fingerprint : Text) : Masters :=
  { sampleMasters with
    profile := fun name =>
      (sampleMasters.profile name).map fun profile =>
        { profile with certificateFingerprint := fingerprint } }

end DscSigning
