/-
The endpoints that pair the desktop agent with the site and register its
certificates.

Pairing codes live in the shared cache, each question to it being one step;
registrations, certificates and the HMAC secret live in the database.
-/

import DscSigning.Server.SigningEngine
import DscSigning.Library.Table

namespace DscSigning.AgentApi

open Interaction

/-! ### Rows -/

/-- What the cache keeps of a pairing code. -/
structure CodeData where
  user : String
  createdAt : String
  siteUrl : String
deriving DecidableEq

/-- DSC Agent Registration -/
structure AgentRegistration where
  user : String
  agentFingerprint : String
  displayName : String
  pairedOn : Instant
  lastSeenOn : Instant
  isActive : Bool
  osPlatform : Text
  agentVersion : Text
  siteTokenHash : String
deriving DecidableEq

/-- A row of `previous_certificates` of a DSC Profile. -/
structure PreviousCertificate where
  certificateFingerprint : Text
  certificateCommonName : Text
  certificateNotAfter : Option Instant
  replacedOn : Instant
deriving DecidableEq

/-- The certificate fields of a DSC Profile. -/
structure ProfileCertificates where
  certificateFingerprint : Text
  certificateCommonName : Text
  certificateIssuer : Text
  certificateSerial : Text
  certificateNotBefore : Option Instant
  certificateNotAfter : Option Instant
  certificatePemPublic : Text
  registeredOn : Option Instant
  previousCertificates : List PreviousCertificate
  modified : Instant
deriving DecidableEq

structure Database where
  registrations : Table String AgentRegistration
  profiles : Table String ProfileCertificates
  /-- DSC Settings.hmac_secret -/
  hmacSecret : Text
  roles : String → List Role

inductive Write where
  | insertRegistration (name : String) (row : AgentRegistration)
  | touchRegistration (name : String) (at_ : Instant)
  | saveProfile (name : String) (row : ProfileCertificates)
  | saveSecret (secret : String)

def Write.perform (database : Database) : Write → Database
  | .insertRegistration name row =>
      { database with registrations := database.registrations.insert name row }
  | .touchRegistration name at_ =>
      { database with registrations := database.registrations.modify name fun row =>
          { row with lastSeenOn := at_ } }
  | .saveProfile name row => { database with profiles := database.profiles.insert name row }
  | .saveSecret secret => { database with hmacSecret := some secret }

inductive RowKey where
  | registration (name : String)
  | profile (name : String)
  | settings
deriving DecidableEq

def Write.row : Write → Option RowKey
  | .insertRegistration .. => none
  | .touchRegistration name _ => some (.registration name)
  | .saveProfile name _ => some (.profile name)
  | .saveSecret _ => some .settings

/-! ### Questions -/

inductive Operation where
  | tokenUrlsafe (bytes : Nat)
  | now
  | setCode (key : String) (data : CodeData)
  | getCode (key : String)
  | deleteCode (key : String)
  | insertRegistration (row : AgentRegistration)
  | findRegistration (tokenHash : String) (agentFingerprint : Text)
  | touchRegistration (name : String) (at_ : Instant)
  | getProfile (name : String)
  | getRoles (user : String)
  | saveProfile (name : String) (row : ProfileCertificates)
  /-- Whether the Password field of DSC Settings is filled. -/
  | secretGiven
  | getPassword
  | saveSecret (secret : String)
  | commit

@[reducible] def Operation.Answer : Operation → Type
  | .tokenUrlsafe _ => String
  | .now => Instant
  | .setCode .. => Unit
  | .getCode _ => Option CodeData
  | .deleteCode _ => Unit
  | .insertRegistration _ => String
  | .findRegistration .. => Text
  | .touchRegistration .. => Unit
  | .getProfile _ => ProfileCertificates
  | .getRoles _ => List Role
  | .saveProfile .. => Unit
  | .secretGiven => Bool
  | .getPassword => Text
  | .saveSecret _ => Unit
  | .commit => Unit

abbrev face : Interface :=
  { Query := Operation
    Answer := Operation.Answer
    Error := Exn }

abbrev Endpoints (Value : Type) : Type := Program face Value

abbrev ask (operation : Operation) : Endpoints operation.Answer :=
  @Program.perform face operation

abbrev attempt {Value : Type} (result : Except Exn Value) : Endpoints Value :=
  Program.ofExcept result

abbrev demand (condition : Bool) (error : Exn) : Endpoints Unit := Program.demand condition error

abbrev AgentEvent : Type := Event face Instant

abbrev AgentTrace : Type := Trace face Instant

/-! ### Pairing -/

/-- `_PAIRING_KEY_PREFIX` -/
def pairingKeyPrefix : String := "e_sign:pairing:"

/-- `_PAIRING_TTL_SECONDS` -/
def pairingTtlSeconds : Nat := 600

def pairingKey (code : String) : String := pairingKeyPrefix ++ code

/-- What `_public_site_url` reads of the request. -/
structure WebRequest where
  forwardedHost : Text
  originalHost : Text
  host : String
  forwardedProto : Text
  isSecure : Bool
deriving DecidableEq

/-- What asn1crypto reads of a distinguished name. -/
structure DistinguishedName where
  commonNames : List String
  humanFriendly : String

/-- The fields of a parsed certificate, its validity in naive UTC. -/
structure CertificateFields where
  subject : DistinguishedName
  issuer : DistinguishedName
  serialNumber : Int
  notBefore : Option Instant
  notAfter : Option Instant

structure Libraries extends DscSigning.Libraries where
  certificateFields : Bytes → Except Exn CertificateFields

variable (lib : Libraries)

/-- `_hash_token` -/
def hashToken (token : String) : String := lib.sha256Hex (utf8 token)

/-- `_public_site_url` -/
def publicSiteUrl : Option WebRequest → String
  | none => lib.siteUrl
  | some req =>
      let host := (req.forwardedHost.orElse req.originalHost).orValue req.host
      let proto := req.forwardedProto.orValue (if req.isSecure then "https" else "http")
      if host == "" then lib.siteUrl else proto ++ "://" ++ host

structure PairingCode where
  pairingCode : String
  expiresInSeconds : Nat
  siteUrl : String
deriving DecidableEq

def generatePairingCode (user : String) (request : Option WebRequest) : Endpoints PairingCode := do
  let siteUrl := publicSiteUrl lib request
  let code ← ask (.tokenUrlsafe 16)
  let createdAt ← ask .now
  ask (.setCode (pairingKey code) ⟨user, lib.showInstant createdAt, siteUrl⟩)
  pure ⟨code, pairingTtlSeconds, siteUrl⟩

def currentSecret : Endpoints Text := do
  let stored ← ask .secretGiven
  if stored then ask .getPassword else pure none

/-- `get_or_create_hmac_secret` -/
def getOrCreateHmacSecret : Endpoints String := do
  let current ← currentSecret
  if current.given then pure current.show
  else do
    let newSecret ← ask (.tokenUrlsafe 48)
    ask (.saveSecret newSecret)
    ask .commit
    pure newSecret

structure Paired where
  status : String
  siteToken : String
  siteUrl : String
  agentRegistration : String
  hmacSecret : String
deriving DecidableEq

structure PairingArguments where
  pairingCode : String
  agentFingerprint : String
  osPlatform : Text
  agentVersion : Text
deriving DecidableEq

/-- `validate_pairing_code` once the code is deleted. -/
def registerAgent (arguments : PairingArguments) (data : CodeData) : Endpoints Paired := do
  let siteToken ← ask (.tokenUrlsafe 32)
  let pairedOn ← ask .now
  let lastSeenOn ← ask .now
  let name ← ask (.insertRegistration
    { user := data.user
      agentFingerprint := arguments.agentFingerprint
      displayName := arguments.osPlatform.orValue "Unknown" ++ " Agent"
      pairedOn := pairedOn
      lastSeenOn := lastSeenOn
      isActive := true
      osPlatform := arguments.osPlatform
      agentVersion := arguments.agentVersion
      siteTokenHash := hashToken lib siteToken })
  ask .commit
  let hmacSecret ← getOrCreateHmacSecret
  pure
    { status := "paired"
      siteToken := siteToken
      siteUrl := data.siteUrl
      agentRegistration := name
      hmacSecret := hmacSecret }

def validatePairingCode (arguments : PairingArguments) : Endpoints Paired := do
  let raw ← ask (.getCode (pairingKey arguments.pairingCode))
  match raw with
  | none => attempt (.error ⟨"AuthenticationError", "Invalid or expired pairing code."⟩)
  | some data => do
      ask (.deleteCode (pairingKey arguments.pairingCode))
      registerAgent lib arguments data

def verifySiteToken (siteToken agentFingerprint : Text) : Endpoints Text :=
  if siteToken.given then do
    let agentName ← ask (.findRegistration (hashToken lib siteToken.show)
      (if agentFingerprint.given then agentFingerprint else none))
    if agentName.given then do
      let seen ← ask .now
      ask (.touchRegistration agentName.show seen)
      pure agentName
    else pure none
  else pure none

/-! ### Certificates -/

/-- `_common_name` -/
def commonName (name : DistinguishedName) : String :=
  clip (Text.orValue name.commonNames.head? name.humanFriendly) 140

/-- `format(number, "X")` -/
def upperHex (number : Int) : String :=
  let digits := String.ofList ((Nat.toDigits 16 number.natAbs).map Char.toUpper)
  if number < 0 then "-" ++ digits else digits

/-- `cert_pem` -/
def pemOf (certDer : Bytes) : String :=
  "-----BEGIN CERTIFICATE-----\n" ++ Base64.encode certDer ++ "\n-----END CERTIFICATE-----"

/-- The permissions of the DocType and of `profile_has_permission`, to write. -/
def mayWriteProfile (roles : List Role) : Bool :=
  roles.contains .dscAdministrator || roles.contains .systemManager

/-- The profile with the certificate of the arguments; a certificate that it had
before goes to the previous ones. -/
def ProfileCertificates.renew (profile : ProfileCertificates) (fields : CertificateFields)
    (fingerprint pem : String) (replacedOn registeredOn : Instant) : ProfileCertificates :=
  { certificateFingerprint := some fingerprint
    certificateCommonName := some (commonName fields.subject)
    certificateIssuer := some (commonName fields.issuer)
    certificateSerial := some (upperHex fields.serialNumber)
    certificateNotBefore := fields.notBefore
    certificateNotAfter := fields.notAfter
    certificatePemPublic := some pem
    registeredOn := some registeredOn
    previousCertificates :=
      if profile.certificateFingerprint.given then
        profile.previousCertificates ++ [⟨profile.certificateFingerprint,
          profile.certificateCommonName, profile.certificateNotAfter, replacedOn⟩]
      else profile.previousCertificates
    modified := profile.modified }

/-- The time of the replacement, if there is a certificate to replace. -/
def ProfileCertificates.replacedOn (profile : ProfileCertificates) : Endpoints Instant :=
  if profile.certificateFingerprint.given then ask .now else pure 0

structure Registered where
  status : String
  fingerprint : String
  commonName : String
  issuer : String
  notBefore : String
  notAfter : String
deriving DecidableEq

def showOptional : Option Instant → String
  | some instant => lib.showInstant instant
  | none => "None"

def registerCertificate (user profileName certDerB64 : String) : Endpoints Registered := do
  let certDer ← attempt (b64decode certDerB64)
  let fields ← attempt (lib.certificateFields certDer)
  let fingerprint := lib.sha256Hex certDer
  let profile ← ask (.getProfile profileName)
  let roles ← ask (.getRoles user)
  demand (mayWriteProfile roles) ⟨"PermissionError", s!"No permission for DSC Profile {profileName}"⟩
  let replacedOn ← profile.replacedOn
  let registeredOn ← ask .now
  ask (.saveProfile profileName
    (profile.renew fields fingerprint (pemOf certDer) replacedOn registeredOn))
  pure
    { status := "registered"
      fingerprint := fingerprint
      commonName := commonName fields.subject
      issuer := commonName fields.issuer
      notBefore := showOptional lib fields.notBefore
      notAfter := showOptional lib fields.notAfter }

def listAgentCertificates (agentPort : Text) : Endpoints String :=
  pure ("Call the agent directly at https://127.0.0.1:" ++ agentPort.orValue "4645" ++ "/v1/certs")

/-! ### Calls -/

inductive Endpoint where
  | generatePairingCode (request : Option WebRequest)
  | validatePairingCode (arguments : PairingArguments)
  | verifySiteToken (siteToken agentFingerprint : Text)
  | registerCertificate (profileName certDerB64 : String)
  | listAgentCertificates (agentPort : Text)
deriving DecidableEq

/-- `allow_guest` -/
def Endpoint.allowsGuest : Endpoint → Bool
  | .validatePairingCode _ => true
  | .verifySiteToken .. => true
  | _ => false

/-- One call: who makes it, and what. -/
structure Origin where
  user : String
  endpoint : Endpoint
deriving DecidableEq

inductive Response where
  | code (response : PairingCode)
  | paired (response : Paired)
  | agent (name : Text)
  | registered (response : Registered)
  | message (text : String)
deriving DecidableEq

def serve (user : String) : Endpoint → Endpoints Response
  | .generatePairingCode request => (generatePairingCode lib user request).bind fun response =>
      .done (.code response)
  | .validatePairingCode arguments => (validatePairingCode lib arguments).bind fun response =>
      .done (.paired response)
  | .verifySiteToken siteToken agentFingerprint =>
      (verifySiteToken lib siteToken agentFingerprint).bind fun name => .done (.agent name)
  | .registerCertificate profileName certDerB64 =>
      (registerCertificate lib user profileName certDerB64).bind fun response =>
        .done (.registered response)
  | .listAgentCertificates agentPort =>
      (listAgentCertificates agentPort).bind fun text => .done (.message text)

/-- Only two of the endpoints are open to guests. -/
def body (origin : Origin) : Endpoints Response :=
  if origin.user == "Guest" && !origin.endpoint.allowsGuest then
    attempt (.error ⟨"PermissionError", "Login to access"⟩)
  else serve lib origin.user origin.endpoint

/-! ### Answers -/

structure Shared where
  now : Instant
  /-- Pairing codes with the instant they expire. -/
  codes : Table String (CodeData × Instant)
  /-- Names and, by their number of bytes, random tokens handed out so far. -/
  issued : List (Option Nat × String)

/-- How the surroundings answer one question: an exception, which of several
matching rows a query takes, a random token of a number of bytes, or a name. -/
structure Oracle where
  fault : Option Exn
  pick : Nat
  token : Nat → String
  name : String

def AgentRegistration.matches_ (row : AgentRegistration) (tokenHash : String)
    (agentFingerprint : Text) : Bool :=
  row.siteTokenHash == tokenHash && row.isActive &&
    agentFingerprint.all (row.agentFingerprint == ·)

/-- A token or a name is never handed out twice. -/
def draw (bytes : Option Nat) (fresh : String) (shared : Shared) :
    Option (Except Exn String × Shared) :=
  if shared.issued.contains (bytes, fresh) || fresh == "" then none
  else some (.ok fresh, { shared with issued := (bytes, fresh) :: shared.issued })

/-- What `profile.save` checks before it writes: `check_if_latest`. -/
def checkLatest (view : Database) (name : String) (row : ProfileCertificates) : Except Exn Unit :=
  match view.profiles.lookup name with
  | none => .error (missing "DSC Profile" name)
  | some stored =>
      if stored.modified != row.modified then
        .error ⟨"TimestampMismatchError", "Document has been modified after you have opened it"⟩
      else .ok ()

def answer (oracle : Oracle) (view : Database) (shared : Shared) :
    (operation : Operation) → Option (Except Exn operation.Answer × Shared)
  | .tokenUrlsafe bytes => draw (some bytes) (oracle.token bytes) shared
  | .now => some (.ok shared.now, shared)
  | .setCode key data => some (.ok (), { shared with
      codes := shared.codes.insert key (data, shared.now + seconds pairingTtlSeconds) })
  | .getCode key => some (.ok ((shared.codes.lookup key).bind fun stored =>
      if shared.now < stored.2 then some stored.1 else none), shared)
  | .deleteCode key => some (.ok (), { shared with codes := shared.codes.erase key })
  | .insertRegistration _ => draw none oracle.name shared
  | .findRegistration tokenHash agentFingerprint =>
      let rows := view.registrations.select fun row => row.matches_ tokenHash agentFingerprint
      some (.ok (rows[oracle.pick % rows.length]?.map Prod.fst), shared)
  | .touchRegistration .. => some (.ok (), shared)
  | .getProfile name => some (orMissing "DSC Profile" name (view.profiles.lookup name), shared)
  | .getRoles user => some (.ok (view.roles user), shared)
  -- The clock has moved on before anyone can save again.
  | .saveProfile name row =>
      some (checkLatest view name row, { shared with now := shared.now + 1 })
  | .secretGiven => some (.ok view.hmacSecret.given, shared)
  | .getPassword => some (.ok view.hmacSecret, shared)
  | .saveSecret _ => some (.ok (), shared)
  | .commit => some (.ok (), shared)

def reply (oracle : Oracle) (view : Database) (shared : Shared) (operation : Operation) :
    Option (Except Exn operation.Answer × Shared) :=
  match oracle.fault with
  | some exn => some (.error exn, shared)
  | none => answer oracle view shared operation

theorem answer_of_reply {oracle : Oracle} {view : Database} {shared later : Shared}
    {operation : Operation} {given : operation.Answer}
    (replied : reply oracle view shared operation = some (.ok given, later)) :
    answer oracle view shared operation = some (.ok given, later) := by
  unfold reply at replied
  split at replied
  · cases replied
  · exact replied

/-- What a question that was answered has written. -/
def effects : AgentEvent → List Write
  | ⟨.insertRegistration row, .ok name, _⟩ => [.insertRegistration name row]
  | ⟨.touchRegistration name at_, .ok _, _⟩ => [.touchRegistration name at_]
  | ⟨.saveProfile name row, .ok _, stamp⟩ => [.saveProfile name { row with modified := stamp }]
  | ⟨.saveSecret secret, .ok _, _⟩ => [.saveSecret secret]
  | _ => []

def commits : AgentEvent → Bool
  | ⟨.commit, .ok _, _⟩ => true
  | _ => false

/-- What happens besides the calls. -/
inductive Move where
  | elapse (by_ : Nat)
  /-- The cache drops an entry before its time. -/
  | evict (key : String)
  /-- Administrators change registrations, profiles, roles and settings. -/
  | administer (database : Database)

def Move.apply (database : Database) (shared : Shared) : Move → Database × Shared
  | .elapse by_ => (database, { shared with now := shared.now + by_ })
  | .evict key => (database, { shared with codes := shared.codes.erase key })
  | .administer other => (other, shared)

abbrev site : Engine face :=
  { Stamp := Instant
    Data := Database
    Shared := Shared
    Write := Write
    Row := RowKey
    Oracle := Oracle
    Move := Move
    perform := Write.perform
    row := Write.row
    stamp := Shared.now
    reply := reply
    effects := effects
    commits := commits
    move := fun move database shared => some (move.apply database shared) }

abbrev AgentCall : Type := site.Call Origin Response

abbrev AgentWorld : Type := site.World Origin Response

abbrev AgentLabel : Type := site.Label Origin

/-- A site on which no agent call has been made yet. -/
def installed (database : Database) (now : Instant) : AgentWorld :=
  { data := database
    shared := ⟨now, ∅, []⟩
    calls := []
    journal := [] }

end DscSigning.AgentApi
