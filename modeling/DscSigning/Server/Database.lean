/-
What an endpoint can ask of its surroundings, and how the surroundings answer.

Every statement, cache command, clock reading and outside call is one question.
The database and the cache answer from their state; a question to the outside
is answered by the oracle of the step, and the oracle may make any question
raise.  A write takes effect when it is answered without an error.
-/

import DscSigning.Library.Transactions
import DscSigning.Server.Records
import Mathlib.Data.List.Sort

namespace DscSigning

open Interaction

/-! ### Statements -/

/-- The columns `finalize` writes when a signing succeeds. -/
structure SignedEvidence where
  actualSignerUser : String
  signedOn : Instant
  signDurationSeconds : Nat
  signatureBytes : String
  certificateFingerprintPresented : String
  ocspResponseB64 : Text
  signedFile : String
deriving DecidableEq

/-- The `frappe.db.set_value` statements on a signing request. -/
inductive RequestUpdate where
  | started (clientIp clientUserAgent : Text) (location : Option SignerLocation)
  | hashed (algorithm hash : String)
  | failed (reason : String)
  | signed (evidence : SignedEvidence)
  /-- The stale auto-recovery, with `update_modified=False`. -/
  | recovered
deriving DecidableEq

def RequestUpdate.status : RequestUpdate → Option RequestStatus
  | .started .. => some .inProgress
  | .hashed .. => none
  | .failed _ => some .failed
  | .signed _ => some .signed
  | .recovered => some .pending

def RequestUpdate.apply (update : RequestUpdate) (at_ : Instant) (row : SigningRequest) :
    SigningRequest :=
  match update with
  | .started clientIp clientUserAgent location =>
      { row with
        status := .inProgress
        clientIp := clientIp
        clientUserAgent := clientUserAgent
        signerLocation := location.or row.signerLocation
        modified := at_ }
  | .hashed algorithm hash =>
      { row with hashAlgorithm := some algorithm, hashToBeSigned := some hash, modified := at_ }
  | .failed reason => { row with status := .failed, failureReason := some reason, modified := at_ }
  | .signed evidence =>
      { row with
        status := .signed
        actualSignerUser := some evidence.actualSignerUser
        signedOn := some evidence.signedOn
        signDurationSeconds := some evidence.signDurationSeconds
        signatureBytes := some evidence.signatureBytes
        certificateFingerprintPresented := some evidence.certificateFingerprintPresented
        ocspResponseB64 := evidence.ocspResponseB64
        signedFile := some evidence.signedFile
        modified := at_ }
  | .recovered => { row with status := .pending }

/-- What an endpoint changed on a loaded request before `doc.save`. -/
structure RequestEdit where
  status : RequestStatus
  failureReason : Text
  cancelledOn : Option Instant
deriving DecidableEq

/-- The row after `doc.save`, with `on_update`.  All columns of the loaded
document are written, but `check_if_latest` makes the others equal to the row's. -/
def RequestEdit.apply (edit : RequestEdit) (at_ : Instant) (row : SigningRequest) :
    SigningRequest :=
  let changed := row.status != edit.status
  { row with
    status := edit.status
    failureReason := edit.failureReason
    signedOn := if changed && edit.status == .signed then some at_ else row.signedOn
    cancelledOn := if changed && edit.status == .cancelled then some at_ else edit.cancelledOn
    modified := at_ }

/-- `valid_transitions` -/
def RequestStatus.validTransitions : RequestStatus → List RequestStatus
  | .pending => [.inProgress, .cancelled]
  | .inProgress => [.signed, .failed]
  | .failed => [.pending]
  | .signed => []
  | .cancelled => []

/-- `DSCSigningRequest.validate_status_transition` -/
def validateStatusTransition (old new : RequestStatus) : Except Exn Unit :=
  if old = new then .ok ()
  else if new ∈ old.validTransitions then .ok ()
  else
    let names := ", ".intercalate (old.validTransitions.map RequestStatus.text)
    .error (thrown (s!"Cannot change status from {old.text} to {new.text}. Allowed transitions: " ++
      Text.orValue (some names) "None (terminal state)"))

structure DocSignEdit where
  status : DocumentStatus
  /-- The signed file, where the statement sets it. -/
  signedFile : Text
deriving DecidableEq

def DocSignEdit.apply (edit : DocSignEdit) (row : DocumentSign) : DocumentSign :=
  { row with status := edit.status, signedFile := edit.signedFile.or row.signedFile }

/-- A row of the database written, as it stands in a transaction. -/
inductive Write where
  | setRequest (name : String) (update : RequestUpdate) (at_ : Instant)
  | saveRequest (name : String) (edit : RequestEdit) (at_ : Instant)
  | setDocSign (name : String) (edit : DocSignEdit)
  | insertEvent (event : AuditEvent)
  | insertFile (name : String) (file : FileRow)
  | flagFile (name : String)
  | insertComment (comment : Comment)
  | saveSecret (secret : String)

def Write.perform (database : Database) : Write → Database
  | .setRequest name update at_ =>
      { database with requests := database.requests.modify name (update.apply at_) }
  | .saveRequest name edit at_ =>
      { database with requests := database.requests.modify name (edit.apply at_) }
  | .setDocSign name edit =>
      { database with docSigns := database.docSigns.modify name edit.apply }
  | .insertEvent event => { database with events := event :: database.events }
  | .insertFile name file => { database with files := database.files.insert name file }
  | .flagFile name =>
      { database with files := database.files.modify name fun row => { row with isDscSigned := true } }
  | .insertComment comment => { database with comments := comment :: database.comments }
  | .saveSecret secret =>
      { database with masters :=
        { database.masters with settings :=
          { database.masters.settings with hmacSecret := some secret } } }

def Write.row : Write → Option RowKey
  | .setRequest name .. => some (.request name)
  | .saveRequest name .. => some (.request name)
  | .setDocSign name _ => some (.docSign name)
  | .insertEvent _ => none
  | .insertFile .. => none
  | .flagFile name => some (.file name)
  | .insertComment _ => none
  | .saveSecret _ => some .settings

/-! ### Questions -/

/-- The fields `initiate` fetches of a pending request. -/
structure PendingRequest where
  name : String
  profile : String
  signatureTemplate : Text
  expectedSignerUser : Text
deriving DecidableEq

/-- The fields `get_signing_status` lists. -/
structure ListedRequest where
  name : String
  status : RequestStatus
  profile : String
  expectedSignerUser : Text
  signedOn : Option Instant
  signedFile : Text
  modified : Instant
deriving DecidableEq

/-- A saved File document, as `file_doc` carries it on. -/
structure StoredFile where
  name : String
  fileName : String
  fileUrl : String
deriving DecidableEq

/-- A form argument that is not `None`. -/
inductive FormValue where
  | text (value : String)
  | number (value : PyFloat)
deriving DecidableEq

structure GeocodeResult where
  address : Text
  provider : Text
  ok : Bool
deriving DecidableEq

/-- A signature box: left, bottom, right, top. -/
structure Box where
  left : ℚ
  bottom : ℚ
  right : ℚ
  top : ℚ
deriving DecidableEq

/-- What `PdfSigner` is given: the field specification and the metadata. -/
structure SignatureSpec where
  fieldName : String
  onPage : Int
  box : Option Box
  mdAlgorithm : String
  location : String
  reason : String
  name : String
  signingCert : Bytes
  bytesReserved : Nat
deriving DecidableEq

structure Mail where
  recipients : List String
  subject : String
  message : String

inductive Operation where
  | findPending (doctype docname : String)
  | getRequest (name : String)
  | requestValues (name : String)
  | listRequests (doctype docname : String)
  | staleRequests (cutoff : Int)
  | getProfile (name : String)
  | profileFingerprint (name : String)
  | getTemplate (name : String)
  | getDocSign (name : String)
  | getRule (name : String)
  | defaultPrintFormat (doctype : String)
  | getSettings
  | trustStoreBundle
  | getPassword
  | getRoles (user : String)
  | sourceOwner (doctype docname : String)
  | fileContent (url : String)
  | countSignedFiles (doctype docname : String)
  | fileFlag
  | administrators
  | setRequest (name : String) (update : RequestUpdate)
  | saveRequest (name : String) (loaded : SigningRequest) (edit : RequestEdit)
  | setDocSign (name : String) (edit : DocSignEdit)
  | insertEvent (event : AuditEvent)
  | insertFile (file : FileRow)
  | flagFile (name : String)
  | insertComment (comment : Comment)
  | saveSecret (secret : String)
  | commit
  | storeSession (sessionId : String) (session : SigningSession)
  | loadSession (sessionId : String)
  | dropSession (sessionId : String)
  | now
  | epochSeconds
  | utcNow
  | uuid4
  | tokenHex (bytes : Nat)
  | tokenUrlsafe (bytes : Nat)
  | reverseGeocode (lat lng : FormValue)
  | renderPdf (doctype docname : String) (printFormat : Text)
  | digestForSigning (spec : SignatureSpec) (pdf : Bytes)
  | builtinBundle
  | sendMail (mail : Mail)
  | logError (title : String)
  | getHooks (name : String)
  | runHook (handler : String) (arguments : List (String × Text))

@[reducible] def Operation.Answer : Operation → Type
  | .findPending .. => Option PendingRequest
  | .getRequest _ => SigningRequest
  | .requestValues _ => Option SigningRequest
  | .listRequests .. => List ListedRequest
  | .staleRequests _ => List String
  | .getProfile _ => Profile
  | .profileFingerprint _ => Text
  | .getTemplate _ => SignatureTemplate
  | .getDocSign _ => DocumentSign
  | .getRule _ => Text
  | .defaultPrintFormat _ => Text
  | .getSettings => Settings
  | .trustStoreBundle => Text
  | .getPassword => Text
  | .getRoles _ => List Role
  | .sourceOwner .. => String
  | .fileContent _ => Bytes
  | .countSignedFiles .. => Nat
  | .fileFlag => Bool
  | .administrators => List Text
  | .setRequest .. => Unit
  | .saveRequest .. => Unit
  | .setDocSign .. => Unit
  | .insertEvent _ => Unit
  | .insertFile _ => StoredFile
  | .flagFile _ => Unit
  | .insertComment _ => Unit
  | .saveSecret _ => Unit
  | .commit => Unit
  | .storeSession .. => Unit
  | .loadSession _ => Option SigningSession
  | .dropSession _ => Unit
  | .now => Instant
  | .epochSeconds => Int
  | .utcNow => Instant
  | .uuid4 => String
  | .tokenHex _ => String
  | .tokenUrlsafe _ => String
  | .reverseGeocode .. => GeocodeResult
  | .renderPdf .. => Bytes
  | .digestForSigning .. => Bytes × PreparedDigest
  | .builtinBundle => Option Bytes
  | .sendMail _ => Unit
  | .logError _ => Unit
  | .getHooks _ => List String
  | .runHook .. => Unit

/-- The interface between the endpoints and their surroundings. -/
abbrev face : Interface :=
  { Query := Operation
    Answer := Operation.Answer
    Error := Exn }

abbrev Server (Value : Type) : Type := Program face Value

/-- Ask one question. -/
abbrev ask (operation : Operation) : Server operation.Answer :=
  @Program.perform face operation

abbrev attempt {Value : Type} (result : Except Exn Value) : Server Value :=
  Program.ofExcept result

abbrev demand (condition : Bool) (error : Exn) : Server Unit := Program.demand condition error

abbrev ServerEvent : Type := Event face Instant

abbrev ServerTrace : Type := Trace face Instant

/-! ### Answers -/

/-- The cache, the clock and the generator of random names. -/
structure Shared where
  now : Instant
  /-- The site's offset from UTC in microseconds. -/
  zone : Int
  /-- Signing sessions with the instant they expire. -/
  sessions : Table String (SigningSession × Instant)
  /-- Session ids and file names handed out so far. -/
  issued : List String

/-- How the surroundings answer one question: an exception, which of several
matching rows a query takes, and the answers from outside. -/
structure Oracle where
  fault : Option Exn
  pick : Nat
  given : (operation : Operation) → Option operation.Answer

def Oracle.plain : Oracle := ⟨none, 0, fun _ => none⟩

/-- `_SESSION_TTL_SECONDS` -/
def sessionTtl : Instant := seconds 600

def SigningRequest.belongsTo (row : SigningRequest) (doctype docname : String) : Bool :=
  row.sourceDoctype == doctype && row.sourceName == docname

def PendingRequest.ofRow (entry : String × SigningRequest) : PendingRequest :=
  ⟨entry.1, entry.2.profile, entry.2.signatureTemplate, entry.2.expectedSignerUser⟩

def ListedRequest.ofRow (entry : String × SigningRequest) : ListedRequest :=
  ⟨entry.1, entry.2.status, entry.2.profile, entry.2.expectedSignerUser, entry.2.signedOn,
    entry.2.signedFile, entry.2.modified⟩

def missing (doctype name : String) : Exn :=
  ⟨"DoesNotExistError", s!"{doctype} {name} not found"⟩

def orMissing {Row : Type} (doctype name : String) : Option Row → Except Exn Row
  | some row => .ok row
  | none => .error (missing doctype name)

/-- `LIKE`, with a backslash before a character that stands for itself. -/
def like : List Char → List Char → Bool
  | [], text => text.isEmpty
  | '%' :: pattern, text => text.tails.any (like pattern)
  | '_' :: pattern, text =>
      match text with
      | _ :: rest => like pattern rest
      | [] => false
  | '\\' :: character :: pattern, text => text.head? == some character && like pattern text.tail
  | character :: pattern, text => text.head? == some character && like pattern text.tail

/-- `file_name like "{docname}_signed_v%.pdf"` -/
def FileRow.isSignedVersion (row : FileRow) (doctype docname : String) : Bool :=
  row.attachedToDoctype == doctype && row.attachedToName == docname &&
    like (docname ++ "_signed_v%.pdf").toList row.fileName.toList

/-- What `doc.save` checks before it writes. -/
def checkSave (view : Database) (name : String) (loaded : SigningRequest) (edit : RequestEdit) :
    Except Exn Unit :=
  match view.requests.lookup name with
  | none => .error (missing "DSC Signing Request" name)
  | some row =>
      if row.modified != loaded.modified then
        .error ⟨"TimestampMismatchError", "Document has been modified after you have opened it"⟩
      else
        validateStatusTransition row.status edit.status

/-- The reply of working surroundings; `none` when the oracle gives no fitting answer. -/
def answer (oracle : Oracle) (view : Database) (shared : Shared) :
    (operation : Operation) → Option (Except Exn operation.Answer × Shared)
  | .findPending doctype docname =>
      let rows := view.requests.select fun row =>
        row.belongsTo doctype docname && row.status == .pending
      some (.ok (rows[oracle.pick % rows.length]?.map PendingRequest.ofRow), shared)
  | .getRequest name =>
      some (orMissing "DSC Signing Request" name (view.requests.lookup name), shared)
  | .requestValues name => some (.ok (view.requests.lookup name), shared)
  | .listRequests doctype docname =>
      let rows := view.requests.select fun row => row.belongsTo doctype docname
      let ordered := rows.insertionSort fun left right => right.2.creation ≤ left.2.creation
      some (.ok (ordered.map ListedRequest.ofRow), shared)
  | .staleRequests cutoff =>
      let rows := view.requests.select fun row =>
        row.status == .inProgress && decide ((row.modified : Int) < cutoff)
      some (.ok (rows.map Prod.fst), shared)
  | .getProfile name => some (orMissing "DSC Profile" name (view.masters.profile name), shared)
  | .profileFingerprint name =>
      some (.ok ((view.masters.profile name).bind Profile.certificateFingerprint), shared)
  | .getTemplate name =>
      some (orMissing "DSC Signature Template" name (view.masters.template name), shared)
  | .getDocSign name =>
      some (orMissing "DSC Document Sign" name (view.docSigns.lookup name), shared)
  | .getRule name => some (orMissing "DSC Rule" name (view.masters.rule name), shared)
  | .defaultPrintFormat doctype => some (.ok (view.masters.defaultPrintFormat doctype), shared)
  | .getSettings => some (.ok view.masters.settings, shared)
  | .trustStoreBundle => some (.ok view.masters.settings.trustStoreBundle, shared)
  | .getPassword => some (.ok view.masters.settings.hmacSecret, shared)
  | .getRoles user => some (.ok (view.masters.roles user), shared)
  | .sourceOwner doctype docname =>
      some (orMissing doctype docname (view.masters.owner doctype docname), shared)
  | .fileContent url => some (orMissing "File" url (view.masters.upload url), shared)
  | .countSignedFiles doctype docname =>
      some (.ok (view.files.select fun row => row.isSignedVersion doctype docname).length, shared)
  | .fileFlag => some (.ok view.masters.fileFlag, shared)
  | .administrators => some (.ok view.masters.administrators, shared)
  | .setRequest .. => some (.ok (), shared)
  | .saveRequest name loaded edit => some (checkSave view name loaded edit, shared)
  | .setDocSign .. => some (.ok (), shared)
  | .insertEvent _ => some (.ok (), shared)
  | .insertFile file =>
      match (oracle.given (.insertFile file) : Option StoredFile) with
      | some stored =>
          if shared.issued.contains stored.name || stored.name == "" then none
          else some (.ok stored, { shared with issued := stored.name :: shared.issued })
      | none => none
  | .flagFile _ => some (.ok (), shared)
  | .insertComment _ => some (.ok (), shared)
  | .saveSecret _ => some (.ok (), shared)
  | .commit => some (.ok (), shared)
  | .storeSession sessionId session =>
      some (.ok (), { shared with
        sessions := shared.sessions.insert sessionId (session, shared.now + sessionTtl) })
  | .loadSession sessionId =>
      some (.ok ((shared.sessions.lookup sessionId).bind fun stored =>
        if shared.now < stored.2 then some stored.1 else none), shared)
  | .dropSession sessionId =>
      some (.ok (), { shared with sessions := shared.sessions.erase sessionId })
  | .now => some (.ok shared.now, shared)
  | .epochSeconds => some (.ok (((shared.now : Int) - shared.zone) / 1000000), shared)
  | .utcNow => some (.ok ((shared.now : Int) - shared.zone).toNat, shared)
  | .uuid4 =>
      match (oracle.given .uuid4 : Option String) with
      | some sessionId =>
          if shared.issued.contains sessionId then none
          else some (.ok sessionId, { shared with issued := sessionId :: shared.issued })
      | none => none
  -- Random tokens, rendering, pyHanko, the network and developer hooks.
  | operation => (oracle.given operation).map fun given => (.ok given, shared)

def reply (oracle : Oracle) (view : Database) (shared : Shared) (operation : Operation) :
    Option (Except Exn operation.Answer × Shared) :=
  match oracle.fault with
  | some exn => some (.error exn, shared)
  | none => answer oracle view shared operation

theorem answer_of_reply {oracle : Oracle} {view : Database} {shared later : Shared}
    {operation : Operation} {given : operation.Answer}
    (replied : reply oracle view shared operation = some (.ok given, later)) :
    answer oracle view shared operation = some (.ok given, later) := by
  unfold reply at replied
  split at replied
  · cases replied
  · exact replied

/-- What a question that was answered has written. -/
def effects : ServerEvent → List Write
  | ⟨.setRequest name update, .ok _, stamp⟩ => [.setRequest name update stamp]
  | ⟨.saveRequest name _ edit, .ok _, stamp⟩ => [.saveRequest name edit stamp]
  | ⟨.setDocSign name edit, .ok _, _⟩ => [.setDocSign name edit]
  | ⟨.insertEvent event, .ok _, _⟩ => [.insertEvent event]
  | ⟨.insertFile file, .ok stored, _⟩ =>
      [.insertFile stored.name
        { file with fileName := stored.fileName, fileUrl := stored.fileUrl }]
  | ⟨.flagFile name, .ok _, _⟩ => [.flagFile name]
  | ⟨.insertComment comment, .ok _, _⟩ => [.insertComment comment]
  | ⟨.saveSecret secret, .ok _, _⟩ => [.saveSecret secret]
  | _ => []

def commits : ServerEvent → Bool
  | ⟨.commit, .ok _, _⟩ => true
  | _ => false

/-! ### The surroundings -/

/-- A signing request as the rule engine or a DSC Document Sign inserts it. -/
structure NewRequest where
  sourceDoctype : String
  sourceName : String
  rule : Text
  profile : String
  signatureTemplate : Text
  expectedSignerUser : Text
deriving DecidableEq

def NewRequest.row (new : NewRequest) (at_ : Instant) : SigningRequest :=
  { sourceDoctype := new.sourceDoctype
    sourceName := new.sourceName
    rule := new.rule
    profile := new.profile
    signatureTemplate := new.signatureTemplate
    expectedSignerUser := new.expectedSignerUser
    actualSignerUser := none
    status := .pending
    failureReason := none
    hashAlgorithm := none
    hashToBeSigned := none
    signatureBytes := none
    certificateFingerprintPresented := none
    ocspResponseB64 := none
    signedFile := none
    createdOn := some at_
    signedOn := none
    cancelledOn := none
    signDurationSeconds := none
    clientIp := none
    clientUserAgent := none
    signerLocation := none
    creation := at_
    modified := at_ }

inductive Move where
  | elapse (by_ : Nat)
  /-- Administrators change profiles, templates, rules, roles and settings. -/
  | administer (masters : Masters)
  | createRequest (name : String) (request : NewRequest)
  /-- A user saves a DSC Document Sign record. -/
  | saveDocSign (name : String) (row : DocumentSign)
  /-- The cache drops an entry before its time. -/
  | evict (sessionId : String)

def Move.apply (database : Database) (shared : Shared) : Move → Option (Database × Shared)
  | .elapse by_ => some (database, { shared with now := shared.now + by_ })
  | .administer masters => some ({ database with masters := masters }, shared)
  | .createRequest name request =>
      match database.requests.lookup name with
      | some _ => none
      | none => some ({ database with
          requests := database.requests.insert name (request.row shared.now) }, shared)
  | .saveDocSign name row =>
      some ({ database with docSigns := database.docSigns.insert name row }, shared)
  | .evict sessionId =>
      some (database, { shared with sessions := shared.sessions.erase sessionId })

/-- The site: its database, its cache and its clock. -/
abbrev site : Engine face :=
  { Stamp := Instant
    Data := Database
    Shared := Shared
    Write := Write
    Row := RowKey
    Oracle := Oracle
    Move := Move
    perform := Write.perform
    row := Write.row
    stamp := Shared.now
    reply := reply
    effects := effects
    commits := commits
    move := fun move database shared => move.apply database shared }

end DscSigning
