/-
What each endpoint asks, and after what.  Every call's trace obeys one rule,
whatever it is told: which requests it may change, what it has checked before
it stores a session, and what stands behind the evidence it writes.
-/

import DscSigning.Server.SigningApi

namespace DscSigning

open Interaction

/-! ### Marks in a trace -/

def insertsFile : ServerEvent → Bool
  | ⟨.insertFile _, .ok _, _⟩ => true
  | _ => false

def insertsComment : ServerEvent → Bool
  | ⟨.insertComment _, .ok _, _⟩ => true
  | _ => false

def storesSession : ServerEvent → Bool
  | ⟨.storeSession _ _, .ok _, _⟩ => true
  | _ => false

def raised (event : ServerEvent) : Bool :=
  match event.reply with
  | .ok _ => false
  | .error _ => true

/-- An exception of this question is swallowed where it is asked, or ends the
call without a further statement. -/
def harmless (earlier : ServerTrace) : Operation → Bool
  | .runHook .. => true
  | .epochSeconds => true
  | .tokenHex _ => true
  | .sendMail _ => true
  | .sourceOwner .. => true
  -- After the timeline entry these are asked for the notification only.
  | .getRequest _ => earlier.any insertsComment
  | .getProfile _ => earlier.any insertsComment
  | _ => false

def uncaught (earlier : ServerTrace) (event : ServerEvent) : Bool :=
  raised event && !harmless earlier event.query

/-- A marked event has happened, and no uncaught exception since. -/
def standing (mark : ServerEvent → Bool) : ServerTrace → Bool
  | [] => false
  | event :: earlier => !uncaught earlier event && (mark event || standing mark earlier)

/-- The call has committed and met no uncaught exception since: it changes no
request any more. -/
def sealed (trace : ServerTrace) : Bool := standing commits trace

/-- The call has saved its signed file and met no uncaught exception since. -/
def filed (trace : ServerTrace) : Bool := standing insertsFile trace

theorem standing_false {mark : ServerEvent → Bool} {trace : ServerTrace}
    (unmarked : ∀ event ∈ trace, mark event = false) : standing mark trace = false := by
  induction trace with
  | nil => rfl
  | cons event earlier ih =>
      rw [standing, unmarked event (by simp), ih fun other member => unmarked other (by simp [member])]
      simp

theorem standing_raised {mark : ServerEvent → Bool} {earlier : ServerTrace} {event : ServerEvent}
    (loud : uncaught earlier event = true) : standing mark (event :: earlier) = false := by
  rw [standing, loud]
  rfl

def notable (event : ServerEvent) : Bool :=
  commits event || insertsFile event || insertsComment event || storesSession event

/-- No commit, no file, no timeline entry and no session so far. -/
def Quiet (trace : ServerTrace) : Prop := ∀ event ∈ trace, notable event = false

def Uncommitted (trace : ServerTrace) : Prop := ∀ event ∈ trace, commits event = false

theorem notable_false {event : ServerEvent} (plain : notable event = false) :
    commits event = false ∧ insertsFile event = false ∧ insertsComment event = false ∧
      storesSession event = false := by
  simp only [notable, Bool.or_eq_false_iff] at plain
  exact ⟨plain.1.1.1, plain.1.1.2, plain.1.2, plain.2⟩

theorem Quiet.sealed {trace : ServerTrace} (quiet : Quiet trace) : sealed trace = false :=
  standing_false fun event member => (notable_false (quiet event member)).1

theorem Quiet.filed {trace : ServerTrace} (quiet : Quiet trace) : filed trace = false :=
  standing_false fun event member => (notable_false (quiet event member)).2.1

theorem Quiet.uncommitted {trace : ServerTrace} (quiet : Quiet trace) : Uncommitted trace :=
  fun event member => (notable_false (quiet event member)).1

theorem Quiet.cons {trace : ServerTrace} {event : ServerEvent} (quiet : Quiet trace)
    (plain : notable event = false) : Quiet (event :: trace) := by
  intro other member
  rcases List.mem_cons.mp member with same | older
  · rw [same]
    exact plain
  · exact quiet other older

/-- An exception that the endpoint does not swallow has just been raised, or
nothing was committed or filed in the first place. -/
def Loud (trace : ServerTrace) : Prop := sealed trace = false ∧ filed trace = false

theorem Quiet.loud {trace : ServerTrace} (quiet : Quiet trace) : Loud trace :=
  ⟨quiet.sealed, quiet.filed⟩

theorem loud_raised {earlier : ServerTrace} {operation : Operation} {exn : Exn} {stamp : Instant}
    (harmful : harmless earlier operation = false) :
    Loud (⟨operation, .error exn, stamp⟩ :: earlier) := by
  have loud : uncaught earlier ⟨operation, .error exn, stamp⟩ = true := by
    simp only [uncaught, raised, harmful, Bool.not_false, Bool.and_self]
  exact ⟨standing_raised loud, standing_raised loud⟩

/-- A part of an endpoint that can only fail loudly. -/
def Raises {Value : Type} (trace : ServerTrace) : Except Exn Value → Prop
  | .ok _ => True
  | .error _ => Loud trace

/-! ### What a call has selected -/

/-- The requests a call has selected for a `set_value` with this answer. -/
def selected (earlier : ServerTrace) : ServerEvent → List String
  | ⟨.findPending _ _, .ok (some row), _⟩ => [row.name]
  | ⟨.loadSession _, .ok (some session), _⟩ => [session.signingRequestName]
  | ⟨.staleRequests _, .ok names, _⟩ => names
  | ⟨.now, .ok now, _⟩ =>
      match earlier with
      | ⟨.listRequests _ _, .ok rows, _⟩ :: _ =>
          (rows.filter (ListedRequest.stale now)).map ListedRequest.name
      | _ => []
  | _ => []

def targets : ServerTrace → List String
  | [] => []
  | event :: earlier => selected earlier event ++ targets earlier

theorem targets_mono {trace later : ServerTrace} (suffix : trace <:+ later) {name : String}
    (member : name ∈ targets trace) : name ∈ targets later := by
  obtain ⟨newer, rfl⟩ := suffix
  induction newer with
  | nil => exact member
  | cons event rest ih => exact List.mem_append_right _ ih

/-- The question was asked and answered so. -/
def Answered (trace : ServerTrace) (operation : Operation) (answer : operation.Answer) : Prop :=
  ∃ stamp, (⟨operation, .ok answer, stamp⟩ : ServerEvent) ∈ trace

theorem Answered.mono {trace later : ServerTrace} {operation : Operation}
    {answer : operation.Answer} (answered : Answered trace operation answer)
    (suffix : trace <:+ later) : Answered later operation answer := by
  obtain ⟨stamp, member⟩ := answered
  exact ⟨stamp, suffix.subset member⟩

theorem Answered.cons {trace : ServerTrace} {operation : Operation} {answer : operation.Answer}
    {event : ServerEvent} (answered : Answered trace operation answer) :
    Answered (event :: trace) operation answer :=
  answered.mono (List.suffix_cons event trace)

theorem Answered.head {earlier : ServerTrace} {operation : Operation}
    {answer : operation.Answer} {stamp : Instant} :
    Answered (⟨operation, .ok answer, stamp⟩ :: earlier) operation answer :=
  ⟨stamp, by simp⟩

/-! ### The rule -/

variable (lib : Libraries)

/-- `initiate` found the request and passed the check of the expected signer. -/
def SignerChecked (origin : Origin) (trace : ServerTrace) (row : PendingRequest) : Prop :=
  row.expectedSignerUser.given = false ∨ row.expectedSignerUser = some origin.ctx.user ∨
    ∃ roles, Answered trace (.getRoles origin.ctx.user) roles ∧ hasPermission roles .write = true

/-- `initiate` found the profile active and open to the user. -/
def ProfileChecked (origin : Origin) (trace : ServerTrace) (row : PendingRequest) : Prop :=
  ∃ profile, Answered trace (.getProfile row.profile) profile ∧ profile.isActive = true ∧
    profile.allows origin.ctx.user = true

/-- What stands behind the session that an `initiate` stores. -/
def Authorised (origin : Origin) (trace : ServerTrace) (sessionId : String)
    (session : SigningSession) : Prop :=
  ∃ arguments row, origin.endpoint = .initiate arguments ∧
    Answered trace (.findPending arguments.doctype arguments.docname) (some row) ∧
    SignerChecked origin trace row ∧ ProfileChecked origin trace row ∧
    Quiet trace ∧ Answered trace .uuid4 sessionId ∧ session.signingRequestName = row.name ∧
    session.fieldName = fieldName row.name

/-- The location columns come from the arguments of the call. -/
def Started (origin : Origin) (location : Option SignerLocation) : Prop :=
  ∃ arguments geocoded, origin.endpoint = .initiate arguments ∧
    signerLocation lib (normalise arguments.signerLat) (normalise arguments.signerLng)
      (normalise arguments.signerAccuracyM) geocoded = .ok location

/-- The hash columns come from the session the call has stored. -/
def Hashed (origin : Origin) (trace : ServerTrace) (name algorithm hash : String) : Prop :=
  ∃ arguments sessionId session location, origin.endpoint = .initiate arguments ∧
    Answered trace (.storeSession sessionId session) () ∧
    Answered trace (.setRequest name
      (.started origin.ctx.requestIp origin.ctx.userAgent location)) () ∧
    session.signingRequestName = name ∧ algorithm = session.hashAlgorithm ∧
    hash = lib.sha256Hex session.signedAttrs ∧ Uncommitted trace

/-- The PDF was verified, and signatures were found in it. -/
def Accepted (trace : ServerTrace) (pdf : Bytes) : Prop :=
  ∃ before after sigs trust, after <:+ trace ∧ lib.embeddedSignatures pdf = .ok sigs ∧
    sigs.isEmpty = false ∧
    (loadTrustStore lib).Ran before after (.ok trust) ∧
    (verifySignedPdf lib pdf).Ran before after (.ok (verification lib trust pdf sigs))

/-- What stands behind the evidence that a `finalize` writes. -/
def Evidence (origin : Origin) (trace : ServerTrace) (name : String)
    (evidence : SignedEvidence) : Prop :=
  ∃ arguments first session chain file stored, origin.endpoint = .finalize arguments ∧
    Answered trace (.loadSession arguments.sessionId) (some first) ∧
    first.signingRequestName = name ∧
    Answered trace (.loadSession arguments.sessionId) (some session) ∧
    Answered trace (.insertFile file) stored ∧
    Uncommitted trace ∧
    arguments.certChainDerB64.parse lib = .ok chain ∧
    assemble lib session arguments.signatureBytesB64 chain = .ok file.content ∧
    Accepted lib trace file.content ∧
    evidence.signedFile = stored.name ∧
    evidence.actualSignerUser = origin.ctx.user ∧
    evidence.signatureBytes = arguments.signatureBytesB64 ∧
    evidence.certificateFingerprintPresented = lib.sha256Hex session.certDer

/-- What a call may ask, given all that it asked and was told before. -/
def Permitted (origin : Origin) (trace : ServerTrace) : Operation → Prop
  | .findPending .. => site.pending trace = []
  | .listRequests .. => site.pending trace = []
  | .staleRequests _ => site.pending trace = []
  | .setRequest name (.started _ _ location) =>
      (name ∈ targets trace ∧ sealed trace = false) ∧ filed trace = false ∧
        Started lib origin location
  | .setRequest name (.hashed algorithm hash) => Hashed lib origin trace name algorithm hash
  | .setRequest name (.failed _) =>
      (name ∈ targets trace ∧ sealed trace = false) ∧ filed trace = false
  | .setRequest name (.signed evidence) =>
      (name ∈ targets trace ∧ sealed trace = false) ∧ Evidence lib origin trace name evidence
  | .setRequest name .recovered =>
      (name ∈ targets trace ∧ sealed trace = false) ∧ filed trace = false
  | .saveRequest _ _ edit => site.pending trace = [] ∧ edit.status ≠ .signed
  | .storeSession sessionId session => Authorised origin trace sessionId session
  | .insertFile _ => ∃ arguments, origin.endpoint = .finalize arguments ∧ Quiet trace
  | _ => True

/-- The response of an `initiate` is about the session it has stored. -/
def Responds (trace : ServerTrace) (response : InitiateResponse) : Prop :=
  ∃ session, Answered trace (.storeSession response.sessionId session) () ∧
    session.signingRequestName = response.signingRequest ∧
    response.hashAlgorithm = session.hashAlgorithm ∧
    response.hashToSign = lib.sha256Hex session.signedAttrs

/-- How calls end: a `finalize` that raises does so after an uncaught exception,
or before it has saved a file. -/
def Ends (origin : Origin) (trace : ServerTrace) (result : Except Exn Response) : Prop :=
  (∀ arguments exn, origin.endpoint = .finalize arguments → result = .error exn →
    filed trace = false) ∧
  ∀ response, result = .ok (.initiated response) → Responds lib trace response

/-! ### Questions that are always permitted -/

/-- Questions that are permitted anywhere, and leave a quiet trace quiet. -/
def calm : Operation → Bool
  | .findPending .. => false
  | .listRequests .. => false
  | .staleRequests _ => false
  | .setRequest .. => false
  | .saveRequest .. => false
  | .storeSession .. => false
  | .insertFile _ => false
  | .insertComment _ => false
  | .commit => false
  | _ => true

def Calm (operation : Operation) : Prop := calm operation = true

variable {lib}

theorem permitted_calm {origin : Origin} (trace : ServerTrace) (operation : Operation)
    (peaceful : Calm operation) : Permitted lib origin trace operation := by
  cases operation <;> trivial

theorem Quiet.calm {trace newer : ServerTrace} (quiet : Quiet trace)
    (peaceful : ∀ event ∈ newer, Calm event.query) : Quiet (newer ++ trace) := by
  have plain (event : ServerEvent) (still : Calm event.query) : notable event = false := by
    obtain ⟨operation, reply, stamp⟩ := event
    cases operation <;> first | rfl | cases still
  intro event member
  rcases List.mem_append.mp member with fresh | older
  · exact plain event (peaceful event fresh)
  · exact quiet event older

section Parts

variable {Value : Type} {origin : Origin}

theorem quiet_follows {program : Server Value} (uses : program.Uses Calm) {trace : ServerTrace}
    (quiet : Quiet trace) :
    program.Follows (Permitted lib origin) (fun later _ => Quiet later) trace := by
  refine (Program.Uses.follows uses trace permitted_calm).weaken ?_
  rintro later result - ⟨newer, rfl, peaceful⟩
  exact quiet.calm peaceful

end Parts

end DscSigning
