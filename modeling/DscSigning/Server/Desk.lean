/-
What happens to requests at the desk: the rules that are evaluated when a
document is saved, and the saves of DSC Document Sign records.
-/

import DscSigning.Library.Runs
import DscSigning.Server.CertificateBinding

namespace DscSigning

open Interaction Engine

variable (lib : Libraries)

/-! ### The rule engine -/

/-- DSC Rule -/
structure Rule where
  name : String
  company : Text
  triggerWorkflowState : Text
  priority : Int
  profile : String
  signatureTemplate : Text

/-- The fields of a saved document that `_evaluate_rules` itself looks at. -/
structure SourceDocument where
  doctype : String
  name : String
  company : Text
  workflowState : Text

/-- One call of `_evaluate_rules`: the enabled rules of the DocType and the
event by priority, and which conditions hold on the fields of the document. -/
structure Evaluation where
  ctx : Context
  triggerEvent : String
  document : SourceDocument
  rules : List Rule
  conditions : Rule → Bool
  /-- Which of several requests `db.exists` names. -/
  pick : Nat
  /-- The name an inserted request gets. -/
  requestName : String

def Rule.applies (evaluation : Evaluation) (rule : Rule) : Bool :=
  !(rule.company.given && rule.company != evaluation.document.company) &&
    !(evaluation.triggerEvent == "on_workflow_action" && rule.triggerWorkflowState.given &&
      rule.triggerWorkflowState != evaluation.document.workflowState) &&
    evaluation.conditions rule

/-- `_resolve_signer_user` -/
def resolveSignerUser (masters : Masters) (user profile : String) : Text :=
  let allowedUsers := ((masters.profile profile).map Profile.allowedUsers).getD []
  if allowedUsers.contains (some user) then some user else allowedUsers.head?.bind id

/-- What `log_event` inserts. -/
def auditEvent (ctx : Context) (request eventType : String) (details : List (String × Json))
    (occurredAt : Instant) : AuditEvent :=
  let detailsJson := if details.isEmpty then none else some (lib.jsonDumps (.object details))
  { request := request
    eventType := eventType
    occurredAt := occurredAt
    actorUser := ctx.user
    clientIp := ctx.requestIp
    userAgent := ctx.userAgent
    detailsJson := detailsJson
    eventHash := computeEventHash lib request eventType occurredAt ctx.user detailsJson }

/-- What a transaction at the desk inserts: requests, and audit events newest first. -/
structure Inserted where
  request : Option (String × NewRequest)
  events : List AuditEvent

/-- `create_signing_request`, and the name it returns. -/
def createSigningRequest (database : Database) (now : Instant) (evaluation : Evaluation)
    (rule : Rule) : String × Inserted :=
  let document := evaluation.document
  let existing := database.requests.select fun row =>
    row.belongsTo document.doctype document.name && row.rule == some rule.name
  match existing[evaluation.pick % existing.length]? with
  | some entry => (entry.1, ⟨none, []⟩)
  | none =>
      let expectedSigner :=
        resolveSignerUser database.masters evaluation.ctx.user rule.profile
      (evaluation.requestName,
        { request := some (evaluation.requestName,
            { sourceDoctype := document.doctype
              sourceName := document.name
              rule := some rule.name
              profile := rule.profile
              signatureTemplate := rule.signatureTemplate
              expectedSignerUser := expectedSigner })
          events := [auditEvent lib evaluation.ctx evaluation.requestName "Request Created"
            [("source_doctype", .text document.doctype),
              ("source_name", .text document.name),
              ("rule", .text rule.name),
              ("profile", .text rule.profile),
              ("expected_signer_user", .ofText expectedSigner)] now] })

/-- `_evaluate_rules`: the first rule that matches. -/
def evaluateRules (database : Database) (now : Instant) (evaluation : Evaluation) : Inserted :=
  match evaluation.rules.find? (Rule.applies evaluation) with
  | none => ⟨none, []⟩
  | some rule =>
      let created := createSigningRequest lib database now evaluation rule
      let evaluated := auditEvent lib evaluation.ctx created.1 "Rule Evaluated"
        [("rule", .text rule.name),
          ("matched", .bool true),
          ("trigger_event", .text evaluation.triggerEvent),
          ("priority", .int rule.priority)] now
      let selected := auditEvent lib evaluation.ctx created.1 "Template Selected"
        [("template", .ofText rule.signatureTemplate)] now
      { request := created.2.request
        events := (if rule.signatureTemplate.given then [selected] else []) ++
          evaluated :: created.2.events }

/-! ### DSC Document Sign -/

/-- A DSC Document Sign record as a form submits it. -/
structure DocumentForm where
  uploadedPdf : Text
  profile : String
  signatureTemplate : Text
  sigPage : Int
  sigX : ℚ
  sigY : ℚ
  sigWidth : ℚ
  sigHeight : ℚ
  status : Option DocumentStatus
  signingRequest : Text
  signedFile : Text

/-- `DSCDocumentSign.validate`, with the status it leaves. -/
def DocumentForm.validate (masters : Masters) (form : DocumentForm) :
    Except Exn DocumentStatus :=
  let status := form.status.getD .draft
  if form.profile != "" then
    match masters.profile form.profile with
    | some profile =>
        if profile.isActive then .ok status
        else .error (thrown
          s!"DSC Profile '{Text.orValue (some profile.profileName) form.profile}' is not active.")
    | none => .ok status
  else .ok status

def DocumentForm.row (form : DocumentForm) (status : DocumentStatus) : DocumentSign :=
  { uploadedPdf := form.uploadedPdf
    sigPage := form.sigPage
    sigX := form.sigX
    sigY := form.sigY
    sigWidth := form.sigWidth
    sigHeight := form.sigHeight
    status := status
    signingRequest := form.signingRequest
    signedFile := form.signedFile }

/-- `on_update` goes on to create a request. -/
def DocumentForm.ready (form : DocumentForm) (status : DocumentStatus) : Bool :=
  status == .draft && form.uploadedPdf.given && form.profile != "" && form.sigWidth != 0 &&
    form.sigHeight != 0

/-- The request `_create_signing_request` inserts, unless one is Pending or In Progress. -/
def DocumentForm.request (database : Database) (user name : String) (form : DocumentForm) :
    Option NewRequest :=
  let existing := database.requests.select fun row =>
    row.belongsTo documentSign name && (row.status == .pending || row.status == .inProgress)
  if existing.isEmpty then
    some
      { sourceDoctype := documentSign
        sourceName := name
        rule := none
        profile := form.profile
        signatureTemplate := if form.signatureTemplate.given then form.signatureTemplate else none
        expectedSignerUser := some user }
  else none

/-- `validate`, the write and `on_update`: the row that is left, and the request inserted. -/
def saveDocument (database : Database) (user name requestName : String) (form : DocumentForm) :
    Except Exn (DocumentSign × Option (String × NewRequest)) :=
  (form.validate database.masters).map fun status =>
    let row := form.row status
    if form.ready status then
      match form.request database user name with
      | some request =>
          ({ row with signingRequest := some requestName, status := .pending },
            some (requestName, request))
      | none => (row, none)
    else (row, none)

/-! ### Runs with saves and rules -/

inductive DeskLabel where
  | server (label : ServerLabel)
  /-- A user saves a form as the DSC Document Sign record of this name. -/
  | saveDocument (user name requestName : String) (form : DocumentForm)
  | evaluateRules (evaluation : Evaluation)

/-- The two moves of the site that stand for saves and rules. -/
def assumed : ServerLabel → Bool
  | .move (.createRequest ..) => true
  | .move (.saveDocSign ..) => true
  | _ => false

def withEvents (events : List AuditEvent) (world : ServerWorld) : ServerWorld :=
  { world with data := { world.data with events := events ++ world.data.events } }

def insertRequest (request : Option (String × NewRequest)) (world : ServerWorld) :
    Option ServerWorld :=
  match request with
  | some (name, row) => step (body lib) world (.move (.createRequest name row))
  | none => some world

def deskStep (world : ServerWorld) : DeskLabel → Option ServerWorld
  | .server label => if assumed label then none else step (body lib) world label
  | .saveDocument user name requestName form =>
      match saveDocument world.data user name requestName form with
      | .error _ => some world
      | .ok (row, request) => (insertRequest lib request world).bind fun created =>
          step (body lib) created (.move (.saveDocSign name row))
  | .evaluateRules evaluation =>
      let inserted := evaluateRules lib world.data world.shared.now evaluation
      (insertRequest lib inserted.request world).map (withEvents inserted.events)

variable {lib}

theorem server_cases {world next : ServerWorld} {label : ServerLabel}
    (stepped : deskStep lib world (.server label) = some next) :
    assumed label = false ∧ step (body lib) world label = some next := by
  simp only [deskStep] at stepped
  split at stepped
  · cases stepped
  · rename_i own
    exact ⟨Bool.eq_false_iff.mpr own, stepped⟩

/-- What the steps of the site keep under a condition that moves always meet, and
audit events do not touch, the desk keeps. -/
theorem desk_preserves_under (condition : ServerWorld → ServerLabel → Prop)
    {invariant : ServerWorld → Prop} (moves : ∀ world move, condition world (.move move))
    (steps : ∀ world label next, invariant world → condition world label →
      step (body lib) world label = some next → invariant next)
    (events : ∀ world events, invariant world → invariant (withEvents events world))
    {world next : ServerWorld} {label : DeskLabel} (holds : invariant world)
    (met : ∀ served, label = .server served → condition world served)
    (stepped : deskStep lib world label = some next) : invariant next := by
  have inserts {request : Option (String × NewRequest)} {created : ServerWorld}
      (inserted : insertRequest lib request world = some created) : invariant created := by
    cases request with
    | none =>
        cases inserted
        exact holds
    | some request =>
        exact steps world (.move (.createRequest request.1 request.2)) created holds
          (moves world _) inserted
  cases label with
  | server label =>
      exact steps world label next holds (met label rfl) (server_cases stepped).2
  | saveDocument user name requestName form =>
      simp only [deskStep] at stepped
      split at stepped
      · cases stepped
        exact holds
      · obtain ⟨created, inserted, saved⟩ := Option.bind_eq_some_iff.mp stepped
        exact steps created _ next (inserts inserted) (moves created _) saved
  | evaluateRules evaluation =>
      obtain ⟨created, inserted, same⟩ := Option.map_eq_some_iff.mp stepped
      rw [← same]
      exact events created _ (inserts inserted)

theorem desk_preserves {invariant : ServerWorld → Prop}
    (steps : ∀ world label next, invariant world → step (body lib) world label = some next →
      invariant next)
    (events : ∀ world events, invariant world → invariant (withEvents events world))
    {world next : ServerWorld} {label : DeskLabel} (holds : invariant world)
    (stepped : deskStep lib world label = some next) : invariant next :=
  desk_preserves_under (fun _ _ => True) (fun _ _ => trivial)
    (fun world label next holds _ => steps world label next holds) events holds
    (fun _ _ => trivial) stepped

/-- The data with the request that a save or a rule inserts. -/
def Database.withRequest (database : Database) (now : Instant) :
    Option (String × NewRequest) → Database
  | some (name, request) =>
      { database with requests := database.requests.insert name (request.row now) }
  | none => database

/-- What inserting a request changes. -/
theorem insertRequest_cases {request : Option (String × NewRequest)} {world next : ServerWorld}
    (inserted : insertRequest lib request world = some next) :
    next.calls = world.calls ∧ next.shared = world.shared ∧
      next.data = world.data.withRequest world.shared.now request ∧
      ∀ name row, request = some (name, row) → world.data.requests.lookup name = none := by
  rcases request with _ | ⟨name, row⟩
  · cases inserted
    exact ⟨rfl, rfl, rfl, fun _ _ impossible => by cases impossible⟩
  · simp only [insertRequest, step, Move.apply] at inserted
    cases present : world.data.requests.lookup name with
    | some old =>
        rw [present] at inserted
        cases inserted
    | none =>
        rw [present] at inserted
        cases inserted
        refine ⟨rfl, rfl, rfl, fun other _ same => ?_⟩
        cases same
        exact present

/-- A save writes the record, and perhaps a request; a refused one writes nothing. -/
theorem save_cases {world next : ServerWorld} {user name requestName : String}
    {form : DocumentForm}
    (stepped : deskStep lib world (.saveDocument user name requestName form) = some next) :
    next = world ∨ ∃ document request,
      saveDocument world.data user name requestName form = .ok (document, request) ∧
      next.calls = world.calls ∧
      next.data = { world.data.withRequest world.shared.now request with
        docSigns := world.data.docSigns.insert name document } ∧
      ∀ created row, request = some (created, row) → world.data.requests.lookup created = none := by
  simp only [deskStep] at stepped
  split at stepped
  · cases stepped
    exact Or.inl rfl
  · rename_i document request saved
    obtain ⟨created, inserted, written⟩ := Option.bind_eq_some_iff.mp stepped
    obtain ⟨calls, shared, data, absent⟩ := insertRequest_cases inserted
    simp only [step, Move.apply, Option.map_some, Option.some.injEq] at written
    refine Or.inr ⟨document, request, saved, ?_, ?_, absent⟩
    · rw [← written]
      exact calls
    · have same : created.data.docSigns = world.data.docSigns := by
        rw [data]
        rcases request with _ | ⟨other, row⟩ <;> rfl
      rw [← written, same, data]

/-- Evaluating the rules writes audit events, and perhaps a request. -/
theorem evaluate_cases {world next : ServerWorld} {evaluation : Evaluation}
    (stepped : deskStep lib world (.evaluateRules evaluation) = some next) :
    next.calls = world.calls ∧
      next.data = { world.data.withRequest world.shared.now
          (evaluateRules lib world.data world.shared.now evaluation).request with
        events := (evaluateRules lib world.data world.shared.now evaluation).events ++
          world.data.events } ∧
      ∀ created row, (evaluateRules lib world.data world.shared.now evaluation).request =
        some (created, row) → world.data.requests.lookup created = none := by
  obtain ⟨created, inserted, same⟩ := Option.map_eq_some_iff.mp stepped
  generalize evaluateRules lib world.data world.shared.now evaluation = inserts at *
  obtain ⟨calls, shared, data, absent⟩ := insertRequest_cases inserted
  have events : created.data.events = world.data.events := by
    rw [data]
    rcases inserts.request with _ | ⟨other, row⟩ <;> rfl
  rw [← same]
  refine ⟨calls, ?_, absent⟩
  simp only [withEvents, events]
  rw [data]

theorem evaluate_docSigns {world next : ServerWorld} {evaluation : Evaluation}
    (stepped : deskStep lib world (.evaluateRules evaluation) = some next) :
    next.data.docSigns = world.data.docSigns := by
  obtain ⟨_, data, _⟩ := evaluate_cases stepped
  rw [data]
  cases (evaluateRules lib world.data world.shared.now evaluation).request <;> rfl

end DscSigning
