/-
The rule engine: what a worker asks and writes when it handles the event of a
saved document.

The tables are shared by all workers, and every statement takes effect at once.
-/

import DscSigning.Server.Desk
import DscSigning.Server.RuleConditions

namespace DscSigning.RuleEngine

open Interaction

/-- DSC Rule -/
structure DscRule where
  name : String
  isEnabled : Bool
  targetDoctype : String
  triggerEvent : String
  triggerWorkflowState : Text
  priority : Int
  conditions : List RuleCondition
  profile : String
  signatureTemplate : Text
  isMandatory : Bool
  blockPrintUntilSigned : Bool
  blockEmailUntilSigned : Bool
  company : Text
deriving DecidableEq

structure Libraries extends DscSigning.Libraries, ConditionLibraries

/-! ### Questions -/

inductive Operation where
  /-- The names of the enabled rules for a DocType and an event, by priority. -/
  | getAllRules (doctype triggerEvent : String)
  | getRule (name : String)
  | existsRequest (doctype docname rule : String)
  | allowedUsers (profile : String)
  | insertRequest (request : NewRequest)
  | now
  | insertEvent (event : AuditEvent)
  | sendMail (mail : Mail)
  | assignTodo (signingRequest description user : String)
  | logError (title : String)

@[reducible] def Operation.Answer : Operation → Type
  | .getAllRules .. => List String
  | .getRule _ => DscRule
  | .existsRequest .. => Text
  | .allowedUsers _ => List Text
  | .insertRequest _ => String
  | .now => Instant
  | .insertEvent _ => Unit
  | .sendMail _ => Unit
  | .assignTodo .. => Unit
  | .logError _ => Unit

abbrev face : Interface :=
  { Query := Operation
    Answer := Operation.Answer
    Error := Exn }

abbrev Worker (Value : Type) : Type := Program face Value

abbrev ask (operation : Operation) : Worker operation.Answer :=
  @Program.perform face operation

abbrev attempt {Value : Type} (result : Except Exn Value) : Worker Value :=
  Program.ofExcept result

abbrev WorkerEvent : Type := Event face Instant

abbrev WorkerTrace : Type := Trace face Instant

/-! ### The engine -/

variable (lib : Libraries)

def getRules : List String → Worker (List DscRule)
  | [] => pure []
  | name :: rest => do
      let rule ← ask (.getRule name)
      let others ← getRules rest
      pure (rule :: others)

def getMatchingRules (doctype triggerEvent : String) : Worker (List DscRule) := do
  let names ← ask (.getAllRules doctype triggerEvent)
  getRules names

/-- The first allowed user, or the current one if they are listed. -/
def resolveSignerUser (ctx : Context) (profileName : String) : Worker Text := do
  let allowedUsers ← ask (.allowedUsers profileName)
  pure (if allowedUsers.contains (some ctx.user) then some ctx.user
    else allowedUsers.head?.bind id)

def logEvent (ctx : Context) (signingRequest eventType : String) (details : List (String × Json)) :
    Worker Unit := do
  let occurredAt ← ask .now
  ask (.insertEvent (auditEvent lib.toLibraries ctx signingRequest eventType details occurredAt))

/-- `frappe.scrub(doctype).replace("_", "-")` -/
def slug (doctype : String) : String :=
  lower (String.ofList (doctype.toList.map fun c => if c == ' ' || c == '_' then '-' else c))

/-- `_notify_signer` -/
def notifySigner (doc : Document) (rule : DscRule) (signerUser : String) : Worker Unit :=
  ask (.sendMail
    { recipients := [signerUser]
      subject := s!"Action required: sign {doc.doctype} {doc.name}"
      message := "<p>A new document is awaiting your digital signature.</p><ul>" ++
        s!"<li><b>Document:</b> {doc.doctype} {doc.name}</li>" ++
        s!"<li><b>Rule:</b> {rule.name}</li>" ++
        s!"<li><b>Profile:</b> {rule.profile}</li></ul>" ++
        s!"<p><a href='{lib.siteUrl}/app/{slug doc.doctype}/{doc.name}'>" ++
        "Open document</a> and click <b>Sign with DSC</b>.</p>" })

/-- `_assign_signer_todo` -/
def assignSignerTodo (signingRequestName : String) (doc : Document) (signerUser : String) :
    Worker Unit :=
  ask (.assignTodo signingRequestName s!"Sign {doc.doctype} {doc.name}" signerUser)

/-- The mail and the ToDo for the signer; neither may stop the request. -/
def informSigner (name : String) (doc : Document) (rule : DscRule) (expectedSigner : Text) :
    Worker Unit :=
  if expectedSigner.given && expectedSigner != some "Administrator" then do
    (notifySigner lib doc rule expectedSigner.show).recover fun _ =>
      ask (.logError "DSC: signer notification email failed")
    (assignSignerTodo name doc expectedSigner.show).recover fun _ =>
      ask (.logError "DSC: signer ToDo assignment failed")
  else pure ()

def newRequest (doc : Document) (rule : DscRule) (expectedSigner : Text) : NewRequest :=
  { sourceDoctype := doc.doctype
    sourceName := doc.name
    rule := some rule.name
    profile := rule.profile
    signatureTemplate := rule.signatureTemplate
    expectedSignerUser := expectedSigner }

/-- `create_signing_request` where none exists. -/
def insertSigningRequest (ctx : Context) (doc : Document) (rule : DscRule) : Worker String := do
  let expectedSigner ← resolveSignerUser ctx rule.profile
  let name ← ask (.insertRequest (newRequest doc rule expectedSigner))
  logEvent lib ctx name "Request Created"
    [("source_doctype", .text doc.doctype),
      ("source_name", .text doc.name),
      ("rule", .text rule.name),
      ("profile", .text rule.profile),
      ("expected_signer_user", .ofText expectedSigner)]
  informSigner lib name doc rule expectedSigner
  pure name

def createSigningRequest (ctx : Context) (doc : Document) (rule : DscRule) : Worker String := do
  let existing ← ask (.existsRequest doc.doctype doc.name rule.name)
  if existing.given then pure existing.show else insertSigningRequest lib ctx doc rule

/-- The rule is of another company, or of another workflow state. -/
def DscRule.skips (rule : DscRule) (doc : Document) (triggerEvent : String) : Bool :=
  (rule.company.given && doc.get "company" != .text rule.company.show) ||
    (triggerEvent == "on_workflow_action" && rule.triggerWorkflowState.given &&
      doc.get "workflow_state" != .text rule.triggerWorkflowState.show)

/-- What `_evaluate_rules` does for the rule that matches. -/
def fire (ctx : Context) (doc : Document) (triggerEvent : String) (rule : DscRule) :
    Worker Unit := do
  let reqName ← createSigningRequest lib ctx doc rule
  if reqName != "" then do
    logEvent lib ctx reqName "Rule Evaluated"
      [("rule", .text rule.name),
        ("matched", .bool true),
        ("trigger_event", .text triggerEvent),
        ("priority", .int rule.priority)]
    if rule.signatureTemplate.given then
      logEvent lib ctx reqName "Template Selected" [("template", .ofText rule.signatureTemplate)]
    else pure ()
  else pure ()

/-- The loop over the rules: the first one that matches ends it. -/
def evaluateEach (ctx : Context) (doc : Document) (triggerEvent : String) :
    List DscRule → Worker Unit
  | [] => pure ()
  | rule :: rest =>
      if rule.skips doc triggerEvent then evaluateEach ctx doc triggerEvent rest
      else do
        let matched ← attempt (evaluateConditions lib.toConditionLibraries doc rule.conditions)
        if matched then fire lib ctx doc triggerEvent rule
        else evaluateEach ctx doc triggerEvent rest

/-- `_evaluate_rules` -/
def evaluateRules (ctx : Context) (doc : Document) (triggerEvent : String) : Worker Unit := do
  let rules ← getMatchingRules doc.doctype triggerEvent
  evaluateEach lib ctx doc triggerEvent rules

/-- The events of `doc_events`; a change comes with `get_doc_before_save`. -/
inductive DocumentEvent where
  | onSubmit (doc : Document)
  | onUpdateAfterSubmit (doc : Document)
  | onChange (doc : Document) (before : Option Document)

/-- `evaluate_on_change`: after the change itself, a workflow state that is new. -/
def evaluateOnChange (ctx : Context) (doc : Document) (before : Option Document) :
    Worker Unit := do
  evaluateRules lib ctx doc "on_change"
  if !(doc.get "workflow_state").truthy then pure ()
  else if before.any fun prev => prev.get "workflow_state" == doc.get "workflow_state" then pure ()
  else evaluateRules lib ctx doc "on_workflow_action"

/-- One event of a document, and in whose session it is handled. -/
structure Origin where
  ctx : Context
  event : DocumentEvent

def body (origin : Origin) : Worker Unit :=
  match origin.event with
  | .onSubmit doc => evaluateRules lib origin.ctx doc "on_submit"
  | .onUpdateAfterSubmit doc => evaluateRules lib origin.ctx doc "on_update"
  | .onChange doc before => evaluateOnChange lib origin.ctx doc before

/-! ### The tables -/

structure Shared where
  now : Instant
  requests : Table String SigningRequest
  rules : Table String DscRule
  /-- `allowed_users` of the DSC Profiles -/
  allowedUsers : String → List Text
  events : List AuditEvent

/-- How the surroundings answer: an exception, which of several requests
`db.exists` names, and the name of an inserted request. -/
structure Oracle where
  fault : Option Exn
  pick : Nat
  name : String

/-- The request is of this document and this rule. -/
def ofRule (doctype docname rule : String) (row : SigningRequest) : Bool :=
  row.belongsTo doctype docname && row.rule == some rule

def DscRule.listed (doctype triggerEvent : String) (rule : DscRule) : Bool :=
  rule.isEnabled && rule.targetDoctype == doctype && rule.triggerEvent == triggerEvent

def answer (oracle : Oracle) (shared : Shared) :
    (operation : Operation) → Option (Except Exn operation.Answer × Shared)
  | .getAllRules doctype triggerEvent =>
      let rules := shared.rules.select (DscRule.listed doctype triggerEvent)
      let ordered := rules.insertionSort fun left right => left.2.priority ≤ right.2.priority
      some (.ok (ordered.map Prod.fst), shared)
  | .getRule name => some (orMissing "DSC Rule" name (shared.rules.lookup name), shared)
  | .existsRequest doctype docname rule =>
      let rows := shared.requests.select (ofRule doctype docname rule)
      some (.ok (rows[oracle.pick % rows.length]?.map Prod.fst), shared)
  | .allowedUsers profile => some (.ok (shared.allowedUsers profile), shared)
  | .insertRequest request =>
      match shared.requests.lookup oracle.name with
      | some _ => none
      | none =>
          if oracle.name == "" then none
          else some (.ok oracle.name, { shared with
            requests := shared.requests.insert oracle.name (request.row shared.now) })
  | .now => some (.ok shared.now, shared)
  | .insertEvent event => some (.ok (), { shared with events := event :: shared.events })
  | .sendMail _ => some (.ok (), shared)
  | .assignTodo .. => some (.ok (), shared)
  | .logError _ => some (.ok (), shared)

def reply (oracle : Oracle) (shared : Shared) (operation : Operation) :
    Option (Except Exn operation.Answer × Shared) :=
  match oracle.fault with
  | some exn => some (.error exn, shared)
  | none => answer oracle shared operation

/-- What happens besides the workers. -/
inductive Move where
  | elapse (by_ : Nat)
  /-- Administrators change rules and profiles. -/
  | administer (rules : Table String DscRule) (allowedUsers : String → List Text)
  /-- A DSC Document Sign record inserts its request, which has no rule. -/
  | insertAdHoc (name : String) (request : NewRequest)
  /-- Signing, retrying and cancelling write other columns of a request. -/
  | writeRequest (name : String) (change : SigningRequest → SigningRequest)
  /-- The retention job deletes a request. -/
  | deleteRequest (name : String)

def Move.apply (shared : Shared) : Move → Option Shared
  | .elapse by_ => some { shared with now := shared.now + by_ }
  | .administer rules allowedUsers =>
      some { shared with rules := rules, allowedUsers := allowedUsers }
  | .insertAdHoc name request =>
      match shared.requests.lookup name with
      | some _ => none
      | none =>
          if name == "" then none
          else some { shared with
            requests := shared.requests.insert name ({ request with rule := none }.row shared.now) }
  | .writeRequest name change =>
      some { shared with requests := shared.requests.modify name fun row =>
        { change row with
          sourceDoctype := row.sourceDoctype
          sourceName := row.sourceName
          rule := row.rule } }
  | .deleteRequest name => some { shared with requests := shared.requests.erase name }

/-- The workers as an engine in which every statement takes effect at once. -/
abbrev desk : Engine face :=
  { Stamp := Instant
    Data := Unit
    Shared := Shared
    Write := Unit
    Row := Unit
    Oracle := Oracle
    Move := Move
    perform := fun data _ => data
    row := fun _ => none
    stamp := Shared.now
    reply := fun oracle _ shared operation => reply oracle shared operation
    effects := fun _ => []
    commits := fun _ => false
    move := fun move data shared => (move.apply shared).map fun later => (data, later) }

abbrev DeskCall : Type := desk.Call Origin Unit

abbrev DeskWorld : Type := desk.World Origin Unit

abbrev WorkerLabel : Type := desk.Label Origin

/-- A site with these rules and no requests. -/
def opened (rules : Table String DscRule) (allowedUsers : String → List Text) (now : Instant) :
    DeskWorld :=
  { data := ()
    shared :=
      { now := now
        requests := ∅
        rules := rules
        allowedUsers := allowedUsers
        events := [] }
    calls := []
    journal := [] }

end DscSigning.RuleEngine
