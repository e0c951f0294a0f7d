/-
Templates, the rules that name them, and the signings that load them.

A save can put a new version in the place of a template, but rules keep the name
they have, requests take it over, and `initiate` loads whatever a request names.
Whether a template is active is asked by none of them.
-/

import DscSigning.Server.Placement
import DscSigning.Server.Sources
import DscSigning.Server.TemplateVersions
import Mathlib.Data.Rat.Floor

namespace DscSigning

open Interaction Program Engine

/-! ### What a signing reads of a template -/

def ColumnValue.amount : ColumnValue → ℚ
  | .number value => value
  | _ => 0

def ColumnValue.content : ColumnValue → Text
  | .text value => some value
  | _ => Option.none

def FieldRow.signatureField (row : FieldRow) : SignatureField :=
  { pageNumber := ⌊row.pageNumber.amount⌋
    x := row.x.amount
    y := row.y.amount
    width := row.width.amount
    height := row.height.amount }

def TemplateDoc.settings (doc : TemplateDoc) : SignatureTemplate :=
  { fields := doc.fields.map FieldRow.signatureField
    stampShowSignerName := (doc.get "stamp_show_signer_name").truthy
    stampShowDesignation := (doc.get "stamp_show_designation").truthy
    stampShowDigitallySignedBy := (doc.get "stamp_show_digitally_signed_by").truthy
    stampShowTimestamp := (doc.get "stamp_show_timestamp").truthy
    stampTimestampFormat := (doc.get "stamp_timestamp_format").content
    stampShowReason := (doc.get "stamp_show_reason").truthy
    stampShowLocation := (doc.get "stamp_show_location").truthy }

def settingsOf (templates : Table String TemplateDoc) (name : String) : Option SignatureTemplate :=
  (templates.lookup name).map TemplateDoc.settings

/-! ### The site with its templates -/

/-- A request that a rule has created, the template the rule named, and the forks until then. -/
structure Creation where
  request : String
  template : String
  forks : List (String × String)

structure VersionWorld where
  desk : ServerWorld
  templates : Table String TemplateDoc
  /-- The templates that saves have forked, each with its new version. -/
  forks : List (String × String)
  creations : List Creation

inductive VersionLabel where
  | desk (label : DeskLabel)
  | insertTemplate (doc : TemplateDoc) (rejected : Bool)
  | saveTemplate (name : String) (doc : TemplateDoc) (rejected : Bool)

/-- The server finds the templates of the table. -/
def withTemplates (templates : Table String TemplateDoc) (world : ServerWorld) : ServerWorld :=
  { world with data := { world.data with masters :=
      { world.data.masters with template := settingsOf templates } } }

def VersionWorld.site (world : VersionWorld) : TemplateSite :=
  ⟨world.templates, world.desk.data.requests.mapRows SigningRequest.signatureTemplate⟩

/-- The fork that a save makes, if it goes through. -/
def forkOf (site : TemplateSite) (name : String) (doc : TemplateDoc) (rejected : Bool) :
    List (String × String) :=
  match saveTemplate site name doc, site.templates.lookup name with
  | .ok _, some previous =>
      if rejected then []
      else ((doc.beforeSave site name previous).2.map fun fork => (name, fork.templateName)).toList
  | _, _ => []

variable (lib : Libraries)

/-- What `evaluateRules` would insert now. -/
def VersionWorld.inserts (world : VersionWorld) (evaluation : Evaluation) :
    Option (String × NewRequest) :=
  (evaluateRules lib world.desk.data world.desk.shared.now evaluation).request

def VersionWorld.created (world : VersionWorld) : DeskLabel → List Creation
  | .evaluateRules evaluation =>
      match evaluation.rules.find? (Rule.applies evaluation), world.inserts lib evaluation with
      | some rule, some (name, _) =>
          if rule.signatureTemplate.given then [⟨name, rule.signatureTemplate.show, world.forks⟩]
          else []
      | _, _ => []
  | _ => []

def versionStep (world : VersionWorld) : VersionLabel → Option VersionWorld
  | .desk label => (deskStep lib world.desk label).map fun desk =>
      { world with
        desk := withTemplates world.templates desk
        creations := world.created lib label ++ world.creations }
  | .insertTemplate doc rejected =>
      (templateStep world.site (.insert doc rejected)).map fun site =>
        { world with
          desk := withTemplates site.templates world.desk
          templates := site.templates }
  | .saveTemplate name doc rejected =>
      (templateStep world.site (.save name doc rejected)).map fun site =>
        { world with
          desk := withTemplates site.templates world.desk
          templates := site.templates
          forks := forkOf world.site name doc rejected ++ world.forks }

/-! ### Superseded templates -/

def VersionWorld.Active (world : VersionWorld) (template : String) : Prop :=
  ∃ doc, world.templates.lookup template = some doc ∧ doc.isActive = true

/-- The version is a fork of the template, or the template itself where it has none. -/
def Succeeds (forks : List (String × String)) (template version : String) : Prop :=
  (template, version) ∈ forks ∨ version = template ∧ ∀ later, (template, later) ∉ forks

/-- An `initiate` call that has selected the request is told the settings of a template. -/
def Loads (world : VersionWorld) (label : ServerLabel) (request : String)
    (settings : SignatureTemplate) : Prop :=
  ∃ index call name stamp arguments row,
    asking world.desk label = some (index, call, ⟨.getTemplate name, .ok settings, stamp⟩) ∧
    call.origin.endpoint = .initiate arguments ∧
    Answered call.trace (.findPending arguments.doctype arguments.docname) (some row) ∧
    row.name = request

/-- A request that a rule creates refers to an active template, and a signing of it is
prepared with the settings of the version that had succeeded the one the rule named. -/
def UsesCurrent (world : VersionWorld) : VersionLabel → Prop
  | .desk (.evaluateRules evaluation) =>
      ∀ name row template, world.inserts lib evaluation = some (name, row) →
        row.signatureTemplate = some template → template ≠ "" → world.Active template
  | .desk (.server label) =>
      ∀ settings, ∀ creation ∈ world.creations, Loads world label creation.request settings →
        ∀ version, Succeeds creation.forks creation.template version →
          settingsOf world.templates version = some settings
  | _ => True

/-- The document has no request of the rule yet. -/
def Unrequested (database : Database) (document : SourceDocument) (rule : Rule) : Prop :=
  ∀ name row, database.requests.lookup name = some row →
    row.belongsTo document.doctype document.name = true → row.rule ≠ some rule.name

/-- A rule that creates a request names an active template, and a forked template that is
loaded all the same has the settings of its forks. -/
def NamesCurrent (world : VersionWorld) : VersionLabel → Prop
  | .desk (.evaluateRules evaluation) =>
      ∀ rule template, evaluation.rules.find? (Rule.applies evaluation) = some rule →
        Unrequested world.desk.data evaluation.document rule →
        rule.signatureTemplate = some template → template ≠ "" → world.Active template
  | .desk (.server label) =>
      ∀ settings, ∀ creation ∈ world.creations, Loads world label creation.request settings →
        ∀ fork, (creation.template, fork) ∈ creation.forks →
          settingsOf world.templates fork = settingsOf world.templates creation.template
  | _ => True

variable {lib}

/-! ### What `initiate` loads -/

/-- When `initiate` asks for a request or a template. -/
def Loading (origin : Origin) (trace : ServerTrace) : Operation → Prop
  | .findPending .. => ∀ arguments, origin.endpoint = .initiate arguments → trace = []
  | .getTemplate name => ∀ arguments, origin.endpoint = .initiate arguments → ∃ row,
      Answered trace (.findPending arguments.doctype arguments.docname) (some row) ∧
      row.signatureTemplate = some name
  | _ => True

theorem loading_routine {origin : Origin} (trace : ServerTrace) (operation : Operation)
    (plain : Routine operation) : Loading origin trace operation := by
  cases operation with
  | findPending doctype docname => cases plain
  | getTemplate name => cases plain
  | _ => trivial

theorem loadUpload_routine (doctype docname : String) :
    (loadUpload doctype docname).Uses Routine :=
  loadUpload_uses doctype docname rfl (fun _ => rfl) rfl

section Walk

variable {ctx : Context} {arguments : InitiateArguments} {trace : ServerTrace}

theorem loadTemplate_loads {row : PendingRequest}
    (found : Answered trace (.findPending arguments.doctype arguments.docname) (some row)) :
    (loadTemplate row.signatureTemplate).Follows (Loading ⟨ctx, .initiate arguments⟩)
      (fun _ _ => True) trace := by
  cases named : row.signatureTemplate with
  | none => trivial
  | some name =>
      unfold loadTemplate
      split
      · refine ⟨?_, fun reply stamp => ?_⟩
        · intro other endpoint
          cases endpoint
          exact ⟨row, found, named⟩
        · cases reply <;> trivial
      · trivial

theorem preparePdfForSigning_loads (prepare : PrepareArguments)
    (trace : ServerTrace) :
    (preparePdfForSigning lib prepare).Follows (Loading ⟨ctx, .initiate arguments⟩)
      (fun _ _ => True) trace := by
  refine Uses.past (sourcePdf_routine prepare) loading_routine ?_ fun _ _ _ => trivial
  intro afterPdf pdf pdfLater
  refine Follows.perform trivial (fun settings settingsAt => ?_) fun _ _ => trivial
  refine Uses.past (buildStampText_routine _ _ _) loading_routine ?_ fun _ _ _ => trivial
  intro afterStamp stampText stampLater
  refine Follows.perform trivial (fun sessionId drawnAt => ?_) fun _ _ => trivial
  refine Follows.ofExcept (fun signerCert loaded => ?_) fun _ _ => trivial
  refine Follows.perform trivial (fun prepared preparedAt => ?_) fun _ _ => trivial
  refine Follows.perform trivial (fun signingTime signedAt => ?_) fun _ _ => trivial
  refine Follows.perform trivial (fun createdAt createdStamp => ?_) fun _ _ => trivial
  exact Follows.perform trivial (fun _ storedAt => trivial) fun _ _ => trivial

theorem initiate_loads (ctx : Context) (arguments : InitiateArguments) :
    (initiate lib ctx arguments).Follows (Loading ⟨ctx, .initiate arguments⟩) (fun _ _ => True)
      [] := by
  refine Follows.demand (fun _ => ?_) fun _ => trivial
  refine Follows.perform (fun _ _ => rfl) (fun found foundAt => ?_) fun _ _ => trivial
  refine Follows.ofOption (fun row taken => ?_) fun _ => trivial
  subst taken
  refine Uses.past (checkSigner_routine _ _) loading_routine ?_ fun _ _ _ => trivial
  intro afterSigner _ signerLater
  refine Follows.perform trivial (fun profile profileAt => ?_) fun _ _ => trivial
  refine Uses.past (checkProfile_routine _ _) loading_routine ?_ fun _ _ _ => trivial
  intro afterProfile _ profileLater
  refine Follows.perform trivial (fun settings settingsAt => ?_) fun _ _ => trivial
  refine Follows.demand (fun _ => ?_) fun _ => trivial
  refine Uses.past (geocode_routine _ _) loading_routine ?_ fun _ _ _ => trivial
  intro afterGeocode geocoded geocodeLater
  have still := signerLater.trans ((List.suffix_cons _ _).trans (profileLater.trans
    ((List.suffix_cons _ _).trans geocodeLater)))
  have found : Answered afterGeocode (.findPending arguments.doctype arguments.docname)
      (some row) := Answered.head.mono still
  refine Follows.bind (loadTemplate_loads found) ?_ fun _ _ _ _ => trivial
  intro afterTemplate sigTemplate templateLater _
  refine Uses.past (loadUpload_routine _ _) loading_routine ?_ fun _ _ _ => trivial
  intro afterUpload upload uploadLater
  refine Uses.past (choosePrintFormat_routine _ _ _) loading_routine ?_ fun _ _ _ => trivial
  intro beforeStart printFormat formatLater
  refine Follows.ofExcept (fun location located => ?_) fun _ _ => trivial
  refine Follows.perform trivial (fun _ startedAt => ?_) fun _ _ => trivial
  refine Uses.past (runDevHooks_routine _ _) loading_routine ?_ fun _ _ _ => trivial
  intro afterHooks _ hooksLater
  refine Follows.ofExcept (fun certDer decoded => ?_) fun _ _ => trivial
  refine Follows.demand (fun _ => ?_) fun _ => trivial
  refine Follows.bind (preparePdfForSigning_loads _ afterHooks) ?_ fun _ _ _ _ => trivial
  intro afterPrepare result prepareLater _
  refine Follows.perform trivial (fun _ hashedAt => ?_) fun _ _ => trivial
  refine Uses.past (logPrepared_routine _ _ _ _ _ _) loading_routine ?_ fun _ _ _ => trivial
  intro afterLog _ _
  exact ((authorise_routine _ _ _ _ _).follows afterLog loading_routine).weaken
    fun _ _ _ _ => trivial

end Walk

theorem body_loads (origin : Origin) :
    (body lib origin).Follows (Loading origin) (fun _ _ => True) [] := by
  by_cases initiates : ∃ arguments, origin.endpoint = .initiate arguments
  · obtain ⟨ctx, endpoint⟩ := origin
    obtain ⟨arguments, rfl⟩ := initiates
    exact Follows.bind (initiate_loads ctx arguments) (fun _ _ _ _ => trivial) fun _ _ _ _ => trivial
  · refine Follows.always fun later operation _ => ?_
    cases operation with
    | findPending doctype docname =>
        exact fun arguments endpoint => absurd ⟨arguments, endpoint⟩ initiates
    | getTemplate name =>
        exact fun arguments endpoint => absurd ⟨arguments, endpoint⟩ initiates
    | _ => trivial

/-! ### What a request refers to -/

def RefersTo (database : Database) (name : String) (template : Text) : Prop :=
  ∃ row, database.requests.lookup name = some row ∧ row.signatureTemplate = template

theorem RefersTo.same {database : Database} {name : String} {template other : Text}
    (one : RefersTo database name template) (second : RefersTo database name other) :
    template = other := by
  obtain ⟨row, found, rfl⟩ := one
  obtain ⟨again, foundAgain, rfl⟩ := second
  rw [found] at foundAgain
  cases foundAgain
  rfl

theorem refersTo_view {database : Database} {writes : List Write} {name : String} {template : Text} :
    RefersTo (site.view database writes) name template ↔ RefersTo database name template :=
  lasting_view fun lasting => lasting.signatureTemplate = template

theorem refersTo_step {world next : ServerWorld} {label : ServerLabel}
    (stepped : step (body lib) world label = some next) {name : String} {template : Text}
    (refers : RefersTo world.data name template) : RefersTo next.data name template :=
  lasting_step (fun lasting => lasting.signatureTemplate = template) stepped refers

theorem refersTo_desk {world next : ServerWorld} {label : DeskLabel}
    (stepped : deskStep lib world label = some next) {name : String} {template : Text}
    (refers : RefersTo world.data name template) : RefersTo next.data name template :=
  desk_preserves (fun _ _ _ holds stepped => refersTo_step stepped holds)
    (fun _ _ holds => holds) refers stepped

/-- What calls were told of pending requests is so, and they load what they were told. -/
structure Informed (world : ServerWorld) : Prop where
  disciplined : world.Disciplined Loading fun _ _ _ => True
  told : ∀ index doctype docname row stamp,
    world.Asked index ⟨.findPending doctype docname, .ok (some row), stamp⟩ →
      RefersTo world.data row.name row.signatureTemplate

theorem pending_refersTo {oracle : Oracle} {view : Database} {shared later : Shared}
    {doctype docname : String} {row : PendingRequest}
    (replied : reply oracle view shared (.findPending doctype docname) =
      some (.ok (some row), later)) : RefersTo view row.name row.signatureTemplate := by
  have answered := answer_of_reply replied
  simp only [answer, Option.some.injEq, Prod.mk.injEq, Except.ok.injEq,
    Option.map_eq_some_iff] at answered
  obtain ⟨⟨entry, there, same⟩, -⟩ := answered
  rw [← same]
  exact ⟨entry.2, (Table.mem_select.mp (List.mem_of_getElem? there)).1, rfl⟩

theorem informed_step {world next : ServerWorld} {label : ServerLabel} (informed : Informed world)
    (stepped : step (body lib) world label = some next) : Informed next where
  disciplined := disciplined_step (body lib) body_loads informed.disciplined stepped
  told := by
    intro index doctype docname row stamp asked
    refine refersTo_step stepped ?_
    rcases asked_step (body lib) stepped asked with old | ⟨call, found⟩
    · exact informed.told index doctype docname row stamp old
    · obtain ⟨oracle, replied⟩ := asking_shared (body lib) stepped found
      exact refersTo_view.mp (pending_refersTo replied)

theorem informed_desk {world next : ServerWorld} {label : DeskLabel} (informed : Informed world)
    (stepped : deskStep lib world label = some next) : Informed next :=
  desk_preserves (fun _ _ _ holds stepped => informed_step holds stepped)
    (fun _ _ holds => ⟨holds.disciplined, holds.told⟩) informed stepped

/-- A call that has selected the request loads the template it refers to. -/
theorem loads_stored {world : ServerWorld} (informed : Informed world) {label : ServerLabel}
    {index : Nat} {call : ServerCall} {name : String} {settings : SignatureTemplate}
    {stamp : Instant} {arguments : InitiateArguments} {row : PendingRequest}
    (asks : asking world label = some (index, call, ⟨.getTemplate name, .ok settings, stamp⟩))
    (initiates : call.origin.endpoint = .initiate arguments)
    (found : Answered call.trace (.findPending arguments.doctype arguments.docname) (some row)) :
    RefersTo world.data row.name (some name) ∧ world.data.masters.template name = some settings := by
  obtain ⟨located, -, -, oracle, shared, -, replied⟩ := asking_located asks
  obtain ⟨foundAt, member⟩ := found
  constructor
  · obtain ⟨other, ⟨otherAt, selected⟩, named⟩ :=
      disciplined_asking informed.disciplined asks arguments initiates
    -- Both rows come from the first question of the call.
    have honours := disciplined_running informed.disciplined located
    have first {selection : Option PendingRequest} {stamp : Instant} (member :
        (⟨.findPending arguments.doctype arguments.docname, .ok selection, stamp⟩ : ServerEvent) ∈
          call.trace) :
        [(⟨.findPending arguments.doctype arguments.docname, .ok selection, stamp⟩ : ServerEvent)] <:+
          call.trace := by
      obtain ⟨earlier, suffix, only⟩ := honours.of_mem member
      rw [only arguments initiates] at suffix
      exact suffix
    have within := List.suffix_of_suffix_length_le (first selected) (first member) (by simp)
    have same := within.eq_of_length (by simp)
    cases same
    rw [← named]
    exact informed.told index _ _ _ _ ⟨call, located, member⟩
  · have answered := answer_of_reply replied
    obtain ⟨changed, masters⟩ := view_masters world.data (site.pending call.trace)
    simp only [answer, Option.some.injEq, Prod.mk.injEq] at answered
    rw [masters] at answered
    cases stored : world.data.masters.template name with
    | none =>
        rw [stored] at answered
        cases answered.1
    | some row =>
        rw [stored] at answered
        cases answered.1
        rfl

/-! ### What rules create -/

section Creating

variable {database : Database} {now : Instant} {evaluation : Evaluation} {rule : Rule}

theorem unrequested_iff : Unrequested database evaluation.document rule ↔
    database.requests.select (fun row =>
      row.belongsTo evaluation.document.doctype evaluation.document.name &&
        row.rule == some rule.name) = [] := by
  rw [List.eq_nil_iff_forall_not_mem]
  constructor
  · rintro unrequested ⟨name, row⟩ member
    obtain ⟨found, fits⟩ := Table.mem_select.mp member
    simp only [Bool.and_eq_true, beq_iff_eq] at fits
    exact unrequested name row found fits.1 fits.2
  · intro none_ name row found belongs ruled
    refine none_ (name, row) (Table.mem_select.mpr ⟨found, ?_⟩)
    simp only [belongs, ruled, beq_self_eq_true, Bool.and_self]

/-- The first rule that applies creates a request where the document has none of it. -/
theorem evaluate_creates (first : evaluation.rules.find? (Rule.applies evaluation) = some rule)
    (unrequested : Unrequested database evaluation.document rule) :
    ∃ row, (evaluateRules lib database now evaluation).request = some (evaluation.requestName, row) ∧
      row.signatureTemplate = rule.signatureTemplate := by
  simp only [evaluateRules, first, createSigningRequest, unrequested_iff.mp unrequested,
    List.getElem?_nil]
  exact ⟨_, rfl, rfl⟩

theorem evaluate_created {name : String} {row : NewRequest}
    (inserts : (evaluateRules lib database now evaluation).request = some (name, row)) :
    ∃ rule, evaluation.rules.find? (Rule.applies evaluation) = some rule ∧
      Unrequested database evaluation.document rule ∧
      row.signatureTemplate = rule.signatureTemplate := by
  cases first : evaluation.rules.find? (Rule.applies evaluation) with
  | none =>
      simp only [evaluateRules, first] at inserts
      cases inserts
  | some rule =>
      by_cases unrequested : Unrequested database evaluation.document rule
      · obtain ⟨other, same, named⟩ := @evaluate_creates lib database now _ _ first unrequested
        rw [inserts] at same
        cases same
        exact ⟨rule, rfl, unrequested, named⟩
      · rw [unrequested_iff] at unrequested
        have inside := Nat.mod_lt evaluation.pick (List.length_pos_iff.mpr unrequested)
        simp only [evaluateRules, first, createSigningRequest, List.getElem?_eq_getElem inside]
          at inserts
        cases inserts

end Creating

/-! ### The invariant -/

/-- The server finds the templates, tells calls the truth, and the requests that rules
created refer to the templates that the rules named. -/
structure Coherent (world : VersionWorld) : Prop where
  stored : world.desk.data.masters.template = settingsOf world.templates
  informed : Informed world.desk
  created : ∀ creation ∈ world.creations,
    RefersTo world.desk.data creation.request (some creation.template)

theorem informed_templates {world : ServerWorld} (templates : Table String TemplateDoc)
    (informed : Informed world) : Informed (withTemplates templates world) :=
  ⟨informed.disciplined, informed.told⟩

theorem created_refersTo {world : VersionWorld} {label : DeskLabel} {next : ServerWorld}
    (stepped : deskStep lib world.desk label = some next) {creation : Creation}
    (member : creation ∈ world.created lib label) :
    RefersTo next.data creation.request (some creation.template) := by
  cases label with
  | server label => cases member
  | saveDocument user name requestName form => cases member
  | evaluateRules evaluation =>
      simp only [VersionWorld.created] at member
      split at member
      · rename_i rule name row first inserts
        split at member
        · rename_i given
          cases List.mem_singleton.mp member
          obtain ⟨other, again, -, named⟩ := evaluate_created inserts
          rw [first] at again
          cases again
          obtain ⟨-, data, -⟩ := evaluate_cases stepped
          unfold VersionWorld.inserts at inserts
          rw [data, inserts]
          refine ⟨_, AList.lookup_insert _, named.trans ?_⟩
          cases template : rule.signatureTemplate with
          | none =>
              rw [template] at given
              cases given
          | some template => rfl
        · cases member
      · cases member

theorem coherent_step {world next : VersionWorld} {label : VersionLabel} (coherent : Coherent world)
    (stepped : versionStep lib world label = some next) : Coherent next := by
  cases label with
  | desk label =>
      obtain ⟨desk, served, same⟩ := Option.map_eq_some_iff.mp stepped
      subst same
      refine ⟨rfl, informed_templates _ (informed_desk coherent.informed served), ?_⟩
      intro creation member
      rcases List.mem_append.mp member with fresh | old
      · exact created_refersTo served fresh
      · exact refersTo_desk served (coherent.created creation old)
  | insertTemplate doc rejected =>
      obtain ⟨site, -, same⟩ := Option.map_eq_some_iff.mp stepped
      subst same
      exact ⟨rfl, informed_templates _ coherent.informed, coherent.created⟩
  | saveTemplate name doc rejected =>
      obtain ⟨site, -, same⟩ := Option.map_eq_some_iff.mp stepped
      subst same
      exact ⟨rfl, informed_templates _ coherent.informed, coherent.created⟩

/-! ### Superseded templates are used where rules name them -/

theorem loads_settings {world : VersionWorld} (coherent : Coherent world) {label : ServerLabel}
    {creation : Creation} {settings : SignatureTemplate} (member : creation ∈ world.creations)
    (loads : Loads world label creation.request settings) :
    settingsOf world.templates creation.template = some settings := by
  obtain ⟨index, call, name, stamp, arguments, row, asks, initiates, found, same⟩ := loads
  obtain ⟨refers, stored⟩ := loads_stored coherent.informed asks initiates found
  rw [same] at refers
  cases refers.same (coherent.created creation member)
  rw [← coherent.stored, stored]

theorem uses_iff_names {world : VersionWorld} (coherent : Coherent world) (label : VersionLabel) :
    UsesCurrent lib world label ↔ NamesCurrent world label := by
  cases label with
  | insertTemplate doc rejected => exact Iff.rfl
  | saveTemplate name doc rejected => exact Iff.rfl
  | desk label =>
      cases label with
      | saveDocument user name requestName form => exact Iff.rfl
      | evaluateRules evaluation =>
          constructor
          · intro uses rule template first unrequested names given
            obtain ⟨row, inserts, named⟩ := evaluate_creates first unrequested
            exact uses _ row template inserts (named.trans names) given
          · intro names name row template inserts named given
            obtain ⟨rule, first, unrequested, same⟩ := evaluate_created inserts
            exact names rule template first unrequested (same.symm.trans named) given
      | server label =>
          constructor
          · intro uses settings creation member loads fork forked
            rw [uses settings creation member loads fork (Or.inl forked),
              loads_settings coherent member loads]
          · intro names settings creation member loads version succeeds
            rcases succeeds with forked | ⟨same, -⟩
            · rw [names settings creation member loads version forked,
                loads_settings coherent member loads]
            · rw [same, loads_settings coherent member loads]

/-- A site that has made no calls, with its templates. -/
structure JustOpened (world : VersionWorld) : Prop where
  stored : world.desk.data.masters.template = settingsOf world.templates
  idle : world.desk.calls = []
  unforked : world.forks = []
  uncreated : world.creations = []

theorem JustOpened.coherent {world : VersionWorld} (opened : JustOpened world) : Coherent world where
  stored := opened.stored
  informed :=
    { disciplined := by
        intro index call located
        rw [opened.idle] at located
        cases located
      told := by
        rintro index doctype docname row stamp ⟨call, located, -⟩
        rw [opened.idle] at located
        cases located }
  created := by
    intro creation member
    rw [opened.uncreated] at member
    cases member

/-- New requests use active templates, and signings their latest versions, exactly where
the rules that create them name these. -/
theorem superseded_unused_iff {start : VersionWorld} {labels : List VersionLabel}
    (opened : JustOpened start) :
    Runs.Along (versionStep lib) (UsesCurrent lib) start labels ↔
      Runs.Along (versionStep lib) NamesCurrent start labels :=
  Runs.along_congr (fun _ _ _ coherent stepped => coherent_step coherent stepped)
    (fun _ label coherent => uses_iff_names coherent label) opened.coherent

/-! ### An edit of a template that a request uses -/

def letterOffice : VersionWorld :=
  let templates : Table String TemplateDoc := (∅ : AList _).insert "Letter" letterTemplate
  { desk := withTemplates templates sampleSite
    templates := templates
    forks := []
    creations := [] }

theorem letterOffice_opened : JustOpened letterOffice := ⟨rfl, rfl, rfl, rfl⟩

/-- A document is submitted under a rule that names the template. -/
def letterEvaluation (docname requestName template : String) : Evaluation :=
  { ctx := sampleUser "alice"
    triggerEvent := "on_submit"
    document := ⟨"Sales Invoice", docname, none, none⟩
    rules := [⟨"R-1", none, none, 10, "P-1", some template⟩]
    conditions := fun _ => true
    pick := 0
    requestName := requestName }

def letterSubmitted (docname requestName template : String) : VersionLabel :=
  .desk (.evaluateRules (letterEvaluation docname requestName template))

/-- The template is used, and then its rows are put in another order. -/
def letterEdited : List VersionLabel :=
  [letterSubmitted "INV-1" "SR-1" "Letter",
    .saveTemplate "Letter" { letterTemplate with fields := letterTemplate.fields.reverse } false]

def namesCheck (world : VersionWorld) : VersionLabel → Bool
  | .desk (.evaluateRules evaluation) =>
      evaluation.rules.all fun rule => rule.signatureTemplate.all fun template =>
        (world.templates.lookup template).any TemplateDoc.isActive
  | .desk (.server _) =>
      world.creations.all fun creation => creation.forks.all fun fork => fork.1 != creation.template
  | _ => true

theorem namesCheck_sound (world : VersionWorld) (label : VersionLabel)
    (checked : namesCheck world label = true) : NamesCurrent world label := by
  cases label with
  | insertTemplate doc rejected => trivial
  | saveTemplate name doc rejected => trivial
  | desk label =>
      cases label with
      | saveDocument user name requestName form => trivial
      | evaluateRules evaluation =>
          intro rule template first _ names _
          have active := List.all_eq_true.mp checked rule (List.mem_of_find?_eq_some first)
          rw [names, Option.all_some] at active
          obtain ⟨doc, found, isActive⟩ := (Option.any_eq_true _ _).mp active
          exact ⟨doc, found, isActive⟩
      | server label =>
          intro settings creation member _ fork forked
          have others := List.all_eq_true.mp (List.all_eq_true.mp checked creation member) _ forked
          simp at others

/-- The rule is turned to the fork, and a signing under it loads the fork. -/
def letterTurned : List VersionLabel :=
  letterEdited ++ letterSubmitted "INV-2" "SR-2" "Letter v2" ::
    (Label.start ⟨sampleUser "alice", .initiate { sampleInitiate with docname := "INV-2" }⟩ ::
      asks 0 4 Oracle.plain).map fun label => .desk (.server label)

theorem superseded_unused_sample :
    Runs.Along (versionStep sampleLibraries) (UsesCurrent sampleLibraries) letterOffice
      letterTurned := by
  have names : Runs.Along (versionStep sampleLibraries) NamesCurrent letterOffice letterTurned :=
    Runs.along_of_check namesCheck_sound (by decide +kernel)
  exact (superseded_unused_iff letterOffice_opened).mpr names

/-- The rule still names the letter itself: the next request refers to the inactive template. -/
theorem superseded_still_used :
    JustOpened letterOffice ∧
      ¬ Runs.Along (versionStep sampleLibraries) (UsesCurrent sampleLibraries) letterOffice
        (letterEdited ++ [letterSubmitted "INV-2" "SR-2" "Letter"]) := by
  refine ⟨letterOffice_opened, fun along => ?_⟩
  obtain ⟨-, rest⟩ := Runs.along_append along
  have inactive : (Runs.run (versionStep sampleLibraries) letterOffice letterEdited).map
      (fun world => (world.templates.lookup "Letter").map TemplateDoc.isActive) =
        some (some false) := by decide +kernel
  obtain ⟨world, ran, stored⟩ := Option.map_eq_some_iff.mp inactive
  have requested : (Runs.run (versionStep sampleLibraries) letterOffice letterEdited).map
      (fun world => (world.inserts sampleLibraries (letterEvaluation "INV-2" "SR-2" "Letter")).map
        fun entry => entry.2.signatureTemplate) = some (some (some "Letter")) := by decide +kernel
  rw [ran, Option.map_some, Option.some.injEq] at requested
  obtain ⟨⟨name, row⟩, inserts, named⟩ := Option.map_eq_some_iff.mp requested
  obtain ⟨doc, found, active⟩ := (rest world ran).1 name row "Letter" inserts named (by decide)
  rw [found] at stored
  cases active.symm.trans (Option.some.inj stored)

end DscSigning
