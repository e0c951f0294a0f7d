/-
Versions of DSC Signature Template.

A save of a template that a request refers to is compared with the stored
template.  If a versioned field or a row differs, the edit goes to a fork under
a new name, and the template itself is put back and made inactive.
-/

import DscSigning.Library.Runs
import DscSigning.Library.Table
import DscSigning.Primitives
import Mathlib.Logic.Function.Basic

namespace DscSigning

open Interaction

/-- A column of a document.  Python compares `True`, `1` and `1.0` as one number. -/
inductive ColumnValue where
  | none
  | text (value : String)
  | number (value : ℚ)
deriving DecidableEq

def ColumnValue.truthy : ColumnValue → Bool
  | .none => false
  | .text value => value != ""
  | .number value => value != 0

/-- `value or ""` -/
def ColumnValue.orEmpty (value : ColumnValue) : ColumnValue :=
  if value.truthy then value else .text ""

/-- DSC Signature Field -/
structure FieldRow where
  fieldName : ColumnValue
  pageNumber : ColumnValue
  x : ColumnValue
  y : ColumnValue
  width : ColumnValue
  height : ColumnValue
  assignedProfile : ColumnValue
deriving DecidableEq

/-- A DSC Signature Template document. -/
structure TemplateDoc where
  templateName : String
  version : Int
  isActive : Bool
  get : String → ColumnValue
  fields : List FieldRow

def TemplateDoc.set (doc : TemplateDoc) (field : String) (value : ColumnValue) : TemplateDoc :=
  { doc with get := Function.update doc.get field value }

/-- `_VERSIONED_FIELDS` -/
def versionedFields : List String :=
  ["target_doctype",
    "print_format",
    "stamp_show_signer_name",
    "stamp_show_designation",
    "stamp_show_digitally_signed_by",
    "stamp_show_timestamp",
    "stamp_timestamp_format",
    "stamp_show_reason",
    "stamp_show_location",
    "stamp_show_dn_cn",
    "stamp_include_signature_image",
    "stamp_include_seal_image",
    "stamp_font_family",
    "stamp_font_size",
    "stamp_border"]

/-- The templates, and the `signature_template` of every request. -/
structure TemplateSite where
  templates : Table String TemplateDoc
  requests : Table String Text

/-! ### DSCSignatureTemplate -/

/-- `_has_signing_history` -/
def hasSigningHistory (site : TemplateSite) (name : String) : Bool :=
  !(site.requests.select fun signatureTemplate => signatureTemplate == some name).isEmpty

/-- `_versioned_fields_changed` -/
def TemplateDoc.versionedFieldsChanged (self previous : TemplateDoc) : Bool :=
  versionedFields.any (fun field => (self.get field).orEmpty != (previous.get field).orEmpty) ||
    previous.fields != self.fields

/-- `_fork_new_version`, up to the insert -/
def TemplateDoc.forkNewVersion (self previous : TemplateDoc) : TemplateDoc :=
  let version := (if previous.version = 0 then 1 else previous.version) + 1
  versionedFields.foldl (fun newDoc field => newDoc.set field (self.get field))
    { templateName := s!"{previous.templateName} v{version}"
      version := version
      isActive := true
      get := fun _ => .none
      fields := self.fields }

/-- The document rolled back to its prior state and deactivated. -/
def TemplateDoc.rollBack (self previous : TemplateDoc) : TemplateDoc :=
  { versionedFields.foldl (fun doc field => doc.set field (previous.get field)) self with
    fields := previous.fields
    isActive := false }

/-- `before_save` of a stored document: what is saved, and the fork to insert before. -/
def TemplateDoc.beforeSave (self : TemplateDoc) (site : TemplateSite) (name : String)
    (previous : TemplateDoc) : TemplateDoc × Option TemplateDoc :=
  if !hasSigningHistory site name then (self, none)
  else if !self.versionedFieldsChanged previous then (self, none)
  else (self.rollBack previous, some (self.forkNewVersion previous))

/-- `doc.insert`, under the name of the template. -/
def insertTemplate (site : TemplateSite) (doc : TemplateDoc) : Except Exn TemplateSite :=
  match site.templates.lookup doc.templateName with
  | some _ => .error ⟨"DuplicateEntryError", doc.templateName⟩
  | none =>
      let stored := { doc with version := if doc.version = 0 then 1 else doc.version }
      .ok { site with templates := site.templates.insert doc.templateName stored }

def insertFork (site : TemplateSite) : Option TemplateDoc → Except Exn TemplateSite
  | some fork => insertTemplate site fork
  | none => .ok site

/-- `doc.save`; an exception undoes all of it. -/
def saveTemplate (site : TemplateSite) (name : String) (self : TemplateDoc) :
    Except Exn TemplateSite :=
  match site.templates.lookup name with
  | none => .error ⟨"DoesNotExistError", s!"DSC Signature Template {name} not found"⟩
  | some previous =>
      let saved := self.beforeSave site name previous
      (insertFork site saved.2).map fun site =>
        { site with templates := site.templates.insert name saved.1 }

/-! ### Runs -/

/-- One request to the site.  Frappe's own checks of a document may also reject it. -/
inductive TemplateLabel where
  | insert (doc : TemplateDoc) (rejected : Bool)
  | save (name : String) (doc : TemplateDoc) (rejected : Bool)
  | createRequest (name : String) (signatureTemplate : Text)
  | deleteRequest (name : String)

def templateStep (site : TemplateSite) : TemplateLabel → Option TemplateSite
  | .insert doc rejected =>
      match insertTemplate site doc with
      | .ok later => some (if rejected then site else later)
      | .error _ => some site
  | .save name doc rejected =>
      match saveTemplate site name doc with
      | .ok later => some (if rejected then site else later)
      | .error _ => some site
  | .createRequest name signatureTemplate =>
      some { site with requests := site.requests.insert name signatureTemplate }
  | .deleteRequest name => some { site with requests := site.requests.erase name }

/-- A request refers to the template. -/
def InUse (site : TemplateSite) (name : String) : Prop :=
  ∃ request, site.requests.lookup request = some (some name)

/-- The same versioned fields, with unset, empty and 0 taken as one, and the same rows. -/
structure SameVersion (before after : TemplateDoc) : Prop where
  fields : ∀ field ∈ versionedFields, (after.get field).orEmpty = (before.get field).orEmpty
  rows : after.fields = before.fields

/-! ### The rollback -/

theorem SameVersion.refl (doc : TemplateDoc) : SameVersion doc doc := ⟨fun _ _ => rfl, rfl⟩

theorem SameVersion.trans {first second third : TemplateDoc} (before : SameVersion first second)
    (after : SameVersion second third) : SameVersion first third :=
  ⟨fun field member => (after.fields field member).trans (before.fields field member),
    after.rows.trans before.rows⟩

theorem hasSigningHistory_iff {site : TemplateSite} {name : String} :
    hasSigningHistory site name = true ↔ InUse site name := by
  simp only [hasSigningHistory, Bool.not_eq_true', InUse]
  constructor
  · intro some_request
    obtain ⟨⟨request, used⟩, member⟩ := List.isEmpty_eq_false_iff_exists_mem.mp some_request
    obtain ⟨found, same⟩ := Table.mem_select.mp member
    exact ⟨request, by rw [found, beq_iff_eq.mp same]⟩
  · rintro ⟨request, found⟩
    exact List.isEmpty_eq_false_iff_exists_mem.mpr
      ⟨(request, some name), Table.mem_select.mpr ⟨found, by simp⟩⟩

theorem foldl_set_get (names : List String) (doc previous : TemplateDoc) (field : String) :
    (names.foldl (fun doc field => doc.set field (previous.get field)) doc).get field =
      if field ∈ names then previous.get field else doc.get field := by
  induction names generalizing doc with
  | nil => simp
  | cons head rest ih =>
      rw [List.foldl_cons, ih]
      by_cases later : field ∈ rest
      · rw [if_pos later, if_pos (List.mem_cons_of_mem head later)]
      · rw [if_neg later]
        by_cases same : field = head
        · subst same
          simp [TemplateDoc.set]
        · rw [if_neg (by simp [same, later])]
          simp [TemplateDoc.set, same]

theorem rollBack_same (self previous : TemplateDoc) : SameVersion previous (self.rollBack previous) := by
  refine ⟨fun field member => ?_, rfl⟩
  simp only [TemplateDoc.rollBack, foldl_set_get, if_pos member]

/-- An edit that is not detected changes nothing that is versioned. -/
theorem unchanged_same {self previous : TemplateDoc}
    (unchanged : self.versionedFieldsChanged previous = false) : SameVersion previous self := by
  simp only [TemplateDoc.versionedFieldsChanged, Bool.or_eq_false_iff, List.any_eq_false, bne_iff_ne,
    ne_eq, Decidable.not_not, bne_eq_false_iff_eq] at unchanged
  exact ⟨unchanged.1, unchanged.2.symm⟩

/-- What no assignment of a field changes is kept by all of them. -/
theorem foldl_set_keeps {Value : Type} (read : TemplateDoc → Value)
    (keeps : ∀ doc field value, read (doc.set field value) = read doc) (names : List String)
    (doc previous : TemplateDoc) :
    read (names.foldl (fun doc field => doc.set field (previous.get field)) doc) = read doc := by
  induction names generalizing doc with
  | nil => rfl
  | cons head rest ih =>
      rw [List.foldl_cons, ih]
      exact keeps doc head _

theorem forkNewVersion_fields (self previous : TemplateDoc) :
    (self.forkNewVersion previous).fields = self.fields :=
  foldl_set_keeps TemplateDoc.fields (fun _ _ _ => rfl) _ _ _

theorem fork_same (self previous : TemplateDoc) : SameVersion self (self.forkNewVersion previous) := by
  refine ⟨fun field member => ?_, ?_⟩
  · simp only [TemplateDoc.forkNewVersion, foldl_set_get, if_pos member]
  · exact (forkNewVersion_fields self previous).symm

theorem beforeSave_same {site : TemplateSite} {name : String} (self previous : TemplateDoc)
    (used : InUse site name) : SameVersion previous (self.beforeSave site name previous).1 := by
  unfold TemplateDoc.beforeSave
  rw [hasSigningHistory_iff.mpr used]
  cases changed : self.versionedFieldsChanged previous with
  | false => exact unchanged_same changed
  | true => exact rollBack_same self previous

/-! ### Steps -/

section Steps

variable {site later : TemplateSite} {name : String} {stored : TemplateDoc}

theorem insertTemplate_ok {doc : TemplateDoc} (inserted : insertTemplate site doc = .ok later) :
    site.templates.lookup doc.templateName = none ∧ later.requests = site.requests ∧
      ∃ row, later.templates = site.templates.insert doc.templateName row := by
  unfold insertTemplate at inserted
  split at inserted
  · cases inserted
  · rename_i absent
    cases inserted
    exact ⟨absent, rfl, _, rfl⟩

theorem insert_keeps {doc : TemplateDoc} (found : site.templates.lookup name = some stored)
    (inserted : insertTemplate site doc = .ok later) : later.templates.lookup name = some stored := by
  obtain ⟨absent, -, row, same⟩ := insertTemplate_ok inserted
  have other : name ≠ doc.templateName := by
    rintro rfl
    rw [absent] at found
    cases found
  rw [same, AList.lookup_insert_ne other, found]

/-- The fork goes in under another name than any that is there. -/
theorem insertFork_keeps {fork : Option TemplateDoc}
    (found : site.templates.lookup name = some stored) (forked : insertFork site fork = .ok later) :
    later.templates.lookup name = some stored := by
  cases fork with
  | some doc => exact insert_keeps found forked
  | none =>
      cases forked
      exact found

/-- A save of the template keeps its version, and a save of another one the template. -/
theorem save_keeps {saved : String} {doc : TemplateDoc} (used : InUse site name)
    (found : site.templates.lookup name = some stored)
    (done : saveTemplate site saved doc = .ok later) :
    ∃ after, later.templates.lookup name = some after ∧ SameVersion stored after := by
  unfold saveTemplate at done
  cases present : site.templates.lookup saved with
  | none =>
      rw [present] at done
      cases done
  | some previous =>
      simp only [present] at done
      cases forked : insertFork site (doc.beforeSave site saved previous).2 with
      | error exn =>
          rw [forked] at done
          cases done
      | ok between =>
          rw [forked] at done
          cases done
          have kept := insertFork_keeps found forked
          by_cases own : name = saved
          · subst own
            rw [found] at present
            cases present
            exact ⟨_, AList.lookup_insert _, beforeSave_same doc stored used⟩
          · exact ⟨stored, (AList.lookup_insert_ne own).trans kept, SameVersion.refl stored⟩

/-- What is submitted is stored, as the template or as its fork. -/
theorem save_stores {doc : TemplateDoc} (done : saveTemplate site name doc = .ok later) :
    ∃ other row, later.templates.lookup other = some row ∧ SameVersion doc row := by
  unfold saveTemplate at done
  cases present : site.templates.lookup name with
  | none =>
      rw [present] at done
      cases done
  | some previous =>
      simp only [present, TemplateDoc.beforeSave] at done
      split at done
      · cases done
        exact ⟨name, doc, AList.lookup_insert _, SameVersion.refl doc⟩
      · split at done
        · cases done
          exact ⟨name, doc, AList.lookup_insert _, SameVersion.refl doc⟩
        · simp only [insertFork, insertTemplate] at done
          split at done
          · cases done
          · rename_i absent
            cases done
            have other : (doc.forkNewVersion previous).templateName ≠ name := by
              intro same
              rw [same, present] at absent
              cases absent
            have forked := fork_same doc previous
            exact ⟨(doc.forkNewVersion previous).templateName, _,
              (AList.lookup_insert_ne other).trans (AList.lookup_insert _), forked.fields, forked.rows⟩

theorem template_step {label : TemplateLabel} (used : InUse site name)
    (found : site.templates.lookup name = some stored)
    (stepped : templateStep site label = some later) :
    ∃ after, later.templates.lookup name = some after ∧ SameVersion stored after := by
  have unchanged : ∃ after, site.templates.lookup name = some after ∧ SameVersion stored after :=
    ⟨stored, found, SameVersion.refl stored⟩
  cases label with
  | insert doc rejected =>
      simp only [templateStep] at stepped
      split at stepped
      · rename_i inserts inserted
        cases rejected with
        | true =>
            cases stepped
            exact unchanged
        | false =>
            cases stepped
            exact ⟨stored, insert_keeps found inserted, SameVersion.refl stored⟩
      · cases stepped
        exact unchanged
  | save saved doc rejected =>
      simp only [templateStep] at stepped
      split at stepped
      · rename_i saves done
        cases rejected with
        | true =>
            cases stepped
            exact unchanged
        | false =>
            cases stepped
            exact save_keeps used found done
      · cases stepped
        exact unchanged
  | createRequest request signatureTemplate =>
      cases stepped
      exact unchanged
  | deleteRequest request =>
      cases stepped
      exact unchanged

end Steps

/-- As long as a request refers to a template, its versioned fields and its rows stay. -/
theorem template_immutable {start last : TemplateSite} {labels : List TemplateLabel} {name : String}
    {before : TemplateDoc} (found : start.templates.lookup name = some before)
    (used : Runs.Along templateStep (fun site _ => InUse site name) start labels)
    (ran : Runs.run templateStep start labels = some last) :
    ∃ after, last.templates.lookup name = some after ∧ SameVersion before after := by
  have preserved (site : TemplateSite) (label : TemplateLabel) (later : TemplateSite)
      (kept : ∃ after, site.templates.lookup name = some after ∧ SameVersion before after)
      (used : InUse site name) (stepped : templateStep site label = some later) :
      ∃ after, later.templates.lookup name = some after ∧ SameVersion before after := by
    obtain ⟨stored, found, same⟩ := kept
    obtain ⟨after, there, step⟩ := template_step used found stepped
    exact ⟨after, there, same.trans step⟩
  exact @Runs.run_invariant _ _ templateStep _
    (fun site => ∃ after, site.templates.lookup name = some after ∧ SameVersion before after)
    preserved _ _ _ ⟨before, found, SameVersion.refl before⟩ used ran

/-! ### A template with two rows -/

def sampleRow (name : String) (x : ℚ) : FieldRow :=
  ⟨.text name, .number 1, .number x, .number 60, .number 200, .number 80, .none⟩

def letterTemplate : TemplateDoc :=
  { templateName := "Letter"
    version := 1
    isActive := true
    get := fun field => if field = "print_format" then .text "Standard" else .none
    fields := [sampleRow "primary" 350, sampleRow "second" 50] }

/-- A request refers to the template. -/
def letterSite : TemplateSite :=
  ⟨(∅ : AList _).insert "Letter" letterTemplate, (∅ : AList _).insert "SR-1" (some "Letter")⟩

/-- An edit that puts an empty text for nothing, one that swaps the rows, and one
that changes the print format and removes a row. -/
def letterEdits : List TemplateLabel :=
  [.save "Letter" (letterTemplate.set "stamp_font_family" (.text "")) false,
    .save "Letter" { letterTemplate with fields := letterTemplate.fields.reverse } false,
    .createRequest "SR-2" (some "Letter"),
    .save "Letter" { letterTemplate.set "print_format" (.text "Plain") with
      fields := [sampleRow "primary" 350] } false]

/-- The template stays, the second edit is its fork, and the third finds the name taken. -/
theorem template_immutable_sample :
    ∃ last after, Runs.run templateStep letterSite letterEdits = some last ∧
      last.templates.lookup "Letter" = some after ∧ SameVersion letterTemplate after ∧
      (last.templates.lookup "Letter v2").map TemplateDoc.fields =
        some letterTemplate.fields.reverse := by
  have ends : (Runs.run templateStep letterSite letterEdits).map (fun last =>
      (last.templates.lookup "Letter v2").map TemplateDoc.fields) =
        some (some letterTemplate.fields.reverse) := by decide +kernel
  obtain ⟨last, ran, forked⟩ := Option.map_eq_some_iff.mp ends
  have used : Runs.Along templateStep (fun site _ => InUse site "Letter") letterSite letterEdits :=
    @Runs.along_of_check _ _ templateStep _ (fun site _ => hasSigningHistory site "Letter")
      (fun _ _ checked => hasSigningHistory_iff.mp checked) _ _ (by decide +kernel)
  obtain ⟨after, found, same⟩ :=
    template_immutable (AList.lookup_insert _ : letterSite.templates.lookup "Letter" =
      some letterTemplate) used ran
  exact ⟨last, after, ran, found, same, forked⟩

end DscSigning
