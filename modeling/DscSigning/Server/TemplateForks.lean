/-
The names of forks.

A fork is named after the stored template's name and version alone, and the
template it is taken from stays there with both.  A save that forks goes through
exactly when no template has that name yet.
-/

import DscSigning.Server.TemplateVersions
import Mathlib.Data.List.Nodup

namespace DscSigning

open Interaction

/-! ### Editions -/

/-- What the name of a fork is made of: a template name, and a version with 0 as 1. -/
structure Edition where
  templateName : String
  version : Int
deriving DecidableEq

def TemplateDoc.edition (doc : TemplateDoc) : Edition :=
  ⟨doc.templateName, if doc.version = 0 then 1 else doc.version⟩

def Edition.forkName (edition : Edition) : String :=
  s!"{edition.templateName} v{edition.version + 1}"

theorem forkNewVersion_name (self previous : TemplateDoc) :
    (self.forkNewVersion previous).templateName = previous.edition.forkName :=
  foldl_set_keeps TemplateDoc.templateName (fun _ _ _ => rfl) _ _ _

theorem forkNewVersion_active (self previous : TemplateDoc) :
    (self.forkNewVersion previous).isActive = true :=
  foldl_set_keeps TemplateDoc.isActive (fun _ _ _ => rfl) _ _ _

theorem int_text_no_v (number : Int) : 'v' ∉ (toString number).toList := by
  have digits (count : Nat) : 'v' ∉ (Nat.repr count).toList := by
    intro member
    rw [Nat.toList_repr] at member
    have digit := Nat.isDigit_of_mem_toDigits (by decide) (by decide) member
    revert digit
    decide
  rw [Int.toString_eq_repr, Int.repr_eq_if]
  split
  · exact digits number.toNat
  · intro member
    rw [String.toList_append] at member
    rcases List.mem_append.mp member with sign | digit
    · revert sign
      decide
    · exact digits _ digit

theorem split_at_last {Item : Type} {mark : Item} {before other after rest : List Item}
    (free : mark ∉ after) (freeToo : mark ∉ rest)
    (same : before ++ mark :: after = other ++ mark :: rest) : before = other ∧ after = rest := by
  rcases List.append_eq_append_iff.mp same with ⟨more, longer, tails⟩ | ⟨more, longer, tails⟩
  · cases more with
    | nil =>
        rw [List.append_nil] at longer
        cases tails
        exact ⟨longer.symm, rfl⟩
    | cons head more =>
        cases tails
        exact absurd (List.mem_append_right more (by simp)) free
  · cases more with
    | nil =>
        rw [List.append_nil] at longer
        cases tails
        exact ⟨longer, rfl⟩
    | cons head more =>
        cases tails
        exact absurd (List.mem_append_right more (by simp)) freeToo

theorem forkName_injective : Function.Injective Edition.forkName := by
  intro first second same
  have lists := congrArg String.toList same
  have ends : " v".toList = [' ', 'v'] := rfl
  have shape (edition : Edition) : edition.forkName.toList =
      (edition.templateName.toList ++ [' ']) ++ 'v' :: (toString (edition.version + 1)).toList := by
    change (edition.templateName ++ " v" ++ toString (edition.version + 1)).toList = _
    rw [String.toList_append, String.toList_append, ends]
    simp only [List.append_assoc, List.cons_append, List.nil_append]
  rw [shape, shape] at lists
  obtain ⟨names, versions⟩ := split_at_last (int_text_no_v _) (int_text_no_v _) lists
  have sameName : first.templateName = second.templateName :=
    String.toList_inj.mp (List.append_cancel_right names)
  have next := int_text_inj (String.toList_inj.mp versions)
  have sameVersion : first.version = second.version := by omega
  cases first
  cases second
  cases sameName
  cases sameVersion
  rfl

/-! ### Saves that fork -/

/-- Steps of the run: saves of versioned fields of templates in use, which Frappe's
own checks let through, and requests that come and go. -/
def ForkingSave (site : TemplateSite) : TemplateLabel → Prop
  | .insert _ _ => False
  | .save name doc rejected => rejected = false ∧ InUse site name ∧
      ∃ previous, site.templates.lookup name = some previous ∧
        doc.versionedFieldsChanged previous = true
  | .createRequest _ _ => True
  | .deleteRequest _ => True

/-- The save goes through, and the edits are an active template under a name that was free. -/
def Forks (site : TemplateSite) : TemplateLabel → Prop
  | .save name doc _ => ∃ later newName row, saveTemplate site name doc = .ok later ∧
      site.templates.lookup newName = none ∧ later.templates.lookup newName = some row ∧
      row.isActive = true ∧ (∀ field ∈ versionedFields, row.get field = doc.get field) ∧
      row.fields = doc.fields
  | _ => True

def forkedEdition (site : TemplateSite) : TemplateLabel → Option Edition
  | .save name _ _ => (site.templates.lookup name).map TemplateDoc.edition
  | _ => none

/-- The editions that the saves of a run start from. -/
def editions (site : TemplateSite) : List TemplateLabel → List Edition
  | [] => []
  | label :: rest => (forkedEdition site label).toList ++
      ((templateStep site label).map fun next => editions next rest).getD []

section Save

variable {site : TemplateSite} {name : String} {doc previous : TemplateDoc}

theorem save_forks (used : InUse site name) (found : site.templates.lookup name = some previous)
    (changed : doc.versionedFieldsChanged previous = true) :
    saveTemplate site name doc =
      (insertTemplate site (doc.forkNewVersion previous)).map fun between =>
        { between with templates := between.templates.insert name (doc.rollBack previous) } := by
  simp only [saveTemplate, found, TemplateDoc.beforeSave, hasSigningHistory_iff.mpr used, changed,
    Bool.not_true, Bool.false_eq_true, if_false, insertFork]

theorem save_taken (used : InUse site name) (found : site.templates.lookup name = some previous)
    (changed : doc.versionedFieldsChanged previous = true)
    (taken : site.templates.lookup previous.edition.forkName ≠ none) :
    ∃ exn, saveTemplate site name doc = .error exn := by
  obtain ⟨other, there⟩ := Option.ne_none_iff_exists'.mp taken
  rw [← forkNewVersion_name doc previous] at there
  rw [save_forks used found changed, insertTemplate, there]
  exact ⟨_, rfl⟩

/-- With the name free, the fork is there after the save, and besides it no other name. -/
theorem save_free (used : InUse site name) (found : site.templates.lookup name = some previous)
    (changed : doc.versionedFieldsChanged previous = true)
    (free : site.templates.lookup previous.edition.forkName = none) :
    ∃ later row, saveTemplate site name doc = .ok later ∧
      later.templates.lookup previous.edition.forkName = some row ∧ row.isActive = true ∧
      (∀ field ∈ versionedFields, row.get field = doc.get field) ∧ row.fields = doc.fields ∧
      ∀ other, later.templates.lookup other = none ↔
        other ≠ previous.edition.forkName ∧ site.templates.lookup other = none := by
  rw [← forkNewVersion_name doc previous] at free ⊢
  have apart : (doc.forkNewVersion previous).templateName ≠ name := by
    intro same
    rw [same, found] at free
    cases free
  rw [save_forks used found changed, insertTemplate, free]
  refine ⟨_, _, rfl, (AList.lookup_insert_ne apart).trans (AList.lookup_insert _), ?_, ?_, ?_, ?_⟩
  · exact forkNewVersion_active doc previous
  · intro field member
    simp only [TemplateDoc.forkNewVersion, foldl_set_get, if_pos member]
  · exact forkNewVersion_fields doc previous
  · intro other
    by_cases own : other = name
    · subst own
      simp [found]
    · rw [AList.lookup_insert_ne own]
      by_cases fork : other = (doc.forkNewVersion previous).templateName
      · subst fork
        simp
      · rw [AList.lookup_insert_ne fork]
        simp [fork]

theorem forks_iff_free (used : InUse site name) (found : site.templates.lookup name = some previous)
    (changed : doc.versionedFieldsChanged previous = true) (rejected : Bool) :
    Forks site (.save name doc rejected) ↔
      site.templates.lookup previous.edition.forkName = none := by
  constructor
  · rintro ⟨later, newName, row, saved, -⟩
    by_contra taken
    obtain ⟨exn, failed⟩ := save_taken used found changed taken
    rw [failed] at saved
    cases saved
  · intro free
    obtain ⟨later, row, saved, there, active, fields, rows, -⟩ := save_free used found changed free
    exact ⟨later, _, row, saved, free, there, active, fields, rows⟩

/-- Adding an edition in front of those of the rest of a run. -/
theorem cons_free {later : TemplateSite} {edition : Edition} {rest : List Edition}
    (free : site.templates.lookup edition.forkName = none)
    (names : ∀ other, later.templates.lookup other = none ↔
      other ≠ edition.forkName ∧ site.templates.lookup other = none) :
    ((rest.map Edition.forkName).Nodup ∧
        ∀ next ∈ rest, later.templates.lookup next.forkName = none) ↔
      ((edition :: rest).map Edition.forkName).Nodup ∧
        ∀ next ∈ edition :: rest, site.templates.lookup next.forkName = none := by
  rw [List.map_cons, List.nodup_cons]
  constructor
  · rintro ⟨distinct, absent⟩
    refine ⟨⟨?_, distinct⟩, ?_⟩
    · intro member
      obtain ⟨next, there, same⟩ := List.mem_map.mp member
      exact ((names _).mp (absent next there)).1 same
    · intro next member
      rcases List.mem_cons.mp member with rfl | member
      · exact free
      · exact ((names _).mp (absent next member)).2
  · rintro ⟨⟨apart, distinct⟩, absent⟩
    refine ⟨distinct, fun next member => (names _).mpr ⟨?_, ?_⟩⟩
    · intro same
      exact apart (List.mem_map.mpr ⟨next, member, same⟩)
    · exact absent next (List.mem_cons_of_mem _ member)

/-- After a save under a free name, the rest of the run decides. -/
theorem along_save {next : TemplateSite} {rest : List TemplateLabel}
    (forked : Forks site (.save name doc false))
    (stepped : templateStep site (.save name doc false) = some next) :
    Runs.Along templateStep Forks site (.save name doc false :: rest) ↔
      Runs.Along templateStep Forks next rest := by
  constructor
  · intro along
    exact along.2 next stepped
  · intro along
    refine ⟨forked, fun other again => ?_⟩
    rw [stepped] at again
    cases again
    exact along

end Save

/-- Along a run, the names stay free exactly when the forks have different names and
none of them is there at the start. -/
theorem forks_along {start : TemplateSite} {labels : List TemplateLabel}
    (forking : Runs.Along templateStep ForkingSave start labels) :
    Runs.Along templateStep Forks start labels ↔
      ((editions start labels).map Edition.forkName).Nodup ∧
        ∀ edition ∈ editions start labels, start.templates.lookup edition.forkName = none := by
  induction labels generalizing start with
  | nil => simp [Runs.Along, editions]
  | cons label rest ih =>
      obtain ⟨now, later⟩ := forking
      cases label with
      | insert doc rejected => exact now.elim
      | createRequest request signatureTemplate =>
          have others := ih (later _ rfl)
          simpa [Runs.Along, Forks, editions, forkedEdition, templateStep] using others
      | deleteRequest request =>
          have others := ih (later _ rfl)
          simpa [Runs.Along, Forks, editions, forkedEdition, templateStep] using others
      | save name doc rejected =>
          obtain ⟨rfl, used, previous, found, changed⟩ := now
          have first : forkedEdition start (.save name doc false) = some previous.edition := by
            simp only [forkedEdition, found, Option.map_some]
          by_cases free : start.templates.lookup previous.edition.forkName = none
          · obtain ⟨next, row, saved, -, -, -, -, names⟩ := save_free used found changed free
            have stepped : templateStep start (.save name doc false) = some next := by
              simp [templateStep, saved]
            have others := ih (later next stepped)
            have forked := (forks_iff_free used found changed false).mpr free
            have all : editions start (.save name doc false :: rest) =
                previous.edition :: editions next rest := by
              simp only [editions, first, stepped, Option.toList_some, Option.map_some,
                Option.getD_some, List.singleton_append]
            rw [along_save forked stepped, others, all]
            exact cons_free free names
          · constructor
            · intro along
              exact absurd ((forks_iff_free used found changed false).mp along.1) free
            · rintro ⟨-, absent⟩
              refine absurd (absent previous.edition ?_) free
              simp [editions, first]

/-- Every save of a run goes through, under a fresh name, exactly when no edition is
edited twice and no template of the start is named like one of the forks. -/
theorem forks_succeed_iff {start : TemplateSite} {labels : List TemplateLabel}
    (forking : Runs.Along templateStep ForkingSave start labels) :
    Runs.Along templateStep Forks start labels ↔
      (editions start labels).Nodup ∧
        ∀ edition ∈ editions start labels, start.templates.lookup edition.forkName = none := by
  rw [forks_along forking, List.nodup_map_iff forkName_injective]

/-! ### Edits of one letter template -/

def forkingCheck (site : TemplateSite) : TemplateLabel → Bool
  | .insert _ _ => false
  | .save name doc rejected => !rejected && hasSigningHistory site name &&
      match site.templates.lookup name with
      | some previous => doc.versionedFieldsChanged previous
      | none => false
  | .createRequest _ _ => true
  | .deleteRequest _ => true

theorem forkingCheck_sound (site : TemplateSite) (label : TemplateLabel)
    (checked : forkingCheck site label = true) : ForkingSave site label := by
  cases label with
  | insert doc rejected => cases checked
  | createRequest name signatureTemplate => trivial
  | deleteRequest name => trivial
  | save name doc rejected =>
      simp only [forkingCheck, Bool.and_eq_true, Bool.not_eq_true'] at checked
      obtain ⟨⟨through, used⟩, differs⟩ := checked
      refine ⟨through, hasSigningHistory_iff.mp used, ?_⟩
      split at differs
      · rename_i previous found
        exact ⟨previous, found, differs⟩
      · cases differs

/-- The letter is edited, a request takes the fork, and the fork is edited. -/
def letterLineage : List TemplateLabel :=
  [.save "Letter" { letterTemplate with fields := letterTemplate.fields.reverse } false,
    .createRequest "SR-2" (some "Letter v2"),
    .save "Letter v2" { letterTemplate.set "print_format" (.text "Plain") with
      templateName := "Letter v2", version := 2 } false]

theorem forks_succeed_sample : Runs.Along templateStep Forks letterSite letterLineage := by
  have forking : Runs.Along templateStep ForkingSave letterSite letterLineage :=
    Runs.along_of_check forkingCheck_sound (by decide +kernel)
  exact (forks_succeed_iff forking).mpr (by decide +kernel)

/-- The letter itself is edited twice. -/
def letterTwice : List TemplateLabel :=
  [.save "Letter" { letterTemplate with fields := letterTemplate.fields.reverse } false,
    .save "Letter" (letterTemplate.set "print_format" (.text "Plain")) false]

/-- The second edit finds the name of the first fork taken, and is not saved. -/
theorem second_fork_fails :
    Runs.Along templateStep ForkingSave letterSite letterTwice ∧
      ¬ Runs.Along templateStep Forks letterSite letterTwice := by
  have forking : Runs.Along templateStep ForkingSave letterSite letterTwice :=
    Runs.along_of_check forkingCheck_sound (by decide +kernel)
  refine ⟨forking, fun along => ?_⟩
  have distinct := ((forks_along forking).mp along).1
  revert distinct
  decide +kernel

end DscSigning
