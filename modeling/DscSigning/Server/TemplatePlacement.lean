/-
Where the rectangle of a template is signed.

Without an anchor the first field row gives the page and the box, but a corner
that lies on the left or the lower edge of the page is taken for a missing one.
-/

import DscSigning.Forms.TemplateDesigner
import DscSigning.Server.Placement

namespace DscSigning

open Interaction Program TemplateDesigner

variable {lib : Libraries}

/-- The field lies on the page of the row, in its rectangle. -/
def SignatureField.DrawnAs (row : SignatureField) (spec : SignatureSpec) : Prop :=
  spec.onPage = row.pageNumber - 1 ∧
    spec.box = some ⟨row.x, row.y, row.x + row.width, row.y + row.height⟩

theorem signaturePlace_template {pdf : Bytes} {sigTemplate : SignatureTemplate}
    {row : SignatureField} {rest : List SignatureField}
    (unanchored : lib.locateSignatureAnchor pdf = none) (first : sigTemplate.fields = row :: rest)
    (savable : Savable row) : signaturePlace lib pdf sigTemplate none =
      (row.pageNumber - 1, if row.x = 0 ∨ row.y = 0 then none
        else some ⟨row.x, row.y, row.x + row.width, row.y + row.height⟩) := by
  simp only [signaturePlace, unanchored, first, if_neg savable.width.ne', if_neg savable.height.ne']

/-- A field for a PDF without an anchor is drawn as the row exactly off the two edges. -/
def DrawnOffEdges (lib : Libraries) (row : SignatureField) : Operation → Prop
  | .digestForSigning spec pdf =>
      lib.locateSignatureAnchor pdf = none → (row.DrawnAs spec ↔ row.x ≠ 0 ∧ row.y ≠ 0)
  | _ => True

theorem drawn_routine {row : SignatureField} (_ : ServerTrace) (operation : Operation)
    (silent : Routine operation) : DrawnOffEdges lib row operation := by
  cases operation with
  | digestForSigning spec pdf => cases silent
  | _ => trivial

/-- A signing is prepared by a digest, whose field is drawn as the template's first row exactly
where the corner of the row is off both edges. -/
theorem template_rectangle_iff (arguments : PrepareArguments) {row : SignatureField}
    {rest : List SignatureField} (unplaced : arguments.placement = none)
    (first : arguments.sigTemplate.fields = row :: rest) (savable : Savable row)
    (trace : ServerTrace) :
    (preparePdfForSigning lib arguments).Follows
      (fun _ operation => DrawnOffEdges lib row operation)
      (fun later result => ∀ prepared, result = .ok prepared → ∃ spec pdf digest,
        Answered later (.digestForSigning spec pdf) digest) trace := by
  refine Uses.past (sourcePdf_routine arguments) drawn_routine ?_ (by simp)
  intro afterPdf pdf pdfLater
  refine Follows.perform trivial (fun settings settingsAt => ?_) (by simp)
  refine Uses.past (buildStampText_routine _ _ _) drawn_routine ?_ (by simp)
  intro afterStamp stampText stampLater
  refine Follows.perform trivial (fun sessionId drawnAt => ?_) (by simp)
  refine Follows.ofExcept (fun signerCert loaded => ?_) (by simp)
  refine Follows.perform ?_ (fun prepared preparedAt => ?_) (by simp)
  · intro unanchored
    rw [unplaced, signaturePlace_template unanchored first savable]
    by_cases edge : row.x = 0 ∨ row.y = 0
    · rw [if_pos edge]
      refine iff_of_false (fun drawn => by cases drawn.2) ?_
      rintro ⟨left, lower⟩
      exact edge.elim left lower
    · rw [if_neg edge]
      exact iff_of_true ⟨rfl, rfl⟩ (not_or.mp edge)
  · refine Follows.perform trivial (fun signingTime signedAt => ?_) (by simp)
    refine Follows.perform trivial (fun createdAt createdStamp => ?_) (by simp)
    refine Follows.perform trivial (fun _ storedAt => ?_) (by simp)
    intro value same
    exact ⟨_, pdf, prepared, Answered.head.cons.cons.cons⟩

/-! ### A rectangle at the left edge -/

/-- A profile, a template with one rectangle, and a PDF of four bytes. -/
def rectangleArguments (row : SignatureField) : PrepareArguments where
  doctype := "Sales Invoice"
  docname := "INV-1"
  printFormat := none
  sigTemplate := { defaultTemplate with
    fields := [row]
    stampShowReason := false
    stampShowLocation := false }
  profile :=
    { profileName := "P-1"
      label := some "Director"
      isActive := true
      allowedUsers := []
      certificateFingerprint := none
      certificateCommonName := some "A Signer"
      certificateNotAfter := none
      designationForStamp := none }
  signingRequestName := "SR-1"
  certDer := [1]
  signerLocationText := none
  pdfBytes := some [37, 80, 68, 70]
  placement := none

theorem template_rectangle_sample :
    (preparePdfForSigning sampleLibraries (rectangleArguments ⟨1, 300, 50, 200, 80⟩)).Follows
      (fun _ operation => DrawnOffEdges sampleLibraries ⟨1, 300, 50, 200, 80⟩ operation)
      (fun later result => ∀ prepared, result = .ok prepared → ∃ spec pdf digest,
        Answered later (.digestForSigning spec pdf) digest) [] :=
  template_rectangle_iff (rectangleArguments ⟨1, 300, 50, 200, 80⟩) rfl rfl
    ⟨by norm_num, by norm_num, by norm_num, by norm_num, by norm_num⟩ []

/-- Every field for a PDF without an anchor is drawn as the row. -/
def DrawnAlways (lib : Libraries) (row : SignatureField) : Operation → Prop
  | .digestForSigning spec pdf => lib.locateSignatureAnchor pdf = none → row.DrawnAs spec
  | _ => True

/-- Dragged to the left edge, the rectangle is lost. -/
theorem template_rectangle_at_edge :
    Savable ⟨1, 0, 50, 200, 80⟩ ∧
      ¬ (preparePdfForSigning sampleLibraries (rectangleArguments ⟨1, 0, 50, 200, 80⟩)).Follows
        (fun _ operation => DrawnAlways sampleLibraries ⟨1, 0, 50, 200, 80⟩ operation)
        (fun _ _ => True) ([] : ServerTrace) := by
  refine ⟨⟨by norm_num, by norm_num, by norm_num, by norm_num, by norm_num⟩, fun follows => ?_⟩
  have settled := follows.2 (.ok sampleMasters.settings) 0
  have drawn := settled.2 (.ok "S-1") 0
  have box := (drawn.1 rfl).2
  revert box
  decide

end DscSigning
