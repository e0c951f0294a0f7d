/-
What the stamp of a signature shows.

The text of the stamp is built from the toggles of the template, but no stamp
style is handed to `PdfSigner`; so no line of it is requested, and the date line
of the text would hold the format in place of the time.
-/

import DscSigning.Server.TemplatePlacement

namespace DscSigning

open Interaction Program

variable {lib : Libraries}

/-! ### What is requested -/

/-- pyHanko's style of a text stamp; `%(ts)s` in the text stands for the signing time. -/
structure TextStampStyle where
  stampText : String
  timestampFormat : String

/-- The field specification and the metadata, and the style of the stamp, `None` by default. -/
structure PdfSignerArguments where
  spec : SignatureSpec
  stampStyle : Option TextStampStyle

/-- `PdfSigner(signature_meta=…, signer=…, new_field_spec=…)`, without a `stamp_style`. -/
def SignatureSpec.pdfSigner (spec : SignatureSpec) : PdfSignerArguments where
  spec := spec
  stampStyle := none

/-- The lines that are to be drawn in the field, if it is a visible one. -/
def PdfSignerArguments.requestedLines (strftime : String → Instant → String)
    (arguments : PdfSignerArguments) (signingTime : Instant) : List String :=
  match arguments.spec.box, arguments.stampStyle with
  | some _, some style =>
      (style.stampText.replace "%(ts)s" (strftime style.timestampFormat signingTime)).splitOn "\n"
  | _, _ => []

/-! ### What the template says -/

/-- The designation for the stamp, or the label. -/
def Profile.designation (profile : Profile) : Text := profile.designationForStamp.orElse profile.label

/-- The lines that the toggles select, in the order of the text, with the time of signing. -/
def stampLines (strftime : String → Instant → String) (sigTemplate : SignatureTemplate)
    (profile : Profile) (settings : Settings) (signerLocationText : Text) (signingTime : Instant) :
    List String :=
  (if sigTemplate.stampShowDigitallySignedBy then ["Digitally signed by"] else []) ++
    (if sigTemplate.stampShowSignerName then [profile.signerName] else []) ++
    (if sigTemplate.stampShowDesignation && profile.designation.given then
      [profile.designation.show] else []) ++
    (if sigTemplate.stampShowTimestamp then
      ["Date: " ++ strftime (sigTemplate.stampTimestampFormat.orValue "%d-%m-%Y %H:%M:%S %Z")
        signingTime] else []) ++
    (if sigTemplate.stampShowReason then
      ["Reason: " ++ settings.defaultReason.orValue "Approved"] else []) ++
    if sigTemplate.stampShowLocation then
      ["Location: " ++ (signerLocationText.orElse settings.defaultLocation).orValue ""] else []

/-- No toggle is on that would give a line. -/
structure SelectsNothing (sigTemplate : SignatureTemplate) (profile : Profile) : Prop where
  digitallySignedBy : sigTemplate.stampShowDigitallySignedBy = false
  signerName : sigTemplate.stampShowSignerName = false
  designation : sigTemplate.stampShowDesignation = true → profile.designation.given = false
  timestamp : sigTemplate.stampShowTimestamp = false
  reason : sigTemplate.stampShowReason = false
  location : sigTemplate.stampShowLocation = false

theorem toggled_nil {toggle : Bool} {line : String} :
    (if toggle then [line] else []) = [] ↔ toggle = false := by
  cases toggle
  · exact iff_of_true rfl rfl
  · exact iff_of_false (List.cons_ne_nil _ _) (by decide)

theorem stampLines_nil {strftime : String → Instant → String} {sigTemplate : SignatureTemplate}
    {profile : Profile} {settings : Settings} {signerLocationText : Text} {signingTime : Instant} :
    stampLines strftime sigTemplate profile settings signerLocationText signingTime = [] ↔
      SelectsNothing sigTemplate profile := by
  simp only [stampLines, List.append_eq_nil_iff, toggled_nil]
  constructor
  · rintro ⟨⟨⟨⟨⟨signedBy, name⟩, designation⟩, timestamp⟩, reason⟩, location⟩
    refine ⟨signedBy, name, fun shown => ?_, timestamp, reason, location⟩
    rwa [shown, Bool.true_and] at designation
  · intro nothing
    refine ⟨⟨⟨⟨⟨nothing.digitallySignedBy, nothing.signerName⟩, ?_⟩, nothing.timestamp⟩,
      nothing.reason⟩, nothing.location⟩
    cases shown : sigTemplate.stampShowDesignation with
    | false => rfl
    | true => rw [nothing.designation shown, Bool.and_false]

/-! ### The text that is built -/

theorem located_same (given fallback : Text) :
    (if (given.orElse fallback).orValue "" != "" then (given.orElse fallback).orValue ""
      else fallback.orValue "") = (given.orElse fallback).orValue "" := by
  split
  · rfl
  · rename_i blank
    have empty : (given.orElse fallback).orValue "" = "" := by simpa using blank
    cases written : given.given with
    | true =>
        rw [Text.orElse, if_pos written, Text.orValue, if_pos written] at empty
        cases given with
        | none => cases written
        | some text => simp [Text.given, show text = "" from empty] at written
    | false => rw [Text.orElse, if_neg (by simp [written])]

theorem stampReason_lines (sigTemplate : SignatureTemplate) (settings : Settings)
    (trace : ServerTrace) : (stampReason sigTemplate).Follows (fun _ _ => True)
      (fun later result => ∀ lines, result = .ok lines →
        (∀ answer, Answered later .getSettings answer → answer = settings) →
          lines = if sigTemplate.stampShowReason then
            ["Reason: " ++ settings.defaultReason.orValue "Approved"] else []) trace := by
  unfold stampReason
  split
  · refine Follows.perform trivial (fun answer stamp => ?_) (by simp)
    intro lines same one
    cases same
    rw [one answer Answered.head]
  · intro lines same one
    cases same
    rfl

theorem stampLocation_lines (sigTemplate : SignatureTemplate) (given : Text) (settings : Settings)
    (trace : ServerTrace) :
    (stampLocation sigTemplate ((given.orElse settings.defaultLocation).orValue "")).Follows
      (fun _ _ => True)
      (fun later result => ∀ lines, result = .ok lines →
        (∀ answer, Answered later .getSettings answer → answer = settings) →
          lines = if sigTemplate.stampShowLocation then
            ["Location: " ++ (given.orElse settings.defaultLocation).orValue ""] else []) trace := by
  have same := located_same given settings.defaultLocation
  unfold stampLocation
  split
  · split
    · intro lines done one
      cases done
      rfl
    · rename_i blank
      rw [if_neg blank] at same
      refine Follows.perform trivial (fun answer stamp => ?_) (by simp)
      intro lines done one
      cases done
      rw [one answer Answered.head, same]
  · intro lines done one
    cases done
    rfl

/-- The text has the lines of the template, but for the time of signing, in whose place the format
stands. -/
theorem buildStampText_lines (sigTemplate : SignatureTemplate) (profile : Profile)
    (settings : Settings) (given : Text) (signingTime : Instant) (trace : ServerTrace) :
    (buildStampText sigTemplate profile
        ((given.orElse settings.defaultLocation).orValue "")).Follows (fun _ _ => True)
      (fun later result => ∀ text, result = .ok text →
        (∀ answer, Answered later .getSettings answer → answer = settings) →
          text = "\n".intercalate
            (stampLines (fun format _ => format) sigTemplate profile settings given signingTime))
      trace := by
  refine Follows.bind (stampReason_lines sigTemplate settings trace) ?_ (by simp)
  intro afterReason reason suffix reasoned
  refine Follows.bind (stampLocation_lines sigTemplate given settings afterReason) ?_ (by simp)
  intro afterLocation location further located text same one
  cases same
  have reasonLines := reasoned reason rfl fun answer answered => one answer (answered.mono further)
  have locationLines := located location rfl one
  rw [reasonLines, locationLines]
  rfl

/-! ### Both together -/

/-- What is requested of two signings that differ in their templates: the lines that each template
selects, and different ones where the templates select different ones. -/
structure StampsTell (strftime : String → Instant → String) (arguments : PrepareArguments)
    (other : SignatureTemplate) (spec otherSpec : SignatureSpec) (settings : Settings)
    (signingTime : Instant) : Prop where
  shown : spec.pdfSigner.requestedLines strftime signingTime =
    stampLines strftime arguments.sigTemplate arguments.profile settings
      arguments.signerLocationText signingTime
  otherShown : otherSpec.pdfSigner.requestedLines strftime signingTime =
    stampLines strftime other arguments.profile settings arguments.signerLocationText signingTime
  apart : stampLines strftime arguments.sigTemplate arguments.profile settings
      arguments.signerLocationText signingTime ≠
    stampLines strftime other arguments.profile settings arguments.signerLocationText signingTime →
      spec.pdfSigner.requestedLines strftime signingTime ≠
        otherSpec.pdfSigner.requestedLines strftime signingTime

theorem requestedLines_nil (strftime : String → Instant → String) (spec : SignatureSpec)
    (signingTime : Instant) : spec.pdfSigner.requestedLines strftime signingTime = [] := by
  unfold PdfSignerArguments.requestedLines SignatureSpec.pdfSigner
  split
  · rename_i style
    cases style
  · rfl

theorem stampsTell_iff {strftime : String → Instant → String} {arguments : PrepareArguments}
    {other : SignatureTemplate} {spec otherSpec : SignatureSpec} {settings : Settings}
    {signingTime : Instant} :
    StampsTell strftime arguments other spec otherSpec settings signingTime ↔
      SelectsNothing arguments.sigTemplate arguments.profile ∧
        SelectsNothing other arguments.profile := by
  constructor
  · intro tell
    have one := tell.shown
    have two := tell.otherShown
    rw [requestedLines_nil] at one two
    exact ⟨stampLines_nil.mp one.symm, stampLines_nil.mp two.symm⟩
  · rintro ⟨one, two⟩
    exact
      { shown := (requestedLines_nil _ _ _).trans (stampLines_nil.mpr one).symm
        otherShown := (requestedLines_nil _ _ _).trans (stampLines_nil.mpr two).symm
        apart := fun differ =>
          absurd ((stampLines_nil.mpr one).trans (stampLines_nil.mpr two).symm) differ }

/-- The stamp of a signing tells what its template says, beside one with another template, only
where neither template selects a line. -/
def StampTold (strftime : String → Instant → String) (arguments : PrepareArguments)
    (other : SignatureTemplate) : Operation → Prop
  | .digestForSigning spec _ => ∀ otherSpec settings signingTime,
      StampsTell strftime arguments other spec otherSpec settings signingTime ↔
        SelectsNothing arguments.sigTemplate arguments.profile ∧
          SelectsNothing other arguments.profile
  | _ => True

theorem stampTold_always {strftime : String → Instant → String} {arguments : PrepareArguments}
    {other : SignatureTemplate} (operation : Operation) :
    StampTold strftime arguments other operation := by
  cases operation with
  | digestForSigning spec pdf => exact fun _ _ _ => stampsTell_iff
  | _ => trivial

/-- In every preparation of a signing the stamp is requested as the template says exactly where the
template selects no line at all. -/
theorem stamp_told_iff (strftime : String → Instant → String) (arguments : PrepareArguments)
    (other : SignatureTemplate) (trace : ServerTrace) :
    (preparePdfForSigning lib arguments).Follows
      (fun _ operation => StampTold strftime arguments other operation)
      (fun later result => ∀ prepared, result = .ok prepared → ∃ spec pdf digest,
        Answered later (.digestForSigning spec pdf) digest) trace := by
  have told (_ : ServerTrace) (operation : Operation) (_ : Routine operation) :
      StampTold strftime arguments other operation := stampTold_always operation
  refine Uses.past (sourcePdf_routine arguments) told ?_ (by simp)
  intro afterPdf pdf pdfLater
  refine Follows.perform trivial (fun settings settingsAt => ?_) (by simp)
  refine Uses.past (buildStampText_routine _ _ _) told ?_ (by simp)
  intro afterStamp stampText stampLater
  refine Follows.perform trivial (fun sessionId drawnAt => ?_) (by simp)
  refine Follows.ofExcept (fun signerCert loaded => ?_) (by simp)
  refine Follows.perform (stampTold_always _) (fun prepared preparedAt => ?_) (by simp)
  refine Follows.perform trivial (fun signingTime signedAt => ?_) (by simp)
  refine Follows.perform trivial (fun createdAt createdStamp => ?_) (by simp)
  refine Follows.perform trivial (fun _ storedAt => ?_) (by simp)
  intro value same
  exact ⟨_, pdf, prepared, Answered.head.cons.cons.cons⟩

/-! ### A template and one without the designation -/

/-- The stamp of every signing tells what its template says. -/
def StampAlwaysTold (strftime : String → Instant → String) (arguments : PrepareArguments)
    (other : SignatureTemplate) : Operation → Prop
  | .digestForSigning spec _ => ∀ otherSpec settings signingTime,
      StampsTell strftime arguments other spec otherSpec settings signingTime
  | _ => True

/-- A field is drawn for a template that shows the signer's name, and no line is requested. -/
theorem stamp_not_told :
    ¬ (preparePdfForSigning sampleLibraries (rectangleArguments ⟨1, 300, 50, 200, 80⟩)).Follows
      (fun _ operation => StampAlwaysTold (fun format _ => format)
        (rectangleArguments ⟨1, 300, 50, 200, 80⟩)
        { defaultTemplate with stampShowDesignation := false } operation)
      (fun _ _ => True) ([] : ServerTrace) := by
  intro follows
  have settled := follows.2 (.ok sampleMasters.settings) 0
  have drawn := settled.2 (.ok "S-1") 0
  have told := drawn.1 ⟨"F", 0, none, "", "", "", "", [], 0⟩ sampleMasters.settings 0
  exact Bool.noConfusion (stampsTell_iff.mp told).1.signerName

end DscSigning
