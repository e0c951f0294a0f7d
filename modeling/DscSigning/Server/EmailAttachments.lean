/-
What the email gate makes of the attachments it is given.

The argument comes as a list or as the JSON text of one; the gate goes through a
text character by character.
-/

import DscSigning.Library.JsonText
import DscSigning.Server.EmailGate

namespace DscSigning

/-- A file by its name, or by a dict with its `fid`. -/
inductive Attachment where
  | name (file : String)
  | fid (file : String)
deriving DecidableEq

def Attachment.file : Attachment → String
  | .name file => file
  | .fid file => file

def Attachment.json : Attachment → Json
  | .name file => .text file
  | .fid file => .object [("fid", .text file)]

/-- The attachment in a JSON document. -/
def Attachment.value : Attachment → JsonText.Value
  | .name file => .text file
  | .fid file => .object [("fid", .text file)]

/-- The argument stands for the list: `None`, the list itself, or its JSON text. -/
inductive Gives : Option Json → List Attachment → Prop where
  | absent : Gives none []
  | null : Gives (some .null) []
  | list (items : List Attachment) : Gives (some (.list (items.map Attachment.json))) items
  | text {written : String} {items : List Attachment}
      (reads : JsonText.read written = some (.list (items.map Attachment.value))) :
      Gives (some (.text written)) items

/-- The attachments with the signed file, once. -/
def withSigned (items : List Attachment) (file : String) : List Attachment :=
  if ∃ item ∈ items, item.file = file then items else items ++ [.fid file]

/-- The argument is not a text; or the file's name is one character, which occurs in the text, and
the file is listed in it. -/
def IteratesRight (given : Option Json) (items : List Attachment) (file : String) : Prop :=
  ∀ written, given = some (.text written) →
    (∃ character ∈ written.toList, file = String.ofList [character]) ∧
      ∃ item ∈ items, item.file = file

/-! ### One call -/

theorem namesFile_json (file : String) (item : Attachment) :
    namesFile file item.json = (item.file == file) := by
  cases item with
  | name other => rfl
  | fid other => simp [namesFile, Attachment.json, Attachment.file]

theorem any_namesFile (file : String) (items : List Attachment) :
    (items.map Attachment.json).any (namesFile file) = true ↔
      ∃ item ∈ items, item.file = file := by
  simp [List.any_map, List.any_eq_true, namesFile_json]

/-- The items that the gate goes through. -/
def iterated : Option Json → Except Exn (List Json)
  | some given => (if given.truthy then given else .list []).iterate
  | none => .ok []

theorem attachSigned_eq (given : Option Json) (file : String) :
    attachSigned given file = (iterated given).bind fun items =>
      if items.any (namesFile file) then .ok given
      else .ok (some (.list (items ++ [.object [("fid", .text file)]]))) := by
  cases given <;> rfl

theorem attach_found {given : Option Json} {items : List Json} {file : String}
    (goes : iterated given = .ok items) (found : items.any (namesFile file) = true) :
    attachSigned given file = .ok given := by
  rw [attachSigned_eq, goes]
  exact if_pos found

theorem attach_missing {given : Option Json} {items : List Json} {file : String}
    (goes : iterated given = .ok items) (missing : ¬ items.any (namesFile file) = true) :
    attachSigned given file =
      .ok (some (.list (items ++ [.object [("fid", .text file)]]))) := by
  rw [attachSigned_eq, goes]
  exact if_neg missing

theorem iterated_list (items : List Json) : iterated (some (.list items)) = .ok items := by
  cases items with
  | nil => rfl
  | cons item rest => rfl

theorem iterated_text (written : String) : iterated (some (.text written)) =
    .ok (written.toList.map fun character => .text (String.ofList [character])) := by
  by_cases empty : written = ""
  · subst empty
    rfl
  · rw [iterated, if_pos (by simpa [Json.truthy] using empty)]
    rfl

theorem attach_list (items : List Attachment) (file : String) :
    attachSigned (some (.list (items.map Attachment.json))) file =
      .ok (some (.list ((withSigned items file).map Attachment.json))) := by
  by_cases listed : ∃ item ∈ items, item.file = file
  · rw [attach_found (iterated_list _) ((any_namesFile file items).mpr listed), withSigned,
      if_pos listed]
  · rw [attach_missing (iterated_list _) (mt (any_namesFile file items).mp listed), withSigned,
      if_neg listed, List.map_append]
    rfl

theorem withSigned_idem (items : List Attachment) (file : String) :
    withSigned (withSigned items file) file = withSigned items file := by
  by_cases listed : ∃ item ∈ items, item.file = file
  · rw [withSigned, withSigned, if_pos listed, if_pos listed]
  · have there : ∃ item ∈ items ++ [.fid file], Attachment.file item = file :=
      ⟨.fid file, by simp, rfl⟩
    rw [withSigned, withSigned, if_neg listed, if_pos there]

theorem gives_list {given : List Json} {items : List Attachment}
    (gives : Gives (some (.list given)) items) : given = items.map Attachment.json := by
  cases gives
  rfl

/-- What is attached, and that it stays when the gate is passed again. -/
def AttachedOnce (given : Option Json) (items : List Attachment) (file : String) : Prop :=
  ∃ result, attachSigned given file = .ok result ∧ Gives result (withSigned items file) ∧
    attachSigned result file = .ok result

theorem attached_nothing {given : Option Json} (file : String) (goes : iterated given = .ok []) :
    AttachedOnce given [] file := by
  refine ⟨_, attach_missing goes (by simp), .list [.fid file], ?_⟩
  have again := attach_list [.fid file] file
  rwa [withSigned, if_pos ⟨.fid file, by simp, rfl⟩] at again

theorem attached_list (items : List Attachment) (file : String) :
    AttachedOnce (some (.list (items.map Attachment.json))) items file := by
  refine ⟨_, attach_list items file, .list _, ?_⟩
  rw [attach_list, withSigned_idem]

/-- A text has more characters than attachments, so its characters are not the attachments. -/
theorem attached_text {written : String} {items : List Attachment} {file : String}
    (reads : JsonText.read written = some (.list (items.map Attachment.value))) :
    AttachedOnce (some (.text written)) items file ↔
      (∃ character ∈ written.toList, file = String.ofList [character]) ∧
        ∃ item ∈ items, item.file = file := by
  have characters : ((written.toList.map fun character =>
      Json.text (String.ofList [character])).any (namesFile file) = true) ↔
        ∃ character ∈ written.toList, file = String.ofList [character] := by
    simp only [List.any_map, List.any_eq_true, Function.comp, namesFile, beq_iff_eq]
    exact exists_congr fun character => and_congr_right fun _ => eq_comm
  by_cases occurs : ∃ character ∈ written.toList, file = String.ofList [character]
  · have same := @attach_found _ _ file (iterated_text written) (characters.mpr occurs)
    rw [and_iff_right occurs]
    constructor
    · rintro ⟨result, attached, gives, _⟩
      rw [same] at attached
      cases attached
      cases gives with
      | text other =>
          rw [reads] at other
          by_contra missing
          have sizes := congrArg JsonText.Value.width (Option.some.inj other)
          rw [withSigned, if_neg missing] at sizes
          simp [JsonText.Value.width] at sizes
    · intro listed
      refine ⟨_, same, ?_, same⟩
      rw [withSigned, if_pos listed]
      exact .text reads
  · have longer := JsonText.read_width reads
    rw [JsonText.Value.width, List.length_map] at longer
    refine iff_of_false ?_ (fun both => occurs both.1)
    rintro ⟨result, attached, gives, _⟩
    rw [attach_missing (iterated_text written) (mt characters.mp occurs)] at attached
    cases attached
    have most : (withSigned items file).length ≤ items.length + 1 := by
      unfold withSigned
      split
      · exact Nat.le_succ _
      · rw [List.length_append, List.length_singleton]
    have sizes := congrArg List.length (gives_list gives)
    simp only [List.length_map, List.length_append, List.length_singleton] at sizes
    omega

theorem attached_iff {given : Option Json} {items : List Attachment} {file : String}
    (gives : Gives given items) :
    AttachedOnce given items file ↔ IteratesRight given items file := by
  cases gives with
  | absent => exact iff_of_true (attached_nothing file rfl) (by rintro written ⟨⟩)
  | null => exact iff_of_true (attached_nothing file rfl) (by rintro written ⟨⟩)
  | list => exact iff_of_true (attached_list items file) (by rintro written ⟨⟩)
  | text reads =>
      rw [attached_text reads]
      constructor
      · rintro right written ⟨⟩
        exact right
      · intro right
        exact right _ rfl

/-! ### The gate -/

/-- `make` hands on every argument as it was given, the attachments with the signed file, and
does so again when its result is handed to it. -/
def MakesOnce (site : EmailSite) (arguments : EmailArguments) (items : List Attachment)
    (file : String) (rulePick checkPick requestPick : Nat) : Prop :=
  ∃ result, makeEmail site arguments rulePick checkPick requestPick = .ok result ∧
    result = { arguments with attachments := result.attachments } ∧
    Gives result.attachments (withSigned items file) ∧
    makeEmail site result rulePick checkPick requestPick = .ok result

/-- A document with a signed file has a Signed request, and passes. -/
theorem check_signed {site : EmailSite} {doctype docname file : String} {requestPick : Nat}
    (signed : getSignedPdfForAttachment site doctype docname requestPick = .ok (some file))
    (rulePick checkPick : Nat) : checkEmailAllowed site doctype docname rulePick checkPick = .ok () := by
  have some_signed : ∃ row,
      getValue site.requests (SigningRequest.signedFor doctype docname) checkPick = some row := by
    rw [← Option.ne_none_iff_exists']
    intro nothing
    have unsigned : getValue site.requests (SigningRequest.signedFor doctype docname)
        requestPick = none := getValue_none.mpr (getValue_none.mp nothing)
    rw [getSignedPdfForAttachment, unsigned] at signed
    cases signed
  obtain ⟨row, found⟩ := some_signed
  rw [checkEmailAllowed, found]
  cases getValue site.rules (EmailRule.blocks doctype) rulePick <;> rfl

theorem make_signed {site : EmailSite} {arguments : EmailArguments} {file : String}
    {requestPick : Nat} (typed : arguments.doctype.given = true)
    (named : arguments.name.given = true)
    (signed : getSignedPdfForAttachment site arguments.doctype.show arguments.name.show requestPick =
      .ok (some file)) (rulePick checkPick : Nat) :
    makeEmail site arguments rulePick checkPick requestPick =
      (attachSigned arguments.attachments file).map fun attachments =>
        { arguments with attachments := attachments } := by
  have both : (arguments.doctype.given && arguments.name.given) = true := by rw [typed, named]; rfl
  rw [makeEmail, if_pos both]
  simp only [check_signed signed, signed]
  change ((attachSigned arguments.attachments file).bind fun attachments =>
    .ok { arguments with attachments := attachments }) = _
  cases attachSigned arguments.attachments file <;> rfl

/-- The gate attaches the signed file once and keeps the rest, exactly where it does not take the
characters of a text for attachments. -/
theorem make_attaches_iff {site : EmailSite} {arguments : EmailArguments}
    {items : List Attachment} {file : String} {requestPick : Nat}
    (typed : arguments.doctype.given = true) (named : arguments.name.given = true)
    (signed : getSignedPdfForAttachment site arguments.doctype.show arguments.name.show requestPick =
      .ok (some file)) (gives : Gives arguments.attachments items) (rulePick checkPick : Nat) :
    MakesOnce site arguments items file rulePick checkPick requestPick ↔
      IteratesRight arguments.attachments items file := by
  rw [← attached_iff gives]
  have first := make_signed typed named signed rulePick checkPick
  constructor
  · rintro ⟨result, made, same, attached, again⟩
    cases once : attachSigned arguments.attachments file with
    | error exn =>
        rw [first, once] at made
        cases made
    | ok attachments =>
        rw [first, once] at made
        cases made
        have second := @make_signed _ { arguments with attachments := attachments } _ _
          typed named signed rulePick checkPick
        rw [second] at again
        cases twice : attachSigned attachments file with
        | error exn =>
            rw [twice] at again
            cases again
        | ok more =>
            rw [twice] at again
            injection again with unchanged
            injection unchanged with _ _ stays
            exact ⟨attachments, once, attached, by rw [twice, stays]⟩
  · rintro ⟨attachments, once, attached, twice⟩
    have second := @make_signed _ { arguments with attachments := attachments } _ _
      typed named signed rulePick checkPick
    refine ⟨{ arguments with attachments := attachments }, ?_, rfl, attached, ?_⟩
    · rw [first, once]
      rfl
    · rw [second, twice]
      rfl

/-! ### A signed invoice -/

def emailSite : EmailSite :=
  { rules := ∅
    requests := AList.insert "SR-1" signedInvoice ∅
    files := AList.insert "F-1" ⟨"INV-1_signed_v1.pdf", "/private/files/INV-1_signed_v1.pdf",
      "Sales Invoice", "INV-1", [37, 80, 68, 70], true, true⟩ ∅ }

def invoiceEmail (attachments : Json) : EmailArguments :=
  ⟨some "Sales Invoice", some "INV-1", some attachments, [("subject", .text "Invoice")]⟩

theorem make_attaches_sample :
    MakesOnce emailSite (invoiceEmail (.list [.text "terms.pdf"])) [.name "terms.pdf"] "F-1" 0 0 0 ↔
      IteratesRight (some (.list [.text "terms.pdf"])) [.name "terms.pdf"] "F-1" :=
  make_attaches_iff rfl rfl rfl (.list [.name "terms.pdf"]) 0 0

/-- One attachment, as a form posts it: its nine characters are attached. -/
theorem make_spreads_text :
    Gives (invoiceEmail (.text "[\"a.pdf\"]")).attachments [.name "a.pdf"] ∧
      getSignedPdfForAttachment emailSite "Sales Invoice" "INV-1" 0 = .ok (some "F-1") ∧
      ¬ MakesOnce emailSite (invoiceEmail (.text "[\"a.pdf\"]")) [.name "a.pdf"] "F-1" 0 0 0 := by
  have reads : JsonText.read "[\"a.pdf\"]" =
      some (.list ([Attachment.name "a.pdf"].map Attachment.value)) := by rfl
  have signed : getSignedPdfForAttachment emailSite "Sales Invoice" "INV-1" 0 = .ok (some "F-1") := by
    rfl
  refine ⟨.text reads, signed, ?_⟩
  rintro ⟨result, made, _, gives, _⟩
  have spread : makeEmail emailSite (invoiceEmail (.text "[\"a.pdf\"]")) 0 0 0 =
      .ok (invoiceEmail (.list (("[\"a.pdf\"]".toList.map fun character =>
        .text (String.ofList [character])) ++ [.object [("fid", .text "F-1")]]))) := by rfl
  rw [spread] at made
  cases made
  have sizes := congrArg List.length (gives_list gives)
  revert sizes
  decide

end DscSigning
