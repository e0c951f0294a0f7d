/-
The print gate: what `download_pdf` answers while a rule blocks printing.

The gate takes one row of the DSC Rules and one of the Signed requests, and both
tables may hold several that match.  Which one `frappe.db.get_value` returns is
left open.
-/

import DscSigning.Server.Database

namespace DscSigning

/-- DSC Rule, as far as the gate reads it. -/
structure PrintRule where
  targetDoctype : String
  isEnabled : Bool
  blockPrintUntilSigned : Bool
  isMandatory : Bool
deriving DecidableEq

/-- What `download_pdf` finds: the tables, what Frappe answers for the user of
the session, the content of a File, and the parameters that core declares. -/
structure PrintSite where
  rules : Table String PrintRule
  requests : Table String SigningRequest
  files : Table String FileRow
  hasPermission : String → String → Except Exn Bool
  getContent : FileRow → Except Exn Bytes
  declares : String → Bool

/-- The form of the request, beside the document. -/
structure PrintArguments where
  format : Json
  doc : Json
  noLetterhead : Json
  kwargs : List (String × Json)

inductive Download where
  | file (fileName : String) (content : Bytes)
  | core (doctype name : String) (forwarded : List (String × Json))

/-- `frappe.db.get_value`: any one of the matching rows. -/
def getValue {Row : Type} (table : Table String Row) (wanted : Row → Bool) (pick : Nat) :
    Option Row :=
  let rows := table.select wanted
  rows[pick % rows.length]?.map Prod.snd

variable (site : PrintSite) (doctype name : String) (arguments : PrintArguments)

def PrintRule.blocks (doctype : String) (rule : PrintRule) : Bool :=
  rule.targetDoctype == doctype && rule.isEnabled && rule.blockPrintUntilSigned

def SigningRequest.signedFor (doctype name : String) (row : SigningRequest) : Bool :=
  row.belongsTo doctype name && row.status == .signed

/-- `_delegate`, with the filtering of `frappe.get_newargs` -/
def PrintSite.delegate : Download :=
  let given := [("format", arguments.format), ("doc", arguments.doc),
    ("no_letterhead", arguments.noLetterhead)] ++ arguments.kwargs
  .core doctype name (given.filter fun argument => site.declares argument.1)

/-- The bytes of a File document as the response. -/
def PrintSite.serveFile (file : String) : Except Exn Download := do
  let fileDoc ← orMissing "File" file (site.files.lookup file)
  let content ← site.getContent fileDoc
  pure (.file fileDoc.fileName content)

def signatureRequired : Exn := thrown
  (s!"This {doctype} requires a digital signature before printing. " ++
    "Please sign the document first using 'Sign with DSC'.")

/-- Behind the permission check of a gated document. -/
def PrintSite.gated (blockingRule : PrintRule) (signedRequest : Option SigningRequest) :
    Except Exn Download :=
  let signedFile : Text := signedRequest.bind SigningRequest.signedFile
  if signedFile.given then site.serveFile signedFile.show
  else if blockingRule.isMandatory then .error (signatureRequired doctype)
  else .ok (site.delegate doctype name arguments)

/-- `download_pdf`; the picks say which rows the two lookups return. -/
def downloadPdf (rulePick requestPick : Nat) : Except Exn Download :=
  match getValue site.rules (PrintRule.blocks doctype) rulePick with
  | none => .ok (site.delegate doctype name arguments)
  | some blockingRule => do
      let permitted ← site.hasPermission doctype name
      if permitted then
        site.gated doctype name arguments blockingRule
          (getValue site.requests (SigningRequest.signedFor doctype name) requestPick)
      else .error ⟨"PermissionError", s!"You do not have permission to access {doctype} {name}."⟩

/-! ### What the lookups return -/

theorem getValue_mem {Row : Type} {table : Table String Row} {wanted : Row → Bool} {pick : Nat}
    {row : Row} (found : getValue table wanted pick = some row) :
    ∃ key, table.lookup key = some row ∧ wanted row = true := by
  obtain ⟨⟨key, value⟩, located, rfl⟩ := Option.map_eq_some_iff.mp found
  exact ⟨key, Table.mem_select.mp (List.mem_of_getElem? located)⟩

theorem getValue_none {Row : Type} {table : Table String Row} {wanted : Row → Bool} {pick : Nat} :
    getValue table wanted pick = none ↔ ∀ key row, table.lookup key = some row →
      wanted row = false := by
  constructor
  · intro nothing key row found
    by_contra fits
    have member : (key, row) ∈ table.select wanted :=
      Table.mem_select.mpr ⟨found, by simpa using fits⟩
    have positive := List.length_pos_of_mem member
    rw [getValue, Option.map_eq_none_iff, List.getElem?_eq_none_iff] at nothing
    exact absurd (Nat.mod_lt pick positive) (by omega)
  · intro none_fits
    cases found : getValue table wanted pick with
    | none => rfl
    | some row =>
        obtain ⟨key, there, fits⟩ := getValue_mem found
        rw [none_fits key row there] at fits
        cases fits

/-- Every matching row is returned for some pick. -/
theorem getValue_any {Row : Type} {table : Table String Row} {wanted : Row → Bool} {key : String}
    {row : Row} (found : table.lookup key = some row) (fits : wanted row = true) :
    ∃ pick, getValue table wanted pick = some row := by
  have member : (key, row) ∈ table.select wanted := Table.mem_select.mpr ⟨found, fits⟩
  obtain ⟨index, bound, same⟩ := List.getElem_of_mem member
  refine ⟨index, ?_⟩
  simp only [getValue]
  rw [Nat.mod_eq_of_lt bound, List.getElem?_eq_getElem bound, same]
  rfl

/-! ### The gate -/

/-- The signed files of the Signed requests of the document. -/
def PrintSite.SignedFile (file : Text) : Prop :=
  ∃ key row, site.requests.lookup key = some row ∧ row.signedFor doctype name = true ∧
    row.signedFile = file

/-- All enabled blocking rules of the doctype are mandatory, or all are not. -/
def PrintSite.AllMandatory (mandatory : Bool) : Prop :=
  ∀ key rule, site.rules.lookup key = some rule → rule.blocks doctype = true →
    rule.isMandatory = mandatory

variable {site doctype name arguments}

/-- Without a signed file the blocking rule decides. -/
theorem gated_unsigned {blockingRule : PrintRule}
    (without : ∀ file, site.SignedFile doctype name file → file.given = false)
    (requestPick : Nat) :
    site.gated doctype name arguments blockingRule
        (getValue site.requests (SigningRequest.signedFor doctype name) requestPick) =
      if blockingRule.isMandatory then .error (signatureRequired doctype)
      else .ok (site.delegate doctype name arguments) := by
  cases found : getValue site.requests (SigningRequest.signedFor doctype name) requestPick with
  | none => rfl
  | some row =>
      obtain ⟨key, there, fits⟩ := getValue_mem found
      have blank := without row.signedFile ⟨key, row, there, fits, rfl⟩
      simp only [PrintSite.gated, Option.bind_some, blank, Bool.false_eq_true, if_false]

/-- An unsigned document under blocking rules that disagree is refused or printed
as the lookup happens to return one or the other. -/
theorem print_gate_undecided (site : PrintSite) (doctype name : String) (arguments : PrintArguments)
    (readable : site.hasPermission doctype name = .ok true)
    (without : ∀ file, site.SignedFile doctype name file → file.given = false)
    (mandatory : ¬ site.AllMandatory doctype false) (optional : ¬ site.AllMandatory doctype true)
    (requestPick : Nat) :
    (∃ rulePick, downloadPdf site doctype name arguments rulePick requestPick =
      .error (signatureRequired doctype)) ∧
    ∃ rulePick, downloadPdf site doctype name arguments rulePick requestPick =
      .ok (site.delegate doctype name arguments) := by
  have decides : ∀ {key rule}, site.rules.lookup key = some rule → rule.blocks doctype = true →
      ∃ rulePick, downloadPdf site doctype name arguments rulePick requestPick =
        if rule.isMandatory then .error (signatureRequired doctype)
        else .ok (site.delegate doctype name arguments) := by
    intro key rule found blocks
    obtain ⟨rulePick, returned⟩ := getValue_any found blocks
    refine ⟨rulePick, ?_⟩
    rw [downloadPdf, returned, readable, ← gated_unsigned without requestPick]
    rfl
  simp only [PrintSite.AllMandatory, not_forall] at mandatory optional
  constructor
  · obtain ⟨key, rule, found, blocks, requires⟩ := mandatory
    obtain ⟨rulePick, same⟩ := decides found blocks
    exact ⟨rulePick, by rw [same, if_pos (by simpa using requires)]⟩
  · obtain ⟨key, rule, found, blocks, permits⟩ := optional
    obtain ⟨rulePick, same⟩ := decides found blocks
    exact ⟨rulePick, by rw [same, if_neg permits]⟩

/-! ### A sample gate -/

def signedInvoice : SigningRequest :=
  { NewRequest.row ⟨"Sales Invoice", "INV-1", some "R-1", "P-1", none, some "alice"⟩ 0 with
    status := .signed
    signedFile := some "F-1" }

def printView : PrintArguments := ⟨.text "Standard", .null, .text "1", [("cmd", .text "download_pdf")]⟩

end DscSigning
