/-
The documents that the print gate and the email gate hold back, beside the
documents that the rules are about.

The rule engine asks a rule for its company, its workflow state and its
conditions; the gates read the same rules and ask for the DocType alone.
-/

import DscSigning.Server.EmailGate
import DscSigning.Server.RuleEngine

namespace DscSigning.RuleEngine

variable (lib : Libraries)

/-- DSC Rule as the print gate reads it. -/
def DscRule.printRule (rule : DscRule) : PrintRule :=
  ⟨rule.targetDoctype, rule.isEnabled, rule.blockPrintUntilSigned, rule.isMandatory⟩

/-- DSC Rule as the email gate reads it. -/
def DscRule.emailRule (rule : DscRule) : EmailRule :=
  ⟨rule.targetDoctype, rule.isEnabled, rule.blockEmailUntilSigned⟩

/-- The tables that the rule engine and the gates share, and what Frappe answers. -/
structure GateSite where
  rules : Table String DscRule
  requests : Table String SigningRequest
  files : Table String FileRow
  hasPermission : String → String → Except Exn Bool
  getContent : FileRow → Except Exn Bytes
  declares : String → Bool

def GateSite.printSite (site : GateSite) : PrintSite :=
  { rules := site.rules.mapRows DscRule.printRule
    requests := site.requests
    files := site.files
    hasPermission := site.hasPermission
    getContent := site.getContent
    declares := site.declares }

def GateSite.emailSite (site : GateSite) : EmailSite :=
  { rules := site.rules.mapRows DscRule.emailRule
    requests := site.requests
    files := site.files }

/-- By the tests of the rule engine the rule is for this document. -/
def DscRule.Matches (rule : DscRule) (doc : Document) : Prop :=
  rule.targetDoctype = doc.doctype ∧ rule.skips doc rule.triggerEvent = false ∧
    evaluateConditions lib.toConditionLibraries doc rule.conditions = .ok true

/-- The rule is of another company or workflow state, or has a condition that
the document does not meet. -/
def DscRule.LeavesOut (rule : DscRule) (doc : Document) : Prop :=
  rule.skips doc rule.triggerEvent = true ∨
    ∃ condition ∈ rule.conditions, checkCondition lib.toConditionLibraries condition doc ≠ .ok true

/-- A mandatory rule blocks printing, and not every lookup finds a signed file. -/
structure GateSite.PrintBlocked (site : GateSite) (doc : Document) : Prop where
  readable : site.hasPermission doc.doctype doc.name = .ok true
  mandatory : ∃ key rule, site.rules.lookup key = some rule ∧
    rule.printRule.blocks doc.doctype = true ∧ rule.isMandatory = true
  unsigned : (∀ key row, site.requests.lookup key = some row →
      row.signedFor doc.doctype doc.name = false) ∨
    ∃ key row, site.requests.lookup key = some row ∧
      row.signedFor doc.doctype doc.name = true ∧ row.signedFile.given = false

/-- A rule blocks email, and no request of the document is Signed. -/
structure GateSite.EmailBlocked (site : GateSite) (doc : Document) : Prop where
  blocking : ∃ key rule, site.rules.lookup key = some rule ∧
    rule.emailRule.blocks doc.doctype = true
  unsigned : ∀ key row, site.requests.lookup key = some row →
    row.signedFor doc.doctype doc.name = false

/-- Frappe's own errors are not the refusal of the print gate. -/
structure GateSite.Honest (site : GateSite) (doc : Document) : Prop where
  permission : site.hasPermission doc.doctype doc.name ≠ .error (signatureRequired doc.doctype)
  content : ∀ file, site.getContent file ≠ .error (signatureRequired doc.doctype)

variable {lib} {site : GateSite} {doc : Document}

theorem matches_iff {rule : DscRule} (target : rule.targetDoctype = doc.doctype) :
    rule.Matches lib doc ↔ ¬ rule.LeavesOut lib doc := by
  unfold DscRule.Matches DscRule.LeavesOut
  rw [evaluateConditions_true, not_or, Bool.not_eq_true, not_exists]
  constructor
  · rintro ⟨_, kept, passed⟩
    exact ⟨kept, fun condition failed => failed.2 (passed condition failed.1)⟩
  · rintro ⟨kept, none_fails⟩
    refine ⟨target, kept, fun condition member => ?_⟩
    by_contra failed
    exact none_fails condition ⟨member, failed⟩

theorem serveFile_refuses (honest : site.Honest doc) (file : String) :
    site.printSite.serveFile file ≠ .error (signatureRequired doc.doctype) := by
  intro refused
  unfold PrintSite.serveFile orMissing at refused
  cases found : site.printSite.files.lookup file with
  | none =>
      rw [found] at refused
      exact absurd (congrArg Exn.kind (Except.error.inj refused))
        (by decide : "DoesNotExistError" ≠ "ValidationError")
  | some fileDoc =>
      rw [found] at refused
      cases content : site.printSite.getContent fileDoc with
      | error exn =>
          simp only [content, bind, Except.bind, Except.error.injEq] at refused
          subst refused
          exact honest.content fileDoc content
      | ok bytes =>
          simp only [content, bind, Except.bind, pure, Except.pure] at refused
          cases refused

theorem unsigned_iff : ((∀ key row, site.requests.lookup key = some row →
      row.signedFor doc.doctype doc.name = false) ∨
    ∃ key row, site.requests.lookup key = some row ∧
      row.signedFor doc.doctype doc.name = true ∧ row.signedFile.given = false) ↔
    ∃ requestPick, Text.given ((getValue site.requests
      (SigningRequest.signedFor doc.doctype doc.name) requestPick).bind
        SigningRequest.signedFile) = false := by
  constructor
  · rintro (none_signed | ⟨key, row, found, signed, blank⟩)
    · refine ⟨0, ?_⟩
      rw [getValue_none.mpr none_signed]
      rfl
    · obtain ⟨requestPick, returned⟩ := getValue_any found signed
      refine ⟨requestPick, ?_⟩
      rw [returned]
      exact blank
  · rintro ⟨requestPick, blank⟩
    cases found : getValue site.requests (SigningRequest.signedFor doc.doctype doc.name)
        requestPick with
    | none => exact Or.inl (getValue_none.mp found)
    | some row =>
        obtain ⟨key, there, signed⟩ := getValue_mem found
        rw [found] at blank
        exact Or.inr ⟨key, row, there, signed, blank⟩

/-- The print gate refuses the document as unsigned for some rows its lookups return. -/
theorem print_refuses_iff (honest : site.Honest doc) (arguments : PrintArguments) :
    (∃ rulePick requestPick,
      downloadPdf site.printSite doc.doctype doc.name arguments rulePick requestPick =
        .error (signatureRequired doc.doctype)) ↔ site.PrintBlocked doc := by
  constructor
  · rintro ⟨rulePick, requestPick, refused⟩
    unfold downloadPdf at refused
    split at refused
    · cases refused
    · rename_i blockingRule found
      obtain ⟨key, there, blocks⟩ := getValue_mem found
      rw [GateSite.printSite, Table.lookup_mapRows] at there
      obtain ⟨rule, present, rfl⟩ := Option.map_eq_some_iff.mp there
      cases permitted : site.hasPermission doc.doctype doc.name with
      | error exn =>
          simp only [GateSite.printSite, permitted, bind, Except.bind, Except.error.injEq]
            at refused
          subst refused
          exact absurd permitted honest.permission
      | ok readable =>
          cases readable with
          | false =>
              simp only [GateSite.printSite, permitted, bind, Except.bind] at refused
              exact absurd (congrArg Exn.kind (Except.error.inj refused))
                (by decide : "PermissionError" ≠ "ValidationError")
          | true =>
              have gate : site.printSite.gated doc.doctype doc.name arguments rule.printRule
                  (getValue site.requests (SigningRequest.signedFor doc.doctype doc.name)
                    requestPick) = .error (signatureRequired doc.doctype) := by
                simpa only [GateSite.printSite, permitted, bind, Except.bind, if_true] using refused
              unfold PrintSite.gated at gate
              simp only at gate
              split at gate
              · exact absurd gate (serveFile_refuses honest _)
              · rename_i blank
                split at gate
                · rename_i mandatory
                  exact ⟨permitted, ⟨key, rule, present, blocks, mandatory⟩,
                    unsigned_iff.mpr ⟨requestPick, by simpa using blank⟩⟩
                · cases gate
  · rintro ⟨readable, ⟨key, rule, present, blocks, mandatory⟩, unsigned⟩
    obtain ⟨requestPick, blank⟩ := unsigned_iff.mp unsigned
    have there : site.printSite.rules.lookup key = some rule.printRule := by
      rw [GateSite.printSite, Table.lookup_mapRows, present, Option.map_some]
    obtain ⟨rulePick, returned⟩ := getValue_any there blocks
    refine ⟨rulePick, requestPick, ?_⟩
    have readable' : site.printSite.hasPermission doc.doctype doc.name = .ok true := readable
    have required : rule.printRule.isMandatory = true := mandatory
    rw [downloadPdf, returned, readable']
    change site.printSite.gated doc.doctype doc.name arguments rule.printRule (getValue site.requests
      (SigningRequest.signedFor doc.doctype doc.name) requestPick) = _
    simp only [PrintSite.gated, blank, Bool.false_eq_true, if_false, required, if_true]

theorem email_refuses_iff :
    (∃ rulePick requestPick,
      checkEmailAllowed site.emailSite doc.doctype doc.name rulePick requestPick ≠ .ok ()) ↔
      site.EmailBlocked doc := by
  constructor
  · rintro ⟨rulePick, requestPick, refused⟩
    unfold checkEmailAllowed at refused
    split at refused
    · exact absurd rfl refused
    · rename_i blockingRule found
      obtain ⟨key, there, blocks⟩ := getValue_mem found
      rw [GateSite.emailSite, Table.lookup_mapRows] at there
      obtain ⟨rule, present, rfl⟩ := Option.map_eq_some_iff.mp there
      split at refused
      · exact absurd rfl refused
      · rename_i nothing
        exact ⟨⟨key, rule, present, blocks⟩, getValue_none.mp nothing⟩
  · rintro ⟨⟨key, rule, present, blocks⟩, unsigned⟩
    have there : site.emailSite.rules.lookup key = some rule.emailRule := by
      rw [GateSite.emailSite, Table.lookup_mapRows, present, Option.map_some]
    obtain ⟨rulePick, returned⟩ := getValue_any there blocks
    have nothing : getValue site.emailSite.requests
        (SigningRequest.signedFor doc.doctype doc.name) 0 = none := getValue_none.mpr unsigned
    refine ⟨rulePick, 0, ?_⟩
    rw [checkEmailAllowed, returned]
    simp only [nothing]
    exact fun impossible => by cases impossible

/-- What is refused only where a rule is for the document, is not refused where
all the rules with the flag leave it out. -/
theorem refused_in_scope {Refused Blocked : Prop} {flag : DscRule → Bool}
    (refused : Refused ↔ Blocked)
    (flagged : ∀ rule : DscRule, flag rule = true → rule.targetDoctype = doc.doctype) :
    (Refused → ∃ key rule, site.rules.lookup key = some rule ∧ flag rule = true ∧
      rule.Matches lib doc) ↔
    ¬ (Blocked ∧ ∀ key rule, site.rules.lookup key = some rule → flag rule = true →
      rule.LeavesOut lib doc) := by
  constructor
  · rintro fitting ⟨blocked, outside⟩
    obtain ⟨key, rule, found, blocks, fits⟩ := fitting (refused.mpr blocked)
    exact (matches_iff (flagged rule blocks)).mp fits (outside key rule found blocks)
  · intro exceptions refuses
    by_contra nothing
    refine exceptions ⟨refused.mp refuses, fun key rule found blocks => ?_⟩
    by_contra inside
    exact nothing ⟨key, rule, found, blocks, (matches_iff (flagged rule blocks)).mpr inside⟩

/-- The gates hold back only documents that a rule with their flag is for,
exactly unless all such rules leave out a document that they hold back. -/
theorem gates_in_scope_iff (lib : Libraries) (site : GateSite) (doc : Document)
    (arguments : PrintArguments) (honest : site.Honest doc) :
    (((∃ rulePick requestPick,
        downloadPdf site.printSite doc.doctype doc.name arguments rulePick requestPick =
          .error (signatureRequired doc.doctype)) →
      ∃ key rule, site.rules.lookup key = some rule ∧
        rule.printRule.blocks doc.doctype = true ∧ rule.Matches lib doc) ∧
    ((∃ rulePick requestPick,
        checkEmailAllowed site.emailSite doc.doctype doc.name rulePick requestPick ≠ .ok ()) →
      ∃ key rule, site.rules.lookup key = some rule ∧
        rule.emailRule.blocks doc.doctype = true ∧ rule.Matches lib doc)) ↔
    ¬ (site.PrintBlocked doc ∧ ∀ key rule, site.rules.lookup key = some rule →
        rule.printRule.blocks doc.doctype = true → rule.LeavesOut lib doc) ∧
    ¬ (site.EmailBlocked doc ∧ ∀ key rule, site.rules.lookup key = some rule →
        rule.emailRule.blocks doc.doctype = true → rule.LeavesOut lib doc) := by
  refine and_congr (refused_in_scope (print_refuses_iff honest arguments) ?_)
    (refused_in_scope email_refuses_iff ?_)
  · intro rule blocks
    simp only [PrintRule.blocks, Bool.and_eq_true, beq_iff_eq] at blocks
    exact blocks.1.1
  · intro rule blocks
    simp only [EmailRule.blocks, Bool.and_eq_true, beq_iff_eq] at blocks
    exact blocks.1.1

/-! ### A rule of one company -/

def gateLibraries : Libraries :=
  { sampleLibraries with
    flt := fun _ => .ok (.finite 0)
    showFloat := fun _ => "0.0" }

/-- A rule of company A that blocks printing and email. -/
def companyRule : DscRule :=
  { name := "R-1"
    isEnabled := true
    targetDoctype := "Sales Invoice"
    triggerEvent := "on_submit"
    triggerWorkflowState := none
    priority := 10
    conditions := []
    profile := "P-1"
    signatureTemplate := none
    isMandatory := true
    blockPrintUntilSigned := true
    blockEmailUntilSigned := true
    company := some "A" }

def invoiceOf (company : String) : Document :=
  ⟨"Sales Invoice", "INV-1", fun field => if field == "company" then .text company else .none⟩

def companySite : GateSite :=
  { rules := AList.insert "R-1" companyRule ∅
    requests := ∅
    files := ∅
    hasPermission := fun _ _ => .ok true
    getContent := fun file => .ok file.content
    declares := fun parameter => parameter == "format" }

theorem companySite_honest (doc : Document) : companySite.Honest doc :=
  ⟨fun impossible => (by cases impossible), fun _ impossible => (by cases impossible)⟩

theorem companySite_rule {key : String} {rule : DscRule}
    (found : companySite.rules.lookup key = some rule) : rule = companyRule := by
  by_cases same : key = "R-1"
  · subst same
    exact (Option.some.inj found).symm
  · have nothing := (AList.lookup_insert_ne same).symm.trans found
    cases nothing

/-- An invoice of company A is refused, and the rule is for it. -/
theorem gates_in_scope_iff_sample :
    ((∃ rulePick requestPick, downloadPdf companySite.printSite "Sales Invoice" "INV-1" printView
        rulePick requestPick = .error (signatureRequired "Sales Invoice")) →
      ∃ key rule, companySite.rules.lookup key = some rule ∧
        rule.printRule.blocks "Sales Invoice" = true ∧ rule.Matches gateLibraries (invoiceOf "A")) ∧
    downloadPdf companySite.printSite "Sales Invoice" "INV-1" printView 0 0 =
      .error (signatureRequired "Sales Invoice") := by
  have inside : ¬ companyRule.LeavesOut gateLibraries (invoiceOf "A") := by
    rintro (skipped | ⟨condition, member, _⟩)
    · exact absurd skipped (by decide)
    · cases member
  have found : companySite.rules.lookup "R-1" = some companyRule := rfl
  have both := (gates_in_scope_iff gateLibraries companySite (invoiceOf "A") printView
    (companySite_honest _)).mpr
      ⟨fun out => inside (out.2 "R-1" companyRule found rfl),
        fun out => inside (out.2 "R-1" companyRule found rfl)⟩
  exact ⟨both.1, rfl⟩

/-- An invoice of company B can be neither printed nor emailed, and no rule is for it. -/
theorem gates_out_of_scope :
    downloadPdf companySite.printSite "Sales Invoice" "INV-1" printView 0 0 =
      .error (signatureRequired "Sales Invoice") ∧
    checkEmailAllowed companySite.emailSite "Sales Invoice" "INV-1" 0 0 ≠ .ok () ∧
    ∀ key rule, companySite.rules.lookup key = some rule →
      ¬ rule.Matches gateLibraries (invoiceOf "B") := by
  refine ⟨rfl, fun impossible => (by cases impossible), ?_⟩
  intro key rule found fits
  rw [companySite_rule found] at fits
  exact absurd fits.2.1 (by decide)

end DscSigning.RuleEngine
