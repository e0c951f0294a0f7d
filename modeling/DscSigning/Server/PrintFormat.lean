/-
Which print format is signed.

A DSC Rule names a print format; `initiate` looks for the rule among the fields
it fetched of the request, where it is not.
-/

import DscSigning.Server.Preparation
import DscSigning.Server.Provenance

namespace DscSigning

open Interaction Engine

/-- The print format of the rule that the request was created from. -/
def ruleFormat (database : Database) (name : String) : Text :=
  (database.requests.lookup name).bind fun request =>
    request.rule.bind fun rule => (database.masters.rule rule).join

/-- The print format of a document without a rule. -/
def fallbackFormat (database : Database) (doctype : String) : String :=
  (database.masters.defaultPrintFormat doctype).orValue "Standard"

/-- The print format that the rule, the DocType or neither asks for. -/
def intendedFormat (database : Database) (name doctype : String) : Text :=
  some ((ruleFormat database name).orValue (fallbackFormat database doctype))

variable {lib : Libraries}

theorem orValue_given {text : Text} {value : String} :
    some (text.orValue value) = some value ↔ text.given = false ∨ text = some value := by
  cases text with
  | none => simp [Text.orValue, Text.given]
  | some inner =>
      cases filled : Text.given (some inner) with
      | false => simp [Text.orValue, filled]
      | true => simp [Text.orValue, filled]

/-- The answer to the question for the default print format. -/
theorem default_answered {oracle : Oracle} {database : Database} {writes : List Write}
    {shared later : Shared} {doctype : String} {default : Text}
    (replied : reply oracle (site.view database writes) shared (.defaultPrintFormat doctype) =
      some (.ok default, later)) : default = database.masters.defaultPrintFormat doctype := by
  obtain ⟨settings, masters⟩ := view_masters database writes
  replace replied := answer_of_reply replied
  simp only [answer, masters, Option.some.injEq, Prod.mk.injEq, Except.ok.injEq] at replied
  exact replied.1.symm

/-- What `initiate` renders for a document that was not uploaded is in the print
format of the rule exactly when the rule has none, or the fallback is the same.
The formats are those that the database has when the choice is made. -/
theorem rule_print_format_iff (masters : Masters) (now : Instant) (zone : Int)
    (labels : List ServerLabel) (world : ServerWorld) (index : Nat) (call : ServerCall)
    (arguments : InitiateArguments) (doctype docname : String) (format : Text)
    (result : Except Exn Bytes) (stamp : Instant)
    (reached : run (body lib) (installed masters now zone) labels = some world)
    (located : world.calls[index]? = some call)
    (endpoint : call.origin.endpoint = .initiate arguments)
    (rendered : ⟨.renderPdf doctype docname format, result, stamp⟩ ∈ call.trace) :
    ∃ row before label after chosen next earlier default at_,
      Answered call.trace (.findPending doctype docname) (some row) ∧
      labels = before ++ label :: after ∧
      run (body lib) (installed masters now zone) before = some chosen ∧
      step (body lib) chosen label = some next ∧ run (body lib) next after = some world ∧
      asking chosen label = some (index, earlier, ⟨.defaultPrintFormat doctype, .ok default, at_⟩) ∧
      (format = intendedFormat chosen.data row.name doctype ↔
        (ruleFormat chosen.data row.name).given = false ∨
          ruleFormat chosen.data row.name = some (fallbackFormat chosen.data doctype)) := by
  obtain ⟨honours, _⟩ := run_warranted reached index call located
  obtain ⟨before', suffix, warranted⟩ := honours.of_mem rendered
  have starts : call.origin.initiates = true := by simp [Origin.initiates, endpoint]
  obtain ⟨row, default, found, ⟨at_, looked⟩, same⟩ := warranted starts
  have older := (List.suffix_cons _ _).trans suffix
  rcases asked_at (body lib) reached ⟨call, located, older.subset looked⟩ with
    impossible | ⟨before, label, after, chosen, next, earlier, split, start, stepped, continued, asks⟩
  · exact absurd impossible not_asked_installed
  · refine ⟨row, before, label, after, chosen, next, earlier, default, at_, found.mono older, split,
      start, stepped, continued, asks, ?_⟩
    obtain ⟨oracle, replied⟩ := asking_shared (body lib) stepped asks
    have fallback : default.orValue "Standard" = fallbackFormat chosen.data doctype := by
      rw [default_answered replied]
      rfl
    rw [same, fallback, intendedFormat, ← orValue_given]
    exact eq_comm

/-! ### A rule with its own print format -/

/-- The sample site with a print format for its rule. -/
def formattedMasters (format : String) : Masters :=
  { sampleMasters with rule := fun name => if name == "R-1" then some (some format) else none }

def formattedSigning : List ServerLabel :=
  .move (.createRequest "SR-1" sampleRequest) ::
    served 0 ⟨sampleUser "alice", .initiate sampleInitiate⟩ 24 (sampleOracle "S-1" "")

def rendering : ServerEvent → Option (String × String × Text)
  | ⟨.renderPdf doctype docname format, _, _⟩ => some (doctype, docname, format)
  | _ => none

theorem rendering_mem {trace : ServerTrace} {doctype docname : String} {format : Text}
    (found : trace.findSome? rendering = some (doctype, docname, format)) :
    ∃ result stamp, (⟨.renderPdf doctype docname format, result, stamp⟩ : ServerEvent) ∈ trace := by
  obtain ⟨⟨operation, result, stamp⟩, member, shown⟩ := List.exists_of_findSome?_eq_some found
  cases operation with
  | renderPdf _ _ _ =>
      cases shown
      exact ⟨result, stamp, member⟩
  | _ => cases shown

/-- What the sample signing renders. -/
def sampleRendering (format : String) : Option (String × String × Text) :=
  (run (body sampleLibraries) (installed (formattedMasters format) 0 0) formattedSigning).bind
    fun world => (world.calls[0]?).bind fun call => call.trace.findSome? rendering

theorem rule_print_format_standard :
    ∃ world call result stamp,
      run (body sampleLibraries) (installed (formattedMasters "Standard") 0 0) formattedSigning =
        some world ∧
      world.calls[0]? = some call ∧
      ⟨.renderPdf "Sales Invoice" "INV-1" (some "Standard"), result, stamp⟩ ∈ call.trace ∧
      ∃ row before label after chosen next earlier default at_,
        Answered call.trace (.findPending "Sales Invoice" "INV-1") (some row) ∧
        formattedSigning = before ++ label :: after ∧
        run (body sampleLibraries) (installed (formattedMasters "Standard") 0 0) before =
          some chosen ∧
        step (body sampleLibraries) chosen label = some next ∧
        run (body sampleLibraries) next after = some world ∧
        asking chosen label =
          some (0, earlier, ⟨.defaultPrintFormat "Sales Invoice", .ok default, at_⟩) ∧
        (some "Standard" = intendedFormat chosen.data row.name "Sales Invoice" ↔
          (ruleFormat chosen.data row.name).given = false ∨
            ruleFormat chosen.data row.name =
              some (fallbackFormat chosen.data "Sales Invoice")) := by
  have ends : sampleRendering "Standard" = some ("Sales Invoice", "INV-1", some "Standard") := by
    decide +kernel
  have starts : ((run (body sampleLibraries) (installed (formattedMasters "Standard") 0 0)
      formattedSigning).bind fun world => (world.calls[0]?).map fun call =>
        call.origin.endpoint == .initiate sampleInitiate) = some true := by decide +kernel
  simp only [sampleRendering, Option.bind_eq_some_iff, Option.map_eq_some_iff, beq_iff_eq]
    at ends starts
  obtain ⟨world, reached, call, located, shown⟩ := ends
  obtain ⟨same, again, other, there, endpoint⟩ := starts
  rw [reached] at again
  cases again
  rw [located] at there
  cases there
  obtain ⟨result, stamp, rendered⟩ := rendering_mem shown
  exact ⟨world, call, result, stamp, reached, located, rendered,
    rule_print_format_iff (formattedMasters "Standard") 0 0 formattedSigning world 0 call
      sampleInitiate "Sales Invoice" "INV-1" (some "Standard") result stamp reached located endpoint
      rendered⟩

/-- The rule asks for its own print format, and the document is signed in another. -/
theorem rule_print_format_ignored :
    (formattedMasters "Signed Invoice").rule "R-1" = some (some "Signed Invoice") ∧
      sampleRequest.rule = some "R-1" ∧
      sampleRendering "Signed Invoice" = some ("Sales Invoice", "INV-1", some "Standard") := by
  refine ⟨rfl, rfl, ?_⟩
  decide +kernel

end DscSigning
