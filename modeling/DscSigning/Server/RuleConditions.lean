/-
The conditions of a DSC Rule, checked against the fields of a document.

`frappe.utils.flt` and the text of a float are parameters; everything else is
computed as the rule engine does.
-/

import DscSigning.Primitives
import Mathlib.Data.List.Infix

namespace DscSigning

/-- What `doc.get` returns for a field: a date or a time by its `str()`. -/
inductive FieldValue where
  | none
  | text (value : String)
  | int (value : Int)
  | float (value : PyFloat)
  | other (shown : String)
deriving DecidableEq

/-- DSC Rule Condition -/
structure RuleCondition where
  field : String
  operator : String
  value : Text
deriving DecidableEq

/-- What the conditions need of Frappe and of Python. -/
structure ConditionLibraries where
  flt : FieldValue → Except Exn PyFloat
  /-- `str` of a float -/
  showFloat : PyFloat → String

/-- A document as the rule engine sees it. -/
structure Document where
  doctype : String
  name : String
  /-- `doc.get` -/
  get : String → FieldValue

/-! ### Python -/

/-- `left == right` of floats -/
def PyFloat.eq : PyFloat → PyFloat → Bool
  | .finite left, .finite right => left == right
  | .infinite left, .infinite right => left == right
  | _, _ => false

/-- `left < right` of floats -/
def PyFloat.lt : PyFloat → PyFloat → Bool
  | .finite left, .finite right => decide (left < right)
  | .infinite negative, .finite _ => negative
  | .finite _, .infinite negative => !negative
  | .infinite left, .infinite right => left && !right
  | _, _ => false

/-- The characters that `str.strip` removes. -/
def isPythonSpace (c : Char) : Bool :=
  (9 ≤ c.toNat && c.toNat ≤ 13) || (28 ≤ c.toNat && c.toNat ≤ 32) || c.toNat == 0x85 ||
    c.toNat == 0xA0 || c.toNat == 0x1680 || (0x2000 ≤ c.toNat && c.toNat ≤ 0x200A) ||
    c.toNat == 0x2028 || c.toNat == 0x2029 || c.toNat == 0x202F || c.toNat == 0x205F ||
    c.toNat == 0x3000

/-- `text.strip()` -/
def strip (text : String) : String :=
  String.ofList ((text.toList.dropWhile isPythonSpace).reverse.dropWhile isPythonSpace).reverse

/-- `text.split(",")` -/
def splitComma (text : String) : List String :=
  (text.toList.splitOn ',').map String.ofList

/-- `part in text` -/
def contains (part text : String) : Bool := decide (part.toList <:+: text.toList)

/-- `left < right` of texts, by code points -/
def textLt (left right : String) : Bool := decide (left < right)

variable (lib : ConditionLibraries)

/-- Python's truth value -/
def FieldValue.truthy : FieldValue → Bool
  | .none => false
  | .text value => value != ""
  | .int value => value != 0
  | .float value => !value.eq (.finite 0)
  | .other _ => true

/-- `str(value)` -/
def FieldValue.show : FieldValue → String
  | .none => "None"
  | .text value => value
  | .int value => toString value
  | .float value => lib.showFloat value
  | .other shown => shown

/-- `str(value or "")` -/
def FieldValue.showOrEmpty (value : FieldValue) : String :=
  if value.truthy then value.show lib else ""

/-- `value is not None and value != "" and value != 0` is its truth value. -/
def FieldValue.isSet (value : FieldValue) : Bool := value.truthy

/-! ### Conditions -/

inductive Comparison where
  | eq
  | ne
  | gt
  | lt
deriving DecidableEq

def Comparison.ofFloats : Comparison → PyFloat → PyFloat → Bool
  | .eq, left, right => left.eq right
  | .ne, left, right => !left.eq right
  | .gt, left, right => right.lt left
  | .lt, left, right => left.lt right

def Comparison.ofTexts : Comparison → String → String → Bool
  | .eq, left, right => left == right
  | .ne, left, right => left != right
  | .gt, left, right => textLt right left
  | .lt, left, right => textLt left right

/-- `_coerce_and_compare`: the texts are compared only where `flt` raises one of two errors. -/
def coerceAndCompare (fieldValue : FieldValue) (targetValue : String) (op : Comparison) :
    Except Exn Bool :=
  let numbers := do
    let fv ← lib.flt fieldValue
    let tv ← lib.flt (.text targetValue)
    pure (op.ofFloats fv tv)
  match numbers with
  | .ok result => .ok result
  | .error exn =>
      if exn.kind == "ValueError" || exn.kind == "TypeError" then
        .ok (op.ofTexts (fieldValue.showOrEmpty lib) targetValue)
      else .error exn

/-- `_check_condition` -/
def checkCondition (condition : RuleCondition) (doc : Document) : Except Exn Bool :=
  let fieldValue := doc.get condition.field
  let targetValue := Text.orValue condition.value ""
  match condition.operator with
  | "is_set" => .ok fieldValue.isSet
  | "is_not_set" => .ok (!fieldValue.isSet)
  | "equals" => coerceAndCompare lib fieldValue targetValue .eq
  | "not_equals" => coerceAndCompare lib fieldValue targetValue .ne
  | "greater_than" => coerceAndCompare lib fieldValue targetValue .gt
  | "less_than" => coerceAndCompare lib fieldValue targetValue .lt
  | "in" => .ok (((splitComma targetValue).map strip).contains (fieldValue.show lib))
  | "not_in" => .ok (!((splitComma targetValue).map strip).contains (fieldValue.show lib))
  | "contains" => .ok (contains targetValue (fieldValue.showOrEmpty lib))
  | _ => .ok false

/-- `evaluate_conditions`: the first condition that fails decides. -/
def evaluateConditions (doc : Document) : List RuleCondition → Except Exn Bool
  | [] => .ok true
  | condition :: rest => do
      let passed ← checkCondition lib condition doc
      if passed then evaluateConditions doc rest else pure false

/-- All conditions hold exactly when they are evaluated without an error to true. -/
theorem evaluateConditions_true {doc : Document} {conditions : List RuleCondition} :
    evaluateConditions lib doc conditions = .ok true ↔
      ∀ condition ∈ conditions, checkCondition lib condition doc = .ok true := by
  induction conditions with
  | nil => simp [evaluateConditions]
  | cons condition rest ih =>
      rw [List.forall_mem_cons, ← ih, evaluateConditions]
      cases checkCondition lib condition doc with
      | error exn => simp [bind, Except.bind]
      | ok passed => cases passed <;> simp [bind, Except.bind, pure, Except.pure]

end DscSigning
