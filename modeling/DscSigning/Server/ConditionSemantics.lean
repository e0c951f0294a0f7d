/-
What the conditions of a rule are to mean, and where the rule engine agrees.

A value reads as a number where `float` takes it, commas aside.  `flt` never
raises and has 0 for everything else, so the comparison of texts that stands
behind it is never come to.
-/

import DscSigning.Server.RuleConditions

namespace DscSigning

/-- Python's `float`, which raises where there is nothing. -/
structure PythonFloats where
  ofText : String → Option PyFloat
  ofInt : Int → Option PyFloat

variable (floats : PythonFloats)

/-- `text.replace(",", "")` -/
def withoutCommas (text : String) : String := String.ofList (text.toList.filter (· != ','))

def FieldValue.number : FieldValue → Option PyFloat
  | .text value => floats.ofText (withoutCommas value)
  | .int value => floats.ofInt value
  | .float value => some value
  | .none => Option.none
  | .other _ => Option.none

/-- `frappe.utils.flt` -/
def flt (value : FieldValue) : Except Exn PyFloat :=
  .ok ((value.number floats).getD (.finite 0))

def PyFloat.zero (value : PyFloat) : Bool := value.eq (.finite 0)

def PyFloat.positive (value : PyFloat) : Bool := (PyFloat.finite 0).lt value

def PyFloat.negative (value : PyFloat) : Bool := value.lt (.finite 0)

/-! ### Comparisons -/

def Comparison.operator : Comparison → String
  | .eq => "equals"
  | .ne => "not_equals"
  | .gt => "greater_than"
  | .lt => "less_than"

section Comparing

variable (lib : ConditionLibraries)

/-- Two numbers are compared as numbers, and everything else as texts. -/
def Comparison.documented (op : Comparison) (value : FieldValue) (target : String) : Bool :=
  match value.number floats, (FieldValue.text target).number floats with
  | some left, some right => op.ofFloats left right
  | _, _ => op.ofTexts (value.showOrEmpty lib) target

def BothNumbers (value : FieldValue) (target : String) : Prop :=
  (value.number floats).isSome = true ∧ ((FieldValue.text target).number floats).isSome = true

variable {floats lib}

theorem documented_both {op : Comparison} {value : FieldValue} {target : String}
    (both : BothNumbers floats value target) :
    op.documented floats lib value target =
      op.ofFloats ((value.number floats).getD (.finite 0))
        (((FieldValue.text target).number floats).getD (.finite 0)) := by
  obtain ⟨left, leftNumber⟩ := Option.isSome_iff_exists.mp both.1
  obtain ⟨right, rightNumber⟩ := Option.isSome_iff_exists.mp both.2
  unfold Comparison.documented
  rw [leftNumber, rightNumber]
  rfl

theorem documented_short {op : Comparison} {value : FieldValue} {target : String}
    (short : ¬ BothNumbers floats value target) :
    op.documented floats lib value target = op.ofTexts (value.showOrEmpty lib) target := by
  unfold Comparison.documented
  split
  · rename_i left right leftNumber rightNumber
    exact absurd ⟨by rw [leftNumber]; rfl, by rw [rightNumber]; rfl⟩ short
  · rfl

end Comparing

/-- `float` of decimal digits, with or without `.0` behind them, and of words that are
no numbers. -/
def sampleFloats : PythonFloats :=
  { ofText := fun text =>
      let digits := if ".0".toList <:+ text.toList then text.toList.dropLast.dropLast
        else text.toList
      if digits != [] && digits.all Char.isDigit then
        some (.finite (Nat.ofDigitChars 10 digits 0))
      else none
    ofInt := fun value => some (.finite value) }

def sampleConditions : ConditionLibraries :=
  { flt := flt sampleFloats
    showFloat := fun value => match value with
      | .finite value => toString value.num ++ ".0"
      | .infinite negative => if negative then "-inf" else "inf"
      | .nan => "nan" }

def sampleDocument (value : FieldValue) : Document := ⟨"Sales Invoice", "INV-1", fun _ => value⟩

def RuleCondition.items (condition : RuleCondition) : List String :=
  (splitComma (condition.value.orValue "")).map strip

def FieldValue.listed (lib : ConditionLibraries) (value : FieldValue) (items : List String) :
    Bool :=
  items.any fun item => Comparison.documented floats lib .eq value item

def SameNumber (value : FieldValue) (item : String) : Prop :=
  ∃ left right, value.number floats = some left ∧
    (FieldValue.text item).number floats = some right ∧ left.eq right = true

/-- Where a value is a number, `float` reads that number from what `str` makes of it. -/
structure ReadsBack (lib : ConditionLibraries) (value : FieldValue) : Prop where
  shown : ∀ number, value.number floats = some number →
    (FieldValue.text (value.show lib)).number floats = some number
  zero : floats.ofInt 0 = some (.finite 0)

/-- What a value has to be for the list to be searched for its text. -/
structure SearchFits (lib : ConditionLibraries) (value : FieldValue) (items : List String) :
    Prop where
  /-- A number that is an item is written like one of them. -/
  written : ∀ item ∈ items, SameNumber floats value item → value.show lib ∈ items
  /-- Nothing does not pass for the word None. -/
  filled : value = .none → "None" ∉ items
  /-- What is no number does not pass for itself. -/
  numbered : value.number floats = some .nan → value.show lib ∉ items

section Listing

variable {floats} {lib : ConditionLibraries} {value : FieldValue} {items : List String}

theorem eq_self {number : PyFloat} : number.eq number = true ↔ number ≠ .nan := by
  cases number <;> simp [PyFloat.eq]

theorem documented_eq {item : String} :
    Comparison.documented floats lib .eq value item = true ↔
      SameNumber floats value item ∨
        ¬ BothNumbers floats value item ∧ value.showOrEmpty lib = item := by
  by_cases both : BothNumbers floats value item
  · rw [documented_both both]
    obtain ⟨left, leftNumber⟩ := Option.isSome_iff_exists.mp both.1
    obtain ⟨right, rightNumber⟩ := Option.isSome_iff_exists.mp both.2
    simp [SameNumber, both, leftNumber, rightNumber, Comparison.ofFloats]
  · have apart : ¬ SameNumber floats value item := by
      rintro ⟨left, right, leftNumber, rightNumber, _⟩
      exact both ⟨by rw [leftNumber]; rfl, by rw [rightNumber]; rfl⟩
    rw [documented_short both, or_iff_right apart]
    simp [both, Comparison.ofTexts]

theorem showOrEmpty_some (shown : value.showOrEmpty lib ≠ "") :
    value.showOrEmpty lib = value.show lib := by
  unfold FieldValue.showOrEmpty at shown ⊢
  split
  · rfl
  · rename_i falsy
    exact absurd (if_neg falsy) shown

/-- A value that is no number, and not nothing, is shown as it is compared. -/
theorem showOrEmpty_other (back : ReadsBack floats lib value) (filled : value ≠ .none)
    (other : value.number floats = none) : value.showOrEmpty lib = value.show lib := by
  unfold FieldValue.showOrEmpty
  cases value with
  | none => exact absurd rfl filled
  | text text =>
      by_cases blank : text = ""
      · rw [blank]
        rfl
      · exact if_pos (by simpa [FieldValue.truthy] using blank)
  | int int =>
      have nonzero : int ≠ 0 := by
        rintro rfl
        cases other.symm.trans back.zero
      exact if_pos (by simpa [FieldValue.truthy] using nonzero)
  | float float => cases other
  | other shown => rfl

/-- The text of a value among the items makes the value one of them, but for the
two kinds of values that are not what their texts say. -/
theorem listed_show (back : ReadsBack floats lib value) (member : value.show lib ∈ items)
    (filled : value ≠ .none) (numbered : value.number floats ≠ some .nan) :
    value.listed floats lib items = true := by
  refine List.any_eq_true.mpr ⟨value.show lib, member, documented_eq.mpr ?_⟩
  cases isNumber : value.number floats with
  | none =>
      refine Or.inr ⟨?_, showOrEmpty_other back filled isNumber⟩
      intro both
      rw [BothNumbers, isNumber] at both
      cases both.1
  | some number =>
      refine Or.inl ⟨number, number, isNumber, back.shown number isNumber, eq_self.mpr ?_⟩
      rintro rfl
      exact numbered isNumber

theorem not_listed_none (nonempty : ∀ item ∈ items, item ≠ "") :
    FieldValue.none.listed floats lib items = false := by
  refine List.any_eq_false.mpr fun item member equal => ?_
  rcases documented_eq.mp equal with ⟨left, _, number, _⟩ | ⟨_, same⟩
  · cases number
  · exact nonempty item member same.symm

theorem not_listed_nan (back : ReadsBack floats lib value)
    (isNan : value.number floats = some .nan) (nonempty : ∀ item ∈ items, item ≠ "") :
    value.listed floats lib items = false := by
  refine List.any_eq_false.mpr fun item member equal => ?_
  rcases documented_eq.mp equal with ⟨left, right, number, _, same⟩ | ⟨short, same⟩
  · rw [isNan] at number
    cases number
    cases right <;> cases same
  · have shown := showOrEmpty_some (same.trans_ne (nonempty item member))
    refine short ⟨by rw [isNan]; rfl, ?_⟩
    rw [← same, shown, back.shown .nan isNan]
    rfl

/-- The text of a value is searched for exactly where it should be. -/
theorem search_listed (back : ReadsBack floats lib value) (nonempty : ∀ item ∈ items, item ≠ "") :
    items.contains (value.show lib) = value.listed floats lib items ↔
      SearchFits floats lib value items := by
  rw [Bool.eq_iff_iff, List.contains_iff_mem]
  constructor
  · intro agree
    refine ⟨?_, ?_, ?_⟩
    · intro item member same
      exact agree.mpr (List.any_eq_true.mpr ⟨item, member, documented_eq.mpr (Or.inl same)⟩)
    · rintro rfl member
      have listed := agree.mp member
      rw [not_listed_none nonempty] at listed
      cases listed
    · intro isNan member
      have listed := agree.mp member
      rw [not_listed_nan back isNan nonempty] at listed
      cases listed
  · intro fits
    constructor
    · intro member
      refine listed_show back member ?_ fun isNan => fits.numbered isNan member
      rintro rfl
      exact fits.filled rfl member
    · intro listed
      obtain ⟨item, member, equal⟩ := List.any_eq_true.mp listed
      rcases documented_eq.mp equal with same | ⟨_, same⟩
      · exact fits.written item member same
      · rw [← showOrEmpty_some (same.trans_ne (nonempty item member)), same]
        exact member

end Listing

/-- The two conditions on a list mean what they are to mean exactly where the search for
the text of the value does. -/
theorem membership_documented_iff (lib : ConditionLibraries) (doc : Document)
    (isIn notIn : RuleCondition) (inList : isIn.operator = "in") (outside : notIn.operator = "not_in")
    (sameField : notIn.field = isIn.field) (sameValue : notIn.value = isIn.value)
    (back : ReadsBack floats lib (doc.get isIn.field))
    (nonempty : ∀ item ∈ isIn.items, item ≠ "") :
    checkCondition lib isIn doc = .ok ((doc.get isIn.field).listed floats lib isIn.items) ∧
        checkCondition lib notIn doc = .ok (!(doc.get isIn.field).listed floats lib isIn.items) ↔
      SearchFits floats lib (doc.get isIn.field) isIn.items := by
  have found : checkCondition lib isIn doc =
      .ok (isIn.items.contains ((doc.get isIn.field).show lib)) := by
    unfold checkCondition
    rw [inList]
    rfl
  have missed : checkCondition lib notIn doc =
      .ok (!isIn.items.contains ((doc.get isIn.field).show lib)) := by
    unfold checkCondition
    rw [outside, sameField, sameValue]
    rfl
  rw [found, missed, ← search_listed back nonempty, Except.ok.injEq, Except.ok.injEq,
    Bool.not_inj_iff]
  exact and_self_iff

theorem membership_documented_sample :
    let value := FieldValue.text "Paid"
    checkCondition sampleConditions ⟨"status", "in", some "Unpaid, Paid"⟩ (sampleDocument value) =
        .ok (value.listed sampleFloats sampleConditions ["Unpaid", "Paid"]) ∧
      checkCondition sampleConditions ⟨"status", "not_in", some "Unpaid, Paid"⟩
          (sampleDocument value) =
        .ok (!value.listed sampleFloats sampleConditions ["Unpaid", "Paid"]) :=
  (membership_documented_iff sampleFloats sampleConditions (sampleDocument (.text "Paid"))
    ⟨"status", "in", some "Unpaid, Paid"⟩ ⟨"status", "not_in", some "Unpaid, Paid"⟩ rfl rfl rfl rfl
    ⟨fun _ isNumber => isNumber, rfl⟩ (by decide +kernel)).mpr
      ⟨fun _ _ _ => by decide +kernel, nofun, fun isNan => absurd isNan (by decide +kernel)⟩

/-- A rating of 5.0 equals 5, and is not in the list of 5. -/
theorem five_not_listed :
    ¬ ∀ (floats : PythonFloats) (lib : ConditionLibraries) (doc : Document)
        (isIn notIn : RuleCondition), isIn.operator = "in" → notIn.operator = "not_in" →
      notIn.field = isIn.field → notIn.value = isIn.value →
      ReadsBack floats lib (doc.get isIn.field) → (∀ item ∈ isIn.items, item ≠ "") →
      checkCondition lib isIn doc = .ok ((doc.get isIn.field).listed floats lib isIn.items) ∧
        checkCondition lib notIn doc =
          .ok (!(doc.get isIn.field).listed floats lib isIn.items) := by
  intro means
  have both := means sampleFloats sampleConditions (sampleDocument (.float (.finite 5)))
    ⟨"rating", "in", some "5"⟩ ⟨"rating", "not_in", some "5"⟩ rfl rfl rfl rfl
    ⟨by decide +kernel, rfl⟩ (by decide +kernel)
  exact absurd both.1 (by decide +kernel)

end DscSigning
