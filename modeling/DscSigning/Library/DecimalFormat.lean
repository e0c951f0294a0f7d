/-
Numbers as decimal text: rounding to significant digits, the general format of
C (`%g`), and what a plain decimal denotes.

A number that has so few digits is printed as it is, also when it was first
moved a little, as a binary float is.
-/

import Mathlib.Algebra.Order.Round
import Mathlib.Data.Int.Log
import Mathlib.Data.List.DropRight
import Mathlib.Data.Rat.Floor
import Mathlib.Tactic.FieldSimp
import Mathlib.Tactic.Linarith
import Mathlib.Tactic.Positivity
import DscSigning.Library.Calendar

namespace DecimalFormat

/-! ### Rounding -/

/-- The nearest integer, the even one of two. -/
def halfEven (x : ℚ) : ℤ :=
  if 2 * (x - ⌊x⌋) < 1 then ⌊x⌋
  else if 2 * (x - ⌊x⌋) = 1 ∧ ⌊x⌋ % 2 = 0 then ⌊x⌋
  else ⌊x⌋ + 1

theorem abs_sub_halfEven (x : ℚ) : |x - halfEven x| ≤ 1 / 2 := by
  have below := Int.floor_le x
  have above := Int.lt_floor_add_one x
  unfold halfEven
  split
  · rw [abs_le]
    constructor
    · linarith
    · linarith
  · split
    · rw [abs_le]
      constructor
      · linarith
      · linarith
    · push_cast
      rw [abs_le]
      constructor
      · linarith
      · linarith

theorem halfEven_eq {x : ℚ} {n : ℤ} (near : |x - n| < 1 / 2) : halfEven x = n := by
  have half := abs_le.mp (abs_sub_halfEven x)
  have strict := abs_lt.mp near
  have less : halfEven x < n + 1 := by
    have cast : ((halfEven x : ℤ) : ℚ) < ((n + 1 : ℤ) : ℚ) := by
      push_cast
      linarith
    exact Int.cast_lt.mp cast
  have more : n < halfEven x + 1 := by
    have cast : ((n : ℤ) : ℚ) < ((halfEven x + 1 : ℤ) : ℚ) := by
      push_cast
      linarith
    exact Int.cast_lt.mp cast
  omega

/-- The digits of a positive number, one and so many places, and its exponent. -/
def significant (places : ℕ) (x : ℚ) : ℕ × ℤ :=
  let exponent := Int.log 10 x
  let digits := (halfEven (x / 10 ^ (exponent - places))).toNat
  -- rounding up can take one digit more
  if digits = 10 ^ (places + 1) then (10 ^ places, exponent + 1) else (digits, exponent)

/-! ### Text -/

def stripped (digits : List Char) : List Char := digits.rdropWhile (· == '0')

/-- The point is left out where nothing follows it. -/
def pointed (whole fraction : List Char) : List Char :=
  match fraction with
  | [] => whole
  | _ => whole ++ '.' :: fraction

/-- Digits with the point so many places from the end. -/
def fixed (digits decimals : ℕ) : List Char :=
  pointed (Nat.toDigits 10 (digits / 10 ^ decimals))
    (stripped (Calendar.numeral decimals (digits % 10 ^ decimals)))

/-- One digit, the others after the point, and the exponent in two digits at least. -/
def scientific (places digits : ℕ) (exponent : ℤ) : List Char :=
  pointed (Nat.toDigits 10 (digits / 10 ^ places))
      (stripped (Calendar.numeral places (digits % 10 ^ places))) ++
    'e' :: (if exponent < 0 then '-' else '+') :: Calendar.numeral 2 exponent.natAbs

/-- `%g` of a positive number. -/
def general (places : ℕ) (x : ℚ) : List Char :=
  let (digits, exponent) := significant places x
  if -4 ≤ exponent ∧ exponent ≤ places then fixed digits (places - exponent).toNat
  else scientific places digits exponent

def denoted (text : List Char) : ℚ :=
  let whole := text.takeWhile Char.isDigit
  let fraction := (text.dropWhile Char.isDigit).drop 1
  Nat.ofDigitChars 10 whole 0 + Nat.ofDigitChars 10 fraction 0 / 10 ^ fraction.length

/-! ### What is printed -/

theorem stripped_zeros (digits : List Char) :
    ∃ count, digits = stripped digits ++ List.replicate count '0' := by
  induction digits using List.reverseRecOn with
  | nil => exact ⟨0, rfl⟩
  | append_singleton front last ih =>
      by_cases zero : last = '0'
      · subst zero
        obtain ⟨count, same⟩ := ih
        refine ⟨count + 1, ?_⟩
        rw [stripped, List.rdropWhile_concat_pos _ _ _ (by simp), List.replicate_succ',
          ← List.append_assoc]
        exact congrArg (· ++ ['0']) same
      · refine ⟨0, ?_⟩
        rw [stripped, List.rdropWhile_concat_neg _ _ _ (by simpa using zero)]
        simp

theorem stripped_mem {digits : List Char} {c : Char} (member : c ∈ stripped digits) : c ∈ digits :=
  (List.rdropWhile_prefix (· == '0') digits).subset member

/-- As a fraction the digits are worth the same without the zeros. -/
theorem stripped_value (digits : List Char) :
    (Nat.ofDigitChars 10 (stripped digits) 0 : ℚ) / 10 ^ (stripped digits).length =
      Nat.ofDigitChars 10 digits 0 / 10 ^ digits.length := by
  obtain ⟨count, same⟩ := stripped_zeros digits
  have value : Nat.ofDigitChars 10 digits 0 =
      10 ^ count * Nat.ofDigitChars 10 (stripped digits) 0 := by
    rw [same, Nat.ofDigitChars_append, Nat.ofDigitChars_replicate_zero, ← same]
  have length : digits.length = (stripped digits).length + count := by
    have sizes := congrArg List.length same
    rwa [List.length_append, List.length_replicate] at sizes
  rw [value, length, pow_add]
  push_cast
  field_simp

theorem denoted_pointed {whole fraction : List Char} (digits : ∀ c ∈ whole, c.isDigit = true)
    (more : ∀ c ∈ fraction, c.isDigit = true) :
    denoted (pointed whole fraction) =
      Nat.ofDigitChars 10 whole 0 + Nat.ofDigitChars 10 fraction 0 / 10 ^ fraction.length := by
  cases fraction with
  | nil =>
      have all : whole.takeWhile Char.isDigit = whole := List.takeWhile_eq_self_iff.mpr digits
      have none_ : whole.dropWhile Char.isDigit = [] := List.dropWhile_eq_nil_iff.mpr digits
      simp [pointed, denoted, all, none_]
  | cons first rest =>
      have all : (whole ++ '.' :: first :: rest).takeWhile Char.isDigit = whole := by
        rw [List.takeWhile_append_of_pos digits, List.takeWhile_cons_of_neg (by decide),
          List.append_nil]
      have after : (whole ++ '.' :: first :: rest).dropWhile Char.isDigit =
          '.' :: first :: rest := by
        rw [List.dropWhile_append_of_pos digits, List.dropWhile_cons_of_neg (by decide)]
      simp only [pointed, denoted, all, after, List.drop_succ_cons, List.drop_zero]

theorem numeral_length {width number : ℕ} (small : number < 10 ^ width) (positive : 0 < width) :
    (Calendar.numeral width number).length = width := by
  have fits := (Nat.length_toDigits_le_iff (by decide) positive).mpr small
  rw [Calendar.numeral, List.length_append, List.length_replicate]
  omega

theorem toDigits_digit {number : ℕ} : ∀ c ∈ Nat.toDigits 10 number, c.isDigit = true :=
  fun _ member => Nat.isDigit_of_mem_toDigits (by decide) (by decide) member

theorem stripped_numeral_digit {width number : ℕ} :
    ∀ c ∈ stripped (Calendar.numeral width number), c.isDigit = true :=
  fun _ member => Calendar.numeral_digit (stripped_mem member)

theorem denoted_fixed (digits decimals : ℕ) :
    denoted (fixed digits decimals) = digits / 10 ^ decimals := by
  rw [fixed, denoted_pointed toDigits_digit stripped_numeral_digit, stripped_value,
    Nat.ofDigitChars_ten_toDigits, Calendar.numeral_value]
  have parts : (digits : ℚ) = 10 ^ decimals * (digits / 10 ^ decimals : ℕ) +
      (digits % 10 ^ decimals : ℕ) := by
    exact_mod_cast (Nat.div_add_mod digits (10 ^ decimals)).symm
  rcases Nat.eq_zero_or_pos decimals with zero | positive
  · subst zero
    simp [Nat.mod_one]
  · rw [numeral_length (Nat.mod_lt _ (by positivity)) positive]
    field_simp
    linarith

/-! ### Significant digits -/

theorem le_halfEven {x : ℚ} {n : ℤ} (least : (n : ℚ) ≤ x) : n ≤ halfEven x := by
  have half := abs_le.mp (abs_sub_halfEven x)
  have cast : (n : ℚ) < ((halfEven x + 1 : ℤ) : ℚ) := by
    push_cast
    linarith
  exact Int.lt_add_one_iff.mp (Int.cast_lt.mp cast)

theorem halfEven_le {x : ℚ} {n : ℤ} (most : x ≤ n) : halfEven x ≤ n := by
  have half := abs_le.mp (abs_sub_halfEven x)
  have cast : ((halfEven x : ℤ) : ℚ) < ((n + 1 : ℤ) : ℚ) := by
    push_cast
    linarith
  exact Int.lt_add_one_iff.mp (Int.cast_lt.mp cast)

theorem log_eq {x : ℚ} {exponent : ℤ} (least : 10 ^ exponent ≤ x) (most : x < 10 ^ (exponent + 1)) :
    Int.log 10 x = exponent := by
  have positive : 0 < x := lt_of_lt_of_le (zpow_pos (by norm_num) exponent) least
  have low := (Int.zpow_le_iff_le_log (b := 10) (by norm_num) positive).mp (by exact_mod_cast least)
  have high := (Int.lt_zpow_iff_log_lt (b := 10) (by norm_num) positive).mp (by exact_mod_cast most)
  omega

theorem unit_mul (exponent : ℤ) (places : ℕ) :
    (10 : ℚ) ^ places * 10 ^ (exponent - places) = 10 ^ exponent := by
  rw [← zpow_natCast, ← zpow_add₀ (by norm_num)]
  congr 1
  omega

/-- In units of its last digit a number has so many digits before the point. -/
theorem scaled_bounds (places : ℕ) {x : ℚ} (positive : 0 < x) :
    (10 : ℚ) ^ places ≤ x / 10 ^ (Int.log 10 x - places) ∧
      x / 10 ^ (Int.log 10 x - places) < 10 ^ (places + 1) := by
  have unit : (0 : ℚ) < 10 ^ (Int.log 10 x - places) := zpow_pos (by norm_num) _
  have low : (10 : ℚ) ^ Int.log 10 x ≤ x := by
    exact_mod_cast Int.zpow_log_le_self (b := 10) (by norm_num) positive
  have high : x < (10 : ℚ) ^ (Int.log 10 x + 1) := by
    exact_mod_cast Int.lt_zpow_succ_log_self (b := 10) (by norm_num) x
  rw [le_div_iff₀ unit, div_lt_iff₀ unit, pow_succ, mul_right_comm, unit_mul]
  refine ⟨low, ?_⟩
  rwa [zpow_add₀ (by norm_num), zpow_one] at high

theorem significant_bounds (places : ℕ) {x : ℚ} (positive : 0 < x) :
    10 ^ places ≤ (significant places x).1 ∧ (significant places x).1 < 10 ^ (places + 1) := by
  obtain ⟨low, high⟩ := scaled_bounds places positive
  have least : (10 ^ places : ℤ) ≤ halfEven (x / 10 ^ (Int.log 10 x - places)) :=
    le_halfEven (by exact_mod_cast low)
  have most : halfEven (x / 10 ^ (Int.log 10 x - places)) ≤ (10 ^ (places + 1) : ℤ) :=
    halfEven_le (by exact_mod_cast high.le)
  have digits : (10 : ℕ) ^ places ≤ (halfEven (x / 10 ^ (Int.log 10 x - places))).toNat ∧
      (halfEven (x / 10 ^ (Int.log 10 x - places))).toNat ≤ 10 ^ (places + 1) := by
    rw [Int.le_toNat (le_trans (by positivity) least), Int.toNat_le]
    exact ⟨by exact_mod_cast least, by exact_mod_cast most⟩
  simp only [significant]
  split
  · exact ⟨le_refl _, Nat.pow_lt_pow_right (by norm_num) (Nat.lt_succ_self places)⟩
  · rename_i fewer
    exact ⟨digits.1, Nat.lt_of_le_of_ne digits.2 fewer⟩

/-- A number near one of so many digits has its digits. -/
theorem significant_near {places n : ℕ} {exponent : ℤ} {x : ℚ} (least : 10 ^ places ≤ n)
    (most : n < 10 ^ (places + 1))
    (near : |x - n * 10 ^ (exponent - places)| < 10 ^ (exponent - places) / 20) :
    significant places x = (n, exponent) := by
  have unit : (0 : ℚ) < 10 ^ (exponent - places) := zpow_pos (by norm_num) _
  have whole := unit_mul exponent places
  obtain ⟨low, high⟩ := abs_lt.mp near
  have leastCast : (10 : ℚ) ^ places ≤ n := by exact_mod_cast least
  by_cases reaches : (10 : ℚ) ^ exponent ≤ x
  · have log : Int.log 10 x = exponent := by
      refine log_eq reaches ?_
      have mostCast : (n : ℚ) + 1 ≤ 10 ^ (places + 1) := by exact_mod_cast most
      have bound := mul_le_mul_of_nonneg_right mostCast unit.le
      rw [pow_succ, mul_right_comm, whole] at bound
      rw [zpow_add₀ (by norm_num), zpow_one]
      linarith
    have digits : halfEven (x / 10 ^ (exponent - places)) = n := by
      refine halfEven_eq ?_
      rw [Int.cast_natCast, abs_lt, lt_sub_iff_add_lt, lt_div_iff₀ unit, sub_lt_iff_lt_add,
        div_lt_iff₀ unit]
      constructor
      · linarith
      · linarith
    simp only [significant, log, digits, Int.toNat_natCast, if_neg most.ne]
  · -- the number fell below a power of ten: one place more, and rounding gets it back
    have below := lt_of_not_ge reaches
    have power : (n : ℚ) = 10 ^ places := by
      have less : (n : ℚ) < 10 ^ places + 1 := by
        by_contra larger
        have bound := mul_le_mul_of_nonneg_right (le_of_not_gt larger) unit.le
        rw [add_mul, whole, one_mul] at bound
        linarith
      have least_int : n ≤ 10 ^ places := Nat.lt_succ_iff.mp (by exact_mod_cast less)
      exact_mod_cast le_antisymm least_int least
    have finer : (10 : ℚ) ^ (exponent - 1 - places) = 10 ^ (exponent - places) / 10 := by
      rw [sub_right_comm, zpow_sub_one₀ (by norm_num)]
      ring
    have one : (1 : ℚ) ≤ 10 ^ places := one_le_pow₀ (by norm_num)
    rw [power, whole] at low high
    have wholeUnits := mul_le_mul_of_nonneg_right one unit.le
    rw [whole, one_mul] at wholeUnits
    have log : Int.log 10 x = exponent - 1 := by
      refine log_eq ?_ (by rwa [sub_add_cancel])
      rw [zpow_sub_one₀ (by norm_num)]
      linarith
    have digits : halfEven (x / 10 ^ (exponent - 1 - places)) = (10 ^ (places + 1) : ℕ) := by
      have tenth : (0 : ℚ) < 10 ^ (exponent - places) / 10 := by positivity
      refine halfEven_eq ?_
      rw [Int.cast_natCast, Nat.cast_pow, Nat.cast_ofNat, finer, abs_lt, lt_sub_iff_add_lt,
        lt_div_iff₀ tenth, sub_lt_iff_lt_add, div_lt_iff₀ tenth, pow_succ]
      constructor
      · linarith
      · linarith
    have same : n = 10 ^ places := by exact_mod_cast power
    simp only [significant, log, digits, Int.toNat_natCast, if_true, sub_add_cancel, same]

/-! ### What reads back -/

/-- The number is neither so small nor so large that it is printed with an exponent, and has no
more digits than are printed. -/
structure FewDigits (places : ℕ) (w : ℚ) : Prop where
  least : 10 ^ (-4 : ℤ) ≤ w
  most : w < 10 ^ (places + 1)
  digits : ∃ (n : ℕ) (power : ℤ), n < 10 ^ (places + 1) ∧ w = n * 10 ^ power

/-- So many digits, with the exponent of the first. -/
structure Normal (places n : ℕ) (exponent : ℤ) : Prop where
  least : 10 ^ places ≤ n
  most : n < 10 ^ (places + 1)
  small : -4 ≤ exponent
  large : exponent ≤ places

theorem fewDigits_normal {places n : ℕ} {exponent : ℤ} (normal : Normal places n exponent) :
    FewDigits places (n * 10 ^ (exponent - places)) := by
  have unit : (0 : ℚ) < 10 ^ (exponent - places) := zpow_pos (by norm_num) _
  have low : (10 : ℚ) ^ places ≤ n := by exact_mod_cast normal.least
  have high : (n : ℚ) < 10 ^ (places + 1) := by exact_mod_cast normal.most
  refine ⟨?_, ?_, n, exponent - places, normal.most, rfl⟩
  · calc (10 : ℚ) ^ (-4 : ℤ) ≤ 10 ^ exponent := zpow_le_zpow_right₀ (by norm_num) normal.small
      _ = 10 ^ places * 10 ^ (exponent - places) := (unit_mul exponent places).symm
      _ ≤ n * 10 ^ (exponent - places) := mul_le_mul_of_nonneg_right low unit.le
  · calc (n : ℚ) * 10 ^ (exponent - places) < 10 ^ (places + 1) * 10 ^ (exponent - places) :=
          mul_lt_mul_of_pos_right high unit
      _ ≤ 10 ^ (places + 1) * 1 := by
          refine mul_le_mul_of_nonneg_left ?_ (by positivity)
          exact zpow_le_one_of_nonpos₀ (by norm_num) (by linarith [normal.large])
      _ = 10 ^ (places + 1) := mul_one _

theorem normal_of_fewDigits {places : ℕ} {w : ℚ} (few : FewDigits places w) :
    ∃ n exponent, Normal places n exponent ∧ w = n * 10 ^ (exponent - places) := by
  have positive : 0 < w := lt_of_lt_of_le (zpow_pos (by norm_num) _) few.least
  obtain ⟨low, high⟩ := scaled_bounds places positive
  have unit : (0 : ℚ) < 10 ^ (Int.log 10 w - places) := zpow_pos (by norm_num) _
  have small := (Int.zpow_le_iff_le_log (b := 10) (by norm_num) positive).mp
    (by exact_mod_cast few.least)
  have large := (Int.lt_zpow_iff_log_lt (b := 10) (x := (places + 1 : ℕ)) (by norm_num) positive).mp
    (by rw [zpow_natCast]; exact_mod_cast few.most)
  obtain ⟨n, power, most, same⟩ := few.digits
  have scaled : w / 10 ^ (Int.log 10 w - places) = n * 10 ^ (power - (Int.log 10 w - places)) := by
    have parted := zpow_sub₀ (show (10 : ℚ) ≠ 0 by norm_num) power (Int.log 10 w - places)
    rw [parted, ← mul_div_assoc, ← same]
  rcases lt_or_ge (power - (Int.log 10 w - places)) 0 with shift | shift
  · -- with fewer digits than are printed, the number would be below its own power of ten
    have mostCast : (n : ℚ) < 10 ^ (places + 1) := by exact_mod_cast most
    have tenth : (10 : ℚ) ^ (power - (Int.log 10 w - places)) ≤ 10 ^ (-1 : ℤ) :=
      zpow_le_zpow_right₀ (by norm_num) (by omega)
    have less : (n : ℚ) * 10 ^ (power - (Int.log 10 w - places)) < 10 ^ places := by
      calc (n : ℚ) * 10 ^ (power - (Int.log 10 w - places)) ≤ n * 10 ^ (-1 : ℤ) :=
            mul_le_mul_of_nonneg_left tenth (Nat.cast_nonneg n)
        _ < 10 ^ (places + 1) * 10 ^ (-1 : ℤ) := mul_lt_mul_of_pos_right mostCast (by norm_num)
        _ = 10 ^ places := by
            rw [pow_succ, zpow_neg_one]
            field_simp
    rw [← scaled] at less
    exact absurd low (not_le_of_gt less)
  · obtain ⟨count, shifted⟩ := Int.eq_ofNat_of_zero_le shift
    have whole : w / 10 ^ (Int.log 10 w - places) = (n * 10 ^ count : ℕ) := by
      rw [scaled, shifted]
      push_cast
      rfl
    refine ⟨n * 10 ^ count, Int.log 10 w, ⟨?_, ?_, small, by push_cast at large; omega⟩, ?_⟩
    · rw [whole] at low
      exact_mod_cast low
    · rw [whole] at high
      exact_mod_cast high
    · rw [← whole, div_mul_cancel₀ _ unit.ne']

/-- What is printed of a number that is near one with so few digits. -/
theorem denoted_general {places : ℕ} {n : ℕ} {exponent : ℤ} (normal : Normal places n exponent)
    {x : ℚ} (near : |x - n * 10 ^ (exponent - places)| < 10 ^ (exponent - places) / 20) :
    general places x = fixed n (places - exponent).toNat := by
  have digits := significant_near normal.least normal.most near
  simp only [general, digits, if_pos (And.intro normal.small normal.large)]

theorem denoted_normal {places n : ℕ} {exponent : ℤ} (large : exponent ≤ places) :
    denoted (fixed n (places - exponent).toNat) = n * 10 ^ (exponent - places) := by
  have shift : exponent - places = -((places - exponent).toNat : ℤ) := by omega
  rw [denoted_fixed, shift, zpow_neg, zpow_natCast, div_eq_mul_inv]

end DecimalFormat
