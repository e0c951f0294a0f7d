/-
Dates and times of day as text, in the proleptic Gregorian calendar.

A moment is a number of microseconds since the beginning of the year 1.  The
text takes it apart into numbers of a fixed unit, and no two moments have the
same text.
-/

import Mathlib.Algebra.BigOperators.Group.List.Basic
import Mathlib.Algebra.GroupWithZero.Nat
import Mathlib.Data.List.Basic

namespace Calendar

/-! ### Parts laid end to end -/

/-- The part a number falls into, and how far. -/
def locate : List Nat → Nat → Nat × Nat
  | [], offset => (0, offset)
  | length :: rest, offset =>
      if offset < length then (0, offset)
      else ((locate rest (offset - length)).1 + 1, (locate rest (offset - length)).2)

theorem locate_sum (lengths : List Nat) (offset : Nat) :
    (lengths.take (locate lengths offset).1).sum + (locate lengths offset).2 = offset := by
  induction lengths generalizing offset with
  | nil => simp [locate]
  | cons length rest ih =>
      by_cases inside : offset < length
      · simp [locate, inside]
      · have later := ih (offset - length)
        simp only [locate, inside, if_false, List.take_succ_cons, List.sum_cons]
        omega

theorem locate_inj {lengths : List Nat} {offset other : Nat}
    (same : locate lengths offset = locate lengths other) : offset = other := by
  rw [← locate_sum lengths offset, same, locate_sum]

theorem locate_inside {lengths : List Nat} {offset : Nat} (inside : offset < lengths.sum) :
    (locate lengths offset).1 < lengths.length := by
  induction lengths generalizing offset with
  | nil => cases inside
  | cons length rest ih =>
      rw [List.sum_cons] at inside
      by_cases first : offset < length
      · simp [locate, first]
      · have later := @ih (offset - length) (by omega)
        simp only [locate, first, if_false, List.length_cons]
        omega

/-! ### Days -/

def isLeap (year : Nat) : Bool := year % 4 == 0 && (year % 100 != 0 || year % 400 == 0)

def yearLength (year : Nat) : Nat := if isLeap year then 366 else 365

def monthLengths (year : Nat) : List Nat :=
  [31, if isLeap year then 29 else 28, 31, 30, 31, 30, 31, 31, 30, 31, 30, 31]

/-- The years after which the calendar repeats itself. -/
def era : List Nat := (List.range 400).map fun index => yearLength (index + 1)

structure Date where
  year : Nat
  month : Nat
  day : Nat
deriving DecidableEq

/-- `date.fromordinal`, of days counted from zero. -/
def dateOf (days : Nat) : Date :=
  let inEra := locate era (days % 146097)
  let year := days / 146097 * 400 + inEra.1 + 1
  let inYear := locate (monthLengths year) inEra.2
  ⟨year, inYear.1 + 1, inYear.2 + 1⟩

example : dateOf 719162 = ⟨1970, 1, 1⟩ := by decide +kernel

example : dateOf 3652058 = ⟨9999, 12, 31⟩ := by decide +kernel

theorem era_sum : era.sum = 146097 := by decide +kernel

theorem dateOf_inj {days other : Nat} (same : dateOf days = dateOf other) : days = other := by
  have bound (count : Nat) : (locate era (count % 146097)).1 < 400 := by
    have inside : count % 146097 < era.sum := by
      rw [era_sum]
      exact Nat.mod_lt count (by decide)
    simpa [era] using locate_inside inside
  have first := bound days
  have second := bound other
  simp only [dateOf, Date.mk.injEq] at same
  obtain ⟨years, months, inMonth⟩ := same
  have eras : days / 146097 = other / 146097 := by omega
  have index : (locate era (days % 146097)).1 = (locate era (other % 146097)).1 := by omega
  rw [eras, index] at months inMonth
  have inYear : (locate era (days % 146097)).2 = (locate era (other % 146097)).2 :=
    locate_inj (Prod.ext (Nat.add_right_cancel months) (Nat.add_right_cancel inMonth))
  have inEra : days % 146097 = other % 146097 := locate_inj (Prod.ext index inYear)
  omega

/-! ### Numerals -/

/-- A number with zeros in front, up to a width. -/
def numeral (width number : Nat) : List Char :=
  List.replicate (width - (Nat.toDigits 10 number).length) '0' ++ Nat.toDigits 10 number

theorem numeral_digit {width number : Nat} {c : Char} (member : c ∈ numeral width number) :
    c.isDigit = true := by
  rcases List.mem_append.mp member with zero | digit
  · rw [List.eq_of_mem_replicate zero]
    decide
  · exact Nat.isDigit_of_mem_toDigits (by decide) (by decide) digit

theorem numeral_value (width number : Nat) :
    Nat.ofDigitChars 10 (numeral width number) 0 = number := by
  rw [numeral, Nat.ofDigitChars_append, Nat.ofDigitChars_replicate_zero, Nat.mul_zero,
    Nat.ofDigitChars_ten_toDigits]

/-- A numeral ends where the next character is no digit. -/
theorem numeral_append_inj {width number other : Nat} {rest tail : List Char}
    (ends : rest.takeWhile Char.isDigit = []) (endsToo : tail.takeWhile Char.isDigit = [])
    (same : numeral width number ++ rest = numeral width other ++ tail) :
    number = other ∧ rest = tail := by
  have digits := congrArg (List.takeWhile Char.isDigit) same
  rw [List.takeWhile_append_of_pos fun _ => numeral_digit, ends,
    List.takeWhile_append_of_pos fun _ => numeral_digit, endsToo, List.append_nil,
    List.append_nil] at digits
  constructor
  · rw [← numeral_value width number, digits, numeral_value]
  · rw [digits] at same
    exact List.append_cancel_left same

theorem numeral_mark_inj {width number other : Nat} {mark : Char} {rest tail : List Char}
    (between : mark.isDigit = false)
    (same : numeral width number ++ mark :: rest = numeral width other ++ mark :: tail) :
    number = other ∧ rest = tail := by
  obtain ⟨numbers, more⟩ := numeral_append_inj (by simp [between]) (by simp [between]) same
  exact ⟨numbers, (List.cons.inj more).2⟩

/-! ### Moments -/

def microsPerDay : Nat := 86400000000

/-- What stands for the microseconds, which is nothing where there are none. -/
def fraction (micros : Nat) : List Char := if micros = 0 then [] else '.' :: numeral 6 micros

def dateText (date : Date) : List Char :=
  numeral 4 date.year ++ '-' :: (numeral 2 date.month ++ '-' :: numeral 2 date.day)

def timeText (time : Nat) : List Char :=
  numeral 2 (time / 3600000000) ++ ':' :: (numeral 2 (time / 60000000 % 60) ++
    ':' :: (numeral 2 (time / 1000000 % 60) ++ fraction (time % 1000000)))

/-- `str` of a datetime without a time zone. -/
def showMoment (moment : Nat) : String :=
  String.ofList (dateText (dateOf (moment / microsPerDay)) ++
    ' ' :: timeText (moment % microsPerDay))

theorem fraction_ends (micros : Nat) : (fraction micros).takeWhile Char.isDigit = [] := by
  unfold fraction
  split <;> rfl

theorem fraction_inj {micros other : Nat} (same : fraction micros = fraction other) :
    micros = other := by
  unfold fraction at same
  split at same <;> split at same
  · omega
  · cases same
  · cases same
  · have numerals := (List.cons.inj same).2
    rw [← numeral_value 6 micros, numerals, numeral_value]

theorem timeText_inj {time other : Nat} (same : timeText time = timeText other) :
    time = other := by
  obtain ⟨hours, same⟩ := numeral_mark_inj (by decide) same
  obtain ⟨minutes, same⟩ := numeral_mark_inj (by decide) same
  obtain ⟨seconds, same⟩ := numeral_append_inj (fraction_ends _) (fraction_ends _) same
  have micros := fraction_inj same
  omega

theorem dateText_append_inj {date other : Date} {rest tail : List Char}
    (same : dateText date ++ ' ' :: rest = dateText other ++ ' ' :: tail) :
    date = other ∧ rest = tail := by
  simp only [dateText, List.append_assoc, List.cons_append] at same
  obtain ⟨years, same⟩ := numeral_mark_inj (by decide) same
  obtain ⟨months, same⟩ := numeral_mark_inj (by decide) same
  obtain ⟨days, rests⟩ := numeral_mark_inj (by decide) same
  cases date
  cases other
  cases years
  cases months
  cases days
  exact ⟨rfl, rests⟩

theorem showMoment_inj {moment other : Nat} (same : showMoment moment = showMoment other) :
    moment = other := by
  obtain ⟨dates, times⟩ := dateText_append_inj (String.ofList_inj.mp same)
  have days := dateOf_inj dates
  have inDay := timeText_inj times
  unfold microsPerDay at days inDay
  omega

end Calendar
