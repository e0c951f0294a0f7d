/-
Lists joined by a separator.

Where the parts on one side do not contain the separator, the joined list can be
taken apart in one way only, whatever the parts on the other side are.
-/

import Mathlib.Algebra.BigOperators.Group.List.Basic
import Mathlib.Algebra.GroupWithZero.Nat
import Mathlib.Data.List.Basic

namespace Delimited

variable {Item : Type} [DecidableEq Item] {separator : Item}

/-- Every separator stands between two parts or inside one. -/
theorem count_intercalate (first : List Item) (parts : List (List Item)) :
    ([separator].intercalate (first :: parts)).count separator =
      parts.length + ((first :: parts).map (List.count separator)).sum := by
  induction parts generalizing first with
  | nil => simp [List.intercalate]
  | cons second parts ih =>
      have rest := ih second
      simp only [List.intercalate, List.intersperse_cons_cons, List.flatten_cons, List.count_append,
        List.count_singleton_self, List.length_cons, List.map_cons, List.sum_cons] at rest ⊢
      omega

theorem count_free {parts : List (List Item)} (free : ∀ part ∈ parts, separator ∉ part) :
    (parts.map (List.count separator)).sum = 0 := by
  induction parts with
  | nil => rfl
  | cons part rest ih =>
      rw [List.map_cons, List.sum_cons, ih fun other member => free other (by simp [member]),
        List.count_eq_zero_of_not_mem (free part (by simp))]

theorem free_of_count {parts : List (List Item)}
    (none_ : (parts.map (List.count separator)).sum = 0) : ∀ part ∈ parts, separator ∉ part := by
  induction parts with
  | nil =>
      intro part member
      cases member
  | cons head rest ih =>
      rw [List.map_cons, List.sum_cons] at none_
      intro part member
      cases member with
      | head => exact List.count_eq_zero.mp (by omega)
      | tail _ member => exact ih (by omega) part member

theorem intercalate_inj {parts others : List (List Item)} (lengths : parts.length = others.length)
    (free : ∀ part ∈ others, separator ∉ part)
    (same : [separator].intercalate parts = [separator].intercalate others) : parts = others := by
  cases others with
  | nil => exact List.length_eq_zero_iff.mp lengths
  | cons other rest =>
      cases parts with
      | nil => cases lengths
      | cons part more =>
          have counts := congrArg (List.count separator) same
          rw [count_intercalate, count_intercalate, count_free free] at counts
          simp only [List.length_cons] at lengths
          have freeToo := free_of_count (show
            ((part :: more).map (List.count separator)).sum = 0 by omega)
          have left := List.splitOn_intercalate separator freeToo (by simp)
          have right := List.splitOn_intercalate separator free (by simp)
          rw [← left, same, right]

theorem text_inj {separator : Char} {parts others : List String}
    (lengths : parts.length = others.length) (free : ∀ part ∈ others, separator ∉ part.toList)
    (same : (String.singleton separator).intercalate parts =
      (String.singleton separator).intercalate others) : parts = others := by
  have lists := congrArg String.toList same
  rw [String.toList_intercalate, String.toList_intercalate, String.toList_singleton] at lists
  have texts := intercalate_inj (by rw [List.length_map, List.length_map, lengths])
    (by simpa using free) lists
  exact List.map_injective_iff.mpr (fun _ _ => String.toList_inj.mp) texts

end Delimited
