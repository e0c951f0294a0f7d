/-
Sums and counts over the rows of a table, and over rows put into groups.
-/

import DscSigning.Library.Table
import Mathlib

namespace Table

variable {Key Row : Type}

/-- A sum over the rows to which only one key contributes. -/
theorem sum_of_key {rows : List (Key × Row)} (distinct : (rows.map Prod.fst).Nodup)
    {value : Key × Row → Nat} {key : Key}
    (others : ∀ entry ∈ rows, entry.1 ≠ key → value entry = 0) {row : Row}
    (member : (key, row) ∈ rows) : (rows.map value).sum = value (key, row) := by
  induction rows with
  | nil => cases member
  | cons first rest ih =>
      rw [List.map_cons, List.nodup_cons] at distinct
      rw [List.map_cons, List.sum_cons]
      have tail (other : ∀ entry ∈ rest, entry.1 ≠ key) : (rest.map value).sum = 0 := by
        refine List.sum_eq_zero fun count counted => ?_
        obtain ⟨entry, inside, rfl⟩ := List.mem_map.mp counted
        exact others entry (by simp [inside]) (other entry inside)
      rcases List.mem_cons.mp member with rfl | inside
      · have none_ : (rest.map value).sum = 0 := tail fun entry inside same =>
          distinct.1 (List.mem_map.mpr ⟨entry, inside, same⟩)
        rw [none_, Nat.add_zero]
      · have differs : first.1 ≠ key := fun same =>
          distinct.1 (List.mem_map.mpr ⟨(key, row), inside, same.symm⟩)
        rw [others first (by simp) differs, Nat.zero_add]
        exact ih distinct.2 (fun entry inside => others entry (by simp [inside])) inside

theorem sum_rows [DecidableEq Key] {table : Table Key Row} {value : Key × Row → Nat} {key : Key}
    (others : ∀ entry ∈ table.rows, entry.1 ≠ key → value entry = 0) :
    (table.rows.map value).sum = ((table.lookup key).map fun row => value (key, row)).getD 0 := by
  have distinct : (table.rows.map Prod.fst).Nodup := by
    rw [rows, List.map_map]
    exact table.nodupKeys
  cases found : table.lookup key with
  | some row => exact sum_of_key distinct others (mem_rows.mpr found)
  | none =>
      rw [Option.map_none, Option.getD_none]
      refine List.sum_eq_zero fun count counted => ?_
      obtain ⟨entry, inside, rfl⟩ := List.mem_map.mp counted
      refine others entry inside fun same => ?_
      have there := mem_rows.mp (show (entry.1, entry.2) ∈ table.rows from inside)
      rw [same, found] at there
      cases there

/-- A sum over the rows that a query selects. -/
theorem sum_selected {Selected : Type} (rows : List Row) (select : Row → Option Selected)
    (value : Selected → Nat) :
    ((rows.filterMap select).map value).sum =
      (rows.map fun row => ((select row).map value).getD 0).sum := by
  induction rows with
  | nil => rfl
  | cons row rest ih =>
      rw [List.map_cons, List.sum_cons]
      cases selected : select row with
      | none => rw [List.filterMap_cons_none selected, ih, Option.map_none, Option.getD_none,
          Nat.zero_add]
      | some found => rw [List.filterMap_cons_some selected, List.map_cons, List.sum_cons, ih,
          Option.map_some, Option.getD_some]

/-- A sum to which only some of the items contribute. -/
theorem sum_contributing {Item : Type} (items : List Item) (contributes : Item → Bool)
    (value : Item → Nat) :
    (items.map fun item => if contributes item then value item else 0).sum =
      ((items.filter contributes).map value).sum := by
  induction items with
  | nil => rfl
  | cons item rest ih =>
      rw [List.map_cons, List.sum_cons, ih]
      cases contributed : contributes item with
      | true => rw [List.filter_cons_of_pos contributed, List.map_cons, List.sum_cons, if_pos rfl]
      | false =>
          rw [List.filter_cons_of_neg (by rw [contributed]; exact Bool.false_ne_true),
            if_neg Bool.false_ne_true, Nat.zero_add]

section Groups

variable {Group : Type} [DecidableEq Group] {group : Row → Group} {value : Row → Nat}

theorem sum_one_group {keys : List Group} (distinct : keys.Nodup) {one : Group}
    (member : one ∈ keys) (count : Nat) :
    (keys.map fun key => if one == key then count else 0).sum = count := by
  induction keys with
  | nil => cases member
  | cons first rest ih =>
      rw [List.nodup_cons] at distinct
      rw [List.map_cons, List.sum_cons]
      by_cases same : one = first
      · subst same
        have others : (rest.map fun key => if one == key then count else 0).sum = 0 := by
          refine List.sum_eq_zero fun number counted => ?_
          obtain ⟨key, inside, rfl⟩ := List.mem_map.mp counted
          refine if_neg fun equal => distinct.1 ?_
          rw [eq_of_beq equal]
          exact inside
        rw [others, if_pos (beq_self_eq_true one), Nat.add_zero]
      · rw [if_neg (fun equal => same (eq_of_beq equal)), Nat.zero_add]
        exact ih distinct.2 ((List.mem_cons.mp member).resolve_left same)

/-- Groups that every row is in one of add up to all rows. -/
theorem sum_over_groups {keys : List Group} (distinct : keys.Nodup) {rows : List Row}
    (covered : ∀ row ∈ rows, group row ∈ keys) :
    (keys.map fun key => ((rows.filter fun row => group row == key).map value).sum).sum =
      (rows.map value).sum := by
  induction rows with
  | nil =>
      refine List.sum_eq_zero fun number counted => ?_
      obtain ⟨_, _, rfl⟩ := List.mem_map.mp counted
      rfl
  | cons row rest ih =>
      have split (key : Group) :
          (((row :: rest).filter fun other => group other == key).map value).sum =
            (if group row == key then value row else 0) +
              ((rest.filter fun other => group other == key).map value).sum := by
        cases same : group row == key with
        | true => rw [List.filter_cons_of_pos (by simp only [same]), List.map_cons, List.sum_cons]; rfl
        | false =>
            rw [List.filter_cons_of_neg (by simp only [same, Bool.false_eq_true, not_false_eq_true])]
            exact (Nat.zero_add _).symm
      rw [List.map_congr_left fun key _ => split key, List.sum_map_add,
        sum_one_group distinct (covered row (by simp)),
        ih fun other member => covered other (by simp [member]), List.map_cons, List.sum_cons]

/-- The groups that the rows form. -/
theorem sum_groups (rows : List Row) (group : Row → Group) (value : Row → Nat) :
    ((rows.map group).dedup.map fun key =>
      ((rows.filter fun row => group row == key).map value).sum).sum = (rows.map value).sum :=
  sum_over_groups (List.nodup_dedup _) fun row member =>
    List.mem_dedup.mpr (List.mem_map.mpr ⟨row, member, rfl⟩)

end Groups

end Table
