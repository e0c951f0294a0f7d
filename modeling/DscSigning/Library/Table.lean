/-
Tables of rows with one row for each key, and the changes a statement that
names a key makes to them.
-/

import Mathlib.Data.List.AList
import Mathlib.Data.List.Sort

abbrev Table (Key Row : Type) [DecidableEq Key] : Type := AList (fun _ : Key => Row)

namespace Table

variable {Key Row : Type} [DecidableEq Key]

/-- An update of a key without a row changes nothing. -/
def modify (table : Table Key Row) (key : Key) (change : Row → Row) : Table Key Row :=
  match table.lookup key with
  | some row => table.insert key (change row)
  | none => table

@[simp] theorem lookup_modify_self (table : Table Key Row) (key : Key) (change : Row → Row) :
    (table.modify key change).lookup key = (table.lookup key).map change := by
  unfold modify
  cases found : table.lookup key with
  | none => simp only [found, Option.map_none]
  | some row => simp only [AList.lookup_insert, Option.map_some]

@[simp] theorem lookup_modify_other (table : Table Key Row) {key other : Key}
    (change : Row → Row) (distinct : other ≠ key) :
    (table.modify key change).lookup other = table.lookup other := by
  unfold modify
  cases table.lookup key with
  | none => rfl
  | some row => exact AList.lookup_insert_ne distinct

theorem lookup_modify (table : Table Key Row) (key other : Key) (change : Row → Row) :
    (table.modify key change).lookup other =
      if other = key then (table.lookup key).map change else table.lookup other := by
  by_cases same : other = key
  · rw [if_pos same, same, lookup_modify_self]
  · rw [if_neg same, lookup_modify_other table change same]

def rows (table : Table Key Row) : List (Key × Row) :=
  table.entries.map fun entry => (entry.1, entry.2)

theorem mem_rows {table : Table Key Row} {key : Key} {row : Row} :
    (key, row) ∈ table.rows ↔ table.lookup key = some row := by
  rw [← Option.mem_def, AList.mem_lookup_iff, rows, List.mem_map]
  constructor
  · rintro ⟨⟨found, value⟩, member, same⟩
    cases same
    exact member
  · intro member
    exact ⟨⟨key, row⟩, member, rfl⟩

def select (table : Table Key Row) (wanted : Row → Bool) : List (Key × Row) :=
  table.rows.filter fun row => wanted row.2

theorem mem_select {table : Table Key Row} {wanted : Row → Bool} {key : Key} {row : Row} :
    (key, row) ∈ table.select wanted ↔ table.lookup key = some row ∧ wanted row = true := by
  rw [select, List.mem_filter, mem_rows]

/-- The table without the rows of these keys. -/
def eraseAll (table : Table Key Row) (keys : List Key) : Table Key Row :=
  keys.foldl (fun left key => left.erase key) table

theorem lookup_eraseAll (table : Table Key Row) (keys : List Key) (key : Key) :
    (table.eraseAll keys).lookup key = if key ∈ keys then none else table.lookup key := by
  unfold eraseAll
  induction keys generalizing table with
  | nil => rfl
  | cons first rest ih =>
      rw [List.foldl_cons, ih]
      by_cases same : key = first
      · subst same
        simp only [AList.lookup_erase, List.mem_cons_self, if_true, ite_self]
      · simp only [AList.lookup_erase_ne same, List.mem_cons, same, false_or]

/-- The same table with other rows. -/
def mapRows {Other : Type} (table : Table Key Row) (change : Row → Other) : Table Key Other :=
  ⟨table.entries.map (Sigma.map id fun _ => change), table.nodupKeys.map₂ fun _ => change⟩

@[simp] theorem lookup_mapRows {Other : Type} (table : Table Key Row) (change : Row → Other)
    (key : Key) : (table.mapRows change).lookup key = (table.lookup key).map change :=
  List.dlookup_map₂ key

theorem rows_nodup (table : Table Key Row) : table.rows.Nodup := by
  have keys : (table.rows.map Prod.fst).Nodup := by
    rw [rows, List.map_map]
    exact table.nodupKeys
  exact List.Nodup.of_map Prod.fst keys

/-- Rows of which any two have the same key are at most one. -/
theorem length_select_le_one {table : Table Key Row} {wanted : Row → Bool}
    (unique : ∀ key other row row', table.lookup key = some row → table.lookup other = some row' →
      wanted row = true → wanted row' = true → key = other) :
    (table.select wanted).length ≤ 1 := by
  have distinct : (table.select wanted).Nodup := (rows_nodup table).filter _
  have same : ∀ left ∈ table.select wanted, ∀ right ∈ table.select wanted, left = right := by
    rintro ⟨key, row⟩ leftMember ⟨other, row'⟩ rightMember
    obtain ⟨leftFound, leftWanted⟩ := mem_select.mp leftMember
    obtain ⟨rightFound, rightWanted⟩ := mem_select.mp rightMember
    have keys := unique key other row row' leftFound rightFound leftWanted rightWanted
    subst keys
    rw [leftFound] at rightFound
    cases rightFound
    rfl
  generalize table.select wanted = found at distinct same
  cases found with
  | nil => exact Nat.zero_le 1
  | cons first rest =>
      cases rest with
      | nil => exact Nat.le_refl 1
      | cons second others =>
          have equal := same first (by simp) second (by simp)
          rw [equal, List.nodup_cons] at distinct
          exact absurd List.mem_cons_self distinct.1

end Table
