/-
The report DSC Average Time to Sign: what it aggregates, and what it is said to
aggregate.

Where no duration is longer than the time from the creation to the signature, a
group's averages agree only if all of its requests do.
-/

import Mathlib.Algebra.Order.BigOperators.Group.List
import Mathlib.Algebra.Order.Field.Rat
import Mathlib.Data.List.Dedup
import DscSigning.Server.Database

namespace DscSigning.TimeReport

/-! ### The report -/

/-- The filters of the report; a date is its day. -/
structure Filters where
  fromDate : Option Nat
  toDate : Option Nat
  profile : Text

/-- The `WHERE` clause, but for the duration; what is compared with `NULL` is not selected. -/
def Filters.admits (filters : Filters) (row : SigningRequest) : Bool :=
  row.status == .signed &&
    filters.fromDate.all (fun day => row.signedOn.any fun at_ => decide (day ≤ Instant.day at_)) &&
    filters.toDate.all (fun day => row.signedOn.any fun at_ => decide (Instant.day at_ ≤ day)) &&
    (!filters.profile.given || filters.profile == some row.profile)

/-- `profile, source_doctype` -/
abbrev Group : Type := String × String

def group (row : SigningRequest) : Group := (row.profile, row.sourceDoctype)

structure ReportLine where
  profile : String
  sourceDoctype : String
  signedCount : Nat
  avgSeconds : ℚ
  minSeconds : Nat
  maxSeconds : Nat

/-- The aggregates over the seconds of one group. -/
def ReportLine.ofSeconds (key : Group) (seconds : List Nat) : ReportLine where
  profile := key.1
  sourceDoctype := key.2
  signedCount := seconds.length
  avgSeconds := (seconds.sum : ℚ) / seconds.length
  minSeconds := seconds.min?.getD 0
  maxSeconds := seconds.max?.getD 0

def ReportLine.group (line : ReportLine) : Group := (line.profile, line.sourceDoctype)

/-- The requests of one group that the filters admit. -/
def members (database : Database) (filters : Filters) (key : Group) : List SigningRequest :=
  ((database.requests.select filters.admits).map Prod.snd).filter fun row => group row == key

/-- The rows of the query, with the largest average first. -/
def execute (database : Database) (filters : Filters) : List ReportLine :=
  let rows := (database.requests.select fun row =>
    filters.admits row && row.signDurationSeconds.isSome).map Prod.snd
  let lines := (rows.map group).dedup.map fun key =>
    ReportLine.ofSeconds key
      ((rows.filter fun row => group row == key).filterMap SigningRequest.signDurationSeconds)
  lines.insertionSort fun left right => right.avgSeconds ≤ left.avgSeconds

/-! ### What it is said to tell -/

/-- The whole seconds from the creation to the signature. -/
def elapsedSeconds (row : SigningRequest) : Option Nat :=
  match row.createdOn, row.signedOn with
  | some createdOn, some signedOn => some ((signedOn - createdOn) / 1000000)
  | _, _ => none

/-- Every group with a Signed request has one line, and that tells the elapsed times. -/
def TellsElapsed (database : Database) (filters : Filters) : Prop :=
  ∀ key, members database filters key ≠ [] → ∀ line,
    (line ∈ execute database filters ∧ line.group = key) ↔
      line = ReportLine.ofSeconds key ((members database filters key).filterMap elapsedSeconds)

/-- The Signed requests have both times, and no duration is longer than the elapsed time. -/
def Timed (database : Database) : Prop :=
  ∀ name row, database.requests.lookup name = some row → row.status = .signed →
    ∃ duration elapsed, row.signDurationSeconds = some duration ∧
      elapsedSeconds row = some elapsed ∧ duration ≤ elapsed

section Members

variable {database : Database} {filters : Filters}

theorem mem_members {key : Group} {row : SigningRequest} : row ∈ members database filters key ↔
    (∃ name, database.requests.lookup name = some row) ∧ filters.admits row = true ∧
      group row = key := by
  rw [members, List.mem_filter, List.mem_map, beq_iff_eq]
  constructor
  · rintro ⟨⟨⟨name, other⟩, selected, rfl⟩, same⟩
    obtain ⟨found, admitted⟩ := Table.mem_select.mp selected
    exact ⟨⟨name, found⟩, admitted, same⟩
  · rintro ⟨⟨name, found⟩, admitted, same⟩
    exact ⟨⟨(name, row), Table.mem_select.mpr ⟨found, admitted⟩, rfl⟩, same⟩

theorem admits_signed {row : SigningRequest} (admitted : filters.admits row = true) :
    row.status = .signed := by
  simp only [Filters.admits, Bool.and_eq_true, beq_iff_eq] at admitted
  exact admitted.1.1.1

theorem member_timed (timed : Timed database) {key : Group} {row : SigningRequest}
    (member : row ∈ members database filters key) :
    ∃ duration elapsed, row.signDurationSeconds = some duration ∧
      elapsedSeconds row = some elapsed ∧ duration ≤ elapsed := by
  obtain ⟨⟨name, found⟩, admitted, _⟩ := mem_members.mp member
  exact timed name row found (admits_signed admitted)

/-- The query leaves no Signed request out. -/
theorem timed_rows (timed : Timed database) :
    (database.requests.select fun row => filters.admits row && row.signDurationSeconds.isSome) =
      database.requests.select filters.admits := by
  refine List.filter_congr ?_
  rintro ⟨name, row⟩ member
  cases admitted : filters.admits row with
  | false => simp [admitted]
  | true =>
      obtain ⟨duration, _, written, _⟩ :=
        timed name row (Table.mem_rows.mp member) (admits_signed admitted)
      simp [admitted, written]

theorem mem_execute (timed : Timed database) {line : ReportLine} :
    line ∈ execute database filters ↔ ∃ key, members database filters key ≠ [] ∧
      line = ReportLine.ofSeconds key
        ((members database filters key).filterMap SigningRequest.signDurationSeconds) := by
  rw [execute, timed_rows timed, List.mem_insertionSort, List.mem_map]
  refine exists_congr fun key => and_congr ?_ eq_comm
  rw [List.mem_dedup, List.mem_map]
  constructor
  · rintro ⟨row, member, rfl⟩
    exact List.ne_nil_of_mem (List.mem_filter.mpr ⟨member, beq_self_eq_true _⟩)
  · intro some_
    obtain ⟨row, member⟩ := List.exists_mem_of_ne_nil _ some_
    obtain ⟨selected, same⟩ := List.mem_filter.mp member
    exact ⟨row, selected, eq_of_beq same⟩

/-- A line tells the elapsed times where its aggregates are those of the elapsed times. -/
theorem tells_line (timed : Timed database) {key : Group}
    (some_ : members database filters key ≠ []) :
    (∀ line, (line ∈ execute database filters ∧ line.group = key) ↔
      line = ReportLine.ofSeconds key
        ((members database filters key).filterMap elapsedSeconds)) ↔
      ReportLine.ofSeconds key
          ((members database filters key).filterMap SigningRequest.signDurationSeconds) =
        ReportLine.ofSeconds key ((members database filters key).filterMap elapsedSeconds) := by
  constructor
  · intro tells
    exact (tells _).mp ⟨(mem_execute timed).mpr ⟨key, some_, rfl⟩, rfl⟩
  · intro same line
    rw [← same, mem_execute timed]
    constructor
    · rintro ⟨⟨other, _, written⟩, grouped⟩
      have this : other = key := by
        rw [← grouped, written]
        rfl
      rw [written, this]
    · intro written
      exact ⟨⟨key, some_, written⟩, by rw [written]; rfl⟩

end Members

/-! ### Aggregates of values that are ordered -/

/-- Values that lie below others have the same aggregates only where they are the same. -/
theorem ofSeconds_eq_iff {rows : List SigningRequest} {duration elapsed : SigningRequest → Nat}
    (below : ∀ row ∈ rows, duration row ≤ elapsed row) (key : Group) :
    ReportLine.ofSeconds key (rows.map duration) = ReportLine.ofSeconds key (rows.map elapsed) ↔
      ∀ row ∈ rows, duration row = elapsed row := by
  constructor
  · intro same row member
    have averages : ((rows.map duration).sum : ℚ) / (rows.map duration).length =
        (rows.map elapsed).sum / (rows.map elapsed).length := congrArg ReportLine.avgSeconds same
    rw [List.length_map, List.length_map] at averages
    have counted : (rows.length : ℚ) ≠ 0 :=
      Nat.cast_ne_zero.mpr (List.length_pos_of_mem member).ne'
    have sums : (rows.map duration).sum = (rows.map elapsed).sum := by
      exact_mod_cast (div_left_inj' counted).mp averages
    by_contra differs
    have less : duration row < elapsed row := lt_of_le_of_ne (below row member) differs
    exact absurd sums (List.sum_lt_sum duration elapsed below ⟨row, member, less⟩).ne
  · intro same
    rw [List.map_congr_left same]

/-- The report tells the elapsed times of every group, under all filters, where it tells that of
every Signed request. -/
theorem tells_iff {database : Database} (timed : Timed database) :
    (∀ filters, TellsElapsed database filters) ↔
      ∀ name row, database.requests.lookup name = some row → row.status = .signed →
        row.signDurationSeconds = elapsedSeconds row := by
  have columns {filters : Filters} {key : Group} :
      (members database filters key).filterMap SigningRequest.signDurationSeconds =
          (members database filters key).map (fun row => row.signDurationSeconds.getD 0) ∧
        (members database filters key).filterMap elapsedSeconds =
          (members database filters key).map fun row => (elapsedSeconds row).getD 0 := by
    constructor <;> rw [List.filterMap_eq_map_iff_forall_eq_some] <;> intro row member
    · obtain ⟨duration, _, written, _⟩ := member_timed timed member
      rw [written, Option.getD_some]
    · obtain ⟨_, elapsed, _, passed, _⟩ := member_timed timed member
      rw [passed, Option.getD_some]
  have below {filters : Filters} {key : Group} : ∀ row ∈ members database filters key,
      row.signDurationSeconds.getD 0 ≤ (elapsedSeconds row).getD 0 := by
    intro row member
    obtain ⟨duration, elapsed, written, passed, shorter⟩ := member_timed timed member
    rw [written, passed]
    exact shorter
  constructor
  · intro tells name row found signed
    let everything : Filters := ⟨none, none, none⟩
    have member : row ∈ members database everything (group row) :=
      mem_members.mpr ⟨⟨name, found⟩, by simp [everything, Filters.admits, signed, Text.given], rfl⟩
    have line := (tells_line timed (List.ne_nil_of_mem member)).mp
      (tells everything (group row) (List.ne_nil_of_mem member))
    rw [columns.1, columns.2] at line
    have same := (ofSeconds_eq_iff below (group row)).mp line row member
    obtain ⟨duration, elapsed, written, passed, _⟩ := member_timed timed member
    rw [written, passed] at same ⊢
    exact congrArg some same
  · intro same filters key some_
    refine (tells_line timed some_).mpr ?_
    congr 1
    refine List.filterMap_congr fun row member => ?_
    obtain ⟨⟨name, found⟩, admitted, _⟩ := mem_members.mp member
    exact same name row found (admits_signed admitted)

end DscSigning.TimeReport
