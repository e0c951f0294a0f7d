/-
Stores whose entries expire.

An entry is found until its time has come.  Where only the questions of calls
fill a store in the surroundings of an engine, whatever a call finds in it was
put there by an earlier question, and not longer ago than the entry lives.
-/

import DscSigning.Library.Table
import DscSigning.Library.Transactions

/-- Rows with the time at which each expires. -/
abbrev ExpiringStore (Key Row : Type) [DecidableEq Key] : Type := Table Key (Row × Nat)

namespace ExpiringStore

variable {Key Row : Type} [DecidableEq Key]

def find (store : ExpiringStore Key Row) (now : Nat) (key : Key) : Option Row :=
  ((store.lookup key).filter fun row => now < row.2).map Prod.fst

def put (store : ExpiringStore Key Row) (key : Key) (row : Row) (expires : Nat) :
    ExpiringStore Key Row :=
  store.insert key (row, expires)

theorem find_some {store : ExpiringStore Key Row} {now : Nat} {key : Key} {row : Row} :
    store.find now key = some row ↔
      ∃ expires, store.lookup key = some (row, expires) ∧ now < expires := by
  simp only [find, Option.map_eq_some_iff, Option.filter_eq_some_iff, decide_eq_true_eq,
    Prod.exists, exists_and_right, exists_eq_right]

theorem lookup_put {store : ExpiringStore Key Row} {key other : Key} {row : Row} {expires : Nat}
    {entry : Row × Nat} (found : (store.put key row expires).lookup other = some entry) :
    (other = key ∧ entry = (row, expires)) ∨ store.lookup other = some entry := by
  by_cases same : other = key
  · rw [put, same, AList.lookup_insert] at found
    exact Or.inl ⟨same, (Option.some.inj found).symm⟩
  · rw [put, AList.lookup_insert_ne same] at found
    exact Or.inr found

end ExpiringStore

namespace Interaction

namespace Engine

/-- A store in the surroundings of an engine, with what fills it and what reads
it.  The surroundings can lose its entries, and never add any. -/
structure Filling {face : Interface} (engine : Engine face) (Key Row : Type) [DecidableEq Key] where
  store : engine.Shared → ExpiringStore Key Row
  clock : engine.Stamp → Nat
  /-- The row that an event puts under a key, and how long it lives. -/
  fills : Event face engine.Stamp → Key → Row → Nat → Prop
  finds : Event face engine.Stamp → Key → Row → Prop
  replied : ∀ oracle data shared query reply later,
    engine.reply oracle data shared query = some (reply, later) →
      clock (engine.stamp shared) ≤ clock (engine.stamp later) ∧
      ∀ key entry, (store later).lookup key = some entry → (store shared).lookup key = some entry ∨
        ∃ life, fills ⟨query, reply, engine.stamp shared⟩ key entry.1 life ∧
          entry.2 = clock (engine.stamp shared) + life
  moved : ∀ move data shared other later, engine.move move data shared = some (other, later) →
    clock (engine.stamp shared) ≤ clock (engine.stamp later) ∧
    ∀ key entry, (store later).lookup key = some entry → (store shared).lookup key = some entry
  read : ∀ oracle data shared query reply later key row,
    engine.reply oracle data shared query = some (reply, later) →
      finds ⟨query, reply, engine.stamp shared⟩ key row →
      (store shared).find (clock (engine.stamp shared)) key = some row

namespace Filling

variable {face : Interface} {engine : Engine face} {Origin Value Key Row : Type}
  [DecidableEq Key] (filling : engine.Filling Key Row) {body : Origin → Program face Value}

/-- Somebody has put the row under the key, so long before it expires. -/
def Filled (world : engine.World Origin Value) (key : Key) (entry : Row × Nat) : Prop :=
  ∃ index event life, world.Asked index event ∧ filling.fills event key entry.1 life ∧
    entry.2 = filling.clock event.stamp + life ∧
    filling.clock event.stamp ≤ filling.clock (engine.stamp world.shared)

/-- Every entry was put there, and whatever was found had been put there. -/
structure Sound (world : engine.World Origin Value) : Prop where
  filled : ∀ key entry, (filling.store world.shared).lookup key = some entry →
    filling.Filled world key entry
  found : ∀ index event key row, world.Asked index event → filling.finds event key row →
    ∃ other filler life, world.Asked other filler ∧ filling.fills filler key row life ∧
      filling.clock filler.stamp ≤ filling.clock event.stamp ∧
      filling.clock event.stamp < filling.clock filler.stamp + life

variable {filling}

theorem Filled.step {world next : engine.World Origin Value} {label : engine.Label Origin}
    {key : Key} {entry : Row × Nat} (filled : filling.Filled world key entry)
    (stepped : step body world label = some next)
    (onward : filling.clock (engine.stamp world.shared) ≤
      filling.clock (engine.stamp next.shared)) : filling.Filled next key entry := by
  obtain ⟨index, event, life, asked, fills, expires, early⟩ := filled
  exact ⟨index, event, life, asked_mono body stepped asked, fills, expires, early.trans onward⟩

/-- Time goes on, and a new entry is one that the step fills in. -/
theorem store_step {world next : engine.World Origin Value} {label : engine.Label Origin}
    (stepped : step body world label = some next) :
    filling.clock (engine.stamp world.shared) ≤ filling.clock (engine.stamp next.shared) ∧
    ∀ key entry, (filling.store next.shared).lookup key = some entry →
      (filling.store world.shared).lookup key = some entry ∨ filling.Filled next key entry := by
  cases step_cases body stepped with
  | start origin => exact ⟨Nat.le_refl _, fun _ _ => Or.inl⟩
  | ask index oracle call query after reply shared there running replied free =>
      obtain ⟨onward, entries⟩ := filling.replied _ _ _ _ _ _ replied
      obtain ⟨later, located, _, latest⟩ :=
        asking_asked body stepped (asking_ask there running replied)
      refine ⟨onward, fun key entry found => ?_⟩
      rcases entries key entry found with old | ⟨life, fills, expires⟩
      · exact Or.inl old
      · exact Or.inr ⟨index, _, life, ⟨later, located, by rw [latest]; exact List.mem_cons_self⟩,
          fills, expires, onward⟩
  | done index call value there finished => exact ⟨Nat.le_refl _, fun _ _ => Or.inl⟩
  | fail index call error there failed => exact ⟨Nat.le_refl _, fun _ _ => Or.inl⟩
  | abandon index call program there running => exact ⟨Nat.le_refl _, fun _ _ => Or.inl⟩
  | move move data shared moved =>
      obtain ⟨onward, entries⟩ := filling.moved _ _ _ _ _ moved
      exact ⟨onward, fun key entry found => Or.inl (entries key entry found)⟩

theorem sound_step {world next : engine.World Origin Value} {label : engine.Label Origin}
    (sound : filling.Sound world) (stepped : step body world label = some next) :
    filling.Sound next := by
  obtain ⟨onward, entries⟩ := @store_step _ _ _ _ _ _ _ filling _ _ _ _ stepped
  constructor
  · intro key entry found
    rcases entries key entry found with old | new
    · exact (sound.filled key entry old).step stepped onward
    · exact new
  · intro index event key row asked finds
    rcases asked_step body stepped asked with old | ⟨call, asking⟩
    · obtain ⟨other, filler, life, fillerAsked, between⟩ := sound.found index event key row old finds
      exact ⟨other, filler, life, asked_mono body stepped fillerAsked, between⟩
    · obtain ⟨oracle, replied⟩ := asking_shared body stepped asking
      have stamped := (asking_located asking).2.1
      have reads := filling.read _ _ _ _ _ _ key row replied (by rw [← stamped]; exact finds)
      obtain ⟨expires, entry, alive⟩ := ExpiringStore.find_some.mp reads
      obtain ⟨other, filler, life, fillerAsked, fills, until_, early⟩ := sound.filled key _ entry
      rw [← stamped] at alive early
      refine ⟨other, filler, life, asked_mono body stepped fillerAsked, fills, early, ?_⟩
      have bound : expires = filling.clock filler.stamp + life := until_
      omega

/-- From a world without calls and entries. -/
theorem run_sound {world last : engine.World Origin Value} {labels : List (engine.Label Origin)}
    (idle : world.calls = []) (empty : ∀ key, (filling.store world.shared).lookup key = none)
    (ran : run body world labels = some last) : filling.Sound last := by
  refine run_invariant body (fun _ _ _ sound _ stepped => sound_step sound stepped) ?_
    (along_always body) ran
  constructor
  · intro key entry found
    rw [empty key] at found
    cases found
  · intro index event key row asked
    obtain ⟨call, located, _⟩ := asked
    rw [idle] at located
    cases located

end Filling

end Engine

end Interaction
