/-
Runs of a partial step function, and what holds all along them.
-/

import Mathlib.Data.Option.Basic

namespace Interaction.Runs

variable {State Label : Type} (step : State → Label → Option State)

def run (state : State) : List Label → Option State
  | [] => some state
  | label :: rest => (step state label).bind fun next => run next rest

/-- The condition holds before every step of the run. -/
def Along (condition : State → Label → Prop) (state : State) : List Label → Prop
  | [] => True
  | label :: rest => condition state label ∧
      ∀ next, step state label = some next → Along condition next rest

variable {step}

theorem run_invariant {condition : State → Label → Prop} {invariant : State → Prop}
    (preserved : ∀ state label next, invariant state → condition state label →
      step state label = some next → invariant next)
    {state last : State} {labels : List Label} (start : invariant state)
    (along : Along step condition state labels) (ran : run step state labels = some last) :
    invariant last := by
  induction labels generalizing state with
  | nil =>
      cases ran
      exact start
  | cons label rest ih =>
      obtain ⟨next, stepped, ran⟩ := Option.bind_eq_some_iff.mp ran
      exact ih (preserved state label next start along.1 stepped) (along.2 next stepped) ran

theorem along_both {condition other : State → Label → Prop} {state : State} {labels : List Label}
    (first : Along step condition state labels) (second : Along step other state labels) :
    Along step (fun state label => condition state label ∧ other state label) state labels := by
  induction labels generalizing state with
  | nil => trivial
  | cons label rest ih =>
      exact ⟨⟨first.1, second.1⟩,
        fun next stepped => ih (first.2 next stepped) (second.2 next stepped)⟩

/-- A condition that keeps an invariant implies along runs what it implies under the invariant. -/
theorem along_implies {invariant : State → Prop} {condition other : State → Label → Prop}
    (preserved : ∀ state label next, invariant state → condition state label →
      step state label = some next → invariant next)
    (implied : ∀ state label, invariant state → condition state label → other state label)
    {state : State} {labels : List Label} (start : invariant state)
    (along : Along step condition state labels) : Along step other state labels := by
  induction labels generalizing state with
  | nil => trivial
  | cons label rest ih =>
      exact ⟨implied state label start along.1, fun next stepped =>
        ih (preserved state label next start along.1 stepped) (along.2 next stepped)⟩

/-- Two conditions that agree wherever an invariant holds agree along runs. -/
theorem along_congr {invariant : State → Prop} {condition other : State → Label → Prop}
    (preserved : ∀ state label next, invariant state → step state label = some next →
      invariant next)
    (agree : ∀ state label, invariant state → (condition state label ↔ other state label))
    {state : State} {labels : List Label} (start : invariant state) :
    Along step condition state labels ↔ Along step other state labels := by
  induction labels generalizing state with
  | nil => exact Iff.rfl
  | cons label rest ih =>
      refine and_congr (agree state label start) (forall_congr' fun next => ?_)
      exact forall_congr' fun stepped => ih (preserved state label next start stepped)

/-- A condition on the labels alone. -/
theorem along_members {condition : State → Label → Prop} {labels : List Label}
    (holds : ∀ label ∈ labels, ∀ state, condition state label) (state : State) :
    Along step condition state labels := by
  induction labels generalizing state with
  | nil => trivial
  | cons label rest ih =>
      exact ⟨holds label (by simp) state,
        fun next _ => ih (fun other member => holds other (by simp [member])) next⟩

theorem run_append (state : State) (first second : List Label) :
    run step state (first ++ second) = (run step state first).bind fun next => run step next second := by
  induction first generalizing state with
  | nil => rfl
  | cons label rest ih =>
      cases stepped : step state label with
      | none => simp only [List.cons_append, run, stepped, Option.bind_none]
      | some next => simp only [List.cons_append, run, stepped, Option.bind_some, ih]

theorem along_append {condition : State → Label → Prop} {state : State} {first second : List Label}
    (along : Along step condition state (first ++ second)) :
    Along step condition state first ∧
      ∀ middle, run step state first = some middle → Along step condition middle second := by
  induction first generalizing state with
  | nil =>
      refine ⟨trivial, fun middle ran => ?_⟩
      cases ran
      exact along
  | cons label rest ih =>
      refine ⟨⟨along.1, fun next stepped => (ih (along.2 next stepped)).1⟩, fun middle ran => ?_⟩
      obtain ⟨next, stepped, ran⟩ := Option.bind_eq_some_iff.mp ran
      exact (ih (along.2 next stepped)).2 middle ran

/-- A map of the states that commutes with every step commutes with runs. -/
theorem run_map {Other Mark : Type} {other : Other → Mark → Option Other} {map : State → Other}
    {mark : Label → Mark}
    (commutes : ∀ state label, other (map state) (mark label) = (step state label).map map)
    (state : State) (labels : List Label) :
    run other (map state) (labels.map mark) = (run step state labels).map map := by
  induction labels generalizing state with
  | nil => rfl
  | cons label rest ih =>
      rw [List.map_cons, run, run, commutes, Option.bind_map, Option.map_bind]
      congr 1
      funext next
      exact ih next

/-- Where one step keeps a property exactly under a condition, the property holds
in all states of a run exactly when the condition holds all along it. -/
theorem along_iff_prefixes {holds : State → Prop} {condition : State → Label → Prop}
    {labels : List Label} {state last : State}
    (exact_ : ∀ label ∈ labels, ∀ before after, holds before → step before label = some after →
      (holds after ↔ condition before label))
    (start : holds state) (ran : run step state labels = some last) :
    (∀ count reached, run step state (labels.take count) = some reached → holds reached) ↔
      Along step condition state labels := by
  induction labels generalizing state with
  | nil =>
      constructor
      · intro _
        trivial
      · intro _ count reached ran
        rw [List.take_nil] at ran
        cases ran
        exact start
  | cons label rest ih =>
      obtain ⟨next, stepped, ran⟩ := Option.bind_eq_some_iff.mp ran
      have one := exact_ label (by simp) state next start stepped
      have others := fun kept : holds next =>
        ih (fun other member => exact_ other (by simp [member])) kept ran
      constructor
      · intro all
        have kept : holds next := by
          apply all 1 next
          simp only [List.take_succ_cons, List.take_zero, run, stepped, Option.bind_some]
        refine ⟨one.mp kept, fun other again => ?_⟩
        rw [stepped] at again
        cases again
        apply (others kept).mp
        intro count reached ran
        apply all (count + 1) reached
        simpa only [List.take_succ_cons, run, stepped, Option.bind_some] using ran
      · rintro ⟨condition, along⟩ count reached ran
        have kept := one.mpr condition
        cases count with
        | zero =>
            cases ran
            exact start
        | succ count =>
            rw [List.take_succ_cons, run, stepped, Option.bind_some] at ran
            exact (others kept).mpr (along next stepped) count reached ran

/-- A check that can be run along a concrete run. -/
def alongCheck (step : State → Label → Option State) (check : State → Label → Bool) (state : State) :
    List Label → Bool
  | [] => true
  | label :: rest => check state label &&
      match step state label with
      | some next => alongCheck step check next rest
      | none => true

theorem along_of_check {condition : State → Label → Prop} {check : State → Label → Bool}
    (implied : ∀ state label, check state label = true → condition state label) {state : State}
    {labels : List Label} (checked : alongCheck step check state labels = true) :
    Along step condition state labels := by
  induction labels generalizing state with
  | nil => trivial
  | cons label rest ih =>
      simp only [alongCheck, Bool.and_eq_true] at checked
      refine ⟨implied state label checked.1, fun next stepped => ih ?_⟩
      rw [stepped] at checked
      exact checked.2

end Interaction.Runs
