/-
Programs played from a script that has one oracle for each question.

`play` is the run of one call alone as a function; `Ensures` says what every
play of a program ends in.  A limited engine lets its surroundings choose only
the oracles that are admitted for a question.
-/

import DscSigning.Library.Alone

namespace Interaction

namespace Engine

variable {face : Interface} {engine : Engine face} {Value Result : Type}

/-- What a program has come to. -/
structure Outcome (engine : Engine face) (Value : Type) where
  result : Except face.Error Value
  data : engine.Data
  shared : engine.Shared
  trace : Trace face engine.Stamp

def Outcome.left (outcome : engine.Outcome Value) : engine.Data :=
  leaves outcome.result outcome.data outcome.trace

def play (engine : Engine face) : Program face Value → engine.Data → engine.Shared →
    Trace face engine.Stamp → List engine.Oracle → Option (engine.Outcome Value)
  | .done value, data, shared, trace, [] => some ⟨.ok value, data, shared, trace⟩
  | .fail error, data, shared, trace, [] => some ⟨.error error, data, shared, trace⟩
  | .ask query next, data, shared, trace, oracle :: script =>
      match engine.reply oracle (engine.view data (engine.pending trace)) shared query with
      | some (reply, later) =>
          play engine (next reply) (settle data trace ⟨query, reply, engine.stamp shared⟩) later
            (⟨query, reply, engine.stamp shared⟩ :: trace) script
      | none => none
  | .done _, _, _, _, _ :: _ => none
  | .fail _, _, _, _, _ :: _ => none
  | .ask .., _, _, _, [] => none

variable {data : engine.Data} {shared : engine.Shared} {trace : Trace face engine.Stamp}
  {script : List engine.Oracle} {outcome : engine.Outcome Result}

theorem play_done {value : Result} :
    engine.play (.done value) data shared trace script = some outcome ↔
      script = [] ∧ outcome = ⟨.ok value, data, shared, trace⟩ := by
  cases script with
  | nil => simp only [play, Option.some.injEq, true_and, eq_comm]
  | cons oracle rest => simp only [play, reduceCtorEq, false_and]

theorem play_fail {error : face.Error} :
    engine.play (.fail error) data shared trace script = some outcome ↔
      script = [] ∧ outcome = ⟨.error error, data, shared, trace⟩ := by
  cases script with
  | nil => simp only [play, Option.some.injEq, true_and, eq_comm]
  | cons oracle rest => simp only [play, reduceCtorEq, false_and]

theorem play_ask {query : face.Query} {next : face.Reply query → Program face Result} :
    engine.play (.ask query next) data shared trace script = some outcome ↔
      ∃ oracle rest reply later, script = oracle :: rest ∧
        engine.reply oracle (engine.view data (engine.pending trace)) shared query =
          some (reply, later) ∧
        engine.play (next reply) (settle data trace ⟨query, reply, engine.stamp shared⟩) later
          (⟨query, reply, engine.stamp shared⟩ :: trace) rest = some outcome := by
  cases script with
  | nil => simp only [play, reduceCtorEq, false_and, exists_false]
  | cons oracle rest =>
      constructor
      · intro played
        cases replied : engine.reply oracle (engine.view data (engine.pending trace)) shared query with
        | none =>
            simp only [play, replied] at played
            cases played
        | some answered =>
            simp only [play, replied] at played
            exact ⟨oracle, rest, answered.1, answered.2, rfl, replied, played⟩
      · rintro ⟨_, _, reply, later, same, replied, played⟩
        cases same
        simp only [play, replied]
        exact played

theorem play_cons {query : face.Query} {next : face.Reply query → Program face Result}
    (oracle : engine.Oracle) (rest : List engine.Oracle) :
    engine.play (.ask query next) data shared trace (oracle :: rest) =
      (engine.reply oracle (engine.view data (engine.pending trace)) shared query).bind
        fun answered => engine.play (next answered.1)
          (settle data trace ⟨query, answered.1, engine.stamp shared⟩) answered.2
          (⟨query, answered.1, engine.stamp shared⟩ :: trace) rest := by
  cases replied : engine.reply oracle (engine.view data (engine.pending trace)) shared query with
  | none => simp only [play, replied, Option.bind_none]
  | some answered => simp only [play, replied, Option.bind_some]

/-- A play of two parts is a play of the first and one of the second. -/
theorem play_bind {program : Program face Value} {next : Value → Program face Result} :
    engine.play (program.bind next) data shared trace script = some outcome ↔
      ∃ first second middle, script = first ++ second ∧
        engine.play program data shared trace first = some middle ∧
        match middle.result with
        | .ok value =>
            engine.play (next value) middle.data middle.shared middle.trace second = some outcome
        | .error error =>
            second = [] ∧ outcome = ⟨.error error, middle.data, middle.shared, middle.trace⟩ := by
  induction program generalizing data shared trace script with
  | done value =>
      constructor
      · intro played
        exact ⟨[], script, _, rfl, rfl, played⟩
      · rintro ⟨first, second, middle, rfl, ended, played⟩
        obtain ⟨rfl, rfl⟩ := play_done.mp ended
        exact played
  | fail error =>
      constructor
      · intro played
        obtain ⟨rfl, rfl⟩ := play_fail.mp played
        exact ⟨[], [], _, rfl, rfl, rfl, rfl⟩
      · rintro ⟨first, second, middle, rfl, ended, played⟩
        obtain ⟨rfl, rfl⟩ := play_fail.mp ended
        exact play_fail.mpr played
  | ask query after ih =>
      constructor
      · intro played
        obtain ⟨oracle, rest, reply, later, rfl, replied, played⟩ := play_ask.mp played
        obtain ⟨first, second, middle, rfl, ended, played⟩ := (ih reply).mp played
        exact ⟨oracle :: first, second, middle, rfl,
          play_ask.mpr ⟨oracle, first, reply, later, rfl, replied, ended⟩, played⟩
      · rintro ⟨first, second, middle, rfl, ended, played⟩
        obtain ⟨oracle, rest, reply, later, rfl, replied, ended⟩ := play_ask.mp ended
        exact play_ask.mpr ⟨oracle, rest ++ second, reply, later, rfl, replied,
          (ih reply).mpr ⟨rest, second, middle, rfl, ended, played⟩⟩

/-- What follows a program without asking anything only changes its value. -/
theorem play_bind_done (program : Program face Value) (next : Value → Result) :
    engine.play (program.bind fun value => .done (next value)) data shared trace script =
      (engine.play program data shared trace script).map fun outcome =>
        ⟨outcome.result.map next, outcome.data, outcome.shared, outcome.trace⟩ := by
  induction program generalizing data shared trace script with
  | done value => cases script <;> rfl
  | fail error => cases script <;> rfl
  | ask query after ih =>
      cases script with
      | nil => rfl
      | cons oracle rest =>
          simp only [Program.bind]
          rw [play_cons, play_cons, Option.map_bind]
          congr 1
          funext answered
          exact ih answered.1

/-- A program ensures what all its plays end in. -/
theorem ensures_iff {kind : engine.Oracle → Prop}
    {post : Except face.Error Result → engine.Data → engine.Shared → Trace face engine.Stamp → Prop}
    {program : Program face Result} :
    Ensures kind post program data shared trace ↔
      ∀ script outcome, (∀ oracle ∈ script, kind oracle) →
        engine.play program data shared trace script = some outcome →
        post outcome.result outcome.data outcome.shared outcome.trace := by
  induction program generalizing data shared trace with
  | done value =>
      constructor
      · intro ensures script outcome _ played
        obtain ⟨_, rfl⟩ := play_done.mp played
        exact ensures
      · intro all
        exact all [] _ (by simp) (play_done.mpr ⟨rfl, rfl⟩)
  | fail error =>
      constructor
      · intro ensures script outcome _ played
        obtain ⟨_, rfl⟩ := play_fail.mp played
        exact ensures
      · intro all
        exact all [] _ (by simp) (play_fail.mpr ⟨rfl, rfl⟩)
  | ask query next ih =>
      constructor
      · intro ensures script outcome kinds played
        obtain ⟨oracle, rest, reply, later, rfl, replied, played⟩ := play_ask.mp played
        have beyond := ensures oracle reply later (kinds oracle (by simp)) replied
        exact (ih reply).mp beyond rest outcome (fun other member => kinds other (by simp [member]))
          played
      · intro all oracle reply later chosen replied
        apply (ih reply).mpr
        intro rest outcome kinds played
        apply all (oracle :: rest) outcome
        · intro other member
          cases member with
          | head => exact chosen
          | tail _ member => exact kinds other member
        · exact play_ask.mpr ⟨oracle, rest, reply, later, rfl, replied, played⟩

theorem Ensures.played {kind : engine.Oracle → Prop}
    {post : Except face.Error Result → engine.Data → engine.Shared → Trace face engine.Stamp → Prop}
    {program : Program face Result} (ensures : Ensures kind post program data shared trace)
    (kinds : ∀ oracle ∈ script, kind oracle)
    (played : engine.play program data shared trace script = some outcome) :
    post outcome.result outcome.data outcome.shared outcome.trace :=
  ensures_iff.mp ensures script outcome kinds played

/-- Every error that the program is told is the error it ends in. -/
def Propagates : Program face Value → Prop
  | .done _ => True
  | .fail _ => False
  | .ask _ next => (∀ error, next (.error error) = .fail error) ∧
      ∀ answer, Propagates (next (.ok answer))

theorem Propagates.bind {program : Program face Value} {next : Value → Program face Result}
    (first : Propagates program) (after : ∀ value, Propagates (next value)) :
    Propagates (program.bind next) := by
  induction program with
  | done value => exact after value
  | fail error => exact first.elim
  | ask query more ih =>
      refine ⟨fun error => ?_, fun answer => ih (.ok answer) (first.2 answer)⟩
      show (more (.error error)).bind next = .fail error
      rw [first.1 error]
      rfl

theorem propagates_perform (query : face.Query) : Propagates (Program.perform query) :=
  ⟨fun _ => rfl, fun _ => trivial⟩

theorem propagates_forEach {Item : Type} {items : List Item} {body : Item → Program face Unit}
    (each : ∀ item ∈ items, Propagates (body item)) : Propagates (Program.forEach items body) := by
  induction items with
  | nil => trivial
  | cons item rest ih =>
      exact (each item (by simp)).bind fun _ => ih fun other member => each other (by simp [member])

/-- Such a program ends well exactly where nothing has failed. -/
theorem Propagates.played {program : Program face Result} (propagates : Propagates program)
    {faulty : engine.Oracle → Bool}
    (faults : ∀ oracle data shared query reply later,
      engine.reply oracle data shared query = some (reply, later) →
        (faulty oracle = true ↔ ∃ error, reply = .error error))
    (played : engine.play program data shared trace script = some outcome) :
    (∃ value, outcome.result = .ok value) ↔ ∀ oracle ∈ script, faulty oracle = false := by
  induction program generalizing data shared trace script with
  | done value =>
      obtain ⟨rfl, rfl⟩ := play_done.mp played
      simp only [Except.ok.injEq, exists_eq', List.not_mem_nil, false_implies, implies_true]
  | fail error => exact propagates.elim
  | ask query next ih =>
      obtain ⟨oracle, rest, reply, later, rfl, replied, beyond⟩ := play_ask.mp played
      have fault := faults _ _ _ _ _ _ replied
      cases reply with
      | ok answer =>
          have works : faulty oracle = false := by
            cases known : faulty oracle with
            | false => rfl
            | true =>
                obtain ⟨error, same⟩ := fault.mp known
                cases same
          rw [ih (.ok answer) (propagates.2 answer) beyond]
          simp only [List.mem_cons, forall_eq_or_imp, works, true_and]
      | error error =>
          have broken := fault.mpr ⟨error, rfl⟩
          rw [propagates.1 error] at beyond
          obtain ⟨rfl, rfl⟩ := play_fail.mp beyond
          simp only [reduceCtorEq, exists_false, List.mem_singleton, forall_eq, broken,
            Bool.true_eq_false]

/-- The play in which every oracle is chosen by its question. -/
def steadily (engine : Engine face) (choose : face.Query → engine.Oracle) :
    Program face Value → engine.Data → engine.Shared → Trace face engine.Stamp →
    Option (engine.Outcome Value)
  | .done value, data, shared, trace => some ⟨.ok value, data, shared, trace⟩
  | .fail error, data, shared, trace => some ⟨.error error, data, shared, trace⟩
  | .ask query next, data, shared, trace =>
      match engine.reply (choose query) (engine.view data (engine.pending trace)) shared query with
      | some (reply, later) =>
          steadily engine choose (next reply)
            (settle data trace ⟨query, reply, engine.stamp shared⟩) later
            (⟨query, reply, engine.stamp shared⟩ :: trace)
      | none => none

theorem steadily_play {choose : face.Query → engine.Oracle} {program : Program face Result}
    (played : engine.steadily choose program data shared trace = some outcome) :
    ∃ script, engine.play program data shared trace script = some outcome := by
  induction program generalizing data shared trace with
  | done value =>
      cases played
      exact ⟨[], rfl⟩
  | fail error =>
      cases played
      exact ⟨[], rfl⟩
  | ask query next ih =>
      simp only [steadily] at played
      split at played
      · rename_i reply later replied
        obtain ⟨script, beyond⟩ := ih reply played
        exact ⟨choose query :: script,
          play_ask.mpr ⟨choose query, script, reply, later, rfl, replied, beyond⟩⟩
      · cases played

/-- The engine with surroundings that choose admitted oracles only. -/
abbrev limit (engine : Engine face) (admits : face.Query → engine.Oracle → Bool) : Engine face :=
  { engine with
    reply := fun oracle data shared query =>
      if admits query oracle then engine.reply oracle data shared query else none }

end Engine

end Interaction
