/-
Relabelled programs and engines.

A relabelling changes what the questions and replies of an interface carry.  An
engine that answers relabelled questions with relabelled replies plays a
relabelled program exactly as it plays the program itself.
-/

import DscSigning.Library.Scripts

namespace Interaction

structure Relabelling (face : Interface) where
  query : face.Query → face.Query
  forth : (asked : face.Query) → face.Reply asked → face.Reply (query asked)
  back : (asked : face.Query) → face.Reply (query asked) → face.Reply asked
  back_forth : ∀ asked reply, back asked (forth asked reply) = reply

namespace Program

variable {face : Interface} {Value Result : Type}

/-- The program that asks the relabelled questions and takes the relabelled
replies for the ones it would have got. -/
def relabel (labels : Relabelling face) : Program face Value → Program face Value
  | .done value => .done value
  | .fail error => .fail error
  | .ask query next => .ask (labels.query query) fun reply =>
      (next (labels.back query reply)).relabel labels

variable {labels : Relabelling face}

@[simp] theorem relabel_done (value : Value) :
    (Program.done value : Program face Value).relabel labels = .done value := rfl

@[simp] theorem relabel_fail (error : face.Error) :
    (Program.fail error : Program face Value).relabel labels = .fail error := rfl

@[simp] theorem relabel_bind (program : Program face Value) (next : Value → Program face Result) :
    (program.bind next).relabel labels =
      (program.relabel labels).bind fun value => (next value).relabel labels := by
  induction program with
  | done value => rfl
  | fail error => rfl
  | ask query after ih =>
      simp only [bind, relabel]
      congr 1
      funext reply
      exact ih _

@[simp] theorem relabel_recover (program : Program face Value)
    (handler : face.Error → Program face Value) :
    (program.recover handler).relabel labels =
      (program.relabel labels).recover fun error => (handler error).relabel labels := by
  induction program with
  | done value => rfl
  | fail error => rfl
  | ask query after ih =>
      simp only [recover, relabel]
      congr 1
      funext reply
      exact ih _

@[simp] theorem relabel_ofExcept (result : Except face.Error Value) :
    (Program.ofExcept result).relabel labels = Program.ofExcept result := by
  cases result <;> rfl

@[simp] theorem relabel_ofOption (value : Option Value) (error : face.Error) :
    (Program.ofOption value error).relabel labels = Program.ofOption value error := by
  cases value <;> rfl

@[simp] theorem relabel_demand (condition : Bool) (error : face.Error) :
    (Program.demand condition error).relabel labels = Program.demand condition error := by
  cases condition <;> rfl

@[simp] theorem relabel_ite (condition : Prop) [Decidable condition]
    (first second : Program face Value) :
    (if condition then first else second).relabel labels =
      if condition then first.relabel labels else second.relabel labels := by
  split <;> rfl

theorem relabel_forEach {Item : Type} {items : List Item} {body : Item → Program face Unit}
    (each : ∀ item, (body item).relabel labels = body item) :
    (Program.forEach items body).relabel labels = Program.forEach items body := by
  induction items with
  | nil => rfl
  | cons item rest ih => simp only [forEach, relabel_bind, each, ih]

/-- The question and its replies stay as they are. -/
def Fixes (labels : Relabelling face) (query : face.Query) : Prop :=
  ∀ {Value : Type} (next : face.Reply query → Program face Value),
    (Program.ask query next).relabel labels = .ask query fun reply => (next reply).relabel labels

theorem relabel_fixed {query : face.Query} (fixed : Fixes labels query) :
    (Program.perform query).relabel labels = Program.perform query := by
  unfold perform
  rw [fixed]
  congr 1
  funext reply
  cases reply <;> rfl

/-- An event with its question and its reply relabelled. -/
def relabelled {Stamp : Type} (labels : Relabelling face) (event : Event face Stamp) :
    Event face Stamp :=
  ⟨labels.query event.query, labels.forth event.query event.reply, event.stamp⟩

/-- A relabelled program runs through the relabelled trace, with the same result. -/
theorem Ran.relabel {Stamp : Type} {program : Program face Value} {before after : Trace face Stamp}
    {result : Except face.Error Value} (ran : program.Ran before after result)
    (labels : Relabelling face) :
    (program.relabel labels).Ran (before.map (relabelled labels)) (after.map (relabelled labels))
      result := by
  induction program generalizing before with
  | done value => exact ⟨congrArg _ ran.1, ran.2⟩
  | fail error => exact ⟨congrArg _ ran.1, ran.2⟩
  | ask query next ih =>
      obtain ⟨reply, stamp, rest⟩ := ran
      refine ⟨labels.forth query reply, stamp, ?_⟩
      simp only [labels.back_forth]
      exact ih reply rest

end Program

namespace Engine

variable {face : Interface}

/-- A relabelling of an engine with all that it keeps. -/
structure Symmetry (engine : Engine face) extends Relabelling face where
  data : engine.Data → engine.Data
  shared : engine.Shared → engine.Shared
  oracle : engine.Oracle → engine.Oracle
  write : engine.Write → engine.Write
  performed : ∀ before written,
    engine.perform (data before) (write written) = data (engine.perform before written)
  stamped : ∀ state, engine.stamp (shared state) = engine.stamp state
  replied : ∀ answers before state asked,
    engine.reply (oracle answers) (data before) (shared state) (query asked) =
      (engine.reply answers before state asked).map fun told => (forth asked told.1, shared told.2)
  affected : ∀ asked reply stamp,
    engine.effects ⟨query asked, forth asked reply, stamp⟩ =
      (engine.effects ⟨asked, reply, stamp⟩).map write
  committed : ∀ asked reply stamp,
    engine.commits ⟨query asked, forth asked reply, stamp⟩ =
      engine.commits ⟨asked, reply, stamp⟩

namespace Symmetry

variable {engine : Engine face} (symmetry : engine.Symmetry) {Value : Type}

def event (event : Event face engine.Stamp) : Event face engine.Stamp :=
  ⟨symmetry.query event.query, symmetry.forth event.query event.reply, event.stamp⟩

def outcome (outcome : engine.Outcome Value) : engine.Outcome Value :=
  ⟨outcome.result, symmetry.data outcome.data, symmetry.shared outcome.shared,
    outcome.trace.map symmetry.event⟩

theorem view_write (data : engine.Data) (writes : List engine.Write) :
    engine.view (symmetry.data data) (writes.map symmetry.write) =
      symmetry.data (engine.view data writes) := by
  induction writes generalizing data with
  | nil => rfl
  | cons written rest ih =>
      have first := ih (engine.perform data written)
      simpa only [view, List.map_cons, List.foldl_cons, symmetry.performed] using first

theorem pending_event (trace : Trace face engine.Stamp) :
    engine.pending (trace.map symmetry.event) = (engine.pending trace).map symmetry.write := by
  induction trace with
  | nil => rfl
  | cons event earlier ih =>
      have commits : engine.commits (symmetry.event event) = engine.commits event :=
        symmetry.committed _ _ _
      have effects : engine.effects (symmetry.event event) =
          (engine.effects event).map symmetry.write :=
        symmetry.affected _ _ _
      rw [List.map_cons, pending, pending, commits, effects, ih]
      split
      · rfl
      · rw [List.map_append]

theorem settle_event (data : engine.Data) (trace : Trace face engine.Stamp)
    (event : Event face engine.Stamp) :
    settle (symmetry.data data) (trace.map symmetry.event) (symmetry.event event) =
      symmetry.data (settle data trace event) := by
  have commits : engine.commits (symmetry.event event) = engine.commits event :=
    symmetry.committed _ _ _
  unfold settle
  rw [commits, symmetry.pending_event, symmetry.view_write]
  split <;> rfl

theorem play_relabel (program : Program face Value) (data : engine.Data) (shared : engine.Shared)
    (trace : Trace face engine.Stamp) (script : List engine.Oracle) :
    engine.play (program.relabel symmetry.toRelabelling) (symmetry.data data)
        (symmetry.shared shared) (trace.map symmetry.event) (script.map symmetry.oracle) =
      (engine.play program data shared trace script).map symmetry.outcome := by
  induction program generalizing data shared trace script with
  | done value => cases script <;> rfl
  | fail error => cases script <;> rfl
  | ask query next ih =>
      cases script with
      | nil => rfl
      | cons oracle rest =>
          rw [Program.relabel, List.map_cons, play_cons, play_cons, symmetry.pending_event,
            symmetry.view_write, symmetry.replied, Option.map_bind, Option.bind_map]
          congr 1
          funext told
          have settled := symmetry.settle_event data trace ⟨query, told.1, engine.stamp shared⟩
          have later := ih told.1 (settle data trace ⟨query, told.1, engine.stamp shared⟩) told.2
            (⟨query, told.1, engine.stamp shared⟩ :: trace) rest
          rw [← settled] at later
          simp only [Function.comp_apply, symmetry.back_forth, symmetry.stamped]
          exact later

theorem left_outcome (outcome : engine.Outcome Value) :
    (symmetry.outcome outcome).left = symmetry.data outcome.left := by
  obtain ⟨result, data, shared, trace⟩ := outcome
  cases result with
  | ok value =>
      simp only [Symmetry.outcome, Outcome.left, leaves]
      rw [symmetry.pending_event, symmetry.view_write]
  | error error => rfl

end Symmetry

end Engine

end Interaction
