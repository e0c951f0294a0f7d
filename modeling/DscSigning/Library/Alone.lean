/-
One call at a time.

`Ensures` is the weakest precondition of a program that runs with no other step
in between, for all replies of the surroundings; `Reaches` is its angelic
counterpart, for replies that can be chosen.  Both are tied to runs of the
engine from a world in which no call is running.
-/

import DscSigning.Library.Transactions

namespace Interaction

namespace Engine

variable {face : Interface} {engine : Engine face} {Origin Value Result : Type}

/-- The committed data after the event. -/
def settle (data : engine.Data) (trace : Trace face engine.Stamp)
    (event : Event face engine.Stamp) : engine.Data :=
  if engine.commits event then engine.view data (engine.pending trace) else data

/-- Run alone from this state, the program can only end in the post, as long as
the surroundings choose oracles of the kind. -/
def Ensures (kind : engine.Oracle → Prop)
    (post : Except face.Error Value → engine.Data → engine.Shared → Trace face engine.Stamp → Prop) :
    Program face Value → engine.Data → engine.Shared → Trace face engine.Stamp → Prop
  | .done value, data, shared, trace => post (.ok value) data shared trace
  | .fail error, data, shared, trace => post (.error error) data shared trace
  | .ask query next, data, shared, trace => ∀ oracle reply later, kind oracle →
      engine.reply oracle (engine.view data (engine.pending trace)) shared query =
        some (reply, later) →
      Ensures kind post (next reply)
        (settle data trace ⟨query, reply, engine.stamp shared⟩) later
        (⟨query, reply, engine.stamp shared⟩ :: trace)

section Rules

variable {kind : engine.Oracle → Prop}
  {mid : Except face.Error Value → engine.Data → engine.Shared → Trace face engine.Stamp → Prop}
  {post : Except face.Error Result → engine.Data → engine.Shared → Trace face engine.Stamp → Prop}

theorem Ensures.bind {program : Program face Value} {next : Value → Program face Result}
    {data : engine.Data} {shared : engine.Shared} {trace : Trace face engine.Stamp}
    (first : Ensures kind mid program data shared trace)
    (onDone : ∀ value data shared trace, mid (.ok value) data shared trace →
      Ensures kind post (next value) data shared trace)
    (onFail : ∀ error data shared trace, mid (.error error) data shared trace →
      post (.error error) data shared trace) :
    Ensures kind post (program.bind next) data shared trace := by
  induction program generalizing data shared trace with
  | done value => exact onDone value data shared trace first
  | fail error => exact onFail error data shared trace first
  | ask query after ih =>
      intro oracle reply later chosen replied
      exact ih reply (first oracle reply later chosen replied)

theorem Ensures.recover
    {mid post : Except face.Error Value → engine.Data → engine.Shared →
      Trace face engine.Stamp → Prop}
    {program : Program face Value} {handler : face.Error → Program face Value}
    {data : engine.Data} {shared : engine.Shared} {trace : Trace face engine.Stamp}
    (first : Ensures kind mid program data shared trace)
    (onDone : ∀ value data shared trace, mid (.ok value) data shared trace →
      post (.ok value) data shared trace)
    (onFail : ∀ error data shared trace, mid (.error error) data shared trace →
      Ensures kind post (handler error) data shared trace) :
    Ensures kind post (program.recover handler) data shared trace := by
  induction program generalizing data shared trace with
  | done value => exact onDone value data shared trace first
  | fail error => exact onFail error data shared trace first
  | ask query after ih =>
      intro oracle reply later chosen replied
      exact ih reply (first oracle reply later chosen replied)

/-- One question at the head of a program. -/
theorem Ensures.perform {query : face.Query} {next : face.Answer query → Program face Result}
    {data : engine.Data} {shared : engine.Shared} {trace : Trace face engine.Stamp}
    (onDone : ∀ oracle answer later, kind oracle →
      engine.reply oracle (engine.view data (engine.pending trace)) shared query =
        some (.ok answer, later) →
      Ensures kind post (next answer) (settle data trace ⟨query, .ok answer, engine.stamp shared⟩)
        later (⟨query, .ok answer, engine.stamp shared⟩ :: trace))
    (onFail : ∀ oracle error later, kind oracle →
      engine.reply oracle (engine.view data (engine.pending trace)) shared query =
        some (.error error, later) →
      post (.error error) (settle data trace ⟨query, .error error, engine.stamp shared⟩) later
        (⟨query, .error error, engine.stamp shared⟩ :: trace)) :
    Ensures kind post ((Program.perform query).bind next) data shared trace := by
  intro oracle reply later chosen replied
  cases reply with
  | ok answer => exact onDone oracle answer later chosen replied
  | error error => exact onFail oracle error later chosen replied

theorem Ensures.demand {condition : Bool} {error : face.Error}
    {next : Unit → Program face Result} {data : engine.Data} {shared : engine.Shared}
    {trace : Trace face engine.Stamp}
    (onDone : condition = true → Ensures kind post (next ()) data shared trace)
    (onFail : condition = false → post (.error error) data shared trace) :
    Ensures kind post ((Program.demand condition error).bind next) data shared trace := by
  cases condition with
  | true => exact onDone rfl
  | false => exact onFail rfl

theorem Ensures.weaken
    {stronger : Except face.Error Result → engine.Data → engine.Shared →
      Trace face engine.Stamp → Prop}
    {program : Program face Result} {data : engine.Data} {shared : engine.Shared}
    {trace : Trace face engine.Stamp} (ensures : Ensures kind stronger program data shared trace)
    (implied : ∀ result data shared trace, stronger result data shared trace →
      post result data shared trace) : Ensures kind post program data shared trace := by
  induction program generalizing data shared trace with
  | done value => exact implied _ _ _ _ ensures
  | fail error => exact implied _ _ _ _ ensures
  | ask query next ih =>
      intro oracle reply later chosen replied
      exact ih reply (ensures oracle reply later chosen replied)

/-- Fewer choices for the surroundings. -/
theorem Ensures.restrict {narrower : engine.Oracle → Prop} {program : Program face Result}
    {data : engine.Data} {shared : engine.Shared} {trace : Trace face engine.Stamp}
    (ensures : Ensures kind post program data shared trace)
    (fewer : ∀ oracle, narrower oracle → kind oracle) :
    Ensures narrower post program data shared trace := by
  induction program generalizing data shared trace with
  | done value => exact ensures
  | fail error => exact ensures
  | ask query next ih =>
      intro oracle reply later chosen replied
      exact ih reply (ensures oracle reply later (fewer oracle chosen) replied)

theorem Ensures.always {program : Program face Result} {data : engine.Data}
    {shared : engine.Shared} {trace : Trace face engine.Stamp}
    (holds : ∀ result data shared trace, post result data shared trace) :
    Ensures kind post program data shared trace := by
  induction program generalizing data shared trace with
  | done value => exact holds _ _ _ _
  | fail error => exact holds _ _ _ _
  | ask query next ih =>
      intro oracle reply later _ _
      exact ih reply

/-- The trace only grows. -/
theorem Ensures.grows (program : Program face Result) (data : engine.Data)
    (shared : engine.Shared) (trace : Trace face engine.Stamp) :
    Ensures kind (fun _ _ _ later => trace <:+ later) program data shared trace := by
  induction program generalizing data shared trace with
  | done value => exact List.suffix_refl trace
  | fail error => exact List.suffix_refl trace
  | ask query next ih =>
      intro oracle reply later _ _
      refine (ih reply _ later _).weaken fun _ _ _ longer suffix => ?_
      exact (List.suffix_cons _ trace).trans suffix

theorem Ensures.both
    {one other : Except face.Error Result → engine.Data → engine.Shared →
      Trace face engine.Stamp → Prop}
    {program : Program face Result} {data : engine.Data} {shared : engine.Shared}
    {trace : Trace face engine.Stamp} (first : Ensures kind one program data shared trace)
    (second : Ensures kind other program data shared trace) :
    Ensures kind (fun result data shared trace => one result data shared trace ∧
      other result data shared trace) program data shared trace := by
  induction program generalizing data shared trace with
  | done value => exact ⟨first, second⟩
  | fail error => exact ⟨first, second⟩
  | ask query next ih =>
      intro oracle reply later chosen replied
      exact ih reply (first oracle reply later chosen replied)
        (second oracle reply later chosen replied)

/-- Where every question is answered the program ends, and so the post is met. -/
theorem Ensures.met {program : Program face Result} {data : engine.Data} {shared : engine.Shared}
    {trace : Trace face engine.Stamp} (ensures : Ensures kind post program data shared trace)
    (answers : ∀ data shared query, ∃ oracle replied, kind oracle ∧
      engine.reply oracle data shared query = some replied) :
    ∃ result data shared trace, post result data shared trace := by
  induction program generalizing data shared trace with
  | done value => exact ⟨_, _, _, _, ensures⟩
  | fail error => exact ⟨_, _, _, _, ensures⟩
  | ask query next ih =>
      obtain ⟨oracle, ⟨reply, later⟩, chosen, replied⟩ :=
        answers (engine.view data (engine.pending trace)) shared query
      exact ih reply (ensures oracle reply later chosen replied)

/-- What every question of a kind keeps, a program of that kind keeps. -/
theorem Ensures.of_uses {asked : face.Query → Prop}
    {kept : engine.Data → engine.Shared → Trace face engine.Stamp → Prop}
    (step : ∀ query oracle reply later data shared trace, asked query → kept data shared trace →
      engine.reply oracle (engine.view data (engine.pending trace)) shared query =
        some (reply, later) →
      kept (settle data trace ⟨query, reply, engine.stamp shared⟩) later
        (⟨query, reply, engine.stamp shared⟩ :: trace))
    {program : Program face Result} (uses : program.Uses asked) {data : engine.Data}
    {shared : engine.Shared} {trace : Trace face engine.Stamp} (start : kept data shared trace) :
    Ensures kind (fun _ => kept) program data shared trace := by
  induction program generalizing data shared trace with
  | done value => exact start
  | fail error => exact start
  | ask query next ih =>
      intro oracle reply later _ replied
      exact ih reply (uses.2 reply) (step query oracle reply later data shared trace uses.1 start
        replied)

theorem Ensures.forEach {Item : Type} {items : List Item} {body : Item → Program face Unit}
    {post : Except face.Error Unit → engine.Data → engine.Shared → Trace face engine.Stamp → Prop}
    (keeps : engine.Data → engine.Shared → Trace face engine.Stamp → Prop) {data : engine.Data}
    {shared : engine.Shared} {trace : Trace face engine.Stamp} (start : keeps data shared trace)
    (step : ∀ item ∈ items, ∀ data shared trace, keeps data shared trace →
      Ensures kind (fun result data shared trace => match result with
        | .ok _ => keeps data shared trace
        | .error error => post (.error error) data shared trace) (body item) data shared trace)
    (finish : ∀ data shared trace, keeps data shared trace → post (.ok ()) data shared trace) :
    Ensures kind post (Program.forEach items body) data shared trace := by
  induction items generalizing data shared trace with
  | nil => exact finish data shared trace start
  | cons item rest ih =>
      refine Ensures.bind (step item (by simp) data shared trace start) ?_ ?_
      · intro value data shared trace kept
        exact ih kept fun other member => step other (by simp [member])
      · intro error data shared trace ended
        exact ended

end Rules

/-- With some choice of oracles the program, run alone, comes to a trace with
the goal. -/
def Reaches (goal : Trace face engine.Stamp → Prop) :
    Program face Value → engine.Data → engine.Shared → Trace face engine.Stamp → Prop
  | .done _, _, _, trace => goal trace
  | .fail _, _, _, trace => goal trace
  | .ask query next, data, shared, trace => goal trace ∨ ∃ oracle reply later,
      engine.reply oracle (engine.view data (engine.pending trace)) shared query =
        some (reply, later) ∧
      Reaches goal (next reply) (settle data trace ⟨query, reply, engine.stamp shared⟩) later
        (⟨query, reply, engine.stamp shared⟩ :: trace)

section Reaching

variable {goal : Trace face engine.Stamp → Prop} {data : engine.Data} {shared : engine.Shared}
  {trace : Trace face engine.Stamp}

/-- One question at the head of a program, with an oracle that answers it. -/
theorem Reaches.perform {query : face.Query} {next : face.Answer query → Program face Result}
    (oracle : engine.Oracle) {answer : face.Answer query} {later : engine.Shared}
    (replied : engine.reply oracle (engine.view data (engine.pending trace)) shared query =
      some (.ok answer, later))
    (beyond : Reaches goal (next answer)
      (settle data trace ⟨query, .ok answer, engine.stamp shared⟩) later
      (⟨query, .ok answer, engine.stamp shared⟩ :: trace)) :
    Reaches goal ((Program.perform query).bind next) data shared trace :=
  Or.inr ⟨oracle, .ok answer, later, replied, beyond⟩

theorem Reaches.demand {condition : Bool} {error : face.Error} {next : Unit → Program face Result}
    (holds : condition = true) (beyond : Reaches goal (next ()) data shared trace) :
    Reaches goal ((Program.demand condition error).bind next) data shared trace := by
  rw [holds]
  exact beyond

theorem Reaches.assoc {Last : Type} {program : Program face Value}
    {next : Value → Program face Result} {last : Result → Program face Last}
    (beyond : Reaches goal (program.bind fun value => (next value).bind last) data shared trace) :
    Reaches goal ((program.bind next).bind last) data shared trace := by
  rw [Program.bind_assoc]
  exact beyond

/-- A first part that asks nothing. -/
theorem Reaches.skip {program : Program face Value} {value : Value}
    {next : Value → Program face Result} (silent : program = .done value)
    (beyond : Reaches goal (next value) data shared trace) :
    Reaches goal (program.bind next) data shared trace := by
  rw [silent]
  exact beyond

theorem Reaches.here {program : Program face Value} (met : goal trace) :
    Reaches goal program data shared trace := by
  cases program with
  | done value => exact met
  | fail error => exact met
  | ask query next => exact Or.inl met

/-- A goal that a program reaches is reached by whatever starts with it. -/
theorem Reaches.bind {program : Program face Value} {next : Value → Program face Result}
    (reaches : Reaches goal program data shared trace) :
    Reaches goal (program.bind next) data shared trace := by
  induction program generalizing data shared trace with
  | done value => exact Reaches.here reaches
  | fail error => exact reaches
  | ask query after ih =>
      rcases reaches with met | ⟨oracle, reply, later, replied, beyond⟩
      · exact Or.inl met
      · exact Or.inr ⟨oracle, reply, later, replied, ih reply beyond⟩

end Reaching

/-! ### Runs of one call -/

variable (body : Origin → Program face Value)

/-- No call is running. -/
def World.Idle (world : engine.World Origin Value) : Prop :=
  ∀ (index : Nat) (call : engine.Call Origin Value), world.calls[index]? = some call →
    ∀ program, call.phase ≠ .running program

def World.idleCheck (world : engine.World Origin Value) : Bool :=
  world.calls.all fun call => match call.phase with
    | .running _ => false
    | _ => true

theorem World.idle_of_check {world : engine.World Origin Value} (checked : world.idleCheck = true) :
    world.Idle := by
  intro index call located program running
  have halted := List.all_eq_true.mp checked call (List.mem_of_getElem? located)
  rw [running] at halted
  cases halted

/-- Only the last call may be running, and it is this one. -/
structure World.Serving (world : engine.World Origin Value)
    (before : List (engine.Call Origin Value)) (call : engine.Call Origin Value) : Prop where
  calls : world.calls = before ++ [call]
  others : ∀ (index : Nat) (other : engine.Call Origin Value), before[index]? = some other →
    ∀ program, other.phase ≠ .running program

variable {body}

theorem World.Serving.located {world : engine.World Origin Value}
    {before : List (engine.Call Origin Value)} {call : engine.Call Origin Value}
    (serving : world.Serving before call) : world.calls[before.length]? = some call := by
  rw [serving.calls, List.getElem?_append_right (Nat.le_refl _), Nat.sub_self]
  rfl

theorem World.Serving.unblocked {world : engine.World Origin Value}
    {before : List (engine.Call Origin Value)} {call : engine.Call Origin Value}
    (serving : world.Serving before call) (writes : List engine.Write) :
    world.blocked before.length writes = false := by
  rw [← Bool.not_eq_true]
  intro blocked
  simp only [World.blocked, List.any_eq_true, Bool.and_eq_true, bne_iff_ne, ne_eq] at blocked
  obtain ⟨⟨other, index⟩, listed, distinct, held, standing, _⟩ := blocked
  have located := List.mk_mem_zipIdx_iff_getElem?.mp listed
  rw [serving.calls] at located
  have inside : index < before.length := by
    have bound := (List.getElem?_eq_some_iff.mp located).1
    rw [List.length_append, List.length_singleton] at bound
    simp only at distinct
    omega
  rw [List.getElem?_append_left inside] at located
  cases phase : other.phase with
  | running program => exact serving.others index other located program phase
  | ended result =>
      simp only [Call.held, phase] at standing
      cases standing
  | abandoned =>
      simp only [Call.held, phase] at standing
      cases standing

/-- One question of the only running call. -/
theorem World.Serving.ask {world : engine.World Origin Value}
    {before : List (engine.Call Origin Value)} {origin : Origin}
    {trace : Trace face engine.Stamp} {query : face.Query}
    {next : face.Reply query → Program face Value}
    (serving : world.Serving before ⟨origin, trace, .running (.ask query next)⟩)
    (oracle : engine.Oracle) :
    step body world (.ask before.length oracle) =
      (engine.reply oracle (engine.view world.data (engine.pending trace)) world.shared query).map
        fun replied => world.ask before.length ⟨origin, trace, .running (.ask query next)⟩ query
          next replied.1 replied.2 := by
  simp only [step, serving.located]
  cases engine.reply oracle (engine.view world.data (engine.pending trace)) world.shared query with
  | none => rfl
  | some replied =>
      simp only [serving.unblocked, Bool.false_eq_true, if_false, Option.map_some]

theorem World.Serving.asked {world : engine.World Origin Value}
    {before : List (engine.Call Origin Value)} {origin : Origin}
    {trace : Trace face engine.Stamp} {query : face.Query}
    {next : face.Reply query → Program face Value}
    (serving : world.Serving before ⟨origin, trace, .running (.ask query next)⟩)
    (reply : face.Reply query) (shared : engine.Shared) :
    (world.ask before.length ⟨origin, trace, .running (.ask query next)⟩ query next reply
      shared).Serving before
      ⟨origin, ⟨query, reply, engine.stamp world.shared⟩ :: trace, .running (next reply)⟩ := by
  refine ⟨?_, serving.others⟩
  simp only [World.ask, serving.calls]
  rw [List.set_append_right _ _ (Nat.le_refl _), Nat.sub_self]
  rfl

/-- One call from its start to its end, with no other step in between. -/
def serveAlone (body : Origin → Program face Value) (world : engine.World Origin Value)
    (origin : Origin) (oracles : List engine.Oracle) : Option (engine.World Origin Value) :=
  run body world (.start origin :: (oracles.map (.ask world.calls.length) ++
    [.finish world.calls.length]))

/-- The data that the end of a call leaves behind. -/
def leaves (result : Except face.Error Value) (data : engine.Data)
    (trace : Trace face engine.Stamp) : engine.Data :=
  match result with
  | .ok _ => engine.view data (engine.pending trace)
  | .error _ => data

theorem World.Serving.finish {world : engine.World Origin Value}
    {before : List (engine.Call Origin Value)} {call : engine.Call Origin Value}
    (serving : world.Serving before call) (result : Except face.Error Value) :
    (world.finish before.length call result).Serving before
      { call with phase := .ended result } := by
  refine ⟨?_, serving.others⟩
  cases result with
  | ok value =>
      simp only [World.finish, serving.calls]
      rw [List.set_append_right _ _ (Nat.le_refl _), Nat.sub_self]
      rfl
  | error error =>
      simp only [World.finish, serving.calls]
      rw [List.set_append_right _ _ (Nat.le_refl _), Nat.sub_self]
      rfl

theorem World.Serving.idle {world : engine.World Origin Value}
    {before : List (engine.Call Origin Value)} {call : engine.Call Origin Value}
    (serving : world.Serving before call) (halted : ∀ program, call.phase ≠ .running program) :
    world.Idle := by
  intro index other located program
  rw [serving.calls] at located
  rcases Nat.lt_or_ge index before.length with inside | beyond
  · rw [List.getElem?_append_left inside] at located
    exact serving.others index other located program
  · rw [List.getElem?_append_right beyond] at located
    obtain ⟨position, rfl⟩ := List.getElem?_eq_some_iff.mp located
    rw [List.getElem_singleton]
    exact halted program

/-- A call that asks nothing more is finished at once. -/
theorem finish_halted {world last finished : engine.World Origin Value} {index : Nat}
    {oracles : List engine.Oracle}
    (finishes : step body world (.finish index) = some finished)
    (halted : ∀ oracle, step body world (.ask index oracle) = none)
    (ran : run body world (oracles.map (.ask index) ++ [.finish index]) = some last) :
    last = finished := by
  cases oracles with
  | nil =>
      simp only [List.map_nil, List.nil_append, run, finishes, Option.bind_some,
        Option.some.injEq] at ran
      exact ran.symm
  | cons oracle rest =>
      simp only [List.map_cons, List.cons_append, run, halted, Option.bind_none] at ran
      cases ran

theorem serving_ends {kind : engine.Oracle → Prop}
    {post : Except face.Error Value → engine.Data → engine.Shared → Trace face engine.Stamp → Prop}
    {program : Program face Value} {world last : engine.World Origin Value}
    {before : List (engine.Call Origin Value)} {origin : Origin}
    {trace : Trace face engine.Stamp} {oracles : List engine.Oracle}
    (serving : world.Serving before ⟨origin, trace, .running program⟩)
    (ensures : Ensures kind post program world.data world.shared trace)
    (kinds : ∀ oracle ∈ oracles, kind oracle)
    (ran : run body world (oracles.map (.ask before.length) ++ [.finish before.length]) =
      some last) :
    last.Idle ∧ ∃ result data trace, post result data last.shared trace ∧
      last.data = leaves result data trace := by
  induction program generalizing world trace oracles with
  | done value =>
      have finishes : step body world (.finish before.length) =
          some (world.finish before.length ⟨origin, trace, .running (.done value)⟩ (.ok value)) := by
        simp only [step, serving.located]
      obtain rfl := finish_halted finishes (fun oracle => by simp only [step, serving.located]) ran
      exact ⟨(serving.finish _).idle (fun _ running => by cases running), _, _, _, ensures, rfl⟩
  | fail error =>
      have finishes : step body world (.finish before.length) =
          some (world.finish before.length ⟨origin, trace, .running (.fail error)⟩ (.error error)) := by
        simp only [step, serving.located]
      obtain rfl := finish_halted finishes (fun oracle => by simp only [step, serving.located]) ran
      exact ⟨(serving.finish _).idle (fun _ running => by cases running), _, _, _, ensures, rfl⟩
  | ask query next ih =>
      cases oracles with
      | nil =>
          simp only [List.map_nil, List.nil_append, run, step, serving.located,
            Option.bind_none] at ran
          cases ran
      | cons oracle rest =>
          simp only [List.map_cons, List.cons_append, run, serving.ask, Option.bind_eq_some_iff,
            Option.map_eq_some_iff] at ran
          obtain ⟨_, ⟨⟨reply, shared⟩, replied, rfl⟩, ran⟩ := ran
          exact ih reply (serving.asked reply shared)
            (ensures oracle reply shared (kinds oracle (by simp)) replied)
            (fun other member => kinds other (by simp [member])) ran

/-- What a program ensures holds of every call that is served alone. -/
theorem serveAlone_ensures {kind : engine.Oracle → Prop}
    {post : Except face.Error Value → engine.Data → engine.Shared → Trace face engine.Stamp → Prop}
    {world last : engine.World Origin Value} {origin : Origin} {oracles : List engine.Oracle}
    (idle : world.Idle) (ensures : Ensures kind post (body origin) world.data world.shared [])
    (kinds : ∀ oracle ∈ oracles, kind oracle)
    (served : serveAlone body world origin oracles = some last) :
    last.Idle ∧ ∃ result data trace, post result data last.shared trace ∧
      last.data = leaves result data trace := by
  simp only [serveAlone, run, step, Option.bind_some] at served
  have serving : World.Serving
      { world with calls := world.calls ++ [⟨origin, [], .running (body origin)⟩] } world.calls
      ⟨origin, [], .running (body origin)⟩ := ⟨rfl, idle⟩
  exact serving_ends serving ensures kinds served

/-- Surroundings of a kind that can answer every question serve a call to its end. -/
theorem serving_completes {kind : engine.Oracle → Prop} {program : Program face Value}
    {world : engine.World Origin Value} {before : List (engine.Call Origin Value)}
    {origin : Origin} {trace : Trace face engine.Stamp}
    (serving : world.Serving before ⟨origin, trace, .running program⟩)
    (answers : ∀ data shared query, ∃ oracle replied, kind oracle ∧
      engine.reply oracle data shared query = some replied) :
    ∃ (oracles : List engine.Oracle) (last : engine.World Origin Value),
      (∀ oracle ∈ oracles, kind oracle) ∧
      run body world (oracles.map (.ask before.length) ++ [.finish before.length]) =
        some last := by
  induction program generalizing world trace with
  | done value =>
      refine ⟨[], world.finish before.length ⟨origin, trace, .running (.done value)⟩ (.ok value),
        by simp, ?_⟩
      simp only [List.map_nil, List.nil_append, run, step, serving.located, Option.bind_some]
  | fail error =>
      refine ⟨[], world.finish before.length ⟨origin, trace, .running (.fail error)⟩ (.error error),
        by simp, ?_⟩
      simp only [List.map_nil, List.nil_append, run, step, serving.located, Option.bind_some]
  | ask query next ih =>
      obtain ⟨oracle, ⟨reply, shared⟩, chosen, replied⟩ :=
        answers (engine.view world.data (engine.pending trace)) world.shared query
      obtain ⟨oracles, last, kinds, ran⟩ := ih reply (serving.asked reply shared)
      refine ⟨oracle :: oracles, last, ?_, ?_⟩
      · rintro other (_ | ⟨_, member⟩)
        · exact chosen
        · exact kinds other member
      · simp only [List.map_cons, List.cons_append, run, serving.ask, replied, Option.map_some,
          Option.bind_some]
        exact ran

theorem serveAlone_completes {kind : engine.Oracle → Prop} {world : engine.World Origin Value}
    {origin : Origin} (idle : world.Idle)
    (answers : ∀ data shared query, ∃ oracle replied, kind oracle ∧
      engine.reply oracle data shared query = some replied) :
    ∃ (oracles : List engine.Oracle) (last : engine.World Origin Value),
      (∀ oracle ∈ oracles, kind oracle) ∧ serveAlone body world origin oracles = some last := by
  have serving : World.Serving
      { world with calls := world.calls ++ [⟨origin, [], .running (body origin)⟩] } world.calls
      ⟨origin, [], .running (body origin)⟩ := ⟨rfl, idle⟩
  obtain ⟨oracles, last, kinds, ran⟩ := serving_completes serving answers
  refine ⟨oracles, last, kinds, ?_⟩
  simp only [serveAlone, run, step, Option.bind_some]
  exact ran

/-- A goal that a program can reach alone is reached by a run. -/
theorem serving_reaches {goal : Trace face engine.Stamp → Prop} {program : Program face Value}
    {world : engine.World Origin Value} {before : List (engine.Call Origin Value)}
    {origin : Origin} {trace : Trace face engine.Stamp}
    (serving : world.Serving before ⟨origin, trace, .running program⟩)
    (reaches : Reaches goal program world.data world.shared trace) :
    ∃ (oracles : List engine.Oracle) (last : engine.World Origin Value)
      (later : engine.Call Origin Value),
      run body world (oracles.map (.ask before.length)) = some last ∧
      last.calls[before.length]? = some later ∧ later.origin = origin ∧ goal later.trace := by
  induction program generalizing world trace with
  | done value => exact ⟨[], world, _, rfl, serving.located, rfl, reaches⟩
  | fail error => exact ⟨[], world, _, rfl, serving.located, rfl, reaches⟩
  | ask query next ih =>
      rcases reaches with here | ⟨oracle, reply, shared, replied, beyond⟩
      · exact ⟨[], world, _, rfl, serving.located, rfl, here⟩
      · obtain ⟨oracles, last, later, ran, located, same, met⟩ :=
          ih reply (serving.asked reply shared) beyond
        refine ⟨oracle :: oracles, last, later, ?_, located, same, met⟩
        simp only [List.map_cons, run, serving.ask, replied, Option.map_some, Option.bind_some]
        exact ran

theorem start_reaches {goal : Trace face engine.Stamp → Prop} {world : engine.World Origin Value}
    {origin : Origin} (idle : world.Idle)
    (reaches : Reaches goal (body origin) world.data world.shared []) :
    ∃ (oracles : List engine.Oracle) (last : engine.World Origin Value)
      (later : engine.Call Origin Value),
      run body world (.start origin :: oracles.map (.ask world.calls.length)) = some last ∧
      last.calls[world.calls.length]? = some later ∧ later.origin = origin ∧ goal later.trace := by
  have serving : World.Serving
      { world with calls := world.calls ++ [⟨origin, [], .running (body origin)⟩] } world.calls
      ⟨origin, [], .running (body origin)⟩ := ⟨rfl, idle⟩
  obtain ⟨oracles, last, later, ran, found⟩ := serving_reaches serving reaches
  refine ⟨oracles, last, later, ?_, found⟩
  simp only [run, step, Option.bind_some]
  exact ran

/-! ### Giving up all calls -/

/-- The calls that run are given up, and nothing else changes. -/
structure Halted (body : Origin → Program face Value) (world last : engine.World Origin Value)
    (labels : List (engine.Label Origin)) : Prop where
  abandons : ∀ label ∈ labels, ∃ index, label = .abandon index
  ran : run body world labels = some last
  data : last.data = world.data
  shared : last.shared = world.shared
  length : last.calls.length = world.calls.length

theorem Halted.trans {world between last : engine.World Origin Value}
    {labels more : List (engine.Label Origin)} (first : Halted body world between labels)
    (second : Halted body between last more) : Halted body world last (labels ++ more) := by
  constructor
  · intro label member
    exact (List.mem_append.mp member).elim (first.abandons label) (second.abandons label)
  · rw [run_append, first.ran]
    exact second.ran
  · exact second.data.trans first.data
  · exact second.shared.trans first.shared
  · exact second.length.trans first.length

/-- One call. -/
theorem halt_one (world : engine.World Origin Value) (index : Nat) :
    ∃ labels last, Halted body world last labels ∧
      (∀ other, other ≠ index → last.calls[other]? = world.calls[other]?) ∧
      ∀ call, last.calls[index]? = some call → ∀ program, call.phase ≠ .running program := by
  have still (quiet : ∀ call, world.calls[index]? = some call →
      ∀ program, call.phase ≠ .running program) :
      ∃ labels last, Halted body world last labels ∧
        (∀ other, other ≠ index → last.calls[other]? = world.calls[other]?) ∧
        ∀ call, last.calls[index]? = some call → ∀ program, call.phase ≠ .running program :=
    ⟨[], world, ⟨by simp, rfl, rfl, rfl, rfl⟩, fun _ _ => rfl, quiet⟩
  cases located : world.calls[index]? with
  | none =>
      apply still
      intro call there
      rw [located] at there
      cases there
  | some call =>
      obtain ⟨origin, trace, phase⟩ := call
      cases phase with
      | running program =>
          have stepped : step body world (.abandon index) = some
              { world with calls := world.calls.set index ⟨origin, trace, .abandoned⟩ } := by
            simp only [step, located]
          refine ⟨[.abandon index],
            { world with calls := world.calls.set index ⟨origin, trace, .abandoned⟩ },
            ⟨?_, ?_, rfl, rfl, List.length_set⟩, ?_, ?_⟩
          · intro label member
            exact ⟨index, List.mem_singleton.mp member⟩
          · rw [run, stepped, Option.bind_some]
            rfl
          · intro other distinct
            exact List.getElem?_set_ne (Ne.symm distinct)
          · intro call there
            rw [List.getElem?_set_self (List.getElem?_eq_some_iff.mp located).1] at there
            cases there
            intro _ running
            cases running
      | _ =>
          apply still
          intro call there
          rw [located] at there
          cases there
          intro _ running
          cases running

/-- The calls before a number. -/
theorem halt_first (world : engine.World Origin Value) (count : Nat) :
    ∃ labels last, Halted body world last labels ∧
      ∀ index call, index < count → last.calls[index]? = some call →
        ∀ program, call.phase ≠ .running program := by
  induction count with
  | zero => exact ⟨[], world, ⟨by simp, rfl, rfl, rfl, rfl⟩, by simp⟩
  | succ count ih =>
      obtain ⟨labels, between, halted, quiet⟩ := ih
      obtain ⟨more, last, again, others, ended⟩ := @halt_one _ _ _ _ body between count
      refine ⟨labels ++ more, last, halted.trans again, fun index call below located => ?_⟩
      rcases Nat.lt_succ_iff_lt_or_eq.mp below with under | rfl
      · rw [others index (by omega)] at located
        exact quiet index call under located
      · exact ended call located

/-- All calls can be given up. -/
theorem halt (world : engine.World Origin Value) :
    ∃ labels last, Halted body world last labels ∧ last.Idle := by
  obtain ⟨labels, last, halted, quiet⟩ := @halt_first _ _ _ _ body world world.calls.length
  refine ⟨labels, last, halted, fun index call located => ?_⟩
  have below := (List.getElem?_eq_some_iff.mp located).1
  rw [halted.length] at below
  exact quiet index call below located

end Engine

end Interaction
