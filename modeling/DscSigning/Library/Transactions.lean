/-
Many programs at once over one transactional store.

Each call runs one program.  Its writes stay in its own trace until it commits;
it reads the committed data with its own writes applied, and a write waits
while another running call has an uncommitted write on the same row.  What is
not part of the store (a cache, the clock) changes at once.  A call commits by
asking a committing question or by ending well; it drops its uncommitted writes
when it raises or is abandoned.
-/

import DscSigning.Library.Program

namespace Interaction

structure Engine (face : Interface) where
  Stamp : Type
  Data : Type
  Shared : Type
  Write : Type
  Row : Type
  [rowEq : DecidableEq Row]
  Oracle : Type
  Move : Type
  /-- One write applied to the data. -/
  perform : Data → Write → Data
  /-- The row a write locks, if it changes one that others can reach. -/
  row : Write → Option Row
  stamp : Shared → Stamp
  /-- The reply to a question, seen from a view of the data; `none` when the
  surroundings cannot choose this oracle here. -/
  reply : Oracle → Data → Shared → (query : face.Query) →
    Option (face.Reply query × Shared)
  /-- The writes of a question that has been replied to. -/
  effects : Event face Stamp → List Write
  commits : Event face Stamp → Bool
  /-- What happens besides the calls. -/
  move : Move → Data → Shared → Option (Data × Shared)

attribute [instance] Engine.rowEq

namespace Engine

variable {face : Interface} (engine : Engine face)

/-- The writes since the last commit, oldest first. -/
def pending : Trace face engine.Stamp → List engine.Write
  | [] => []
  | event :: earlier =>
      if engine.commits event then [] else pending earlier ++ engine.effects event

/-- Two writes that cannot both be uncommitted in different calls. -/
def conflict (one other : engine.Write) : Bool :=
  match engine.row one, engine.row other with
  | some left, some right => left == right
  | _, _ => false

inductive Phase (face : Interface) (Value : Type) where
  | running (program : Program face Value)
  | ended (result : Except face.Error Value)
  | abandoned

structure Call (Origin Value : Type) where
  origin : Origin
  trace : Trace face engine.Stamp
  phase : Phase face Value

variable {engine} {Origin Value : Type}

/-- The uncommitted writes a call still stands for. -/
def Call.held (call : engine.Call Origin Value) : List engine.Write :=
  match call.phase with
  | .running _ => engine.pending call.trace
  | .ended _ => []
  | .abandoned => []

variable (engine)

structure World (Origin Value : Type) where
  data : engine.Data
  shared : engine.Shared
  calls : List (engine.Call Origin Value)
  /-- The commits so far with the call that made each, newest first. -/
  journal : List (Nat × List engine.Write)

inductive Label (Origin : Type) where
  | start (origin : Origin)
  | ask (index : Nat) (oracle : engine.Oracle)
  | finish (index : Nat)
  | abandon (index : Nat)
  | move (move : engine.Move)

/-- The data as a call sees it: its own writes applied. -/
def view (data : engine.Data) (writes : List engine.Write) : engine.Data :=
  writes.foldl engine.perform data

variable {engine}

/-- A question that commits nothing adds its writes to what its call sees. -/
theorem view_pending {event : Event face engine.Stamp} (uncommitted : engine.commits event = false)
    (data : engine.Data) (trace : Trace face engine.Stamp) :
    engine.view data (engine.pending (event :: trace)) =
      engine.view (engine.view data (engine.pending trace)) (engine.effects event) := by
  simp only [pending, uncommitted, Bool.false_eq_true, if_false, view, List.foldl_append]

/-- Some write is on a row on which another running call has an uncommitted write. -/
def World.blocked (world : engine.World Origin Value) (index : Nat)
    (writes : List engine.Write) : Bool :=
  world.calls.zipIdx.any fun other =>
    other.2 != index && other.1.held.any fun held =>
      writes.any fun write => engine.conflict write held

variable (body : Origin → Program face Value)

def World.ask (world : engine.World Origin Value) (index : Nat)
    (call : engine.Call Origin Value) (query : face.Query)
    (next : face.Reply query → Program face Value) (reply : face.Reply query)
    (shared : engine.Shared) : engine.World Origin Value :=
  let event : Event face engine.Stamp := ⟨query, reply, engine.stamp world.shared⟩
  { data := if engine.commits event then engine.view world.data (engine.pending call.trace)
      else world.data
    shared := shared
    calls := world.calls.set index
      { call with trace := event :: call.trace, phase := .running (next reply) }
    journal := if engine.commits event then (index, engine.pending call.trace) :: world.journal
      else world.journal }

def World.finish (world : engine.World Origin Value) (index : Nat)
    (call : engine.Call Origin Value) (result : Except face.Error Value) :
    engine.World Origin Value :=
  match result with
  | .ok value =>
      { world with
        data := engine.view world.data (engine.pending call.trace)
        calls := world.calls.set index { call with phase := .ended (.ok value) }
        journal := (index, engine.pending call.trace) :: world.journal }
  | .error error =>
      { world with calls := world.calls.set index { call with phase := .ended (.error error) } }

def step (world : engine.World Origin Value) :
    engine.Label Origin → Option (engine.World Origin Value)
  | .start origin =>
      some { world with calls := world.calls ++ [⟨origin, [], .running (body origin)⟩] }
  | .ask index oracle =>
      match world.calls[index]? with
      | some ⟨origin, trace, .running (.ask query next)⟩ =>
          match engine.reply oracle (engine.view world.data (engine.pending trace)) world.shared query with
          | some (reply, shared) =>
              if world.blocked index (engine.effects ⟨query, reply, engine.stamp world.shared⟩) then
                none
              else
                some (world.ask index ⟨origin, trace, .running (.ask query next)⟩
                  query next reply shared)
          | none => none
      | _ => none
  | .finish index =>
      match world.calls[index]? with
      | some ⟨origin, trace, .running (.done value)⟩ =>
          some (world.finish index ⟨origin, trace, .running (.done value)⟩ (.ok value))
      | some ⟨origin, trace, .running (.fail error)⟩ =>
          some (world.finish index ⟨origin, trace, .running (.fail error)⟩ (.error error))
      | _ => none
  | .abandon index =>
      match world.calls[index]? with
      | some ⟨origin, trace, .running _⟩ =>
          some { world with calls := world.calls.set index ⟨origin, trace, .abandoned⟩ }
      | _ => none
  | .move move =>
      (engine.move move world.data world.shared).map fun moved =>
        { world with data := moved.1, shared := moved.2 }

/-- Everything a step can be, with what it needs. -/
inductive Stepped (world : engine.World Origin Value) :
    engine.Label Origin → engine.World Origin Value → Prop
  | start (origin : Origin) :
      Stepped world (.start origin)
        { world with calls := world.calls ++ [⟨origin, [], .running (body origin)⟩] }
  | ask (index : Nat) (oracle : engine.Oracle) (call : engine.Call Origin Value)
      (query : face.Query) (next : face.Reply query → Program face Value)
      (reply : face.Reply query) (shared : engine.Shared)
      (located : world.calls[index]? = some call) (asking : call.phase = .running (.ask query next))
      (replied : engine.reply oracle (engine.view world.data (engine.pending call.trace)) world.shared
        query = some (reply, shared))
      (free : world.blocked index
        (engine.effects ⟨query, reply, engine.stamp world.shared⟩) = false) :
      Stepped world (.ask index oracle) (world.ask index call query next reply shared)
  | done (index : Nat) (call : engine.Call Origin Value) (value : Value)
      (located : world.calls[index]? = some call) (finished : call.phase = .running (.done value)) :
      Stepped world (.finish index) (world.finish index call (.ok value))
  | fail (index : Nat) (call : engine.Call Origin Value) (error : face.Error)
      (located : world.calls[index]? = some call) (failed : call.phase = .running (.fail error)) :
      Stepped world (.finish index) (world.finish index call (.error error))
  | abandon (index : Nat) (call : engine.Call Origin Value) (program : Program face Value)
      (located : world.calls[index]? = some call) (running : call.phase = .running program) :
      Stepped world (.abandon index)
        { world with calls := world.calls.set index { call with phase := .abandoned } }
  | move (move : engine.Move) (data : engine.Data) (shared : engine.Shared)
      (moved : engine.move move world.data world.shared = some (data, shared)) :
      Stepped world (.move move) { world with data := data, shared := shared }

theorem step_cases {world next : engine.World Origin Value} {label : engine.Label Origin}
    (stepped : step body world label = some next) : Stepped body world label next := by
  cases label with
  | start origin =>
      rw [← Option.some.inj stepped]
      exact .start origin
  | ask index oracle =>
      simp only [step] at stepped
      split at stepped
      · rename_i origin trace query next located
        split at stepped
        · rename_i reply shared replied
          split at stepped
          · cases stepped
          · rename_i free
            rw [← Option.some.inj stepped]
            exact .ask index oracle _ query next reply shared located rfl replied
              (by simpa using free)
        · cases stepped
      · cases stepped
  | finish index =>
      simp only [step] at stepped
      split at stepped
      · rename_i located
        rw [← Option.some.inj stepped]
        exact .done index _ _ located rfl
      · rename_i located
        rw [← Option.some.inj stepped]
        exact .fail index _ _ located rfl
      · cases stepped
  | abandon index =>
      simp only [step] at stepped
      split at stepped
      · rename_i located
        rw [← Option.some.inj stepped]
        exact .abandon index _ _ located rfl
      · cases stepped
  | move move =>
      simp only [step, Option.map_eq_some_iff] at stepped
      obtain ⟨⟨data, shared⟩, moved, same⟩ := stepped
      rw [← same]
      exact .move move data shared moved

/-- The call whose uncommitted writes the step makes permanent, if any. -/
def committing (world : engine.World Origin Value) :
    engine.Label Origin → Option (Nat × engine.Call Origin Value)
  | .ask index oracle =>
      match world.calls[index]? with
      | some ⟨origin, trace, .running (.ask query next)⟩ =>
          match engine.reply oracle (engine.view world.data (engine.pending trace)) world.shared query with
          | some (reply, _) =>
              if engine.commits ⟨query, reply, engine.stamp world.shared⟩ then
                some (index, ⟨origin, trace, .running (.ask query next)⟩)
              else none
          | none => none
      | _ => none
  | .finish index =>
      match world.calls[index]? with
      | some ⟨origin, trace, .running (.done value)⟩ =>
          some (index, ⟨origin, trace, .running (.done value)⟩)
      | _ => none
  | _ => none

theorem committing_ask {world : engine.World Origin Value} {index : Nat} {oracle : engine.Oracle}
    {call : engine.Call Origin Value} {query : face.Query}
    {next : face.Reply query → Program face Value} {reply : face.Reply query}
    {shared : engine.Shared} (located : world.calls[index]? = some call)
    (asking : call.phase = .running (.ask query next))
    (replied : engine.reply oracle (engine.view world.data (engine.pending call.trace)) world.shared
      query = some (reply, shared)) :
    committing world (.ask index oracle) =
      if engine.commits ⟨query, reply, engine.stamp world.shared⟩ then some (index, call)
      else none := by
  obtain ⟨origin, trace, phase⟩ := call
  simp only at asking
  subst asking
  simp only at replied
  simp only [committing, located, replied]

theorem committing_done {world : engine.World Origin Value} {index : Nat}
    {call : engine.Call Origin Value} {value : Value}
    (located : world.calls[index]? = some call) (finished : call.phase = .running (.done value)) :
    committing world (.finish index) = some (index, call) := by
  obtain ⟨origin, trace, phase⟩ := call
  simp only at finished
  subst finished
  simp only [committing, located]

/-- A call commits at a committing question, or at its good end. -/
theorem committing_cases {world : engine.World Origin Value} {label : engine.Label Origin}
    {index : Nat} {call : engine.Call Origin Value}
    (found : committing world label = some (index, call)) :
    world.calls[index]? = some call ∧
      ((∃ (event : Event face engine.Stamp) (next : face.Reply event.query → Program face Value),
        call.phase = .running (.ask event.query next) ∧ engine.commits event = true) ∨
      ∃ value, call.phase = .running (.done value)) := by
  cases label with
  | start origin => cases found
  | abandon index => cases found
  | move move => cases found
  | ask index oracle =>
      simp only [committing] at found
      split at found
      · rename_i located
        split at found
        · split at found
          · rename_i commits
            cases found
            exact ⟨located, Or.inl ⟨_, _, rfl, commits⟩⟩
          · cases found
        · cases found
      · cases found
  | finish index =>
      simp only [committing] at found
      split at found
      · rename_i located
        cases found
        exact ⟨located, Or.inr ⟨_, rfl⟩⟩
      · cases found

/-- A committing call is still running in the world it commits in. -/
theorem committing_located {world : engine.World Origin Value} {label : engine.Label Origin}
    {index : Nat} {call : engine.Call Origin Value}
    (found : committing world label = some (index, call)) :
    world.calls[index]? = some call ∧ ∃ program, call.phase = .running program := by
  obtain ⟨located, ⟨_, _, running, _⟩ | ⟨_, finished⟩⟩ := committing_cases found
  · exact ⟨located, _, running⟩
  · exact ⟨located, _, finished⟩

/-- The call that a step lets ask, and the event it adds to the call's trace. -/
def asking (world : engine.World Origin Value) :
    engine.Label Origin → Option (Nat × engine.Call Origin Value × Event face engine.Stamp)
  | .ask index oracle =>
      match world.calls[index]? with
      | some ⟨origin, trace, .running (.ask query next)⟩ =>
          match engine.reply oracle (engine.view world.data (engine.pending trace)) world.shared query with
          | some (reply, _) => some (index, ⟨origin, trace, .running (.ask query next)⟩,
              ⟨query, reply, engine.stamp world.shared⟩)
          | none => none
      | _ => none
  | _ => none

theorem asking_ask {world : engine.World Origin Value} {index : Nat} {oracle : engine.Oracle}
    {call : engine.Call Origin Value} {query : face.Query}
    {next : face.Reply query → Program face Value} {reply : face.Reply query}
    {shared : engine.Shared} (located : world.calls[index]? = some call)
    (asked : call.phase = .running (.ask query next))
    (replied : engine.reply oracle (engine.view world.data (engine.pending call.trace)) world.shared
      query = some (reply, shared)) :
    asking world (.ask index oracle) =
      some (index, call, ⟨query, reply, engine.stamp world.shared⟩) := by
  obtain ⟨origin, trace, phase⟩ := call
  simp only at asked
  subst asked
  simp only at replied
  simp only [asking, located, replied]

/-- An asking call runs a question, and the engine gave the reply of the event. -/
theorem asking_located {world : engine.World Origin Value} {label : engine.Label Origin}
    {index : Nat} {call : engine.Call Origin Value} {event : Event face engine.Stamp}
    (found : asking world label = some (index, call, event)) :
    world.calls[index]? = some call ∧ event.stamp = engine.stamp world.shared ∧
      (∃ next, call.phase = .running (.ask event.query next)) ∧
      ∃ oracle shared, label = .ask index oracle ∧
        engine.reply oracle (engine.view world.data (engine.pending call.trace)) world.shared
          event.query = some (event.reply, shared) := by
  cases label with
  | start origin => cases found
  | finish index => cases found
  | abandon index => cases found
  | move move => cases found
  | ask index oracle =>
      simp only [asking] at found
      split at found
      · rename_i origin trace query next located
        split at found
        · rename_i reply shared replied
          cases found
          exact ⟨located, rfl, ⟨next, rfl⟩, oracle, shared, rfl, replied⟩
        · cases found
      · cases found

/-- Committed data changes only by a commit or by a move of the surroundings. -/
theorem step_data {world next : engine.World Origin Value} {label : engine.Label Origin}
    (stepped : step body world label = some next) :
    (∃ index call, committing world label = some (index, call) ∧
      next.data = engine.view world.data (engine.pending call.trace) ∧
      next.journal = (index, engine.pending call.trace) :: world.journal) ∨
    (committing world label = none ∧ next.journal = world.journal ∧
      (next.data = world.data ∨ ∃ move shared, label = .move move ∧
        engine.move move world.data world.shared = some (next.data, shared))) := by
  cases step_cases body stepped with
  | start origin => exact Or.inr ⟨rfl, rfl, Or.inl rfl⟩
  | ask index oracle call query after reply shared located asking replied free =>
      have committed := committing_ask located asking replied
      by_cases commits : engine.commits ⟨query, reply, engine.stamp world.shared⟩ = true
      · rw [if_pos commits] at committed
        refine Or.inl ⟨index, call, committed, ?_, ?_⟩
        · simp only [World.ask, if_pos commits]
        · simp only [World.ask, if_pos commits]
      · rw [if_neg commits] at committed
        refine Or.inr ⟨committed, ?_, Or.inl ?_⟩
        · simp only [World.ask, if_neg commits]
        · simp only [World.ask, if_neg commits]
  | done index call value located finished =>
      exact Or.inl ⟨index, call, committing_done located finished, rfl, rfl⟩
  | fail index call error located failed =>
      refine Or.inr ⟨?_, rfl, Or.inl rfl⟩
      obtain ⟨origin, trace, phase⟩ := call
      simp only at failed
      subst failed
      simp only [committing, located]
  | abandon index call program located running => exact Or.inr ⟨rfl, rfl, Or.inl rfl⟩
  | move move data shared moved => exact Or.inr ⟨rfl, rfl, Or.inr ⟨move, shared, rfl, moved⟩⟩

/-- A commit is a committing question, or the good end of the call. -/
theorem committing_after {world next : engine.World Origin Value} {label : engine.Label Origin}
    (stepped : step body world label = some next) {index : Nat}
    {call : engine.Call Origin Value} (committed : committing world label = some (index, call)) :
    (∃ event later, asking world label = some (index, call, event) ∧
      engine.commits event = true ∧ next.calls[index]? = some later ∧
      later.trace = event :: call.trace) ∨
    ∃ value later, next.calls[index]? = some later ∧ later.trace = call.trace ∧
      later.phase = .ended (.ok value) := by
  cases step_cases body stepped with
  | start origin => cases committed
  | ask target oracle old query after reply shared there running replied free =>
      rw [committing_ask there running replied] at committed
      split at committed
      · rename_i commits
        cases committed
        exact Or.inl ⟨_, _, asking_ask there running replied, commits,
          List.getElem?_set_self (List.getElem?_eq_some_iff.mp there).1, rfl⟩
      · cases committed
  | done target old value there finished =>
      rw [committing_done there finished] at committed
      cases committed
      exact Or.inr ⟨value, _, List.getElem?_set_self (List.getElem?_eq_some_iff.mp there).1, rfl, rfl⟩
  | fail target old error there failed =>
      obtain ⟨origin, trace, phase⟩ := old
      simp only at failed
      subst failed
      simp only [committing, there] at committed
      cases committed
  | abandon target old program there running => cases committed
  | move move data shared moved => cases committed

theorem committed_data {world next : engine.World Origin Value} {label : engine.Label Origin}
    (stepped : step body world label = some next) {index : Nat}
    {call : engine.Call Origin Value} (committed : committing world label = some (index, call)) :
    next.data = engine.view world.data (engine.pending call.trace) := by
  rcases step_data body stepped with ⟨other, writer, found, after, _⟩ | ⟨nobody, _⟩
  · rw [committed] at found
    cases found
    exact after
  · rw [committed] at nobody
    cases nobody

/-! ### Runs -/

def run (world : engine.World Origin Value) :
    List (engine.Label Origin) → Option (engine.World Origin Value)
  | [] => some world
  | label :: rest => (step body world label).bind fun next => run next rest

/-- The condition holds at every step of the run, of the world before it. -/
def Along (condition : engine.World Origin Value → engine.Label Origin → Prop)
    (world : engine.World Origin Value) : List (engine.Label Origin) → Prop
  | [] => True
  | label :: rest => condition world label ∧
      match step body world label with
      | some next => Along condition next rest
      | none => True

theorem run_invariant {condition : engine.World Origin Value → engine.Label Origin → Prop}
    {invariant : engine.World Origin Value → Prop}
    (preserved : ∀ world label next, invariant world → condition world label →
      step body world label = some next → invariant next)
    {world last : engine.World Origin Value} {labels : List (engine.Label Origin)}
    (start : invariant world) (along : Along body condition world labels)
    (ran : run body world labels = some last) : invariant last := by
  induction labels generalizing world with
  | nil =>
      rw [← Option.some.inj ran]
      exact start
  | cons label rest ih =>
      simp only [run, Option.bind_eq_some_iff] at ran
      obtain ⟨next, stepped, ran⟩ := ran
      simp only [Along, stepped] at along
      exact ih (preserved world label next start along.1 stepped) along.2 ran

/-- A condition on the labels alone. -/
theorem along_labels {allowed : engine.Label Origin → Prop} {world : engine.World Origin Value}
    {labels : List (engine.Label Origin)} (each : ∀ label ∈ labels, allowed label) :
    Along body (fun _ label => allowed label) world labels := by
  induction labels generalizing world with
  | nil => trivial
  | cons label rest ih =>
      refine ⟨each label List.mem_cons_self, ?_⟩
      split
      · exact ih fun other member => each other (List.mem_cons_of_mem _ member)
      · trivial

theorem along_always {world : engine.World Origin Value} {labels : List (engine.Label Origin)} :
    Along body (fun _ _ => True) world labels := by
  induction labels generalizing world with
  | nil => trivial
  | cons label rest ih =>
      refine ⟨trivial, ?_⟩
      cases step body world label with
      | none => trivial
      | some next => exact ih

/-- A relation that every step respects holds from the start of a run to its end. -/
theorem run_related (related : engine.World Origin Value → engine.World Origin Value → Prop)
    {condition : engine.World Origin Value → engine.Label Origin → Prop}
    {invariant : engine.World Origin Value → Prop}
    (same : ∀ world, related world world)
    (compose : ∀ {first second third}, related first second → related second third →
      related first third)
    (preserved : ∀ world label next, invariant world → condition world label →
      step body world label = some next → invariant next ∧ related world next)
    {world last : engine.World Origin Value} {labels : List (engine.Label Origin)}
    (start : invariant world) (along : Along body condition world labels)
    (ran : run body world labels = some last) : related world last := by
  induction labels generalizing world with
  | nil =>
      rw [← Option.some.inj ran]
      exact same world
  | cons label rest ih =>
      simp only [run, Option.bind_eq_some_iff] at ran
      obtain ⟨next, stepped, ran⟩ := ran
      simp only [Along, stepped] at along
      obtain ⟨kept, related⟩ := preserved world label next start along.1 stepped
      exact compose related (ih kept along.2 ran)

theorem along_append {condition : engine.World Origin Value → engine.Label Origin → Prop}
    {world : engine.World Origin Value} {first second : List (engine.Label Origin)}
    (along : Along body condition world (first ++ second)) :
    Along body condition world first ∧
      ∀ middle, run body world first = some middle → Along body condition middle second := by
  induction first generalizing world with
  | nil =>
      refine ⟨trivial, fun middle ran => ?_⟩
      rw [← Option.some.inj ran]
      exact along
  | cons label rest ih =>
      simp only [List.cons_append, Along] at along
      cases stepped : step body world label with
      | none =>
          refine ⟨⟨along.1, by simp only [stepped]⟩, fun middle ran => ?_⟩
          simp only [run, stepped, Option.bind_none] at ran
          cases ran
      | some next =>
          simp only [stepped] at along
          obtain ⟨before, after⟩ := ih along.2
          refine ⟨⟨along.1, by simpa only [stepped] using before⟩, fun middle ran => ?_⟩
          simp only [run, stepped, Option.bind_some] at ran
          exact after middle ran

/-- A check that can be evaluated stands for a condition it implies. -/
theorem along_of_check {condition : engine.World Origin Value → engine.Label Origin → Prop}
    {check : engine.World Origin Value → engine.Label Origin → Bool}
    (implied : ∀ world label, check world label = true → condition world label)
    {world : engine.World Origin Value} {labels : List (engine.Label Origin)}
    (along : Along body (fun world label => check world label = true) world labels) :
    Along body condition world labels := by
  induction labels generalizing world with
  | nil => trivial
  | cons label rest ih =>
      refine ⟨implied world label along.1, ?_⟩
      cases stepped : step body world label with
      | none => trivial
      | some next =>
          simp only [Along, stepped] at along
          exact ih along.2

/-- The check holds at every step of the run. -/
def alongCheck (check : engine.World Origin Value → engine.Label Origin → Bool)
    (world : engine.World Origin Value) : List (engine.Label Origin) → Bool
  | [] => true
  | label :: rest => check world label &&
      match step body world label with
      | some next => alongCheck check next rest
      | none => true

theorem along_check {check : engine.World Origin Value → engine.Label Origin → Bool}
    {world : engine.World Origin Value} {labels : List (engine.Label Origin)}
    (checked : alongCheck body check world labels = true) :
    Along body (fun world label => check world label = true) world labels := by
  induction labels generalizing world with
  | nil => trivial
  | cons label rest ih =>
      simp only [alongCheck, Bool.and_eq_true] at checked
      refine ⟨checked.1, ?_⟩
      cases stepped : step body world label with
      | none => trivial
      | some next =>
          simp only [stepped] at checked
          exact ih checked.2

theorem run_append (world : engine.World Origin Value)
    (first second : List (engine.Label Origin)) :
    run body world (first ++ second) =
      (run body world first).bind fun next => run body next second := by
  induction first generalizing world with
  | nil => rfl
  | cons label rest ih =>
      simp only [List.cons_append, run]
      cases step body world label with
      | none => rfl
      | some next => exact ih next

/-! ### What every run keeps -/

section Calls

variable {world next : engine.World Origin Value} {label : engine.Label Origin}

/-- What the step makes of one call: nothing, one more event, or its end. -/
theorem step_advances (stepped : step body world label = some next) {index : Nat}
    {call : engine.Call Origin Value} (located : world.calls[index]? = some call) :
    next.calls[index]? = some call ∨
    (∃ event program later, asking world label = some (index, call, event) ∧
      call.phase = .running program ∧ next.calls[index]? = some later ∧
      later.origin = call.origin ∧ later.trace = event :: call.trace) ∨
    (∃ result later, label = .finish index ∧ call.phase = .running (.ofExcept result) ∧
      next.calls[index]? = some later ∧ later = { call with phase := .ended result }) ∨
    ∃ program later, label = .abandon index ∧ call.phase = .running program ∧
      next.calls[index]? = some later ∧ later = { call with phase := .abandoned } := by
  have bound : index < world.calls.length := (List.getElem?_eq_some_iff.mp located).1
  have replaced (new : engine.Call Origin Value) :
      (world.calls.set index new)[index]? = some new := List.getElem?_set_self bound
  have others (target : Nat) (new : engine.Call Origin Value) (distinct : target ≠ index) :
      (world.calls.set target new)[index]? = some call := by
    rw [List.getElem?_set_ne distinct]
    exact located
  cases step_cases body stepped with
  | start origin =>
      refine Or.inl ?_
      rw [List.getElem?_append_left bound]
      exact located
  | ask target oracle old query after reply shared there running replied free =>
      by_cases same : target = index
      · subst same
        rw [located] at there
        cases there
        exact Or.inr (Or.inl ⟨_, _, _, asking_ask located running replied, running, replaced _, rfl,
          rfl⟩)
      · exact Or.inl (others target _ same)
  | done target old value there finished =>
      by_cases same : target = index
      · subst same
        rw [located] at there
        cases there
        exact Or.inr (Or.inr (Or.inl ⟨.ok value, _, rfl, finished, replaced _, rfl⟩))
      · exact Or.inl (others target _ same)
  | fail target old error there failed =>
      by_cases same : target = index
      · subst same
        rw [located] at there
        cases there
        exact Or.inr (Or.inr (Or.inl ⟨.error error, _, rfl, failed, replaced _, rfl⟩))
      · exact Or.inl (others target _ same)
  | abandon target old program there running =>
      by_cases same : target = index
      · subst same
        rw [located] at there
        cases there
        exact Or.inr (Or.inr (Or.inr ⟨program, _, rfl, running, replaced _, rfl⟩))
      · exact Or.inl (others target _ same)
  | move move data shared moved => exact Or.inl located

/-- Calls are never removed, keep their origin, and only add to their traces. -/
theorem step_grows (stepped : step body world label = some next) {index : Nat}
    {call : engine.Call Origin Value} (located : world.calls[index]? = some call) :
    ∃ later, next.calls[index]? = some later ∧ later.origin = call.origin ∧
      call.trace <:+ later.trace := by
  rcases step_advances body stepped located with
    same | ⟨event, program, later, _, _, there, origin, trace⟩ | ⟨result, later, _, _, there, same⟩ |
      ⟨program, later, _, _, there, same⟩
  · exact ⟨call, same, rfl, List.suffix_refl _⟩
  · exact ⟨later, there, origin, by rw [trace]; exact List.suffix_cons _ _⟩
  · exact ⟨later, there, by rw [same], by rw [same]⟩
  · exact ⟨later, there, by rw [same], by rw [same]⟩

/-- Every call of the next world is an old one, a new one, or the stepping call. -/
theorem step_call (stepped : step body world label = some next) {index : Nat}
    {later : engine.Call Origin Value} (located : next.calls[index]? = some later) :
    world.calls[index]? = some later ∨
    (index = world.calls.length ∧ label = .start later.origin ∧
      later = ⟨later.origin, [], .running (body later.origin)⟩) ∨
    ∃ call, world.calls[index]? = some call ∧
      ((∃ oracle query after reply shared, label = .ask index oracle ∧
          call.phase = .running (.ask query after) ∧
          engine.reply oracle (engine.view world.data (engine.pending call.trace)) world.shared query =
            some (reply, shared) ∧
          world.blocked index (engine.effects ⟨query, reply, engine.stamp world.shared⟩) = false ∧
          later = { call with
            trace := ⟨query, reply, engine.stamp world.shared⟩ :: call.trace
            phase := .running (after reply) }) ∨
        (∃ result, label = .finish index ∧ call.phase = .running (.ofExcept result) ∧
          later = { call with phase := .ended result }) ∨
        (∃ program, label = .abandon index ∧ call.phase = .running program ∧
          later = { call with phase := .abandoned })) := by
  have replaced (target : Nat) (old new : engine.Call Origin Value)
      (there : world.calls[target]? = some old)
      (inside : (world.calls.set target new)[index]? = some later) :
      world.calls[index]? = some later ∨ target = index ∧ later = new := by
    by_cases same : target = index
    · subst same
      rw [List.getElem?_set_self (List.getElem?_eq_some_iff.mp there).1] at inside
      exact Or.inr ⟨rfl, (Option.some.inj inside).symm⟩
    · rw [List.getElem?_set_ne same] at inside
      exact Or.inl inside
  cases step_cases body stepped with
  | start origin =>
      rcases Nat.lt_or_ge index world.calls.length with before | beyond
      · rw [List.getElem?_append_left before] at located
        exact Or.inl located
      · rw [List.getElem?_append_right beyond] at located
        have position : index - world.calls.length = 0 := by
          have inside := (List.getElem?_eq_some_iff.mp located).1
          simp only [List.length_singleton] at inside
          omega
        rw [position] at located
        simp only [List.getElem?_cons_zero, Option.some.injEq] at located
        subst located
        exact Or.inr (Or.inl ⟨by omega, rfl, rfl⟩)
  | ask target oracle old query after reply shared there asking replied free =>
      rcases replaced target old _ there located with unchanged | ⟨same, latest⟩
      · exact Or.inl unchanged
      · subst same
        exact Or.inr (Or.inr ⟨old, there, Or.inl
          ⟨oracle, query, after, reply, shared, rfl, asking, replied, free, latest⟩⟩)
  | done target old value there finished =>
      rcases replaced target old _ there located with unchanged | ⟨same, latest⟩
      · exact Or.inl unchanged
      · subst same
        exact Or.inr (Or.inr ⟨old, there, Or.inr (Or.inl ⟨.ok value, rfl, finished, latest⟩)⟩)
  | fail target old error there failed =>
      rcases replaced target old _ there located with unchanged | ⟨same, latest⟩
      · exact Or.inl unchanged
      · subst same
        exact Or.inr (Or.inr ⟨old, there, Or.inr (Or.inl ⟨.error error, rfl, failed, latest⟩)⟩)
  | abandon target old program there running =>
      rcases replaced target old _ there located with unchanged | ⟨same, latest⟩
      · exact Or.inl unchanged
      · subst same
        exact Or.inr (Or.inr ⟨old, there, Or.inr (Or.inr ⟨program, rfl, running, latest⟩)⟩)
  | move move data shared moved => exact Or.inl located

/-- Every event of a trace was there before, or is the question of this step. -/
theorem step_event (stepped : step body world label = some next) {index : Nat}
    {later : engine.Call Origin Value} (located : next.calls[index]? = some later)
    {event : Event face engine.Stamp} (member : event ∈ later.trace) :
    (∃ call, world.calls[index]? = some call ∧ call.origin = later.origin ∧ event ∈ call.trace) ∨
      ∃ call, asking world label = some (index, call, event) ∧ call.origin = later.origin := by
  rcases step_call body stepped located with old | ⟨_, _, fresh⟩ | ⟨call, there, asked | finished |
    abandoned⟩
  · exact Or.inl ⟨later, old, rfl, member⟩
  · rw [fresh] at member
    cases member
  · obtain ⟨oracle, query, after, reply, shared, rfl, running, replied, _, rfl⟩ := asked
    rcases List.mem_cons.mp member with rfl | before
    · exact Or.inr ⟨call, asking_ask there running replied, rfl⟩
    · exact Or.inl ⟨call, there, rfl, before⟩
  · obtain ⟨result, _, _, rfl⟩ := finished
    exact Or.inl ⟨call, there, rfl, member⟩
  · obtain ⟨program, _, _, rfl⟩ := abandoned
    exact Or.inl ⟨call, there, rfl, member⟩

/-- A call that is running was running before, or has just started. -/
theorem step_running (stepped : step body world label = some next) {index : Nat}
    {later : engine.Call Origin Value} (located : next.calls[index]? = some later)
    {program : Program face Value} (running : later.phase = .running program) :
    (∃ call before, world.calls[index]? = some call ∧ call.origin = later.origin ∧
      call.phase = .running before) ∨ later.trace = [] := by
  rcases step_call body stepped located with old | ⟨_, _, fresh⟩ | ⟨call, there, asked | finished |
    abandoned⟩
  · exact Or.inl ⟨later, program, old, rfl, running⟩
  · rw [fresh]
    exact Or.inr rfl
  · obtain ⟨oracle, query, after, reply, shared, _, before, _, _, rfl⟩ := asked
    exact Or.inl ⟨call, _, there, rfl, before⟩
  · obtain ⟨result, _, _, rfl⟩ := finished
    cases running
  · obtain ⟨program, _, _, rfl⟩ := abandoned
    cases running

/-- Every running call has the property, in view of the committed data. -/
def World.Holds (property : engine.Data → Trace face engine.Stamp → Prop)
    (world : engine.World Origin Value) : Prop :=
  ∀ (index : Nat) (call : engine.Call Origin Value) (program : Program face Value),
    world.calls[index]? = some call → call.phase = .running program →
      property world.data call.trace

/-- What has to be shown of a property of running calls: it holds of a new
call, survives the call's own questions and commits, the commits of others and
the moves of the surroundings. -/
theorem holds_step {property : engine.Data → Trace face engine.Stamp → Prop}
    (holds : world.Holds property) (stepped : step body world label = some next)
    (fresh : ∀ data, property data [])
    (asks : ∀ index call event, asking world label = some (index, call, event) →
      world.calls[index]? = some call → property world.data call.trace →
      engine.commits event = false → property world.data (event :: call.trace))
    (own : ∀ index call event, asking world label = some (index, call, event) →
      world.calls[index]? = some call → property world.data call.trace →
      engine.commits event = true →
      property (engine.view world.data (engine.pending call.trace)) (event :: call.trace))
    (others : ∀ index call other otherCall program, committing world label = some (index, call) →
      other ≠ index → world.calls[other]? = some otherCall → otherCall.phase = .running program →
      property world.data otherCall.trace →
      property (engine.view world.data (engine.pending call.trace)) otherCall.trace)
    (moves : ∀ move data shared trace, label = .move move →
      engine.move move world.data world.shared = some (data, shared) →
      property world.data trace → property data trace) :
    next.Holds property := by
  intro index later program located running
  cases step_cases body stepped with
  | start origin =>
      rcases step_call body stepped located with
        old | ⟨_, _, new⟩ | ⟨call, _, ⟨_, _, _, _, _, impossible, _⟩ | ⟨_, impossible, _⟩ |
          ⟨_, impossible, _⟩⟩
      · exact holds index later program old running
      · rw [new]
        exact fresh _
      · cases impossible
      · cases impossible
      · cases impossible
  | ask target oracle call query after reply shared there asked replied free =>
      have question := asking_ask there asked replied
      have committed := committing_ask there asked replied
      have before := holds target call _ there asked
      have bound := (List.getElem?_eq_some_iff.mp there).1
      by_cases same : target = index
      · subst same
        simp only [World.ask, List.getElem?_set_self bound, Option.some.injEq] at located
        subst located
        simp only [World.ask]
        cases commit : engine.commits ⟨query, reply, engine.stamp world.shared⟩ with
        | true => exact own target call _ question there before commit
        | false => exact asks target call _ question there before commit
      · simp only [World.ask, List.getElem?_set_ne same] at located
        have kept := holds index later program located running
        simp only [World.ask]
        cases commit : engine.commits ⟨query, reply, engine.stamp world.shared⟩ with
        | true =>
            rw [commit, if_pos rfl] at committed
            exact others target call index later program committed (fun equal => same equal.symm)
              located running kept
        | false => exact kept
  | done target call value there finished =>
      have bound := (List.getElem?_eq_some_iff.mp there).1
      by_cases same : target = index
      · subst same
        simp only [World.finish, List.getElem?_set_self bound, Option.some.injEq] at located
        subst located
        cases running
      · simp only [World.finish, List.getElem?_set_ne same] at located
        exact others target call index later program (committing_done there finished)
          (fun equal => same equal.symm) located running (holds index later program located running)
  | fail target call error there failed =>
      have bound := (List.getElem?_eq_some_iff.mp there).1
      by_cases same : target = index
      · subst same
        simp only [World.finish, List.getElem?_set_self bound, Option.some.injEq] at located
        subst located
        cases running
      · simp only [World.finish, List.getElem?_set_ne same] at located
        exact holds index later program located running
  | abandon target call old there was =>
      have bound := (List.getElem?_eq_some_iff.mp there).1
      by_cases same : target = index
      · subst same
        simp only [List.getElem?_set_self bound, Option.some.injEq] at located
        subst located
        cases running
      · simp only [List.getElem?_set_ne same] at located
        exact holds index later program located running
  | move move data shared moved =>
      exact moves move data shared later.trace rfl moved (holds index later program located running)

end Calls

/-- The trace obeys the rule of the call's origin, and so does all that the
call can still do. -/
def Call.Disciplined (allowed : Origin → Trace face engine.Stamp → face.Query → Prop)
    (ends : Origin → Trace face engine.Stamp → Except face.Error Value → Prop)
    (call : engine.Call Origin Value) : Prop :=
  Honours (allowed call.origin) call.trace ∧
    match call.phase with
    | .running program => program.Follows (allowed call.origin) (ends call.origin) call.trace
    | .ended result => ends call.origin call.trace result
    | .abandoned => True

def World.Disciplined (allowed : Origin → Trace face engine.Stamp → face.Query → Prop)
    (ends : Origin → Trace face engine.Stamp → Except face.Error Value → Prop)
    (world : engine.World Origin Value) : Prop :=
  ∀ (index : Nat) (call : engine.Call Origin Value),
    world.calls[index]? = some call → call.Disciplined allowed ends

theorem disciplined_step {allowed : Origin → Trace face engine.Stamp → face.Query → Prop}
    {ends : Origin → Trace face engine.Stamp → Except face.Error Value → Prop}
    (bodies : ∀ origin, (body origin).Follows (allowed origin) (ends origin) [])
    {world next : engine.World Origin Value} {label : engine.Label Origin}
    (disciplined : world.Disciplined allowed ends)
    (stepped : step body world label = some next) : next.Disciplined allowed ends := by
  intro index later located
  rcases step_call body stepped located with
    old | ⟨_, _, new⟩ | ⟨call, there, asked | finished | abandoned⟩
  · exact disciplined index later old
  · rw [new]
    exact ⟨trivial, bodies later.origin⟩
  · obtain ⟨oracle, query, after, reply, shared, _, asking, _, _, latest⟩ := asked
    have before := disciplined index call there
    simp only [Call.Disciplined, asking, Program.Follows] at before
    subst latest
    exact ⟨⟨before.2.1, before.1⟩, before.2.2 reply _⟩
  · obtain ⟨result, _, running, latest⟩ := finished
    have before := disciplined index call there
    simp only [Call.Disciplined, running] at before
    subst latest
    refine ⟨before.1, ?_⟩
    cases result with
    | ok value => exact before.2
    | error error => exact before.2
  · obtain ⟨program, _, running, latest⟩ := abandoned
    have before := disciplined index call there
    subst latest
    exact ⟨before.1, trivial⟩

/-- What no question has made of its call, no call has come to. -/
theorem untainted_step {bad : Origin → Trace face engine.Stamp → Bool}
    (fresh : ∀ origin, bad origin [] = false) {world next : engine.World Origin Value}
    {label : engine.Label Origin}
    (spared : ∀ (index : Nat) (call : engine.Call Origin Value), world.calls[index]? = some call →
      bad call.origin call.trace = false)
    (spares : ∀ index call event, asking world label = some (index, call, event) →
      bad call.origin (event :: call.trace) = false)
    (stepped : step body world label = some next) :
    ∀ (index : Nat) (call : engine.Call Origin Value), next.calls[index]? = some call →
      bad call.origin call.trace = false := by
  intro index later located
  rcases step_call body stepped located with
    old | ⟨_, _, new⟩ | ⟨call, there, asked | finished | abandoned⟩
  · exact spared index later old
  · rw [new]
    exact fresh later.origin
  · obtain ⟨oracle, query, after, reply, shared, asks, running, replied, _, latest⟩ := asked
    subst asks latest
    exact spares index call _ (asking_ask there running replied)
  · obtain ⟨result, _, _, latest⟩ := finished
    subst latest
    exact spared index call there
  · obtain ⟨program, _, _, latest⟩ := abandoned
    subst latest
    exact spared index call there

theorem disciplined_running {allowed : Origin → Trace face engine.Stamp → face.Query → Prop}
    {ends : Origin → Trace face engine.Stamp → Except face.Error Value → Prop}
    {world : engine.World Origin Value} (disciplined : world.Disciplined allowed ends)
    {index : Nat} {call : engine.Call Origin Value} (located : world.calls[index]? = some call) :
    Honours (allowed call.origin) call.trace := (disciplined index call located).1

/-- The question a call is about to ask is allowed. -/
theorem disciplined_asking {allowed : Origin → Trace face engine.Stamp → face.Query → Prop}
    {ends : Origin → Trace face engine.Stamp → Except face.Error Value → Prop}
    {world : engine.World Origin Value} {label : engine.Label Origin}
    (disciplined : world.Disciplined allowed ends) {index : Nat}
    {call : engine.Call Origin Value} {event : Event face engine.Stamp}
    (found : asking world label = some (index, call, event)) :
    allowed call.origin call.trace event.query := by
  obtain ⟨located, _, ⟨next, running⟩, _⟩ := asking_located found
  have follows := (disciplined index call located).2
  simp only [running, Program.Follows] at follows
  exact follows.1

/-- What a commit is allowed on, or an end that commits ends with. -/
theorem disciplined_committing {allowed : Origin → Trace face engine.Stamp → face.Query → Prop}
    {ends : Origin → Trace face engine.Stamp → Except face.Error Value → Prop}
    {world : engine.World Origin Value} {label : engine.Label Origin}
    (disciplined : world.Disciplined allowed ends) {index : Nat} {call : engine.Call Origin Value}
    (found : committing world label = some (index, call)) :
    (∃ event : Event face engine.Stamp, engine.commits event = true ∧
      allowed call.origin call.trace event.query) ∨
    ∃ value, ends call.origin call.trace (.ok value) := by
  obtain ⟨located, ⟨event, next, running, commits⟩ | ⟨value, finished⟩⟩ := committing_cases found
  · have follows := (disciplined index call located).2
    simp only [running, Program.Follows] at follows
    exact Or.inl ⟨event, commits, follows.1⟩
  · have follows := (disciplined index call located).2
    simp only [finished, Program.Follows] at follows
    exact Or.inr ⟨value, follows⟩

/-- A write that is still pending was made after the last commit. -/
theorem mem_pending {trace : Trace face engine.Stamp} {write : engine.Write}
    (member : write ∈ engine.pending trace) :
    ∃ event earlier newer, trace = newer ++ event :: earlier ∧ write ∈ engine.effects event ∧
      ∀ between ∈ newer, engine.commits between = false := by
  induction trace with
  | nil => cases member
  | cons head earlier ih =>
      simp only [pending] at member
      split at member
      · cases member
      · rename_i open'
        rcases List.mem_append.mp member with older | own
        · obtain ⟨event, before, newer, same, effect, quiet⟩ := ih older
          refine ⟨event, before, head :: newer, by rw [same]; rfl, effect, ?_⟩
          intro between inside
          rcases List.mem_cons.mp inside with first | rest
          · rw [first]
            simpa using open'
          · exact quiet between rest
        · exact ⟨head, earlier, [], rfl, own, by simp⟩

/-- Before the first commit every write of the trace is pending. -/
theorem pending_of_mem {trace : Trace face engine.Stamp}
    (quiet : ∀ event ∈ trace, engine.commits event = false) {event : Event face engine.Stamp}
    (member : event ∈ trace) {write : engine.Write} (effect : write ∈ engine.effects event) :
    write ∈ engine.pending trace := by
  induction trace with
  | nil => cases member
  | cons head earlier ih =>
      simp only [pending, quiet head (by simp), Bool.false_eq_true, if_false]
      rcases List.mem_cons.mp member with same | older
      · rw [same] at effect
        exact List.mem_append_right _ effect
      · exact List.mem_append_left _ (ih (fun other inside => quiet other (by simp [inside])) older)

/-- With a write of an uncommitted trace, what was written before it is pending too. -/
theorem pending_before {newer earlier : Trace face engine.Stamp}
    {event older : Event face engine.Stamp} {write : engine.Write}
    (quiet : ∀ between ∈ newer, engine.commits between = false)
    (own : engine.commits event = false)
    (uncommitted : ∀ before ∈ earlier, engine.commits before = false) (member : older ∈ earlier)
    (effect : write ∈ engine.effects older) : write ∈ engine.pending (newer ++ event :: earlier) := by
  refine pending_of_mem (fun other inside => ?_)
    (List.mem_append_right newer (List.mem_cons_of_mem event member)) effect
  rcases List.mem_append.mp inside with later | here
  · exact quiet other later
  · rcases List.mem_cons.mp here with same | before
    · rw [same]
      exact own
    · exact uncommitted other before

/-- No two running calls have uncommitted writes on the same row. -/
def World.Exclusive (world : engine.World Origin Value) : Prop :=
  ∀ (left right : Nat) (leftCall rightCall : engine.Call Origin Value), left ≠ right →
    world.calls[left]? = some leftCall → world.calls[right]? = some rightCall →
    ∀ one ∈ leftCall.held, ∀ other ∈ rightCall.held, engine.conflict one other = false

theorem conflict_comm (one other : engine.Write) :
    engine.conflict one other = engine.conflict other one := by
  unfold conflict
  cases engine.row one with
  | none => cases engine.row other <;> rfl
  | some left =>
      cases engine.row other with
      | none => rfl
      | some right => exact Bool.beq_comm

theorem conflict_same {one other : engine.Write} {row : engine.Row}
    (left : engine.row one = some row) (right : engine.row other = some row) :
    engine.conflict one other = true := by
  simp only [conflict, left, right, beq_self_eq_true]

theorem not_blocked {world : engine.World Origin Value} {index other : Nat}
    {writes : List engine.Write} (free : world.blocked index writes = false)
    {call : engine.Call Origin Value} (located : world.calls[other]? = some call)
    (distinct : other ≠ index) :
    ∀ write ∈ writes, ∀ held ∈ call.held, engine.conflict write held = false := by
  intro write member held standing
  rw [← Bool.not_eq_true]
  intro same
  have listed : (call, other) ∈ world.calls.zipIdx :=
    List.mk_mem_zipIdx_iff_getElem?.mpr located
  have blocked : world.blocked index writes = true := by
    simp only [World.blocked, List.any_eq_true]
    refine ⟨(call, other), listed, ?_⟩
    simp only [Bool.and_eq_true, bne_iff_ne, ne_eq, List.any_eq_true]
    exact ⟨distinct, held, standing, write, member, same⟩
  rw [free] at blocked
  cases blocked

theorem exclusive_step {world next : engine.World Origin Value} {label : engine.Label Origin}
    (exclusive : world.Exclusive) (stepped : step body world label = some next) :
    next.Exclusive := by
  -- What a call of the next world holds it held before, or has just written unblocked.
  have origin (index : Nat) (later : engine.Call Origin Value)
      (located : next.calls[index]? = some later) (write : engine.Write)
      (member : write ∈ later.held) :
      (∃ call, world.calls[index]? = some call ∧ write ∈ call.held) ∨
      ∃ call oracle query reply, world.calls[index]? = some call ∧ label = .ask index oracle ∧
        write ∈ engine.effects ⟨query, reply, engine.stamp world.shared⟩ ∧
        world.blocked index (engine.effects ⟨query, reply, engine.stamp world.shared⟩) = false := by
    rcases step_call body stepped located with
      old | ⟨_, _, new⟩ | ⟨call, there, asked | finished | abandoned⟩
    · exact Or.inl ⟨later, old, member⟩
    · rw [new] at member
      cases member
    · obtain ⟨oracle, query, after, reply, shared, labelled, asking, _, free, latest⟩ := asked
      rw [latest] at member
      simp only [Call.held, pending] at member
      split at member
      · cases member
      · rcases List.mem_append.mp member with older | fresh
        · exact Or.inl ⟨call, there, by simpa only [Call.held, asking] using older⟩
        · exact Or.inr ⟨call, oracle, query, reply, there, labelled, fresh, free⟩
    · obtain ⟨result, _, _, latest⟩ := finished
      rw [latest] at member
      cases member
    · obtain ⟨program, _, _, latest⟩ := abandoned
      rw [latest] at member
      cases member
  intro left right leftCall rightCall distinct leftAt rightAt one oneHeld other otherHeld
  rcases origin left leftCall leftAt one oneHeld with
    ⟨leftOld, leftThere, leftHeld⟩ | ⟨leftOld, leftOracle, query, reply, leftThere, labelled, fresh, free⟩
  · rcases origin right rightCall rightAt other otherHeld with
      ⟨rightOld, rightThere, rightHeld⟩ |
      ⟨rightOld, rightOracle, query, reply, rightThere, _, fresh, free⟩
    · exact exclusive left right leftOld rightOld distinct leftThere rightThere one leftHeld
        other rightHeld
    · rw [conflict_comm]
      exact not_blocked free leftThere distinct other fresh one leftHeld
  · rcases origin right rightCall rightAt other otherHeld with
      ⟨rightOld, rightThere, rightHeld⟩ |
      ⟨rightOld, rightOracle, _, _, _, relabelled, _, _⟩
    · exact not_blocked free rightThere distinct.symm one fresh other rightHeld
    · rw [labelled] at relabelled
      cases relabelled
      exact absurd rfl distinct

/-- Every committed write was made by the call the journal names. -/
def World.Recorded (world : engine.World Origin Value) : Prop :=
  ∀ entry ∈ world.journal, ∃ call, world.calls[entry.1]? = some call ∧
    ∀ write ∈ entry.2, ∃ event ∈ call.trace, write ∈ engine.effects event

theorem recorded_step {world next : engine.World Origin Value} {label : engine.Label Origin}
    (recorded : world.Recorded) (stepped : step body world label = some next) :
    next.Recorded := by
  have kept (entry : Nat × List engine.Write) (call : engine.Call Origin Value)
      (located : world.calls[entry.1]? = some call)
      (made : ∀ write ∈ entry.2, ∃ event ∈ call.trace, write ∈ engine.effects event) :
      ∃ later, next.calls[entry.1]? = some later ∧
        ∀ write ∈ entry.2, ∃ event ∈ later.trace, write ∈ engine.effects event := by
    obtain ⟨later, there, _, extended⟩ := step_grows body stepped located
    refine ⟨later, there, fun write member => ?_⟩
    obtain ⟨event, present, effect⟩ := made write member
    exact ⟨event, extended.subset present, effect⟩
  intro entry member
  rcases step_data body stepped with ⟨index, call, found, _, journal⟩ | ⟨_, journal, _⟩
  · rw [journal] at member
    rcases List.mem_cons.mp member with same | older
    · subst same
      refine kept _ call (committing_located found).1 fun write held => ?_
      obtain ⟨event, earlier, newer, same, effect, _⟩ := mem_pending held
      exact ⟨event, by rw [same]; simp, effect⟩
    · obtain ⟨call', located, made⟩ := recorded entry older
      exact kept entry call' located made
  · rw [journal] at member
    obtain ⟨call', located, made⟩ := recorded entry member
    exact kept entry call' located made

/-- Commits are never taken out of the journal. -/
theorem step_journal {world next : engine.World Origin Value} {label : engine.Label Origin}
    (stepped : step body world label = some next) : world.journal <:+ next.journal := by
  rcases step_data body stepped with ⟨_, _, _, _, journal⟩ | ⟨_, journal, _⟩
  · rw [journal]
    exact List.suffix_cons _ _
  · rw [journal]

/-- Every write is in the journal, or still waits in a call that has not ended well. -/
def World.Persisted (world : engine.World Origin Value) : Prop :=
  ∀ (index : Nat) (call : engine.Call Origin Value) (event : Event face engine.Stamp)
    (write : engine.Write), world.calls[index]? = some call → event ∈ call.trace →
      engine.commits event = false → write ∈ engine.effects event →
      (write ∈ engine.pending call.trace ∧ ∀ value, call.phase ≠ .ended (.ok value)) ∨
        ∃ entry ∈ world.journal, write ∈ entry.2

theorem persisted_step {world next : engine.World Origin Value} {label : engine.Label Origin}
    (persisted : world.Persisted) (stepped : step body world label = some next) :
    next.Persisted := by
  intro index later event write located member plain effect
  have kept (before : ∃ entry ∈ world.journal, write ∈ entry.2) :
      ∃ entry ∈ next.journal, write ∈ entry.2 := by
    obtain ⟨entry, inside, held⟩ := before
    exact ⟨entry, (step_journal body stepped).subset inside, held⟩
  have committed {call : engine.Call Origin Value} (pending : write ∈ engine.pending call.trace)
      (found : committing world label = some (index, call)) :
      ∃ entry ∈ next.journal, write ∈ entry.2 := by
    rcases step_data body stepped with ⟨_, _, same, _, journal⟩ | ⟨nobody, _⟩
    · rw [found] at same
      cases same
      exact ⟨_, by rw [journal]; exact List.mem_cons_self, pending⟩
    · rw [found] at nobody
      cases nobody
  rcases step_call body stepped located with old | ⟨_, _, fresh⟩ | ⟨call, there, asked | finished |
    abandoned⟩
  · exact (persisted index later event write old member plain effect).imp_right kept
  · rw [fresh] at member
    cases member
  · obtain ⟨oracle, query, after, reply, shared, rfl, running, replied, _, rfl⟩ := asked
    have unended (value : Value) : Phase.running (after reply) ≠ .ended (.ok value) := by simp
    rcases List.mem_cons.mp member with rfl | older
    · refine Or.inl ⟨?_, unended⟩
      simp only [pending, plain, Bool.false_eq_true, if_false]
      exact List.mem_append_right _ effect
    · rcases persisted index call event write there older plain effect with ⟨held, _⟩ | recorded
      · -- The question may commit what was pending so far.
        cases commits : engine.commits ⟨query, reply, engine.stamp world.shared⟩ with
        | true =>
            exact Or.inr (committed held (by
              rw [committing_ask there running replied, if_pos commits]))
        | false =>
            refine Or.inl ⟨?_, unended⟩
            simp only [pending, commits, Bool.false_eq_true, if_false]
            exact List.mem_append_left _ held
      · exact Or.inr (kept recorded)
  · obtain ⟨result, rfl, running, rfl⟩ := finished
    rcases persisted index call event write there member plain effect with ⟨held, _⟩ | recorded
    · cases result with
      | ok value => exact Or.inr (committed held (committing_done there running))
      | error exn => exact Or.inl ⟨held, by simp⟩
    · exact Or.inr (kept recorded)
  · obtain ⟨program, rfl, running, rfl⟩ := abandoned
    rcases persisted index call event write there member plain effect with ⟨held, _⟩ | recorded
    · exact Or.inl ⟨held, by simp⟩
    · exact Or.inr (kept recorded)

/-- What a call wrote that has ended well is in the journal. -/
theorem World.Persisted.recorded {world : engine.World Origin Value} (persisted : world.Persisted)
    {index : Nat} {call : engine.Call Origin Value} (located : world.calls[index]? = some call)
    {value : Value} (ended : call.phase = .ended (.ok value)) {event : Event face engine.Stamp}
    (member : event ∈ call.trace) (plain : engine.commits event = false) {write : engine.Write}
    (effect : write ∈ engine.effects event) : ∃ entry ∈ world.journal, write ∈ entry.2 :=
  (persisted index call event write located member plain effect).resolve_left
    fun waiting => waiting.2 value ended

/-! ### What has been asked -/

/-- The event is in the trace of the call at this index. -/
def World.Asked (world : engine.World Origin Value) (index : Nat)
    (event : Event face engine.Stamp) : Prop :=
  ∃ call, world.calls[index]? = some call ∧ event ∈ call.trace

theorem asked_mono {world next : engine.World Origin Value} {label : engine.Label Origin}
    (stepped : step body world label = some next) {index : Nat}
    {event : Event face engine.Stamp} (asked : world.Asked index event) :
    next.Asked index event := by
  obtain ⟨call, located, member⟩ := asked
  obtain ⟨later, there, _, extended⟩ := step_grows body stepped located
  exact ⟨later, there, extended.subset member⟩

/-- An event of the next world is an old one, or the one the step adds. -/
theorem asked_step {world next : engine.World Origin Value} {label : engine.Label Origin}
    (stepped : step body world label = some next) {index : Nat}
    {event : Event face engine.Stamp} (asked : next.Asked index event) :
    world.Asked index event ∨ ∃ call, asking world label = some (index, call, event) := by
  obtain ⟨later, located, member⟩ := asked
  rcases step_call body stepped located with
    old | ⟨_, _, new⟩ | ⟨call, there, ended | ⟨result, _, _, latest⟩ | ⟨program, _, _, latest⟩⟩
  · exact Or.inl ⟨later, old, member⟩
  · rw [new] at member
    cases member
  · obtain ⟨oracle, query, after, reply, shared, labelled, running, replied, _, latest⟩ := ended
    rw [latest] at member
    rcases List.mem_cons.mp member with same | older
    · rw [labelled, asking_ask there running replied, same]
      exact Or.inr ⟨call, rfl⟩
    · exact Or.inl ⟨call, there, older⟩
  · rw [latest] at member
    exact Or.inl ⟨call, there, member⟩
  · rw [latest] at member
    exact Or.inl ⟨call, there, member⟩

/-- What has been asked by the end of a run was asked at one of its steps. -/
theorem asked_at {world last : engine.World Origin Value} {labels : List (engine.Label Origin)}
    (ran : run body world labels = some last) {index : Nat} {event : Event face engine.Stamp}
    (asked : last.Asked index event) :
    world.Asked index event ∨
    ∃ before label after middle next call, labels = before ++ label :: after ∧
      run body world before = some middle ∧ step body middle label = some next ∧
      run body next after = some last ∧ asking middle label = some (index, call, event) := by
  induction labels generalizing world with
  | nil =>
      rw [Option.some.inj ran]
      exact Or.inl asked
  | cons label rest ih =>
      obtain ⟨next, stepped, continued⟩ := Option.bind_eq_some_iff.mp ran
      rcases ih continued with early | ⟨before, later, after, middle, following, call, same, reached, rest'⟩
      · rcases asked_step body stepped early with old | ⟨call, found⟩
        · exact Or.inl old
        · exact Or.inr ⟨[], label, rest, world, next, call, rfl, rfl, stepped, continued, found⟩
      · refine Or.inr ⟨label :: before, later, after, middle, following, call, by rw [same]; rfl, ?_,
          rest'⟩
        simp only [run, stepped, Option.bind_some]
        exact reached

/-- The step adds the event to the trace of the call that asks. -/
theorem asking_asked {world next : engine.World Origin Value} {label : engine.Label Origin}
    (stepped : step body world label = some next) {index : Nat}
    {call : engine.Call Origin Value} {event : Event face engine.Stamp}
    (found : asking world label = some (index, call, event)) :
    ∃ later, next.calls[index]? = some later ∧ later.origin = call.origin ∧
      later.trace = event :: call.trace := by
  cases step_cases body stepped with
  | start origin => cases found
  | ask target oracle old query after reply shared there running replied free =>
      rw [asking_ask there running replied] at found
      cases found
      refine ⟨_, List.getElem?_set_self (List.getElem?_eq_some_iff.mp there).1, rfl, rfl⟩
  | done target old value there finished => cases found
  | fail target old error there failed => cases found
  | abandon target old program there running => cases found
  | move move data shared moved => cases found

/-- The reply of the added event is what moves the surroundings on. -/
theorem asking_shared {world next : engine.World Origin Value} {label : engine.Label Origin}
    (stepped : step body world label = some next) {index : Nat}
    {call : engine.Call Origin Value} {event : Event face engine.Stamp}
    (found : asking world label = some (index, call, event)) :
    ∃ oracle, engine.reply oracle (engine.view world.data (engine.pending call.trace))
      world.shared event.query = some (event.reply, next.shared) := by
  cases step_cases body stepped with
  | start origin => cases found
  | ask target oracle old query after reply shared there running replied free =>
      rw [asking_ask there running replied] at found
      cases found
      exact ⟨oracle, replied⟩
  | done target old value there finished => cases found
  | fail target old error there failed => cases found
  | abandon target old program there running => cases found
  | move move data shared moved => cases found

/-- What is not part of the store changes with a reply or a move. -/
theorem step_shared {world next : engine.World Origin Value} {label : engine.Label Origin}
    (stepped : step body world label = some next) :
    next.shared = world.shared ∨
    (∃ index call event, asking world label = some (index, call, event)) ∨
    ∃ move data, label = .move move ∧
      engine.move move world.data world.shared = some (data, next.shared) := by
  cases step_cases body stepped with
  | start origin => exact Or.inl rfl
  | ask target oracle call query after reply shared there running replied free =>
      exact Or.inr (Or.inl ⟨target, call, _, asking_ask there running replied⟩)
  | done target call value there finished => exact Or.inl rfl
  | fail target call error there failed => exact Or.inl rfl
  | abandon target call program there running => exact Or.inl rfl
  | move move data shared moved => exact Or.inr (Or.inr ⟨move, data, rfl, moved⟩)

/-- Every question of every call was asked when this could be demanded of it. -/
def World.Heeds (demanded : Origin → Trace face engine.Stamp → Event face engine.Stamp → Prop)
    (world : engine.World Origin Value) : Prop :=
  ∀ (index : Nat) (call : engine.Call Origin Value) (event : Event face engine.Stamp)
    (earlier : Trace face engine.Stamp), world.calls[index]? = some call →
      event :: earlier <:+ call.trace → demanded call.origin earlier event

/-- What is demanded of every step that asks holds wherever something was asked. -/
theorem heeds_step
    {demanded : Origin → Trace face engine.Stamp → Event face engine.Stamp → Prop}
    {world next : engine.World Origin Value} {label : engine.Label Origin}
    (heeds : world.Heeds demanded)
    (met : ∀ index call event, asking world label = some (index, call, event) →
      demanded call.origin call.trace event)
    (stepped : step body world label = some next) : next.Heeds demanded := by
  intro index later event earlier located suffix
  rcases step_call body stepped located with
    old | ⟨_, _, new⟩ | ⟨call, there, ended | ⟨result, _, _, latest⟩ | ⟨program, _, _, latest⟩⟩
  · exact heeds index later event earlier old suffix
  · rw [new] at suffix
    cases List.suffix_nil.mp suffix
  · obtain ⟨oracle, query, after, reply, shared, labelled, running, replied, _, latest⟩ := ended
    rw [latest] at suffix
    rw [latest]
    rcases List.suffix_cons_iff.mp suffix with same | older
    · cases same
      refine met index call _ ?_
      rw [labelled, asking_ask there running replied]
    · exact heeds index call event earlier there older
  · rw [latest] at suffix ⊢
    exact heeds index call event earlier there suffix
  · rw [latest] at suffix ⊢
    exact heeds index call event earlier there suffix

/-! ### At most one -/

/-- Lists of at most one item, of which no two have one, have at most one together. -/
theorem length_flatMap_le_one {Whole Part : Type} {items : List Whole} {parts : Whole → List Part}
    (short : ∀ item ∈ items, (parts item).length ≤ 1)
    (alone : ∀ (left right : Nat) (one other : Whole), left ≠ right → items[left]? = some one →
      items[right]? = some other → parts one ≠ [] → parts other ≠ [] → False) :
    (items.flatMap parts).length ≤ 1 := by
  induction items with
  | nil => simp
  | cons first rest ih =>
      rw [List.flatMap_cons, List.length_append]
      by_cases empty : parts first = []
      · rw [empty, List.length_nil, Nat.zero_add]
        apply ih fun item member => short item (List.mem_cons_of_mem _ member)
        intro left right one other distinct leftThere rightThere
        apply alone (left + 1) (right + 1) one other (by omega)
        · rw [List.getElem?_cons_succ]
          exact leftThere
        · rw [List.getElem?_cons_succ]
          exact rightThere
      · have others : rest.flatMap parts = [] := by
          rw [List.flatMap_eq_nil_iff]
          intro item member
          by_contra nonempty
          obtain ⟨index, there⟩ := List.mem_iff_getElem?.mp member
          refine alone 0 (index + 1) first item (by omega) rfl ?_ empty nonempty
          rw [List.getElem?_cons_succ]
          exact there
        rw [others]
        exact short first List.mem_cons_self

end Engine

end Interaction
