/-
Clients of engines that run side by side.

A client runs one program.  Some of its questions make a call of an engine, and
the client waits until that call has ended or its answer is lost; the others
are answered by whatever surrounds the client.  The engines go on between, and
serve others as well.
-/

import DscSigning.Library.Runs
import DscSigning.Library.Transactions
import Mathlib.Logic.Function.Basic

namespace Interaction

/-- Engines side by side, each with the programs that serve its calls. -/
structure Peers where
  Peer : Type
  [peerEq : DecidableEq Peer]
  face : Peer → Interface
  engine : (peer : Peer) → Engine (face peer)
  Origin : Peer → Type
  Value : Peer → Type
  body : (peer : Peer) → Origin peer → Program (face peer) (Value peer)

attribute [instance] Peers.peerEq

namespace Peers

variable (peers : Peers)

abbrev World (peer : peers.Peer) : Type :=
  (peers.engine peer).World (peers.Origin peer) (peers.Value peer)

abbrev Call (peer : peers.Peer) : Type :=
  (peers.engine peer).Call (peers.Origin peer) (peers.Value peer)

abbrev Label (peer : peers.Peer) : Type := (peers.engine peer).Label (peers.Origin peer)

abbrev Result (peer : peers.Peer) : Type := Except (peers.face peer).Error (peers.Value peer)

/-- What a call is made with. -/
structure Message where
  peer : peers.Peer
  origin : peers.Origin peer

/-- Where a call is found. -/
structure Place where
  peer : peers.Peer
  index : Nat

end Peers

/-- Programs that call the engines. -/
structure Clients (peers : Peers) (face : Interface) where
  Who : Type
  Value : Type
  body : Who → Program face Value
  /-- The call that a question makes. -/
  sends : Who → face.Query → Option peers.Message
  /-- The reply that a client makes of the end of its call. -/
  receives : Who → (query : face.Query) → (peer : peers.Peer) → peers.Result peer →
    face.Reply query
  /-- The replies of the surroundings to a question that makes no call. -/
  tells : Who → (query : face.Query) → face.Reply query → Bool

namespace Clients

variable {peers : Peers} {face : Interface} (clients : Clients peers face)

/-- A client: what it was told, by which calls, what it goes on with, and the
call it waits for. -/
structure Client where
  who : clients.Who
  trace : Trace face (Option peers.Place)
  program : Program face clients.Value
  waiting : Option peers.Place

structure System where
  worlds : (peer : peers.Peer) → peers.World peer
  clients : List clients.Client

inductive Label where
  /-- An engine steps, or is called by someone else. -/
  | serve (peer : peers.Peer) (label : peers.Label peer)
  | enter (who : clients.Who)
  | tell (index : Nat) (oracle : (query : face.Query) → face.Reply query)
  | send (index : Nat)
  | receive (index : Nat)
  /-- The call is not made, or its answer does not arrive. -/
  | lose (index : Nat) (error : face.Error)

variable {clients}

def Client.told (client : clients.Client) (query : face.Query) (reply : face.Reply query)
    (next : face.Reply query → Program face clients.Value) (place : Option peers.Place) :
    clients.Client :=
  { client with
    trace := ⟨query, reply, place⟩ :: client.trace
    program := next reply
    waiting := none }

def System.set (system : clients.System) (index : Nat) (client : clients.Client) :
    clients.System :=
  { system with clients := system.clients.set index client }

/-- The engine of the peer has come to the world. -/
def System.serve (system : clients.System) (peer : peers.Peer) (world : peers.World peer) :
    clients.System :=
  { system with worlds := Function.update system.worlds peer world }

/-- How the call has ended, if it has. -/
def System.result (system : clients.System) (place : peers.Place) :
    Option (peers.Result place.peer) :=
  ((system.worlds place.peer).calls[place.index]?).bind fun call =>
    match call.phase with
    | .ended result => some result
    | _ => none

def step (system : clients.System) : clients.Label → Option clients.System
  | .serve peer label =>
      (Engine.step (peers.body peer) (system.worlds peer) label).map (system.serve peer)
  | .enter who =>
      some { system with clients := system.clients ++ [⟨who, [], clients.body who, none⟩] }
  | .tell index oracle =>
      match system.clients[index]? with
      | some ⟨who, trace, .ask query next, waiting⟩ =>
          if (clients.sends who query).isNone && clients.tells who query (oracle query) then
            some (system.set index
              (Client.told ⟨who, trace, .ask query next, waiting⟩ query (oracle query) next none))
          else none
      | _ => none
  | .send index =>
      match system.clients[index]? with
      | some ⟨who, trace, .ask query next, none⟩ =>
          match clients.sends who query with
          | some ⟨peer, origin⟩ =>
              (Engine.step (peers.body peer) (system.worlds peer) (.start origin)).map fun world =>
                (system.serve peer world).set index ⟨who, trace, .ask query next,
                  some ⟨peer, (system.worlds peer).calls.length⟩⟩
          | none => none
      | _ => none
  | .receive index =>
      match system.clients[index]? with
      | some ⟨who, trace, .ask query next, some place⟩ =>
          (system.result place).map fun result =>
            system.set index (Client.told ⟨who, trace, .ask query next, some place⟩ query
              (clients.receives who query place.peer result) next (some place))
      | _ => none
  | .lose index error =>
      match system.clients[index]? with
      | some ⟨who, trace, .ask query next, waiting⟩ =>
          if (clients.sends who query).isSome then
            some (system.set index
              (Client.told ⟨who, trace, .ask query next, waiting⟩ query (.error error) next none))
          else none
      | _ => none

/-- Everything a step can be, with what it needs. -/
inductive Stepped (system : clients.System) : clients.Label → clients.System → Prop
  | serve (peer : peers.Peer) (label : peers.Label peer) (world : peers.World peer)
      (served : Engine.step (peers.body peer) (system.worlds peer) label = some world) :
      Stepped system (.serve peer label) (system.serve peer world)
  | enter (who : clients.Who) :
      Stepped system (.enter who)
        { system with clients := system.clients ++ [⟨who, [], clients.body who, none⟩] }
  | tell (index : Nat) (oracle : (query : face.Query) → face.Reply query) (client : clients.Client)
      (query : face.Query) (next : face.Reply query → Program face clients.Value)
      (located : system.clients[index]? = some client) (asking : client.program = .ask query next)
      (own : clients.sends client.who query = none)
      (told : clients.tells client.who query (oracle query) = true) :
      Stepped system (.tell index oracle)
        (system.set index (client.told query (oracle query) next none))
  | send (index : Nat) (client : clients.Client) (query : face.Query)
      (next : face.Reply query → Program face clients.Value) (message : peers.Message)
      (located : system.clients[index]? = some client) (asking : client.program = .ask query next)
      (idle : client.waiting = none) (sends : clients.sends client.who query = some message)
      (world : peers.World message.peer)
      (served : Engine.step (peers.body message.peer) (system.worlds message.peer)
        (.start message.origin) = some world) :
      Stepped system (.send index) ((system.serve message.peer world).set index
        { client with
          waiting := some ⟨message.peer, (system.worlds message.peer).calls.length⟩ })
  | receive (index : Nat) (client : clients.Client) (query : face.Query)
      (next : face.Reply query → Program face clients.Value) (place : peers.Place)
      (result : peers.Result place.peer) (located : system.clients[index]? = some client)
      (asking : client.program = .ask query next) (waits : client.waiting = some place)
      (ended : system.result place = some result) :
      Stepped system (.receive index) (system.set index
        (client.told query (clients.receives client.who query place.peer result) next (some place)))
  | lose (index : Nat) (error : face.Error) (client : clients.Client) (query : face.Query)
      (next : face.Reply query → Program face clients.Value) (message : peers.Message)
      (located : system.clients[index]? = some client) (asking : client.program = .ask query next)
      (sends : clients.sends client.who query = some message) :
      Stepped system (.lose index error)
        (system.set index (client.told query (.error error) next none))

theorem step_cases {system next : clients.System} {label : clients.Label}
    (stepped : step system label = some next) : Stepped system label next := by
  cases label with
  | serve peer label =>
      obtain ⟨world, served, same⟩ := Option.map_eq_some_iff.mp stepped
      rw [← same]
      exact .serve peer label world served
  | enter who =>
      rw [← Option.some.inj stepped]
      exact .enter who
  | tell index oracle =>
      simp only [step] at stepped
      split at stepped
      · rename_i who trace query after waiting located
        split at stepped
        · rename_i allowed
          rw [Bool.and_eq_true, Option.isNone_iff_eq_none] at allowed
          rw [← Option.some.inj stepped]
          exact .tell index oracle _ query after located rfl allowed.1 allowed.2
        · cases stepped
      · cases stepped
  | send index =>
      simp only [step] at stepped
      split at stepped
      · rename_i who trace query after located
        split at stepped
        · rename_i peer origin sends
          obtain ⟨world, served, same⟩ := Option.map_eq_some_iff.mp stepped
          rw [← same]
          exact .send index _ query after ⟨peer, origin⟩ located rfl rfl sends world served
        · cases stepped
      · cases stepped
  | receive index =>
      simp only [step] at stepped
      split at stepped
      · rename_i who trace query after place located
        obtain ⟨result, ended, same⟩ := Option.map_eq_some_iff.mp stepped
        rw [← same]
        exact .receive index _ query after place result located rfl rfl ended
      · cases stepped
  | lose index error =>
      simp only [step] at stepped
      split at stepped
      · rename_i who trace query after waiting located
        split at stepped
        · rename_i remote
          obtain ⟨message, sends⟩ := Option.isSome_iff_exists.mp remote
          rw [← Option.some.inj stepped]
          exact .lose index error _ query after message located rfl sends
        · cases stepped
      · cases stepped

/-! ### The engines of a run -/

theorem serve_same (system : clients.System) (peer : peers.Peer) (world : peers.World peer) :
    (system.serve peer world).worlds peer = world := Function.update_self ..

theorem serve_other (system : clients.System) {peer other : peers.Peer} (world : peers.World peer)
    (distinct : other ≠ peer) : (system.serve peer world).worlds other = system.worlds other :=
  Function.update_of_ne distinct ..

/-- What a step does to one engine: nothing, or a step of its own that someone else
made, or the start of the call that a client makes. -/
theorem step_world {system next : clients.System} {label : clients.Label}
    (stepped : step system label = some next) (peer : peers.Peer) :
    next.worlds peer = system.worlds peer ∨
    ∃ own, Engine.step (peers.body peer) (system.worlds peer) own = some (next.worlds peer) ∧
      (label = .serve peer own ∨
        ∃ index client query origin after, label = .send index ∧
          system.clients[index]? = some client ∧ client.program = .ask query after ∧
          clients.sends client.who query = some ⟨peer, origin⟩ ∧ own = .start origin) := by
  cases step_cases stepped with
  | serve served own world taken =>
      by_cases same : peer = served
      · subst same
        refine Or.inr ⟨own, ?_, Or.inl rfl⟩
        rw [serve_same]
        exact taken
      · exact Or.inl (serve_other system world same)
  | enter who => exact Or.inl rfl
  | tell index oracle client query after located asking own told => exact Or.inl rfl
  | send index client query after message located asking idle sends world taken =>
      obtain ⟨target, origin⟩ := message
      by_cases same : peer = target
      · subst same
        refine Or.inr ⟨.start origin, ?_, Or.inr ⟨index, client, query, origin, after, rfl, located,
          asking, sends, rfl⟩⟩
        exact taken.trans (congrArg some (serve_same system peer world).symm)
      · exact Or.inl (serve_other system world same)
  | receive index client query after place result located asking waits ended => exact Or.inl rfl
  | lose index error client query after message located asking sends => exact Or.inl rfl

/-- Each engine of a run has gone through a run of its own, in which the clients
have started no calls but those they make. -/
theorem run_world {system last : clients.System} {labels : List clients.Label}
    (ran : Runs.run step system labels = some last) (peer : peers.Peer) :
    ∃ served, Engine.run (peers.body peer) (system.worlds peer) served = some (last.worlds peer) ∧
      ∀ label ∈ served, .serve peer label ∈ labels ∨
        ∃ who query origin, label = .start origin ∧
          clients.sends who query = some ⟨peer, origin⟩ := by
  induction labels generalizing system with
  | nil =>
      cases ran
      exact ⟨[], rfl, by simp⟩
  | cons label rest ih =>
      obtain ⟨next, stepped, ran⟩ := Option.bind_eq_some_iff.mp ran
      obtain ⟨served, reached, known⟩ := ih ran
      have later : ∀ own ∈ served, Label.serve peer own ∈ label :: rest ∨
          ∃ who query origin, own = .start origin ∧
            clients.sends who query = some ⟨peer, origin⟩ := fun own member =>
        (known own member).imp_left (List.mem_cons_of_mem label)
      rcases step_world stepped peer with same | ⟨own, taken, cause⟩
      · rw [same] at reached
        exact ⟨served, reached, later⟩
      · refine ⟨own :: served, ?_, ?_⟩
        · rw [Engine.run, taken, Option.bind_some]
          exact reached
        · intro other member
          rcases List.mem_cons.mp member with rfl | older
          · rcases cause with rfl | ⟨index, client, query, origin, after, _, _, _, sends, rfl⟩
            · exact Or.inl List.mem_cons_self
            · exact Or.inr ⟨client.who, query, origin, rfl, sends⟩
          · exact later other older

/-- What holds of every step of an engine is kept by every step of the system. -/
theorem world_invariant {peer : peers.Peer} {invariant : peers.World peer → Prop}
    {system next : clients.System} {label : clients.Label}
    (preserved : ∀ own world, Engine.step (peers.body peer) (system.worlds peer) own = some world →
      invariant world) (kept : invariant (system.worlds peer))
    (stepped : step system label = some next) : invariant (next.worlds peer) := by
  rcases step_world stepped peer with same | ⟨own, taken, _⟩
  · rw [same]
    exact kept
  · exact preserved own _ taken

/-! ### Calls -/

/-- The call at the place was made with the origin. -/
def System.Made (system : clients.System) (place : peers.Place) (origin : peers.Origin place.peer) :
    Prop :=
  ∃ call, (system.worlds place.peer).calls[place.index]? = some call ∧ call.origin = origin

/-- The call at the place was made with the origin and has ended with the result. -/
def System.Ended (system : clients.System) (place : peers.Place) (origin : peers.Origin place.peer)
    (result : peers.Result place.peer) : Prop :=
  ∃ call, (system.worlds place.peer).calls[place.index]? = some call ∧ call.origin = origin ∧
    call.phase = .ended result

theorem System.Ended.made {system : clients.System} {place : peers.Place}
    {origin : peers.Origin place.peer} {result : peers.Result place.peer}
    (ended : system.Ended place origin result) : system.Made place origin := by
  obtain ⟨call, located, made, _⟩ := ended
  exact ⟨call, located, made⟩

theorem ended_of_result {system : clients.System} {place : peers.Place}
    {origin : peers.Origin place.peer} {result : peers.Result place.peer}
    (made : system.Made place origin) (ended : system.result place = some result) :
    system.Ended place origin result := by
  obtain ⟨call, located, same⟩ := made
  simp only [System.result, located, Option.bind_some] at ended
  split at ended
  · rename_i phase
    cases ended
    exact ⟨call, located, same, phase⟩
  · cases ended

section Step

variable {system next : clients.System} {label : clients.Label}

theorem made_mono (stepped : step system label = some next) {place : peers.Place}
    {origin : peers.Origin place.peer} (made : system.Made place origin) :
    next.Made place origin := by
  obtain ⟨call, located, rfl⟩ := made
  rcases step_world stepped place.peer with same | ⟨own, taken, _⟩
  · exact ⟨call, by rw [same]; exact located, rfl⟩
  · obtain ⟨later, there, kept, _⟩ := Engine.step_grows _ taken located
    exact ⟨later, there, kept⟩

theorem ended_mono (stepped : step system label = some next) {place : peers.Place}
    {origin : peers.Origin place.peer} {result : peers.Result place.peer}
    (ended : system.Ended place origin result) : next.Ended place origin result := by
  obtain ⟨call, located, made, phase⟩ := ended
  rcases step_world stepped place.peer with same | ⟨own, taken, _⟩
  · exact ⟨call, by rw [same]; exact located, made, phase⟩
  · rcases Engine.step_advances _ taken located with
      still | ⟨_, _, _, _, running, _⟩ | ⟨_, _, _, running, _⟩ | ⟨_, _, _, running, _⟩
    · exact ⟨call, still, made, phase⟩
    · cases phase.symm.trans running
    · cases phase.symm.trans running
    · cases phase.symm.trans running

theorem length_mono (stepped : step system label = some next) (peer : peers.Peer) :
    (system.worlds peer).calls.length ≤ (next.worlds peer).calls.length := by
  rcases step_world stepped peer with same | ⟨own, taken, _⟩
  · rw [same]
  · by_contra shorter
    have bound : (next.worlds peer).calls.length < (system.worlds peer).calls.length := by omega
    obtain ⟨later, there, _⟩ := Engine.step_grows (peers.body peer) taken
      (List.getElem?_eq_getElem bound)
    exact absurd (List.getElem?_eq_some_iff.mp there).1 (lt_irrefl _)

/-! ### Clients -/

/-- What a step makes of one client. -/
inductive Moved (system next : clients.System) (label : clients.Label) (index : Nat)
    (client : clients.Client) : clients.Client → Prop
  | told (query : face.Query) (reply : face.Reply query)
      (after : face.Reply query → Program face clients.Value)
      (asking : client.program = .ask query after)
      (own : clients.sends client.who query = none)
      (possible : clients.tells client.who query reply = true) :
      Moved system next label index client (client.told query reply after none)
  | sent (query : face.Query) (after : face.Reply query → Program face clients.Value)
      (message : peers.Message) (asking : client.program = .ask query after)
      (idle : client.waiting = none) (sends : clients.sends client.who query = some message)
      (sending : label = .send index)
      (made : next.Made ⟨message.peer, (system.worlds message.peer).calls.length⟩ message.origin) :
      Moved system next label index client { client with
        waiting := some ⟨message.peer, (system.worlds message.peer).calls.length⟩ }
  | received (query : face.Query) (after : face.Reply query → Program face clients.Value)
      (place : peers.Place) (result : peers.Result place.peer)
      (asking : client.program = .ask query after) (waits : client.waiting = some place)
      (ended : system.result place = some result) :
      Moved system next label index client (client.told query
        (clients.receives client.who query place.peer result) after (some place))
  | lost (query : face.Query) (after : face.Reply query → Program face clients.Value)
      (message : peers.Message) (error : face.Error) (asking : client.program = .ask query after)
      (sends : clients.sends client.who query = some message) :
      Moved system next label index client (client.told query (.error error) after none)

theorem Moved.who {index : Nat} {client later : clients.Client}
    (moved : Moved system next label index client later) : later.who = client.who := by
  cases moved <;> rfl

/-- Every client of the next system is an old one, a new one, or the one that steps. -/
theorem step_client (stepped : step system label = some next) {index : Nat}
    {later : clients.Client} (located : next.clients[index]? = some later) :
    system.clients[index]? = some later ∨
    (index = system.clients.length ∧ later = ⟨later.who, [], clients.body later.who, none⟩) ∨
    ∃ client, system.clients[index]? = some client ∧
      Moved system next label index client later := by
  have stepping {target : Nat} {client changed : clients.Client}
      (there : system.clients[target]? = some client)
      (found : (system.clients.set target changed)[index]? = some later)
      (moved : Moved system next label target client changed) :
      system.clients[index]? = some later ∨
        ∃ client, system.clients[index]? = some client ∧
          Moved system next label index client later := by
    by_cases same : target = index
    · subst same
      rw [List.getElem?_set_self (List.getElem?_eq_some_iff.mp there).1] at found
      cases found
      exact Or.inr ⟨client, there, moved⟩
    · rw [List.getElem?_set_ne same] at found
      exact Or.inl found
  cases step_cases stepped with
  | serve served own world taken => exact Or.inl located
  | enter who =>
      rcases Nat.lt_or_ge index system.clients.length with within | beyond
      · rw [List.getElem?_append_left within] at located
        exact Or.inl located
      · rw [List.getElem?_append_right beyond, List.getElem?_singleton] at located
        split at located
        · cases located
          exact Or.inr (Or.inl ⟨by omega, rfl⟩)
        · cases located
  | tell target oracle client query after there asking own told =>
      exact (stepping there located (.told query _ after asking own told)).imp_right Or.inr
  | send target client query after message there asking idle sends world taken =>
      refine (stepping there located (.sent query after message asking idle sends rfl ?_)).imp_right
        Or.inr
      refine ⟨⟨message.origin, [], .running (peers.body message.peer message.origin)⟩, ?_, rfl⟩
      rw [← Option.some.inj taken]
      simp only [System.set, serve_same, List.getElem?_concat_length]
  | receive target client query after place result there asking waits ended =>
      exact (stepping there located (.received query after place result asking waits ended)).imp_right
        Or.inr
  | lose target error client query after message there asking sends =>
      exact (stepping there located (.lost query after message error asking sends)).imp_right Or.inr

end Step

/-! ### What clients were told -/

/-- The event is an answer of the surroundings, the end of the call that the
question has made, or the loss of an answer. -/
inductive Heard (system : clients.System) (who : clients.Who) :
    Event face (Option peers.Place) → Prop
  | told (query : face.Query) (reply : face.Reply query) (own : clients.sends who query = none)
      (possible : clients.tells who query reply = true) : Heard system who ⟨query, reply, none⟩
  | received (query : face.Query) (place : peers.Place) (origin : peers.Origin place.peer)
      (result : peers.Result place.peer)
      (sends : clients.sends who query = some ⟨place.peer, origin⟩)
      (ended : system.Ended place origin result) :
      Heard system who ⟨query, clients.receives who query place.peer result, some place⟩
  | lost (query : face.Query) (message : peers.Message) (error : face.Error)
      (sends : clients.sends who query = some message) : Heard system who ⟨query, .error error, none⟩

theorem heard_cases {system : clients.System} {who : clients.Who}
    {event : Event face (Option peers.Place)} (heard : Heard system who event) :
    (clients.sends who event.query = none ∧ clients.tells who event.query event.reply = true) ∨
    (∃ place origin result, clients.sends who event.query = some ⟨place.peer, origin⟩ ∧
      system.Ended place origin result ∧ event.stamp = some place ∧
      event.reply = clients.receives who event.query place.peer result) ∨
    ∃ message error, clients.sends who event.query = some message ∧ event.reply = .error error := by
  cases heard with
  | told query reply own possible => exact Or.inl ⟨own, possible⟩
  | received query place origin result sends ended =>
      exact Or.inr (Or.inl ⟨place, origin, result, sends, ended, rfl, rfl⟩)
  | lost query message error sends => exact Or.inr (Or.inr ⟨message, error, sends, rfl⟩)

/-- The client waits for a call that it has made with its question. -/
def System.Waits (system : clients.System) (client : clients.Client) : Prop :=
  ∀ place, client.waiting = some place → ∃ query after origin,
    client.program = .ask query after ∧
      clients.sends client.who query = some ⟨place.peer, origin⟩ ∧ system.Made place origin

/-- Where the calls are that the client has heard of or waits for. -/
def Client.places (client : clients.Client) : List peers.Place :=
  client.waiting.toList ++ client.trace.filterMap Event.stamp

/-- All that the clients know comes from calls of their own. -/
structure System.Genuine (system : clients.System) : Prop where
  heard : ∀ (index : Nat) (client : clients.Client), system.clients[index]? = some client →
    ∀ event ∈ client.trace, Heard system client.who event
  waits : ∀ (index : Nat) (client : clients.Client), system.clients[index]? = some client →
    system.Waits client
  known : ∀ (index : Nat) (client : clients.Client), system.clients[index]? = some client →
    ∀ place ∈ client.places, place.index < (system.worlds place.peer).calls.length
  once : ∀ (index : Nat) (client : clients.Client), system.clients[index]? = some client →
    client.places.Nodup
  apart : ∀ (left right : Nat) (one other : clients.Client), system.clients[left]? = some one →
    system.clients[right]? = some other → ∀ place ∈ one.places, place ∈ other.places → left = right

theorem heard_mono {system next : clients.System} {label : clients.Label}
    (stepped : step system label = some next) {who : clients.Who}
    {event : Event face (Option peers.Place)} (heard : Heard system who event) :
    Heard next who event := by
  cases heard with
  | told query reply own possible => exact .told query reply own possible
  | received query place origin result sends ended =>
      exact .received query place origin result sends (ended_mono stepped ended)
  | lost query message error sends => exact .lost query message error sends

/-- The places of a client after a step are those it had, or one more for a new call. -/
theorem moved_places {system next : clients.System} {label : clients.Label} {index : Nat}
    {client later : clients.Client} (moved : Moved system next label index client later) :
    later.places.Sublist client.places ∨
    ∃ message : peers.Message, label = .send index ∧ later.places =
        ⟨message.peer, (system.worlds message.peer).calls.length⟩ :: client.places ∧
      next.Made ⟨message.peer, (system.worlds message.peer).calls.length⟩ message.origin := by
  cases moved with
  | told query reply after asking own possible =>
      exact Or.inl (List.sublist_append_right _ _)
  | sent query after message asking idle sends sending made =>
      refine Or.inr ⟨message, sending, ?_, made⟩
      simp only [Client.places, idle, Option.toList_none, Option.toList_some, List.nil_append,
        List.singleton_append]
  | received query after place result asking waits ended =>
      refine Or.inl ?_
      simp only [Client.places, Client.told, waits, Option.toList_none, Option.toList_some,
        List.nil_append, List.singleton_append, List.filterMap_cons]
      exact List.Sublist.refl _
  | lost query after message error asking sends =>
      exact Or.inl (List.sublist_append_right _ _)

theorem known_step {system next : clients.System} {label : clients.Label}
    (genuine : system.Genuine) (stepped : step system label = some next) (index : Nat)
    (later : clients.Client) (located : next.clients[index]? = some later) :
    ∀ place ∈ later.places, place.index < (next.worlds place.peer).calls.length := by
  intro place member
  rcases step_client stepped located with old | ⟨_, new⟩ | ⟨client, there, moved⟩
  · exact lt_of_lt_of_le (genuine.known index later old place member) (length_mono stepped place.peer)
  · rw [new] at member
    cases member
  · rcases moved_places moved with sublist | ⟨message, _, places, call, made, _⟩
    · exact lt_of_lt_of_le (genuine.known index client there place (sublist.subset member))
        (length_mono stepped place.peer)
    · rw [places] at member
      rcases List.mem_cons.mp member with rfl | older
      · exact (List.getElem?_eq_some_iff.mp made).1
      · exact lt_of_lt_of_le (genuine.known index client there place older)
          (length_mono stepped place.peer)

theorem once_step {system next : clients.System} {label : clients.Label}
    (genuine : system.Genuine) (stepped : step system label = some next) (index : Nat)
    (later : clients.Client) (located : next.clients[index]? = some later) :
    later.places.Nodup := by
  rcases step_client stepped located with old | ⟨_, new⟩ | ⟨client, there, moved⟩
  · exact genuine.once index later old
  · rw [new]
    exact List.nodup_nil
  · rcases moved_places moved with sublist | ⟨message, _, places, _⟩
    · exact (genuine.once index client there).sublist sublist
    · rw [places, List.nodup_cons]
      refine ⟨fun member => ?_, genuine.once index client there⟩
      exact absurd (genuine.known index client there _ member) (lt_irrefl _)

/-- A place of a client was one of its places before the step, or is the call that the
step makes. -/
theorem places_before {system next : clients.System} {label : clients.Label}
    (stepped : step system label = some next) {index : Nat} {later : clients.Client}
    (located : next.clients[index]? = some later) {place : peers.Place}
    (member : place ∈ later.places) :
    (∃ client, system.clients[index]? = some client ∧ place ∈ client.places) ∨
      (label = .send index ∧ place.index = (system.worlds place.peer).calls.length) := by
  rcases step_client stepped located with old | ⟨_, new⟩ | ⟨client, there, moved⟩
  · exact Or.inl ⟨later, old, member⟩
  · rw [new] at member
    cases member
  · rcases moved_places moved with sublist | ⟨message, sending, places, _⟩
    · exact Or.inl ⟨client, there, sublist.subset member⟩
    · rw [places] at member
      rcases List.mem_cons.mp member with rfl | older
      · exact Or.inr ⟨sending, rfl⟩
      · exact Or.inl ⟨client, there, older⟩

theorem apart_step {system next : clients.System} {label : clients.Label}
    (genuine : system.Genuine) (stepped : step system label = some next) (left right : Nat)
    (one other : clients.Client) (leftAt : next.clients[left]? = some one)
    (rightAt : next.clients[right]? = some other) :
    ∀ place ∈ one.places, place ∈ other.places → left = right := by
  intro place member shared
  rcases places_before stepped leftAt member with ⟨old, there, held⟩ | ⟨sending, fresh⟩
  · rcases places_before stepped rightAt shared with ⟨older, there', held'⟩ | ⟨_, fresh⟩
    · exact genuine.apart left right old older there there' place held held'
    · have known := genuine.known left old there place held
      omega
  · rcases places_before stepped rightAt shared with ⟨older, there', held'⟩ | ⟨sending', _⟩
    · have known := genuine.known right older there' place held'
      omega
    · rw [sending] at sending'
      cases sending'
      rfl

theorem heard_step {system next : clients.System} {label : clients.Label}
    (genuine : system.Genuine) (stepped : step system label = some next) (index : Nat)
    (later : clients.Client) (located : next.clients[index]? = some later) :
    ∀ event ∈ later.trace, Heard next later.who event := by
  intro event member
  have kept (client : clients.Client) (there : system.clients[index]? = some client)
      (older : event ∈ client.trace) : Heard next client.who event :=
    heard_mono stepped (genuine.heard index client there event older)
  rcases step_client stepped located with old | ⟨_, new⟩ | ⟨client, there, moved⟩
  · exact kept later old member
  · rw [new] at member
    cases member
  · cases moved with
    | told query reply after asking own possible =>
        rcases List.mem_cons.mp member with rfl | older
        · exact .told query reply own possible
        · exact kept client there older
    | sent query after message asking idle sends sending made => exact kept client there member
    | received query after place result asking waits ended =>
        rcases List.mem_cons.mp member with rfl | older
        · obtain ⟨other, rest, origin, asks, sends, made⟩ :=
            genuine.waits index client there place waits
          rw [asking] at asks
          cases asks
          exact .received query place origin result sends
            (ended_mono stepped (ended_of_result made ended))
        · exact kept client there older
    | lost query after message error asking sends =>
        rcases List.mem_cons.mp member with rfl | older
        · exact .lost query message error sends
        · exact kept client there older

theorem waits_step {system next : clients.System} {label : clients.Label}
    (genuine : system.Genuine) (stepped : step system label = some next) (index : Nat)
    (later : clients.Client) (located : next.clients[index]? = some later) : next.Waits later := by
  intro place waiting
  rcases step_client stepped located with old | ⟨_, new⟩ | ⟨client, there, moved⟩
  · obtain ⟨query, after, origin, asking, sends, made⟩ :=
      genuine.waits index later old place waiting
    exact ⟨query, after, origin, asking, sends, made_mono stepped made⟩
  · rw [new] at waiting
    cases waiting
  · cases moved with
    | sent query after message asking idle sends sending made =>
        cases waiting
        exact ⟨query, after, message.origin, asking, sends, made⟩
    | told query reply after asking own possible => cases waiting
    | received query after place result asking waits ended => cases waiting
    | lost query after message error asking sends => cases waiting

theorem genuine_step {system next : clients.System} {label : clients.Label}
    (genuine : system.Genuine) (stepped : step system label = some next) : next.Genuine :=
  { heard := heard_step genuine stepped
    waits := waits_step genuine stepped
    known := known_step genuine stepped
    once := once_step genuine stepped
    apart := apart_step genuine stepped }

/-! ### What clients ask -/

/-- The client has kept to the rule of its kind, and so does all that it can still do. -/
def Client.Disciplined
    (allowed : clients.Who → Trace face (Option peers.Place) → face.Query → Prop)
    (ends : clients.Who → Trace face (Option peers.Place) → Except face.Error clients.Value → Prop)
    (client : clients.Client) : Prop :=
  Honours (allowed client.who) client.trace ∧
    client.program.Follows (allowed client.who) (ends client.who) client.trace

def System.Disciplined
    (allowed : clients.Who → Trace face (Option peers.Place) → face.Query → Prop)
    (ends : clients.Who → Trace face (Option peers.Place) → Except face.Error clients.Value → Prop)
    (system : clients.System) : Prop :=
  ∀ (index : Nat) (client : clients.Client), system.clients[index]? = some client →
    client.Disciplined allowed ends

theorem disciplined_step
    {allowed : clients.Who → Trace face (Option peers.Place) → face.Query → Prop}
    {ends : clients.Who → Trace face (Option peers.Place) → Except face.Error clients.Value → Prop}
    (bodies : ∀ who, (clients.body who).Follows (allowed who) (ends who) [])
    {system next : clients.System} {label : clients.Label}
    (disciplined : system.Disciplined allowed ends) (stepped : step system label = some next) :
    next.Disciplined allowed ends := by
  intro index later located
  have goes {client : clients.Client} (there : system.clients[index]? = some client)
      {query : face.Query} {after : face.Reply query → Program face clients.Value}
      (asking : client.program = .ask query after) (reply : face.Reply query)
      (place : Option peers.Place) :
      (client.told query reply after place).Disciplined allowed ends := by
    have before := disciplined index client there
    rw [Client.Disciplined, asking] at before
    exact ⟨⟨before.2.1, before.1⟩, before.2.2 reply place⟩
  rcases step_client stepped located with old | ⟨_, new⟩ | ⟨client, there, moved⟩
  · exact disciplined index later old
  · rw [new]
    exact ⟨trivial, bodies later.who⟩
  · cases moved with
    | told query reply after asking own possible => exact goes there asking reply none
    | sent query after message asking idle sends sending made => exact disciplined index client there
    | received query after place result asking waits ended => exact goes there asking _ (some place)
    | lost query after message error asking sends => exact goes there asking _ none

/-! ### Runs -/

/-- Engines on which no client has worked yet. -/
def opened (worlds : (peer : peers.Peer) → peers.World peer) : clients.System := ⟨worlds, []⟩

variable {worlds : (peer : peers.Peer) → peers.World peer} {last : clients.System}
  {labels : List clients.Label}

theorem run_genuine (ran : Runs.run step (opened worlds) labels = some last) : last.Genuine := by
  have preserved (system : clients.System) (label : clients.Label) (next : clients.System)
      (genuine : system.Genuine) (_ : True) (stepped : step system label = some next) :
      next.Genuine := genuine_step genuine stepped
  refine Runs.run_invariant preserved ?_ (Runs.along_members (fun _ _ _ => trivial) _) ran
  exact ⟨by simp [opened], by simp [opened], by simp [opened], by simp [opened], by simp [opened]⟩

theorem run_disciplined
    {allowed : clients.Who → Trace face (Option peers.Place) → face.Query → Prop}
    {ends : clients.Who → Trace face (Option peers.Place) → Except face.Error clients.Value → Prop}
    (bodies : ∀ who, (clients.body who).Follows (allowed who) (ends who) [])
    (ran : Runs.run step (opened worlds) labels = some last) (index : Nat)
    (client : clients.Client) (located : last.clients[index]? = some client) :
    client.Disciplined allowed ends := by
  have preserved (system : clients.System) (label : clients.Label) (next : clients.System)
      (disciplined : system.Disciplined allowed ends) (_ : True)
      (stepped : step system label = some next) : next.Disciplined allowed ends :=
    disciplined_step bodies disciplined stepped
  refine Runs.run_invariant preserved ?_ (Runs.along_members (fun _ _ _ => trivial) _) ran index
    client located
  simp [System.Disciplined, opened]

/-! ### Who has made a call -/

/-- A question of a client, with all that came before it. -/
structure Sender (face : Interface) (peers : Peers) where
  index : Nat
  query : face.Query
  trace : Trace face (Option peers.Place)

/-- The client waits for the call that the question has made, or has gone on from it. -/
def Client.Through (client : clients.Client) (place : peers.Place) (sender : Sender face peers) :
    Prop :=
  (client.waiting = some place ∧ client.trace = sender.trace ∧
    ∃ after, client.program = .ask sender.query after) ∨
  ∃ reply stamp, ⟨sender.query, reply, stamp⟩ :: sender.trace <:+ client.trace

/-- The calls of the engines with the clients that have made them: each question makes one, and
the others are foreign. -/
structure System.Attribution
    (allowed : clients.Who → Trace face (Option peers.Place) → face.Query → Prop)
    (foreign : (peer : peers.Peer) → peers.Origin peer → Prop) (system : clients.System) where
  sender : peers.Place → Option (Sender face peers)
  known : ∀ place one, sender place = some one →
    place.index < (system.worlds place.peer).calls.length
  distinct : ∀ left right one, sender left = some one → sender right = some one → left = right
  through : ∀ place one, sender place = some one → ∃ client,
    system.clients[one.index]? = some client ∧ client.Through place one
  made : ∀ (place : peers.Place) (call : peers.Call place.peer),
    (system.worlds place.peer).calls[place.index]? = some call →
      foreign place.peer call.origin ∨ ∃ one client, sender place = some one ∧
        system.clients[one.index]? = some client ∧
        clients.sends client.who one.query = some ⟨place.peer, call.origin⟩ ∧
        allowed client.who one.trace one.query

section Attribution

variable {allowed : clients.Who → Trace face (Option peers.Place) → face.Query → Prop}
  {foreign : (peer : peers.Peer) → peers.Origin peer → Prop} {system next : clients.System}
  {label : clients.Label}

/-- A client stays, or moves. -/
theorem client_forward (stepped : step system label = some next) {index : Nat}
    {client : clients.Client} (located : system.clients[index]? = some client) :
    ∃ later, next.clients[index]? = some later ∧ later.who = client.who ∧
      (later = client ∨ Moved system next label index client later) := by
  have within := (List.getElem?_eq_some_iff.mp located).1
  have longer : system.clients.length ≤ next.clients.length := by
    cases step_cases stepped with
    | serve => exact le_refl _
    | enter => simp
    | _ => simp [System.set, System.serve]
  have there := List.getElem?_eq_getElem (lt_of_lt_of_le within longer)
  refine ⟨_, there, ?_⟩
  rcases step_client stepped there with old | ⟨fresh, _⟩ | ⟨before, same, moved⟩
  · rw [located] at old
    have same := Option.some.inj old
    rw [← same]
    exact ⟨rfl, Or.inl rfl⟩
  · omega
  · rw [located] at same
    cases same
    exact ⟨moved.who, Or.inr moved⟩

theorem through_moved {index : Nat} {client later : clients.Client} {place : peers.Place}
    {one : Sender face peers} (moved : Moved system next label index client later)
    (through : client.Through place one) : later.Through place one := by
  have goes {query : face.Query} {after : face.Reply query → Program face clients.Value}
      (asking : client.program = .ask query after) (reply : face.Reply query)
      (stamp : Option peers.Place) : (client.told query reply after stamp).Through place one := by
    rcases through with ⟨_, same, other, asks⟩ | ⟨replied, at_, suffix⟩
    · rw [asking] at asks
      cases asks
      refine Or.inr ⟨reply, stamp, ?_⟩
      rw [← same]
      exact List.suffix_refl _
    · exact Or.inr ⟨replied, at_, suffix.trans (List.suffix_cons _ _)⟩
  cases moved with
  | told query reply after asking own possible => exact goes asking reply none
  | sent query after message asking idle sends sending made =>
      rcases through with ⟨waits, _⟩ | gone
      · cases idle.symm.trans waits
      · exact Or.inr gone
  | received query after at_ result asking waits ended => exact goes asking _ (some at_)
  | lost query after message error asking sends => exact goes asking _ none

theorem through_step (stepped : step system label = some next) {place : peers.Place}
    {one : Sender face peers} (through : ∃ client, system.clients[one.index]? = some client ∧
      client.Through place one) :
    ∃ client, next.clients[one.index]? = some client ∧ client.Through place one := by
  obtain ⟨client, located, passed⟩ := through
  obtain ⟨later, there, _, rfl | moved⟩ := client_forward stepped located
  · exact ⟨_, there, passed⟩
  · exact ⟨later, there, through_moved moved passed⟩

/-- A call was there before, or someone else starts it, or the client that sends does. -/
theorem call_before (stepped : step system label = some next) {place : peers.Place}
    {call : peers.Call place.peer}
    (located : (next.worlds place.peer).calls[place.index]? = some call) :
    (∃ before, (system.worlds place.peer).calls[place.index]? = some before ∧
      before.origin = call.origin) ∨
    label = .serve place.peer (.start call.origin) ∨
    (place.index = (system.worlds place.peer).calls.length ∧ ∃ index client query after,
      label = .send index ∧ system.clients[index]? = some client ∧
      client.program = .ask query after ∧
      clients.sends client.who query = some ⟨place.peer, call.origin⟩) := by
  rcases step_world stepped place.peer with same | ⟨own, taken, cause⟩
  · rw [same] at located
    exact Or.inl ⟨call, located, rfl⟩
  · rcases Engine.step_call _ taken located with old | ⟨fresh, starts, _⟩ | ⟨before, there, moved⟩
    · exact Or.inl ⟨call, old, rfl⟩
    · rcases cause with serving | ⟨index, client, query, origin, after, sending, there, asking, sends,
        same⟩
      · rw [serving, starts]
        exact Or.inr (Or.inl rfl)
      · rw [starts] at same
        cases same
        exact Or.inr (Or.inr ⟨fresh, index, client, query, after, sending, there, asking, sends⟩)
    · refine Or.inl ⟨before, there, ?_⟩
      rcases moved with ⟨_, _, _, _, _, _, _, _, _, rfl⟩ | ⟨_, _, _, rfl⟩ | ⟨_, _, _, rfl⟩
      · rfl
      · rfl
      · rfl

theorem attribution_step (attribution : system.Attribution allowed foreign)
    (asks : ∀ (index : Nat) (client : clients.Client) (query : face.Query)
      (after : face.Reply query → Program face clients.Value),
      system.clients[index]? = some client → client.program = .ask query after →
        allowed client.who client.trace query)
    (outside : ∀ peer origin, label = .serve peer (.start origin) → foreign peer origin)
    (stepped : step system label = some next) : Nonempty (next.Attribution allowed foreign) := by
  have kept (place : peers.Place) (one : Sender face peers)
      (given : attribution.sender place = some one) :
      place.index < (next.worlds place.peer).calls.length :=
    lt_of_lt_of_le (attribution.known place one given) (length_mono stepped place.peer)
  have old {place : peers.Place} {call before : peers.Call place.peer}
      (there : (system.worlds place.peer).calls[place.index]? = some before)
      (same : before.origin = call.origin) :
      foreign place.peer call.origin ∨ ∃ one later, attribution.sender place = some one ∧
        next.clients[one.index]? = some later ∧
        clients.sends later.who one.query = some ⟨place.peer, call.origin⟩ ∧
        allowed later.who one.trace one.query := by
    rw [← same]
    rcases attribution.made place before there with
      strange | ⟨one, client, given, located, sends, permitted⟩
    · exact Or.inl strange
    · obtain ⟨later, found, who, _⟩ := client_forward stepped located
      rw [← who] at sends permitted
      exact Or.inr ⟨one, later, given, found, sends, permitted⟩
  by_cases sending : ∃ index, label = .send index
  · obtain ⟨index, rfl⟩ := sending
    cases step_cases stepped with
    | send _ client query after message located asking idle sends world taken =>
      classical
      -- The call is new, so it has no sender yet, and its question has made no other.
      let place : peers.Place := ⟨message.peer, (system.worlds message.peer).calls.length⟩
      let newest : Sender face peers := ⟨index, query, client.trace⟩
      let sender (other : peers.Place) : Option (Sender face peers) :=
        if other = place then some newest else attribution.sender other
      have unsent (other : peers.Place) : attribution.sender other ≠ some newest := by
        intro given
        obtain ⟨one, there, waits | ⟨reply, stamp, longer⟩⟩ := attribution.through other newest given
        · rw [located] at there
          cases there
          cases idle.symm.trans waits.1
        · rw [located] at there
          cases there
          have lengths := longer.length_le
          simp only [newest, List.length_cons] at lengths
          omega
      have sent {other : peers.Place} {one : Sender face peers} (given : sender other = some one) :
          (other = place ∧ one = newest) ∨ attribution.sender other = some one := by
        by_cases same : other = place
        · simp only [sender, if_pos same, Option.some.injEq] at given
          exact Or.inl ⟨same, given.symm⟩
        · simp only [sender, if_neg same] at given
          exact Or.inr given
      obtain ⟨later, there, who, moved⟩ := client_forward stepped located
      have waiting : later = { client with waiting := some place } := by
        have found := List.getElem?_set_self (a := { client with waiting := some place })
          (List.getElem?_eq_some_iff.mp located).1
        exact Option.some.inj (there.symm.trans found)
      refine ⟨{
        sender := sender
        known := fun other one given => ?_
        distinct := fun left right one leftGiven rightGiven => ?_
        through := fun other one given => ?_
        made := fun other call called => ?_ }⟩
      · rcases sent given with ⟨rfl, _⟩ | before
        · have started : (((system.serve message.peer world).set index
              { client with waiting := some place }).worlds message.peer).calls[(system.worlds
                message.peer).calls.length]? =
              some ⟨message.origin, [], .running (peers.body message.peer message.origin)⟩ := by
            rw [← Option.some.inj taken]
            simp only [System.set, serve_same, List.getElem?_concat_length]
          exact (List.getElem?_eq_some_iff.mp started).1
        · exact kept other one before
      · rcases sent leftGiven with ⟨leftSame, rfl⟩ | leftBefore
        · rcases sent rightGiven with ⟨rightSame, _⟩ | rightBefore
          · exact leftSame.trans rightSame.symm
          · exact absurd rightBefore (unsent right)
        · rcases sent rightGiven with ⟨_, rfl⟩ | rightBefore
          · exact absurd leftBefore (unsent left)
          · exact attribution.distinct left right one leftBefore rightBefore
      · rcases sent given with ⟨rfl, rfl⟩ | before
        · refine ⟨later, there, Or.inl ?_⟩
          rw [waiting]
          exact ⟨rfl, rfl, after, asking⟩
        · exact through_step stepped (attribution.through other one before)
      · rcases call_before stepped called with ⟨before, found, same⟩ | serving |
          ⟨fresh, _, _, _, _, sending, here, asks_, target⟩
        · refine (old found same).imp_right ?_
          rintro ⟨one, holder, given, rest⟩
          refine ⟨one, holder, ?_, rest⟩
          have apart : other ≠ place := by
            rintro rfl
            exact absurd (List.getElem?_eq_some_iff.mp found).1 (lt_irrefl _)
          simp only [sender, if_neg apart]
          exact given
        · cases serving
        · cases sending
          rw [located] at here
          cases here
          rw [asking] at asks_
          cases asks_
          have same : other = place := by
            rw [sends] at target
            obtain ⟨peer, number⟩ := other
            cases target
            exact congrArg _ fresh
          refine Or.inr ⟨newest, later, if_pos same, there, ?_, ?_⟩
          · rw [who]
            exact target
          · rw [who]
            exact asks index client query after located asking
  · refine ⟨{
      sender := attribution.sender
      known := kept
      distinct := attribution.distinct
      through := fun place one given => through_step stepped (attribution.through place one given)
      made := ?_ }⟩
    intro place call located
    rcases call_before stepped located with ⟨before, there, same⟩ | serving |
      ⟨_, index, _, _, _, sent, _⟩
    · exact old there same
    · exact Or.inl (outside _ _ serving)
    · exact absurd ⟨index, sent⟩ sending

end Attribution

/-- In a run in which others start only foreign calls, every other call is the one of a question
that its client was allowed. -/
theorem run_attribution
    {allowed : clients.Who → Trace face (Option peers.Place) → face.Query → Prop}
    {ends : clients.Who → Trace face (Option peers.Place) → Except face.Error clients.Value → Prop}
    {foreign : (peer : peers.Peer) → peers.Origin peer → Prop}
    (bodies : ∀ who, (clients.body who).Follows (allowed who) (ends who) [])
    (empty : ∀ peer, (worlds peer).calls = [])
    (outside : ∀ label ∈ labels, ∀ peer origin, label = .serve peer (.start origin) →
      foreign peer origin)
    (ran : Runs.run step (opened worlds) labels = some last) :
    Nonempty (last.Attribution allowed foreign) := by
  have preserved (system : clients.System) (label : clients.Label) (next : clients.System)
      (holds : system.Disciplined allowed ends ∧ Nonempty (system.Attribution allowed foreign))
      (known : ∀ peer origin, label = .serve peer (.start origin) → foreign peer origin)
      (stepped : step system label = some next) :
      next.Disciplined allowed ends ∧ Nonempty (next.Attribution allowed foreign) := by
    obtain ⟨disciplined, ⟨attribution⟩⟩ := holds
    refine ⟨disciplined_step bodies disciplined stepped, ?_⟩
    refine attribution_step attribution (fun index client query after located asking => ?_) known
      stepped
    have follows := (disciplined index client located).2
    rw [asking] at follows
    exact follows.1
  have along : Runs.Along step
      (fun _ label => ∀ peer origin, label = .serve peer (.start origin) → foreign peer origin)
      (opened worlds) labels :=
    Runs.along_members (fun label member _ => outside label member) _
  refine (Runs.run_invariant preserved ⟨?_, ⟨?_⟩⟩ along ran).2
  · simp [System.Disciplined, opened]
  · exact {
      sender := fun _ => none
      known := by simp
      distinct := by simp
      through := by simp
      made := by
        intro place call located
        have none := empty place.peer
        simp only [opened, none] at located
        cases located }

/-! ### Looking at one client -/

/-- The run goes through, and the client at the index shows this. -/
def showing (worlds : (peer : peers.Peer) → peers.World peer) (labels : List clients.Label)
    (index : Nat) (shown : clients.Client → Bool) : Bool :=
  ((Runs.run step (opened worlds) labels).bind fun system => system.clients[index]?).any shown

theorem showing_client {worlds : (peer : peers.Peer) → peers.World peer}
    {labels : List clients.Label} {index : Nat} {shown : clients.Client → Bool}
    (shows : showing worlds labels index shown = true) :
    ∃ system client, Runs.run step (opened worlds) labels = some system ∧
      system.clients[index]? = some client ∧ shown client = true := by
  obtain ⟨client, found, good⟩ := (Option.any_eq_true ..).mp shows
  obtain ⟨system, ran, located⟩ := Option.bind_eq_some_iff.mp found
  exact ⟨system, client, ran, located, good⟩

end Clients

end Interaction
