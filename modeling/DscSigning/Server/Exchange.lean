/-
Secrets exchanged for others, wherever the site keeps, generates or reads them.

Both engines of the site answer exchanged questions with exchanged replies; what
remains to show of an endpoint is that it asks them.
-/

import DscSigning.Library.Relabelling
import DscSigning.Server.SigningApi
import DscSigning.Server.AgentApi

namespace DscSigning

open Interaction

/-- Secrets that stand for each other. -/
structure Exchange where
  map : String → String
  twice : ∀ secret, map (map secret) = secret
  empty : map "" = ""

variable (swap : Exchange)

theorem Exchange.injective : Function.Injective swap.map :=
  Function.LeftInverse.injective swap.twice

theorem Exchange.map_empty {secret : String} : swap.map secret = "" ↔ secret = "" := by
  constructor
  · intro same
    rw [← swap.twice secret, same, swap.empty]
  · intro same
    rw [same, swap.empty]

def Exchange.text (text : Text) : Text := text.map swap.map

@[simp] theorem Exchange.text_twice (text : Text) : swap.text (swap.text text) = text := by
  cases text with
  | none => rfl
  | some secret => exact congrArg some (swap.twice secret)

@[simp] theorem Exchange.text_given (text : Text) : (swap.text text).given = text.given := by
  cases text with
  | none => rfl
  | some secret =>
      have same : swap.map secret = "" ↔ secret = "" := swap.map_empty
      by_cases empty : secret = ""
      · rw [empty, Exchange.text, Option.map_some, swap.empty]
      · have full : swap.map secret ≠ "" := fun other => empty (same.mp other)
        simp only [Exchange.text, Option.map_some, Text.given, bne, beq_eq_false_iff_ne.mpr full,
          beq_eq_false_iff_ne.mpr empty]

def secretBytes : Nat := 48

/-- A random token exchanged, if it is a secret. -/
def Exchange.token (bytes : Nat) (token : String) : String :=
  if bytes = secretBytes then swap.map token else token

@[simp] theorem Exchange.token_twice (bytes : Nat) (token : String) :
    swap.token bytes (swap.token bytes token) = token := by
  unfold Exchange.token
  split
  · exact swap.twice token
  · rfl

/-! ### The signing endpoints -/

def Settings.exchanged (settings : Settings) : Settings :=
  { settings with hmacSecret := swap.text settings.hmacSecret }

def Database.exchanged (database : Database) : Database :=
  { database with masters :=
    { database.masters with settings := database.masters.settings.exchanged swap } }

def Write.exchanged : Write → Write
  | .saveSecret secret => .saveSecret (swap.map secret)
  | write => write

def Operation.exchanged : Operation → Operation
  | .saveSecret secret => .saveSecret (swap.map secret)
  | operation => operation

theorem Operation.exchanged_answer (operation : Operation) :
    (operation.exchanged swap).Answer = operation.Answer := by
  cases operation <;> rfl

/-- The secrets in a reply exchanged. -/
def Operation.exchange : (operation : Operation) → face.Reply operation → face.Reply operation
  | .getSettings, reply => reply.map (Settings.exchanged swap)
  | .getPassword, reply => reply.map swap.text
  | .tokenUrlsafe bytes, reply => reply.map (swap.token bytes)
  | _, reply => reply

theorem Operation.exchange_twice (operation : Operation) (reply : face.Reply operation) :
    operation.exchange swap (operation.exchange swap reply) = reply := by
  cases reply with
  | error exn => cases operation <;> rfl
  | ok given =>
      cases operation with
      | getSettings =>
          exact congrArg (fun secret => Except.ok { given with hmacSecret := secret })
            (swap.text_twice given.hmacSecret)
      | getPassword => exact congrArg Except.ok (swap.text_twice given)
      | tokenUrlsafe bytes => exact congrArg Except.ok (swap.token_twice bytes given)
      | _ => rfl

def Oracle.exchanged (oracle : Oracle) : Oracle :=
  { oracle with given := fun operation =>
      match operation, oracle.given operation with
      | .tokenUrlsafe bytes, given => given.map (swap.token bytes)
      | _, given => given }

theorem reply_exchanged (oracle : Oracle) (view : Database) (shared : Shared)
    (operation : Operation) :
    reply (oracle.exchanged swap) (view.exchanged swap) shared operation =
      (reply oracle view shared operation).map fun told => (operation.exchange swap told.1, told.2) := by
  cases faulty : oracle.fault with
  | some exn =>
      simp only [reply, Oracle.exchanged, faulty, Option.map_some]
      cases operation <;> rfl
  | none =>
      simp only [reply, Oracle.exchanged, faulty]
      cases operation with
      | tokenUrlsafe bytes =>
          simp only [answer, Option.map_map]
          rfl
      | insertFile file =>
          simp only [answer]
          cases given : oracle.given (.insertFile file) with
          | none => rfl
          | some stored =>
              simp only
              split <;> rfl
      | uuid4 =>
          simp only [answer]
          cases given : oracle.given .uuid4 with
          | none => rfl
          | some sessionId =>
              simp only
              split <;> rfl
      | _ =>
          -- An answer from outside, if it is not one of the state.
          first
          | rfl
          | simp only [answer, Option.map_map]
            rfl

/-- The signing endpoints' surroundings with other secrets. -/
def exchange : site.Symmetry where
  query := Operation.exchanged swap
  forth := fun operation reply =>
    cast (congrArg (Except Exn) (operation.exchanged_answer swap).symm) (operation.exchange swap reply)
  back := fun operation reply =>
    operation.exchange swap (cast (congrArg (Except Exn) (operation.exchanged_answer swap)) reply)
  back_forth := by
    intro operation reply
    rw [cast_cast, cast_eq]
    exact operation.exchange_twice swap reply
  data := Database.exchanged swap
  shared := id
  oracle := Oracle.exchanged swap
  write := Write.exchanged swap
  performed := by
    intro before written
    cases written <;> rfl
  stamped := fun _ => rfl
  replied := by
    intro oracle view shared operation
    have exchanged := reply_exchanged swap oracle view shared operation
    cases operation <;> exact exchanged
  affected := by
    intro operation reply stamp
    cases reply <;> cases operation <;> rfl
  committed := by
    intro operation reply stamp
    cases reply <;> cases operation <;> rfl

end DscSigning

/-! ### The endpoints of the agent -/

namespace DscSigning.AgentApi

open Interaction

variable (swap : Exchange)

def Database.exchanged (database : Database) : Database :=
  { database with hmacSecret := swap.text database.hmacSecret }

def Write.exchanged : Write → Write
  | .saveSecret secret => .saveSecret (swap.map secret)
  | write => write

def Operation.exchanged : Operation → Operation
  | .saveSecret secret => .saveSecret (swap.map secret)
  | operation => operation

theorem Operation.exchanged_answer (operation : Operation) :
    (operation.exchanged swap).Answer = operation.Answer := by
  cases operation <;> rfl

def Operation.exchange : (operation : Operation) → face.Reply operation → face.Reply operation
  | .getPassword, reply => reply.map swap.text
  | .tokenUrlsafe bytes, reply => reply.map (swap.token bytes)
  | _, reply => reply

theorem Operation.exchange_twice (operation : Operation) (reply : face.Reply operation) :
    operation.exchange swap (operation.exchange swap reply) = reply := by
  cases reply with
  | error exn => cases operation <;> rfl
  | ok given =>
      cases operation with
      | getPassword => exact congrArg Except.ok (swap.text_twice given)
      | tokenUrlsafe bytes => exact congrArg Except.ok (swap.token_twice bytes given)
      | _ => rfl

/-- A name or a token as `issued` keeps it. -/
def issue : Option Nat × String → Option Nat × String
  | (some bytes, token) => (some bytes, swap.token bytes token)
  | (none, name) => (none, name)

theorem issue_twice (entry : Option Nat × String) : issue swap (issue swap entry) = entry := by
  obtain ⟨bytes, text⟩ := entry
  cases bytes with
  | none => rfl
  | some bytes => exact congrArg (Prod.mk (some bytes)) (swap.token_twice bytes text)

def Shared.exchanged (shared : Shared) : Shared :=
  { shared with issued := shared.issued.map (issue swap) }

def Oracle.exchanged (oracle : Oracle) : Oracle :=
  { oracle with token := fun bytes => swap.token bytes (oracle.token bytes) }

theorem issued_contains (shared : Shared) (entry : Option Nat × String) :
    (shared.exchanged swap).issued.contains (issue swap entry) = shared.issued.contains entry := by
  have injective : Function.Injective (issue swap) :=
    Function.LeftInverse.injective (issue_twice swap)
  rw [Bool.eq_iff_iff, List.contains_iff_mem, List.contains_iff_mem]
  exact List.mem_map_of_injective injective

theorem token_empty (bytes : Nat) (token : String) :
    (swap.token bytes token == "") = (token == "") := by
  have same : swap.map token = "" ↔ token = "" := swap.map_empty
  unfold Exchange.token
  split
  · rw [Bool.eq_iff_iff, beq_iff_eq, beq_iff_eq]
    exact same
  · rfl

theorem draw_token (shared : Shared) (bytes : Nat) (token : String) :
    draw (some bytes) (swap.token bytes token) (shared.exchanged swap) =
      (draw (some bytes) token shared).map fun drawn =>
        (drawn.1.map (swap.token bytes), drawn.2.exchanged swap) := by
  have contains := issued_contains swap shared (some bytes, token)
  simp only [issue] at contains
  unfold draw
  rw [contains, token_empty]
  split <;> rfl

theorem draw_name (shared : Shared) (name : String) :
    draw none name (shared.exchanged swap) =
      (draw none name shared).map fun drawn => (drawn.1, drawn.2.exchanged swap) := by
  have contains := issued_contains swap shared (none, name)
  simp only [issue] at contains
  unfold draw
  rw [contains]
  split <;> rfl

theorem reply_exchanged (oracle : Oracle) (view : Database) (shared : Shared)
    (operation : Operation) :
    reply (oracle.exchanged swap) (view.exchanged swap) (shared.exchanged swap) operation =
      (reply oracle view shared operation).map fun told =>
        (operation.exchange swap told.1, told.2.exchanged swap) := by
  cases faulty : oracle.fault with
  | some exn =>
      simp only [reply, Oracle.exchanged, faulty, Option.map_some]
      cases operation <;> rfl
  | none =>
      simp only [reply, Oracle.exchanged, faulty]
      cases operation with
      | tokenUrlsafe bytes => exact draw_token swap shared bytes _
      | insertRegistration row => exact draw_name swap shared _
      | secretGiven =>
          have given := swap.text_given view.hmacSecret
          simp only [answer, Database.exchanged, given]
          rfl
      | _ => rfl

/-- The surroundings of the agent's endpoints with other secrets. -/
def exchange : site.Symmetry where
  query := Operation.exchanged swap
  forth := fun operation reply =>
    cast (congrArg (Except Exn) (operation.exchanged_answer swap).symm) (operation.exchange swap reply)
  back := fun operation reply =>
    operation.exchange swap (cast (congrArg (Except Exn) (operation.exchanged_answer swap)) reply)
  back_forth := by
    intro operation reply
    rw [cast_cast, cast_eq]
    exact operation.exchange_twice swap reply
  data := Database.exchanged swap
  shared := Shared.exchanged swap
  oracle := Oracle.exchanged swap
  write := Write.exchanged swap
  performed := by
    intro before written
    cases written <;> rfl
  stamped := fun _ => rfl
  replied := by
    intro oracle view shared operation
    have exchanged := reply_exchanged swap oracle view shared operation
    cases operation <;> exact exchanged
  affected := by
    intro operation reply stamp
    cases reply <;> cases operation <;> rfl
  committed := by
    intro operation reply stamp
    cases reply <;> cases operation <;> rfl

end DscSigning.AgentApi
