/-
Programs that ask their surroundings questions, with exceptions.

A program is a value, a raised error, or a question together with what it does
for every reply.  A reply may itself be an error, so every question can fail.
An interface fixes the questions; nothing here knows what they mean.

The second half is a logic of traces: what a program may ask, given all that it
asked and was told before, without any knowledge of the state that replied.
-/

import Mathlib.Data.List.Infix

namespace Interaction

/-- The questions of a program, the answer each one expects, and the errors. -/
structure Interface where
  Query : Type
  Answer : Query → Type
  Error : Type

abbrev Interface.Reply (face : Interface) (query : face.Query) : Type :=
  Except face.Error (face.Answer query)

inductive Program (face : Interface) (Value : Type) where
  | done (value : Value)
  | fail (error : face.Error)
  | ask (query : face.Query) (next : face.Reply query → Program face Value)

namespace Program

variable {face : Interface} {Value Result : Type}

def bind : Program face Value → (Value → Program face Result) → Program face Result
  | .done value, next => next value
  | .fail error, _ => .fail error
  | .ask query after, next => .ask query (fun reply => (after reply).bind next)

/-- `try` with an `except` clause that catches every error. -/
def recover : Program face Value → (face.Error → Program face Value) → Program face Value
  | .done value, _ => .done value
  | .fail error, handler => handler error
  | .ask query after, handler => .ask query (fun reply => (after reply).recover handler)

/-- Ask one question; an error reply is raised. -/
def perform (query : face.Query) : Program face (face.Answer query) :=
  .ask query fun
    | .ok answer => .done answer
    | .error error => .fail error

instance : Monad (Program face) where
  pure := .done
  bind := .bind

def ofExcept : Except face.Error Value → Program face Value
  | .ok value => .done value
  | .error error => .fail error

def ofOption (value : Option Value) (error : face.Error) : Program face Value :=
  match value with
  | some value => .done value
  | none => .fail error

/-- Raise the error unless the condition holds. -/
def demand (condition : Bool) (error : face.Error) : Program face Unit :=
  if condition then .done () else .fail error

def forEach {Item : Type} : List Item → (Item → Program face Unit) → Program face Unit
  | [], _ => .done ()
  | item :: rest, body => (body item).bind fun _ => forEach rest body

@[simp] theorem pure_eq (value : Value) : (pure value : Program face Value) = .done value := rfl

@[simp] theorem bind_eq (program : Program face Value) (next : Value → Program face Result) :
    (program >>= next) = program.bind next := rfl

@[simp] theorem done_bind (value : Value) (next : Value → Program face Result) :
    (Program.done value : Program face Value).bind next = next value := rfl

@[simp] theorem fail_bind (error : face.Error) (next : Value → Program face Result) :
    (Program.fail error).bind next = .fail error := rfl

theorem bind_done (program : Program face Value) : program.bind .done = program := by
  induction program with
  | done value => rfl
  | fail error => rfl
  | ask query after ih =>
      simp only [bind]
      congr 1
      funext reply
      exact ih reply

theorem bind_assoc {Last : Type} (program : Program face Value)
    (next : Value → Program face Result) (last : Result → Program face Last) :
    (program.bind next).bind last = program.bind fun value => (next value).bind last := by
  induction program with
  | done value => rfl
  | fail error => rfl
  | ask query after ih =>
      simp only [bind]
      congr 1
      funext reply
      exact ih reply

end Program

/-! ### Traces -/

/-- One question, the reply it got and the moment it was asked. -/
structure Event (face : Interface) (Stamp : Type) where
  query : face.Query
  reply : face.Reply query
  stamp : Stamp

/-- What a program has asked and been told, newest first. -/
abbrev Trace (face : Interface) (Stamp : Type) : Type := List (Event face Stamp)

/-- Every question of the trace was allowed by what had happened before it. -/
def Honours {face : Interface} {Stamp : Type}
    (allowed : Trace face Stamp → face.Query → Prop) : Trace face Stamp → Prop
  | [] => True
  | event :: earlier => allowed earlier event.query ∧ Honours allowed earlier

/-- Questions that stay allowed are allowed wherever they were asked. -/
theorem Honours.of_mem {face : Interface} {Stamp : Type}
    {allowed : Trace face Stamp → face.Query → Prop} {trace : Trace face Stamp}
    (honours : Honours allowed trace) {event : Event face Stamp} (member : event ∈ trace) :
    ∃ earlier, event :: earlier <:+ trace ∧ allowed earlier event.query := by
  induction trace with
  | nil => cases member
  | cons head earlier ih =>
      rcases List.mem_cons.mp member with same | older
      · subst same
        exact ⟨earlier, List.suffix_refl _, honours.1⟩
      · obtain ⟨before, suffix, permitted⟩ := ih honours.2 older
        exact ⟨before, suffix.trans (List.suffix_cons head earlier), permitted⟩

theorem Honours.suffix {face : Interface} {Stamp : Type}
    {allowed : Trace face Stamp → face.Query → Prop} {trace earlier : Trace face Stamp}
    (honours : Honours allowed trace) (suffix : earlier <:+ trace) : Honours allowed earlier := by
  induction trace with
  | nil =>
      rw [List.suffix_nil.mp suffix]
      trivial
  | cons head rest ih =>
      rcases List.suffix_cons_iff.mp suffix with same | within
      · rw [same]
        exact honours
      · exact ih honours.2 within

/-- From `trace` on, the program asks only allowed questions, whatever it is
told, and every way it can end satisfies `ends`. -/
def Program.Follows {face : Interface} {Stamp Value : Type}
    (allowed : Trace face Stamp → face.Query → Prop)
    (ends : Trace face Stamp → Except face.Error Value → Prop) :
    Program face Value → Trace face Stamp → Prop
  | .done value, trace => ends trace (.ok value)
  | .fail error, trace => ends trace (.error error)
  | .ask query next, trace => allowed trace query ∧
      ∀ reply stamp, (next reply).Follows allowed ends (⟨query, reply, stamp⟩ :: trace)

namespace Program

variable {face : Interface} {Stamp Value Result : Type}
  {allowed : Trace face Stamp → face.Query → Prop}
  {ends : Trace face Stamp → Except face.Error Value → Prop}
  {settles : Trace face Stamp → Except face.Error Result → Prop}

theorem Follows.weaken {weaker : Trace face Stamp → Except face.Error Value → Prop}
    {program : Program face Value} {trace : Trace face Stamp}
    (follows : program.Follows allowed ends trace)
    (implied : ∀ later result, trace <:+ later → ends later result → weaker later result) :
    program.Follows allowed weaker trace := by
  induction program generalizing trace with
  | done value => exact implied trace _ (List.suffix_refl trace) follows
  | fail error => exact implied trace _ (List.suffix_refl trace) follows
  | ask query next ih =>
      refine ⟨follows.1, fun reply stamp => ih reply (follows.2 reply stamp) ?_⟩
      intro later result suffix ended
      exact implied later result ((List.suffix_cons _ trace).trans suffix) ended

/-- What a program leaves under another rule, it also leaves under this one. -/
theorem Follows.alongside {elsewhere : Trace face Stamp → face.Query → Prop}
    {others : Trace face Stamp → Except face.Error Value → Prop}
    {program : Program face Value} {trace : Trace face Stamp}
    (one : program.Follows allowed ends trace) (other : program.Follows elsewhere others trace) :
    program.Follows allowed (fun later result => ends later result ∧ others later result)
      trace := by
  induction program generalizing trace with
  | done value => exact ⟨one, other⟩
  | fail error => exact ⟨one, other⟩
  | ask query next ih =>
      exact ⟨one.1, fun reply stamp => ih reply (one.2 reply stamp) (other.2 reply stamp)⟩

theorem Follows.both {others : Trace face Stamp → Except face.Error Value → Prop}
    {program : Program face Value} {trace : Trace face Stamp}
    (one : program.Follows allowed ends trace) (other : program.Follows allowed others trace) :
    program.Follows allowed (fun later result => ends later result ∧ others later result)
      trace :=
  one.alongside other

theorem Follows.bind {program : Program face Value} {next : Value → Program face Result}
    {trace : Trace face Stamp} (first : program.Follows allowed ends trace)
    (onDone : ∀ later value, trace <:+ later → ends later (.ok value) →
      (next value).Follows allowed settles later)
    (onFail : ∀ later error, trace <:+ later → ends later (.error error) →
      settles later (.error error)) :
    (program.bind next).Follows allowed settles trace := by
  induction program generalizing trace with
  | done value => exact onDone trace value (List.suffix_refl trace) first
  | fail error => exact onFail trace error (List.suffix_refl trace) first
  | ask query after ih =>
      refine ⟨first.1, fun reply stamp => ih reply (first.2 reply stamp) ?_ ?_⟩
      · intro later value suffix ended
        exact onDone later value ((List.suffix_cons _ trace).trans suffix) ended
      · intro later error suffix ended
        exact onFail later error ((List.suffix_cons _ trace).trans suffix) ended

theorem Follows.recover {program : Program face Value}
    {handler : face.Error → Program face Value}
    {settles : Trace face Stamp → Except face.Error Value → Prop}
    {trace : Trace face Stamp} (first : program.Follows allowed ends trace)
    (onDone : ∀ later value, trace <:+ later → ends later (.ok value) →
      settles later (.ok value))
    (onFail : ∀ later error, trace <:+ later → ends later (.error error) →
      (handler error).Follows allowed settles later) :
    (program.recover handler).Follows allowed settles trace := by
  induction program generalizing trace with
  | done value => exact onDone trace value (List.suffix_refl trace) first
  | fail error => exact onFail trace error (List.suffix_refl trace) first
  | ask query after ih =>
      refine ⟨first.1, fun reply stamp => ih reply (first.2 reply stamp) ?_ ?_⟩
      · intro later value suffix ended
        exact onDone later value ((List.suffix_cons _ trace).trans suffix) ended
      · intro later error suffix ended
        exact onFail later error ((List.suffix_cons _ trace).trans suffix) ended

/-- One question at the head of a program: the usual step of a walk through it. -/
theorem Follows.perform {query : face.Query}
    {next : face.Answer query → Program face Result} {trace : Trace face Stamp}
    (permitted : allowed trace query)
    (onDone : ∀ answer stamp,
      (next answer).Follows allowed settles (⟨query, .ok answer, stamp⟩ :: trace))
    (onFail : ∀ error stamp, settles (⟨query, .error error, stamp⟩ :: trace) (.error error)) :
    ((Program.perform query).bind next).Follows allowed settles trace := by
  refine ⟨permitted, fun reply stamp => ?_⟩
  cases reply with
  | ok answer => exact onDone answer stamp
  | error error => exact onFail error stamp

theorem Follows.ofExcept {result : Except face.Error Value}
    {next : Value → Program face Result} {trace : Trace face Stamp}
    (onDone : ∀ value, result = .ok value → (next value).Follows allowed settles trace)
    (onFail : ∀ error, result = .error error → settles trace (.error error)) :
    ((Program.ofExcept result).bind next).Follows allowed settles trace := by
  cases result with
  | ok value => exact onDone value rfl
  | error error => exact onFail error rfl

theorem Follows.ofOption {value : Option Value} {error : face.Error}
    {next : Value → Program face Result} {trace : Trace face Stamp}
    (onDone : ∀ inner, value = some inner → (next inner).Follows allowed settles trace)
    (onFail : value = none → settles trace (.error error)) :
    ((Program.ofOption value error).bind next).Follows allowed settles trace := by
  cases value with
  | some inner => exact onDone inner rfl
  | none => exact onFail rfl

theorem Follows.demand {condition : Bool} {error : face.Error}
    {next : Unit → Program face Result} {trace : Trace face Stamp}
    (onDone : condition = true → (next ()).Follows allowed settles trace)
    (onFail : condition = false → settles trace (.error error)) :
    ((Program.demand condition error).bind next).Follows allowed settles trace := by
  cases condition with
  | true => exact onDone rfl
  | false => exact onFail rfl

theorem Follows.forEach {Item : Type} {items : List Item} {body : Item → Program face Unit}
    {trace : Trace face Stamp} (keeps : Trace face Stamp → Prop)
    {ends : Trace face Stamp → Except face.Error Unit → Prop} (start : keeps trace)
    (step : ∀ item ∈ items, ∀ later, trace <:+ later → keeps later →
      (body item).Follows allowed
        (fun after result => match result with
          | .ok _ => keeps after
          | .error error => ends after (.error error)) later)
    (finish : ∀ later, trace <:+ later → keeps later → ends later (.ok ())) :
    (Program.forEach items body).Follows allowed ends trace := by
  induction items generalizing trace with
  | nil => exact finish trace (List.suffix_refl trace) start
  | cons item rest ih =>
      refine Follows.bind (step item (by simp) trace (List.suffix_refl trace) start) ?_ ?_
      · intro later value suffix kept
        refine ih kept ?_ ?_
        · intro other member after extended
          exact step other (by simp [member]) after (suffix.trans extended)
        · intro after extended
          exact finish after (suffix.trans extended)
      · intro later error suffix ended
        exact ended

/-! ### What a run of a program leaves in the trace -/

/-- Run from one trace, the program ends in the other with the result. -/
def Ran : Program face Value → Trace face Stamp → Trace face Stamp →
    Except face.Error Value → Prop
  | .done value, before, after, result => after = before ∧ result = .ok value
  | .fail error, before, after, result => after = before ∧ result = .error error
  | .ask query next, before, after, result =>
      ∃ reply stamp, (next reply).Ran (⟨query, reply, stamp⟩ :: before) after result

theorem Follows.ran {program : Program face Value} {trace : Trace face Stamp}
    (follows : program.Follows allowed ends trace) :
    program.Follows allowed
      (fun later result => ends later result ∧ program.Ran trace later result) trace := by
  induction program generalizing trace with
  | done value => exact ⟨follows, rfl, rfl⟩
  | fail error => exact ⟨follows, rfl, rfl⟩
  | ask query next ih =>
      refine ⟨follows.1, fun reply stamp => ?_⟩
      refine (ih reply (follows.2 reply stamp)).weaken ?_
      intro later result _ both
      exact ⟨both.1, reply, stamp, both.2⟩

theorem Ran.grows {program : Program face Value} {before after : Trace face Stamp}
    {result : Except face.Error Value} (ran : program.Ran before after result) :
    before <:+ after := by
  induction program generalizing before with
  | done value => exact ran.1 ▸ List.suffix_refl before
  | fail error => exact ran.1 ▸ List.suffix_refl before
  | ask query next ih =>
      obtain ⟨reply, stamp, rest⟩ := ran
      exact (List.suffix_cons _ before).trans (ih reply rest)

theorem Ran.of_bind {program : Program face Value} {next : Value → Program face Result}
    {before after : Trace face Stamp} {result : Except face.Error Result}
    (ran : (program.bind next).Ran before after result) :
    (∃ between value, program.Ran before between (.ok value) ∧
      (next value).Ran between after result) ∨
    ∃ error, program.Ran before after (.error error) ∧ result = .error error := by
  induction program generalizing before with
  | done value => exact Or.inl ⟨before, value, ⟨rfl, rfl⟩, ran⟩
  | fail error => exact Or.inr ⟨error, ⟨ran.1, rfl⟩, ran.2⟩
  | ask query step ih =>
      obtain ⟨reply, stamp, rest⟩ := ran
      rcases ih reply rest with ⟨between, value, first, second⟩ | ⟨error, first, same⟩
      · exact Or.inl ⟨between, value, ⟨reply, stamp, first⟩, second⟩
      · exact Or.inr ⟨error, ⟨reply, stamp, first⟩, same⟩

theorem Ran.of_recover {program : Program face Value}
    {handler : face.Error → Program face Value} {before after : Trace face Stamp}
    {result : Except face.Error Value}
    (ran : (program.recover handler).Ran before after result) :
    (∃ value, program.Ran before after (.ok value) ∧ result = .ok value) ∨
    ∃ error between, program.Ran before between (.error error) ∧
      (handler error).Ran between after result := by
  induction program generalizing before with
  | done value => exact Or.inl ⟨value, ⟨ran.1, rfl⟩, ran.2⟩
  | fail error => exact Or.inr ⟨error, before, ⟨rfl, rfl⟩, ran⟩
  | ask query step ih =>
      obtain ⟨reply, stamp, rest⟩ := ran
      rcases ih reply rest with ⟨value, first, same⟩ | ⟨error, between, first, second⟩
      · exact Or.inl ⟨value, ⟨reply, stamp, first⟩, same⟩
      · exact Or.inr ⟨error, between, ⟨reply, stamp, first⟩, second⟩

/-! ### Programs that ask only a kind of question -/

/-- Every question the program can ask is of the kind. -/
def Uses (kind : face.Query → Prop) : Program face Value → Prop
  | .done _ => True
  | .fail _ => True
  | .ask query next => kind query ∧ ∀ reply, (next reply).Uses kind

theorem Uses.bind {kind : face.Query → Prop} {program : Program face Value}
    {next : Value → Program face Result} (first : program.Uses kind)
    (rest : ∀ value, (next value).Uses kind) : (program.bind next).Uses kind := by
  induction program with
  | done value => exact rest value
  | fail error => trivial
  | ask query after ih => exact ⟨first.1, fun reply => ih reply (first.2 reply)⟩

theorem Uses.recover {kind : face.Query → Prop} {program : Program face Value}
    {handler : face.Error → Program face Value} (first : program.Uses kind)
    (rest : ∀ error, (handler error).Uses kind) : (program.recover handler).Uses kind := by
  induction program with
  | done value => trivial
  | fail error => exact rest error
  | ask query after ih => exact ⟨first.1, fun reply => ih reply (first.2 reply)⟩

theorem Uses.perform {kind : face.Query → Prop} {query : face.Query} (asked : kind query) :
    (Program.perform query).Uses kind := by
  refine ⟨asked, fun reply => ?_⟩
  cases reply <;> trivial

theorem Uses.ofExcept {kind : face.Query → Prop} (result : Except face.Error Value) :
    (Program.ofExcept result).Uses kind := by
  cases result <;> trivial

theorem Uses.ofOption {kind : face.Query → Prop} (value : Option Value) (error : face.Error) :
    (Program.ofOption value error).Uses kind := by
  cases value <;> trivial

theorem Uses.demand {kind : face.Query → Prop} (condition : Bool) (error : face.Error) :
    (Program.demand condition error).Uses kind := by
  cases condition <;> trivial

theorem Uses.forEach {Item : Type} {kind : face.Query → Prop} {items : List Item}
    {body : Item → Program face Unit} (each : ∀ item ∈ items, (body item).Uses kind) :
    (Program.forEach items body).Uses kind := by
  induction items with
  | nil => trivial
  | cons item rest ih =>
      exact Uses.bind (each item (by simp)) fun _ => ih fun other member =>
        each other (by simp [member])

theorem Uses.weaken {kind wider : face.Query → Prop} {program : Program face Value}
    (uses : program.Uses kind) (implied : ∀ query, kind query → wider query) :
    program.Uses wider := by
  induction program with
  | done value => trivial
  | fail error => trivial
  | ask query next ih => exact ⟨implied query uses.1, fun reply => ih reply (uses.2 reply)⟩

theorem Uses.any (program : Program face Value) : program.Uses fun _ => True := by
  induction program with
  | done value => trivial
  | fail error => trivial
  | ask query next ih => exact ⟨trivial, ih⟩

/-- Where everything is allowed from now on, any program follows the rule. -/
theorem Follows.always {program : Program face Value} {trace : Trace face Stamp}
    (always : ∀ later query, trace <:+ later → allowed later query) :
    program.Follows allowed (fun _ _ => True) trace := by
  induction program generalizing trace with
  | done value => trivial
  | fail error => trivial
  | ask query next ih =>
      refine ⟨always trace query (List.suffix_refl trace), fun reply stamp => ih reply ?_⟩
      intro later query suffix
      exact always later query ((List.suffix_cons _ trace).trans suffix)

/-- A program whose kind of question is always allowed follows any rule, and
adds nothing but such questions to the trace. -/
theorem Uses.follows {kind : face.Query → Prop} {program : Program face Value}
    (uses : program.Uses kind) (trace : Trace face Stamp)
    (harmless : ∀ earlier query, kind query → allowed earlier query) :
    program.Follows allowed
      (fun later _ => ∃ newer, later = newer ++ trace ∧ ∀ event ∈ newer, kind event.query)
      trace := by
  induction program generalizing trace with
  | done value => exact ⟨[], rfl, by simp⟩
  | fail error => exact ⟨[], rfl, by simp⟩
  | ask query next ih =>
      refine ⟨harmless trace query uses.1, fun reply stamp => ?_⟩
      refine (ih reply (uses.2 reply) (⟨query, reply, stamp⟩ :: trace)).weaken ?_
      rintro later result - ⟨newer, rfl, quiet⟩
      refine ⟨newer ++ [⟨query, reply, stamp⟩], by simp, ?_⟩
      intro event member
      rcases List.mem_append.mp member with fresh | own
      · exact quiet event fresh
      · rw [List.mem_singleton.mp own]
        exact uses.1

/-- Harmless questions on the way to the rest of a program. -/
theorem Uses.past {kind : face.Query → Prop} {program : Program face Value}
    {next : Value → Program face Result} {trace : Trace face Stamp} (uses : program.Uses kind)
    (harmless : ∀ earlier query, kind query → allowed earlier query)
    (onDone : ∀ later value, trace <:+ later → (next value).Follows allowed settles later)
    (onFail : ∀ later error, trace <:+ later → settles later (.error error)) :
    (program.bind next).Follows allowed settles trace :=
  Follows.bind (uses.follows trace harmless)
    (fun later value suffix _ => onDone later value suffix)
    (fun later error suffix _ => onFail later error suffix)

/-- What every question of a kind keeps, a program of such questions keeps. -/
theorem Uses.keeps {kind : face.Query → Prop} {program : Program face Value}
    (uses : program.Uses kind) {kept : Trace face Stamp → Prop} {trace : Trace face Stamp}
    (start : kept trace)
    (step : ∀ event earlier, kind event.query → kept earlier → kept (event :: earlier))
    (harmless : ∀ earlier query, kind query → kept earlier → allowed earlier query) :
    program.Follows allowed (fun later _ => kept later) trace := by
  induction program generalizing trace with
  | done value => exact start
  | fail error => exact start
  | ask query next ih =>
      refine ⟨harmless trace query uses.1 start, fun reply stamp => ?_⟩
      exact ih reply (uses.2 reply) (step ⟨query, reply, stamp⟩ trace uses.1 start)

end Program

end Interaction
