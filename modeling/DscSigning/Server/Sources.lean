/-
Which document a request is for.

A request keeps its document for ever, so what a call was once told of it stays
true, also of the session that an `initiate` has stored for it.
-/

import DscSigning.Server.Desk

namespace DscSigning

open Interaction Program Engine

variable {lib : Libraries}

/-- The request is there, and for this document. -/
def For (database : Database) (name doctype docname : String) : Prop :=
  ∃ row, database.requests.lookup name = some row ∧ row.sourceDoctype = doctype ∧
    row.sourceName = docname

theorem For.same {database : Database} {name doctype docname otherDoctype other : String}
    (one : For database name doctype docname) (second : For database name otherDoctype other) :
    doctype = otherDoctype ∧ docname = other := by
  obtain ⟨row, found, rfl, rfl⟩ := one
  obtain ⟨again, foundAgain, rfl, rfl⟩ := second
  rw [found] at foundAgain
  cases foundAgain
  exact ⟨rfl, rfl⟩

theorem for_view {database : Database} {writes : List Write} {name doctype docname : String} :
    For (site.view database writes) name doctype docname ↔ For database name doctype docname :=
  lasting_view fun lasting => lasting.sourceDoctype = doctype ∧ lasting.sourceName = docname

theorem for_step {world next : ServerWorld} {label : ServerLabel}
    (stepped : step (body lib) world label = some next) {name doctype docname : String}
    (source : For world.data name doctype docname) : For next.data name doctype docname :=
  lasting_step (fun lasting => lasting.sourceDoctype = doctype ∧ lasting.sourceName = docname)
    stepped source

/-- What an answer tells of requests and their documents. -/
def tells : ServerEvent → List (String × String × String)
  | ⟨.findPending doctype docname, .ok (some row), _⟩ => [(row.name, doctype, docname)]
  | ⟨.getRequest name, .ok row, _⟩ => [(name, row.sourceDoctype, row.sourceName)]
  | ⟨.listRequests doctype docname, .ok rows, _⟩ =>
      rows.map fun row => (row.name, doctype, docname)
  | ⟨.loadSession _, .ok (some session), _⟩ =>
      [(session.signingRequestName, session.doctype, session.docname)]
  | _ => []

/-- A call was told that the request is for this document. -/
def Told (trace : ServerTrace) (name doctype docname : String) : Prop :=
  ∃ event ∈ trace, (name, doctype, docname) ∈ tells event

theorem Told.mono {trace later : ServerTrace} {name doctype docname : String}
    (told : Told trace name doctype docname) (suffix : trace <:+ later) :
    Told later name doctype docname := by
  obtain ⟨event, member, tells⟩ := told
  exact ⟨event, suffix.subset member, tells⟩

theorem Answered.tells {trace : ServerTrace} {operation : Operation} {answer : operation.Answer}
    {entry : String × String × String} (answered : Answered trace operation answer)
    (tells : ∀ stamp, entry ∈ tells ⟨operation, .ok answer, stamp⟩) :
    Told trace entry.1 entry.2.1 entry.2.2 := by
  obtain ⟨stamp, member⟩ := answered
  exact ⟨_, member, tells stamp⟩

/-- Everything that a call was told of a request is so. -/
def Sourced (world : ServerWorld) : Prop :=
  ∀ index event name doctype docname, world.Asked index event →
    (name, doctype, docname) ∈ tells event → For world.data name doctype docname

theorem for_select {database : Database} {doctype docname : String}
    {wanted : SigningRequest → Bool}
    (belongs : ∀ row, wanted row = true → row.belongsTo doctype docname = true)
    {entry : String × SigningRequest} (member : entry ∈ database.requests.select wanted) :
    For database entry.1 doctype docname := by
  obtain ⟨found, fits⟩ := Table.mem_select.mp member
  have source := belongs _ fits
  simp only [SigningRequest.belongsTo, Bool.and_eq_true, beq_iff_eq] at source
  exact ⟨entry.2, found, source.1, source.2⟩

/-- The database tells the truth. -/
theorem tells_for {oracle : Oracle} {view : Database} {shared later : Shared} {event : ServerEvent}
    (replied : reply oracle view shared event.query = some (event.reply, later))
    {name doctype docname : String} (member : (name, doctype, docname) ∈ tells event) :
    For view name doctype docname ∨ ∃ sessionId session stamp,
      (name, doctype, docname) =
        (session.signingRequestName, session.doctype, session.docname) ∧
      event = ⟨.loadSession sessionId, .ok (some session), stamp⟩ := by
  obtain ⟨operation, result, stamp⟩ := event
  simp only [reply] at replied
  split at replied
  · cases replied
    cases operation <;> cases member
  · cases operation with
    | findPending asked named =>
        rcases result with _ | _ | row
        · cases member
        · cases member
        · simp only [answer, Option.some.injEq, Prod.mk.injEq, Except.ok.injEq,
            Option.map_eq_some_iff] at replied
          obtain ⟨⟨entry, there, same⟩, _⟩ := replied
          cases List.mem_singleton.mp member
          rw [← same]
          refine Or.inl (for_select (fun row fits => ?_) (List.mem_of_getElem? there))
          simp only [Bool.and_eq_true] at fits
          exact fits.1
    | getRequest asked =>
        cases result with
        | error _ => cases member
        | ok row =>
            cases List.mem_singleton.mp member
            cases found : view.requests.lookup name with
            | none =>
                simp only [answer, found, orMissing] at replied
                cases replied
            | some stored =>
                simp only [answer, found, orMissing, Option.some.injEq, Prod.mk.injEq,
                  Except.ok.injEq] at replied
                exact Or.inl ⟨stored, found, by rw [replied.1], by rw [replied.1]⟩
    | listRequests asked named =>
        cases result with
        | error _ => cases member
        | ok rows =>
            simp only [answer, Option.some.injEq, Prod.mk.injEq, Except.ok.injEq] at replied
            obtain ⟨row, inside, same⟩ := List.mem_map.mp member
            rw [← replied.1] at inside
            obtain ⟨entry, ordered, listed⟩ := List.mem_map.mp inside
            cases same
            rw [← listed]
            exact Or.inl (for_select (fun _ fits => fits) ((List.mem_insertionSort _).mp ordered))
    | loadSession sessionId =>
        rcases result with _ | _ | session
        · cases member
        · cases member
        · exact Or.inr ⟨sessionId, session, stamp, List.mem_singleton.mp member, rfl⟩
    | _ => cases result <;> cases member

/-- What is known of every world that the server and the desk reach. -/
structure Sound (lib : Libraries) (world : ServerWorld) : Prop where
  traced : Traced lib world
  warranted : world.Disciplined (Warranted lib) (Discloses lib)
  sourced : Sourced world

/-- A stored session is for the document of its request. -/
theorem Sound.stored {world : ServerWorld} (sound : Sound lib world) {index : Nat}
    {sessionId : String} {session : SigningSession}
    (stored : StoredBy world index sessionId session) :
    For world.data session.signingRequestName session.doctype session.docname := by
  obtain ⟨call, earlier, located, _, authorised⟩ := sound.traced.authorised stored
  obtain ⟨_, _, endpoint, _⟩ := authorised
  obtain ⟨stamp, again, at_, member⟩ := stored
  rw [located] at at_
  cases at_
  obtain ⟨before, suffix, warranted⟩ :=
    (disciplined_running sound.warranted located).of_mem member
  have initiates : call.origin.initiates = true := by
    simp only [Origin.initiates, endpoint]
  obtain ⟨arguments, row, profile, _, preparation⟩ := warranted initiates
  obtain ⟨foundAt, found⟩ := preparation.found
  rw [preparation.request, preparation.document.1, preparation.document.2]
  exact sound.sourced index _ row.name arguments.doctype arguments.docname
    ⟨call, located, ((List.suffix_cons _ before).trans suffix).subset found⟩
    (List.mem_singleton_self _)

theorem sourced_step {world next : ServerWorld} {label : ServerLabel} (sound : Sound lib world)
    (stepped : step (body lib) world label = some next) : Sourced next := by
  intro index event name doctype docname asked member
  refine for_step stepped ?_
  rcases asked_step (body lib) stepped asked with old | ⟨call, found⟩
  · exact sound.sourced index event name doctype docname old member
  · obtain ⟨oracle, replied⟩ := asking_shared (body lib) stepped found
    rcases tells_for replied member with source | ⟨sessionId, session, stamp, same, loads⟩
    · exact for_view.mp source
    · cases same
      rw [loads] at found
      obtain ⟨creator, stored⟩ := asking_loaded sound.traced stepped found
      exact sound.stored stored

theorem sound_step {world next : ServerWorld} {label : ServerLabel} (sound : Sound lib world)
    (stepped : step (body lib) world label = some next) : Sound lib next :=
  { traced := traced_step sound.traced stepped
    warranted := disciplined_step (body lib) body_warranted sound.warranted stepped
    sourced := sourced_step sound stepped }

theorem traced_events {world : ServerWorld} (events : List AuditEvent) (traced : Traced lib world) :
    Traced lib (withEvents events world) :=
  { disciplined := traced.disciplined
    issued := traced.issued
    distinct := traced.distinct
    named := traced.named
    cached := traced.cached
    loaded := traced.loaded
    filed := traced.filed
    signed := traced.signed }

theorem sound_events {world : ServerWorld} (events : List AuditEvent) (sound : Sound lib world) :
    Sound lib (withEvents events world) :=
  { traced := traced_events events sound.traced
    warranted := sound.warranted
    sourced := sound.sourced }

theorem sound_desk {world next : ServerWorld} {label : DeskLabel} (sound : Sound lib world)
    (stepped : deskStep lib world label = some next) : Sound lib next :=
  desk_preserves (fun _ _ _ => sound_step) (fun _ events => sound_events events) sound stepped

theorem sound_installed (masters : Masters) (now : Instant) (zone : Int) :
    Sound lib (installed masters now zone) :=
  { traced := traced_installed masters now zone
    warranted := by
      intro index call located
      cases located
    sourced := by
      intro index event name doctype docname asked
      exact absurd asked not_asked_installed }

/-- Two loads of one session by one call give the same session. -/
theorem Sound.loads_once {world : ServerWorld} (sound : Sound lib world) {index : Nat}
    {call : ServerCall} (located : world.calls[index]? = some call) {sessionId : String}
    {one other : SigningSession} (first : Answered call.trace (.loadSession sessionId) (some one))
    (second : Answered call.trace (.loadSession sessionId) (some other)) : one = other := by
  obtain ⟨oneStamp, oneAsked⟩ := first
  obtain ⟨otherStamp, otherAsked⟩ := second
  obtain ⟨_, oneStored⟩ := sound.traced.loaded index sessionId one oneStamp ⟨call, located, oneAsked⟩
  obtain ⟨_, otherStored⟩ :=
    sound.traced.loaded index sessionId other otherStamp ⟨call, located, otherAsked⟩
  exact (sound.traced.creator_unique oneStored otherStored).2

end DscSigning
