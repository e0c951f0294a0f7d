/-
What retry, cancel and abort do to a request, whoever calls them.

The three endpoints load and save with permissions ignored.  Served one after
the other they follow a small machine over the statuses of the requests, and
the machine says when a request and the DSC Document Sign record it stands for
come out of a sequence of calls as they went in.
-/

import DscSigning.Library.Alone
import DscSigning.Server.RequestHistory
import Mathlib.Data.Fintype.EquivFin

namespace DscSigning

open Interaction Engine

/-! ### The machine of the statuses -/

/-- The DSC Document Sign record that a request stands for. -/
def SigningRequest.record (row : SigningRequest) : Option String :=
  if row.sourceDoctype == documentSign then some row.sourceName else none

/-- The status of every request, with the record it stands for. -/
abbrev Book : Type := String → Option (RequestStatus × Option String)

def book (database : Database) : Book :=
  fun name => (database.requests.lookup name).map fun row => (row.status, row.record)

/-- The request a call gives a new status, with that status and the record. -/
def Endpoint.turn (book : Book) : Endpoint → Option (String × RequestStatus × Option String)
  | .retry name =>
      match book name with
      | some (.failed, record) => some (name, .pending, record)
      | _ => none
  | .cancel name _ =>
      match book name with
      | some (.pending, record) => some (name, .cancelled, record)
      | _ => none
  | _ => none

theorem book_found {database : Database} {name : String} {row : SigningRequest}
    (found : database.requests.lookup name = some row) :
    book database name = some (row.status, row.record) := by
  simp only [book, found, Option.map_some]

theorem book_absent {database : Database} {name : String}
    (absent : database.requests.lookup name = none) : book database name = none := by
  simp only [book, absent, Option.map_none]

/-- The status of a request as its DSC Document Sign shows it. -/
def RequestStatus.document : RequestStatus → DocumentStatus
  | .pending => .pending
  | .inProgress => .inProgress
  | .signed => .signed
  | .failed => .failed
  | .cancelled => .cancelled

def Endpoint.lifecycle : Endpoint → Bool
  | .retry _ => true
  | .cancel _ _ => true
  | .abortInProgress _ _ => true
  | _ => false

/-- The database after a call that turns these statuses. -/
def Turned (before after : Database) : Option (String × RequestStatus × Option String) → Prop
  | none => after.requests = before.requests ∧ after.docSigns = before.docSigns
  | some (name, status, record) =>
      (∃ edit at_, edit.status = status ∧
        after.requests = before.requests.modify name (RequestEdit.apply edit at_)) ∧
      after.docSigns = match record with
        | some record => before.docSigns.modify record (DocSignEdit.apply ⟨status.document, none⟩)
        | none => before.docSigns

/-! ### One call -/

/-- Unless faults are allowed, the surroundings raise nothing. -/
def MayRaise (faulty : Prop) (oracle : Oracle) : Prop := faulty ∨ oracle.fault = none

/-- A call in progress: nothing committed, and these statuses turned. -/
structure Standing (before : Database) (turn : Option (String × RequestStatus × Option String))
    (data : Database) (trace : ServerTrace) : Prop where
  kept : data = before
  turned : Turned before (site.view data (site.pending trace)) turn

/-- A part of a call that leaves the statuses as they stand. -/
def Settled (before : Database) (turn : Option (String × RequestStatus × Option String))
    (faulty : Prop) {Value : Type} (result : Except Exn Value) (data : Database) (_shared : Shared)
    (trace : ServerTrace) : Prop :=
  Standing before turn data trace ∧ ∀ exn, result = .error exn → faulty

/-- The end of a lifecycle call: its turn if it ends well, and nothing if it raises. -/
def TurnEnds (before : Database) (endpoint : Endpoint) (faulty : Prop) {Value : Type}
    (result : Except Exn Value) (data : Database) (_shared : Shared) (trace : ServerTrace) : Prop :=
  match result with
  | .ok _ => Turned before (site.view data (site.pending trace)) (endpoint.turn (book before))
  | .error _ => data = before ∧ (faulty ∨ endpoint.turn (book before) = none)

section OneCall

variable {faulty : Prop} {before data : Database} {shared : Shared} {trace : ServerTrace}
  {turn : Option (String × RequestStatus × Option String)}

/-- An event that writes neither requests nor DSC Document Sign records. -/
theorem Standing.still {event : ServerEvent} (standing : Standing before turn data trace)
    (uncommitted : commits event = false)
    (requests : ∀ database, (site.view database (effects event)).requests = database.requests)
    (docSigns : ∀ database, (site.view database (effects event)).docSigns = database.docSigns) :
    Standing before turn data (event :: trace) := by
  refine ⟨standing.kept, ?_⟩
  have turned := standing.turned
  rw [view_pending uncommitted]
  unfold Turned at turned ⊢
  simp only [requests, docSigns]
  exact turned

section Ask

variable {Value Result : Type}
  {post : Except Exn Result → Database → Shared → ServerTrace → Prop}

/-- One question other than a commit. -/
theorem ensures_ask {operation : Operation} {next : operation.Answer → Server Result}
    (statement : operation ≠ .commit)
    (onDone : ∀ oracle given later,
      answer oracle (site.view data (site.pending trace)) shared operation =
        some (.ok given, later) →
      @Ensures face site Result (MayRaise faulty) post (next given) data later
        (⟨operation, .ok given, shared.now⟩ :: trace))
    (onFail : ∀ exn later, (faulty ∨ ∃ oracle,
        answer oracle (site.view data (site.pending trace)) shared operation =
          some (.error exn, later)) →
      post (.error exn) data later (⟨operation, .error exn, shared.now⟩ :: trace)) :
    @Ensures face site Result (MayRaise faulty) post ((ask operation).bind next) data shared
      trace := by
  have uncommitted (result : Except Exn operation.Answer) :
      @settle face site data trace ⟨operation, result, shared.now⟩ = data := by
    cases operation <;> first | rfl | exact absurd rfl statement
  refine Ensures.perform ?_ ?_
  · intro oracle given later calm replied
    rw [uncommitted]
    refine onDone oracle given later ?_
    cases fault : oracle.fault with
    | none => simpa only [reply, fault] using replied
    | some exn =>
        simp only [reply, fault, Option.some.injEq, Prod.mk.injEq, reduceCtorEq, false_and] at replied
  · intro oracle exn later calm replied
    rw [uncommitted]
    refine onFail exn later ?_
    rcases calm with allowed | quiet
    · exact Or.inl allowed
    · exact Or.inr ⟨oracle, by simpa only [reply, quiet] using replied⟩

end Ask

/-- One question that leaves the statuses as they stand. -/
theorem quiet_ensures {operation : Operation} (standing : Standing before turn data trace)
    (statement : operation ≠ .commit)
    (answered : ∀ oracle view shared exn later,
      answer oracle view shared operation ≠ some (.error exn, later))
    (requests : ∀ result stamp database,
      (site.view database (effects ⟨operation, result, stamp⟩)).requests = database.requests)
    (docSigns : ∀ result stamp database,
      (site.view database (effects ⟨operation, result, stamp⟩)).docSigns = database.docSigns) :
    @Ensures face site operation.Answer (MayRaise faulty) (Settled before turn faulty)
      (ask operation) data shared trace := by
  have uncommitted (result : Except Exn operation.Answer) (stamp : Instant) :
      commits ⟨operation, result, stamp⟩ = false := by
    cases operation <;> first | rfl | exact absurd rfl statement
  have after (result : Except Exn operation.Answer) (stamp : Instant) :=
    standing.still (uncommitted result stamp) (requests result stamp) (docSigns result stamp)
  rw [← Program.bind_done (ask operation)]
  refine ensures_ask statement ?_ ?_
  · intro oracle given later _
    exact ⟨after _ _, fun exn raised => by cases raised⟩
  · intro exn later failed
    refine ⟨after _ _, fun _ _ => ?_⟩
    rcases failed with allowed | ⟨oracle, raised⟩
    · exact allowed
    · exact absurd raised (answered _ _ _ _ _)

/-- Parts that settle, one after the other. -/
theorem settled_bind {Value Result : Type} {first : Server Value} {next : Value → Server Result}
    (start : @Ensures face site Value (MayRaise faulty) (Settled before turn faulty) first data
      shared trace)
    (rest : ∀ value data shared trace, Standing before turn data trace →
      @Ensures face site Result (MayRaise faulty) (Settled before turn faulty) (next value) data
        shared trace) :
    @Ensures face site Result (MayRaise faulty) (Settled before turn faulty) (first.bind next) data
      shared trace := by
  refine Ensures.bind start ?_ ?_
  · intro value data shared trace settled
    exact rest value data shared trace settled.1
  · intro exn data shared trace settled
    exact ⟨settled.1, fun _ _ => settled.2 exn rfl⟩

variable (lib : Libraries)

theorem logEvent_ensures (ctx : Context) (signingRequest eventType : String)
    (details : List (String × Json)) (standing : Standing before turn data trace) :
    @Ensures face site Unit (MayRaise faulty) (Settled before turn faulty)
      (logEvent lib ctx signingRequest eventType details) data shared trace := by
  refine settled_bind (quiet_ensures standing (by simp) ?_ ?_ ?_) ?_
  · intro oracle view shared exn later
    simp [answer]
  · intro result stamp database
    rfl
  · intro result stamp database
    rfl
  · intro occurredAt data shared trace standing
    refine quiet_ensures standing (by simp) ?_ ?_ ?_
    · intro oracle view shared exn later
      simp [answer]
    · intro result stamp database
      cases result <;> rfl
    · intro result stamp database
      cases result <;> rfl

theorem outside_ensures {operation : Operation} (standing : Standing before turn data trace)
    (outside : ∀ oracle view shared, answer oracle view shared operation =
      (oracle.given operation).map fun given => (.ok given, shared))
    (statement : operation ≠ .commit)
    (silent : ∀ result stamp, effects ⟨operation, result, stamp⟩ = []) :
    @Ensures face site operation.Answer (MayRaise faulty) (Settled before turn faulty)
      (ask operation) data shared trace := by
  refine quiet_ensures standing statement ?_ ?_ ?_
  · intro oracle view shared exn later raised
    rw [outside] at raised
    cases given : oracle.given operation <;> simp [given] at raised
  · intro result stamp database
    rw [silent]
    rfl
  · intro result stamp database
    rw [silent]
    rfl

theorem runDevHooks_ensures (hookName : String) (arguments : List (String × Text))
    (standing : Standing before turn data trace) :
    @Ensures face site Unit (MayRaise faulty) (Settled before turn faulty)
      (runDevHooks hookName arguments) data shared trace := by
  refine settled_bind (outside_ensures standing (fun _ _ _ => rfl) (by simp) fun _ _ => rfl) ?_
  intro handlers data shared trace standing
  refine Ensures.forEach (fun data _ trace => Standing before turn data trace) standing ?_ ?_
  · intro handler _ data shared trace standing
    refine Ensures.recover
      (outside_ensures standing (fun _ _ _ => rfl) (by simp) fun _ _ => rfl) ?_ ?_
    · intro value data shared trace settled
      exact settled.1
    · intro exn data shared trace settled
      refine Ensures.weaken
        (outside_ensures settled.1 (fun _ _ _ => rfl) (by simp) fun _ _ => rfl) ?_
      intro result data shared trace settled
      cases result with
      | ok value => exact settled.1
      | error exn => exact ⟨settled.1, fun _ _ => settled.2 exn rfl⟩
  · intro data shared trace standing
    exact ⟨standing, fun exn raised => by cases raised⟩

theorem mirror_ensures (row : SigningRequest) {name : String} {status : RequestStatus}
    (standing : Standing before (some (name, status, none)) data trace) :
    @Ensures face site Unit (MayRaise faulty)
      (fun result data _ trace => match result with
        | .ok _ => Standing before (some (name, status, row.record)) data trace
        | .error _ => data = before ∧ faulty)
      (mirror row.sourceDoctype row.sourceName ⟨status.document, none⟩) data shared trace := by
  unfold mirror SigningRequest.record
  by_cases mirrored : row.sourceDoctype == documentSign
  · rw [if_pos mirrored, if_pos mirrored, ← Program.bind_done (ask _)]
    refine ensures_ask (by simp) ?_ ?_
    · intro oracle given later _
      obtain ⟨⟨edit, at_, sets, requests⟩, docSigns⟩ := standing.turned
      refine ⟨standing.kept, ⟨edit, at_, sets, ?_⟩, ?_⟩
      · rw [view_pending rfl]
        exact requests
      · rw [view_pending rfl]
        simp only at docSigns ⊢
        rw [← docSigns]
        rfl
    · intro exn later failed
      refine ⟨standing.kept, ?_⟩
      rcases failed with allowed | ⟨oracle, raised⟩
      · exact allowed
      · simp [answer] at raised
  · rw [if_neg mirrored, if_neg mirrored]
    exact standing

/-- The save of a turned status, its mirror, and what follows. -/
theorem turn_ensures {Value : Type} {name : String} {row : SigningRequest} {edit : RequestEdit}
    {rest : Server Value} (standing : Standing before none data trace)
    (found : before.requests.lookup name = some row)
    (valid : validateStatusTransition row.status edit.status = .ok ())
    (after : ∀ data shared trace, Standing before (some (name, edit.status, row.record)) data trace →
      @Ensures face site Value (MayRaise faulty)
        (Settled before (some (name, edit.status, row.record)) faulty) rest data shared trace) :
    @Ensures face site Value (MayRaise faulty)
      (fun result data _ trace => match result with
        | .ok _ => Standing before (some (name, edit.status, row.record)) data trace
        | .error _ => data = before ∧ faulty)
      ((ask (.saveRequest name row edit)).bind fun _ =>
        (mirror row.sourceDoctype row.sourceName ⟨edit.status.document, none⟩).bind fun _ => rest)
      data shared trace := by
  obtain ⟨kept, requests, docSigns⟩ := standing
  refine ensures_ask (by simp) ?_ ?_
  · intro oracle given later _
    have saved : Standing before (some (name, edit.status, none)) data
        (⟨.saveRequest name row edit, .ok given, shared.now⟩ :: trace) := by
      refine ⟨kept, ⟨edit, shared.now, rfl, ?_⟩, ?_⟩
      · rw [view_pending rfl, ← requests]
        rfl
      · rw [view_pending rfl]
        exact docSigns
    refine Ensures.bind (mirror_ensures row saved) ?_ ?_
    · intro value data shared trace standing
      refine Ensures.weaken (after data shared trace standing) ?_
      intro result data shared trace settled
      cases result with
      | ok value => exact settled.1
      | error exn => exact ⟨settled.1.kept, settled.2 exn rfl⟩
    · intro exn data shared trace ended
      exact ended
  · intro exn later failed
    refine ⟨kept, ?_⟩
    rcases failed with allowed | ⟨oracle, raised⟩
    · exact allowed
    · have checked : checkSave (site.view data (site.pending trace)) name row edit = .ok () := by
        simp only [checkSave, requests, found, bne_self_eq_false, Bool.false_eq_true, if_false,
          valid]
      simp only [answer, checked, Option.some.injEq, Prod.mk.injEq, reduceCtorEq,
        false_and] at raised

/-- A save that the transition table refuses. -/
theorem refused_ensures {Value : Type} {name : String} {row : SigningRequest} {edit : RequestEdit}
    {refusal : Exn} {next : Unit → Server Value} (standing : Standing before none data trace)
    (found : before.requests.lookup name = some row)
    (refused : validateStatusTransition row.status edit.status = .error refusal) :
    @Ensures face site Value (MayRaise faulty)
      (fun result data _ _ => ∃ exn, result = .error exn ∧ data = before)
      ((ask (.saveRequest name row edit)).bind next) data shared trace := by
  obtain ⟨kept, requests, docSigns⟩ := standing
  refine ensures_ask (by simp) ?_ ?_
  · intro oracle given later saved
    have checked : checkSave (site.view data (site.pending trace)) name row edit =
        .error refusal := by
      simp only [checkSave, requests, found, bne_self_eq_false, Bool.false_eq_true, if_false,
        refused]
    simp only [answer, checked, Option.some.injEq, Prod.mk.injEq, reduceCtorEq, false_and] at saved
  · intro exn later failed
    exact ⟨exn, rfl, kept⟩

/-- Each lifecycle endpoint loads its request first. -/
theorem load_ensures {Value : Type} {endpoint : Endpoint} {name : String}
    {next : SigningRequest → Server Value}
    (absent : before.requests.lookup name = none → endpoint.turn (book before) = none)
    (onDone : ∀ row shared trace, before.requests.lookup name = some row →
      Standing before none before trace →
      @Ensures face site Value (MayRaise faulty) (TurnEnds before endpoint faulty) (next row) before
        shared trace) :
    @Ensures face site Value (MayRaise faulty) (TurnEnds before endpoint faulty)
      ((ask (.getRequest name)).bind next) before shared [] := by
  refine ensures_ask (by simp) ?_ ?_
  · intro oracle row later loaded
    refine onDone row _ _ ?_ ⟨rfl, rfl, rfl⟩
    change some (orMissing _ name (before.requests.lookup name), shared) = _ at loaded
    cases found : before.requests.lookup name with
    | none => simp [found, orMissing] at loaded
    | some other =>
        simp only [found, orMissing, Option.some.injEq, Prod.mk.injEq, Except.ok.injEq] at loaded
        rw [loaded.1]
  · intro exn later failed
    refine ⟨rfl, ?_⟩
    rcases failed with allowed | ⟨oracle, raised⟩
    · exact Or.inl allowed
    · refine Or.inr (absent ?_)
      change some (orMissing _ name (before.requests.lookup name), shared) = _ at raised
      cases found : before.requests.lookup name with
      | none => rfl
      | some other => simp [found, orMissing] at raised

theorem retry_ensures (ctx : Context) (name : String) (before : Database) (shared : Shared) :
    @Ensures face site RequestStatus (MayRaise faulty) (TurnEnds before (.retry name) faulty)
      (retry lib ctx name) before shared [] := by
  refine load_ensures ?_ ?_
  · intro absent
    simp only [Endpoint.turn, book_absent absent]
  · intro row shared trace found standing
    have booked := book_found found
    refine Ensures.demand ?_ ?_
    · intro failed
      rw [eq_of_beq failed] at booked
      refine Ensures.weaken (turn_ensures standing found (by rw [eq_of_beq failed]; rfl) ?_) ?_
      · intro data shared trace standing
        refine settled_bind (logEvent_ensures lib ctx name _ _ standing) ?_
        intro value data shared trace standing
        exact ⟨standing, fun exn raised => by cases raised⟩
      · intro result data shared trace ended
        cases result with
        | ok value => simpa only [TurnEnds, Endpoint.turn, booked] using ended.turned
        | error exn => exact ⟨ended.1, Or.inl ended.2⟩
    · intro other
      refine ⟨rfl, Or.inr ?_⟩
      cases status : row.status with
      | failed =>
          rw [status] at other
          cases other
      | _ => simp only [Endpoint.turn, booked, status]

theorem now_ensures {turn : Option (String × RequestStatus × Option String)}
    (standing : Standing before turn data trace) :
    @Ensures face site Instant (MayRaise faulty) (Settled before turn faulty) (ask .now) data shared
      trace := by
  refine quiet_ensures standing (by simp) ?_ ?_ ?_
  · intro oracle view shared exn later
    simp [answer]
  · intro result stamp database
    rfl
  · intro result stamp database
    rfl

theorem cancel_ensures (ctx : Context) (name reason : String) (before : Database)
    (shared : Shared) :
    @Ensures face site RequestStatus (MayRaise faulty) (TurnEnds before (.cancel name reason) faulty)
      (cancel lib ctx name reason) before shared [] := by
  refine load_ensures ?_ ?_
  · intro absent
    simp only [Endpoint.turn, book_absent absent]
  · intro row shared trace found standing
    have booked := book_found found
    refine Ensures.demand ?_ ?_
    · intro live
      refine Ensures.bind (now_ensures standing) ?_ ?_
      · intro now data shared trace settled
        cases status : row.status with
        | pending =>
            refine Ensures.weaken (turn_ensures settled.1 found (by rw [status]; rfl) ?_) ?_
            · intro data shared trace standing
              refine settled_bind (logEvent_ensures lib ctx name _ _ standing) ?_
              intro value data shared trace standing
              refine settled_bind (runDevHooks_ensures _ _ standing) ?_
              intro value data shared trace standing
              exact ⟨standing, fun exn raised => by cases raised⟩
            · intro result data shared trace ended
              cases result with
              | ok value => simpa only [TurnEnds, Endpoint.turn, booked, status] using ended.turned
              | error exn => exact ⟨ended.1, Or.inl ended.2⟩
        | failed =>
            -- The endpoint admits a Failed request, and the transition table refuses it.
            refine Ensures.weaken (refused_ensures settled.1 found (by rw [status]; rfl)) ?_
            rintro result data shared trace ⟨exn, rfl, kept⟩
            refine ⟨kept, Or.inr ?_⟩
            simp only [Endpoint.turn, booked, status]
        | _ =>
            rw [status] at live
            cases live
      · intro exn data shared trace settled
        exact ⟨settled.1.kept, Or.inl (settled.2 exn rfl)⟩
    · intro other
      refine ⟨rfl, Or.inr ?_⟩
      cases status : row.status with
      | pending =>
          rw [status] at other
          cases other
      | _ => simp only [Endpoint.turn, booked, status]

/-- The transition table has no way from In Progress back to Pending. -/
theorem abortInProgress_ensures (ctx : Context) (name reason : String) (before : Database)
    (shared : Shared) :
    @Ensures face site RequestStatus (MayRaise faulty)
      (TurnEnds before (.abortInProgress name reason) faulty)
      (abortInProgress lib ctx name reason) before shared [] := by
  refine load_ensures (fun _ => rfl) ?_
  intro row shared trace found standing
  simp only [bne_iff_ne, ne_eq, ite_not]
  by_cases started : row.status = .inProgress
  · rw [if_pos started]
    refine Ensures.weaken (refused_ensures standing found (by rw [started]; rfl)) ?_
    rintro result data shared trace ⟨exn, rfl, kept⟩
    exact ⟨kept, Or.inr rfl⟩
  · rw [if_neg started]
    exact standing.turned

theorem lifecycle_ensures (ctx : Context) (endpoint : Endpoint)
    (lifecycle : endpoint.lifecycle = true) (before : Database) (shared : Shared) :
    @Ensures face site Response (MayRaise faulty) (TurnEnds before endpoint faulty)
      (body lib ⟨ctx, endpoint⟩) before shared [] := by
  cases endpoint with
  | retry name =>
      exact Ensures.bind (retry_ensures lib ctx name before shared)
        (fun _ _ _ _ ended => ended) (fun _ _ _ _ ended => ended)
  | cancel name reason =>
      exact Ensures.bind (cancel_ensures lib ctx name reason before shared)
        (fun _ _ _ _ ended => ended) (fun _ _ _ _ ended => ended)
  | abortInProgress name reason =>
      exact Ensures.bind (abortInProgress_ensures lib ctx name reason before shared)
        (fun _ _ _ _ ended => ended) (fun _ _ _ _ ended => ended)
  | _ => cases lifecycle

end OneCall

/-! ### What a turn changes -/

theorem turn_cases {book : Book} {endpoint : Endpoint} {name : String} {status : RequestStatus}
    {record : Option String} (turns : endpoint.turn book = some (name, status, record)) :
    (endpoint = .retry name ∧ book name = some (.failed, record) ∧ status = .pending) ∨
      ∃ reason, endpoint = .cancel name reason ∧ book name = some (.pending, record) ∧
        status = .cancelled := by
  cases endpoint with
  | retry target =>
      simp only [Endpoint.turn] at turns
      split at turns
      · rename_i booked
        cases turns
        exact Or.inl ⟨rfl, booked, rfl⟩
      · cases turns
  | cancel target reason =>
      simp only [Endpoint.turn] at turns
      split at turns
      · rename_i booked
        cases turns
        exact Or.inr ⟨reason, rfl, booked, rfl⟩
      · cases turns
  | _ => cases turns

section Turned

variable {before after : Database} {name : String} {status : RequestStatus}
  {record : Option String}

theorem Turned.row {row : SigningRequest}
    (turned : Turned before after (some (name, status, record)))
    (found : before.requests.lookup name = some row) :
    ∃ kept, after.requests.lookup name = some kept ∧ kept.status = status ∧
      kept.record = row.record := by
  obtain ⟨⟨edit, at_, sets, requests⟩, _⟩ := turned
  refine ⟨edit.apply at_ row, ?_, sets, rfl⟩
  rw [requests, Table.lookup_modify_self, found, Option.map_some]

theorem Turned.others {other : String} (turned : Turned before after (some (name, status, record)))
    (distinct : other ≠ name) :
    after.requests.lookup other = before.requests.lookup other := by
  obtain ⟨⟨edit, at_, _, requests⟩, _⟩ := turned
  rw [requests, Table.lookup_modify_other _ _ distinct]

theorem Turned.document (turned : Turned before after (some (name, status, record)))
    (target : String) :
    after.docSigns.lookup target =
      if record = some target then
        (before.docSigns.lookup target).map (DocSignEdit.apply ⟨status.document, none⟩)
      else before.docSigns.lookup target := by
  obtain ⟨_, docSigns⟩ := turned
  rw [docSigns]
  cases record with
  | none => rfl
  | some record =>
      simp only [Option.some.injEq]
      by_cases same : record = target
      · rw [if_pos same, same, Table.lookup_modify_self]
      · rw [if_neg same, Table.lookup_modify_other _ _ fun equal : target = record => same equal.symm]

/-- A copied status that a record has already changes nothing. -/
theorem mirror_same {status : RequestStatus} {document : DocumentSign}
    (same : document.status = status.document) :
    DocSignEdit.apply ⟨status.document, none⟩ document = document := by
  simp only [DocSignEdit.apply, Option.none_or, ← same]

end Turned

/-! ### Sequences of calls -/

structure LifecycleCall where
  /-- The time that passes before the call. -/
  wait : Nat
  endpoint : Endpoint
  oracles : List Oracle

section Sequences

variable (lib : Libraries) (ctx : Context)

def serveCall (world : ServerWorld) (call : LifecycleCall) : Option ServerWorld :=
  (step (body lib) world (.move (.elapse call.wait))).bind fun later =>
    serveAlone (body lib) later ⟨ctx, call.endpoint⟩ call.oracles

/-- The calls of one user, one after the other. -/
def serveAll (world : ServerWorld) : List LifecycleCall → Option ServerWorld
  | [] => some world
  | call :: rest => (serveCall lib ctx world call).bind fun next => serveAll next rest

/-- The request has the status, reason and time it had, and so has the DSC
Document Sign record it stands for. -/
structure RequestKept (before after : Database) (name : String) (row : SigningRequest) : Prop where
  request : ∃ kept, after.requests.lookup name = some kept ∧ kept.status = row.status ∧
    kept.failureReason = row.failureReason ∧ kept.cancelledOn = row.cancelledOn
  document : ∀ record, row.record = some record →
    after.docSigns.lookup record = before.docSigns.lookup record

/-- No call in the sequence turns the request, or a request of the same record
to a status that the record does not show already. -/
structure Untouchable (database : Database) (endpoints : List Endpoint) (name : String)
    (row : SigningRequest) : Prop where
  retried : row.status = .failed → .retry name ∉ endpoints
  cancelled : row.status = .pending → ∀ reason, .cancel name reason ∉ endpoints
  document : ∀ record document, row.record = some record →
    database.docSigns.lookup record = some document →
    ∀ other otherRow, database.requests.lookup other = some otherRow →
      otherRow.record = some record →
      (otherRow.status = .failed → .retry other ∈ endpoints → document.status = .pending ∧
        ∀ reason, ¬ [.retry other, .cancel other reason].Sublist endpoints) ∧
      (otherRow.status = .pending → ∀ reason, .cancel other reason ∈ endpoints →
        document.status = .cancelled)

variable {lib ctx}

theorem serveCall_turns {faulty : Prop} {world next : ServerWorld} {call : LifecycleCall}
    (idle : world.Idle) (lifecycle : call.endpoint.lifecycle = true)
    (kinds : ∀ oracle ∈ call.oracles, MayRaise faulty oracle)
    (served : serveCall lib ctx world call = some next) :
    next.Idle ∧ (Turned world.data next.data (call.endpoint.turn (book world.data)) ∨
      next.data = world.data ∧ (faulty ∨ call.endpoint.turn (book world.data) = none)) := by
  simp only [serveCall, step, Move.apply, Option.map_some, Option.bind_some] at served
  have waiting : World.Idle
      { world with shared := { world.shared with now := world.shared.now + call.wait } } := idle
  obtain ⟨rested, result, data, trace, ended, left⟩ := serveAlone_ensures waiting
    (lifecycle_ensures lib ctx call.endpoint lifecycle world.data _) kinds served
  refine ⟨rested, ?_⟩
  rw [left]
  cases result with
  | ok value => exact Or.inl ended
  | error exn => exact Or.inr ended

/-! ### What a sequence cannot change -/

/-- Where the calls so far can have taken a request. -/
def Course (first : Book) (done : List Endpoint) (now : Book) (other : String) : Prop :=
  now other = first other ∨ ∃ status record, first other = some (status, record) ∧
    (status = .failed ∧ .retry other ∈ done ∧ now other = some (.pending, record) ∨
      now other = some (.cancelled, record))

theorem Course.longer {first now : Book} {done : List Endpoint} {endpoint : Endpoint}
    {other : String} (course : Course first done now other) :
    Course first (done ++ [endpoint]) now other := by
  rcases course with start | ⟨status, record, began, ⟨failed, retried, stands⟩ | stands⟩
  · exact Or.inl start
  · exact Or.inr ⟨status, record, began, Or.inl ⟨failed, by simp [retried], stands⟩⟩
  · exact Or.inr ⟨status, record, began, Or.inr stands⟩

theorem course_step {first : Book} {done : List Endpoint} {before after : Database}
    {endpoint : Endpoint} {other : String} (course : Course first done (book before) other)
    (turned : Turned before after (endpoint.turn (book before))) :
    Course first (done ++ [endpoint]) (book after) other := by
  have waits (same : book after other = book before other) :
      Course first (done ++ [endpoint]) (book after) other := by
    have longer : Course first (done ++ [endpoint]) (book before) other := course.longer
    unfold Course at longer ⊢
    rw [same]
    exact longer
  cases turns : endpoint.turn (book before) with
  | none =>
      rw [turns] at turned
      exact waits (by simp only [book, turned.1])
  | some turn =>
      obtain ⟨name, status, record⟩ := turn
      rw [turns] at turned
      by_cases same : other = name
      · subst same
        have moves (old : RequestStatus) (booked : book before other = some (old, record)) :
            book after other = some (status, record) := by
          simp only [book, Option.map_eq_some_iff, Prod.mk.injEq] at booked
          obtain ⟨row, found, _, stands⟩ := booked
          obtain ⟨kept, lookup, sets, carries⟩ := turned.row found
          rw [book_found lookup, sets, carries, stands]
        rcases turn_cases turns with ⟨rfl, booked, rfl⟩ | ⟨reason, rfl, booked, rfl⟩
        · rcases course with start | ⟨_, _, began, ⟨_, _, now⟩ | now⟩
          · exact Or.inr ⟨.failed, record, start ▸ booked,
              Or.inl ⟨rfl, by simp, moves .failed booked⟩⟩
          · rw [now] at booked
            cases booked
          · rw [now] at booked
            cases booked
        · rcases course with start | ⟨old, _, began, ⟨_, _, now⟩ | now⟩
          · exact Or.inr ⟨.pending, record, start ▸ booked, Or.inr (moves .pending booked)⟩
          · rw [now] at booked
            cases booked
            exact Or.inr ⟨old, record, began, Or.inr (moves .pending now)⟩
          · rw [now] at booked
            cases booked
      · exact waits (by simp only [book, turned.others same])

/-- What the calls of the sequence so far leave of an untouchable request. -/
structure Spared (first : Database) (done : List Endpoint) (name : String) (row : SigningRequest)
    (now : Database) : Prop where
  same : now.requests.lookup name = some row
  courses : ∀ other, Course (book first) done (book now) other
  document : ∀ record, row.record = some record →
    now.docSigns.lookup record = first.docSigns.lookup record

theorem Spared.longer {first now : Database} {done : List Endpoint} {name : String}
    {row : SigningRequest} {endpoint : Endpoint} (spared : Spared first done name row now) :
    Spared first (done ++ [endpoint]) name row now :=
  ⟨spared.same, fun other => (spared.courses other).longer, spared.document⟩

/-- A status that an untouchable request's record is given is the one it has. -/
theorem untouchable_mirror {first : Database} {now : Book} {done rest : List Endpoint}
    {endpoint : Endpoint} {name other record : String} {row : SigningRequest}
    {document : DocumentSign} {status : RequestStatus}
    (untouchable : Untouchable first (done ++ endpoint :: rest) name row)
    (stands : row.record = some record) (shown : first.docSigns.lookup record = some document)
    (course : Course (book first) done now other)
    (turns : endpoint.turn now = some (other, status, some record)) :
    document.status = status.document := by
  have entry {old : RequestStatus} (booked : book first other = some (old, some record)) :
      ∃ otherRow, first.requests.lookup other = some otherRow ∧ otherRow.status = old ∧
        otherRow.record = some record := by
    simpa only [book, Option.map_eq_some_iff, Prod.mk.injEq] using booked
  rcases turn_cases turns with ⟨rfl, booked, rfl⟩ | ⟨reason, rfl, booked, rfl⟩
  · rcases course with start | ⟨_, _, _, ⟨_, _, stood⟩ | stood⟩
    · obtain ⟨otherRow, found, failed, carries⟩ := entry (start ▸ booked)
      exact ((untouchable.document record document stands shown other otherRow found carries).1
        failed (by simp)).1
    · rw [stood] at booked
      cases booked
    · rw [stood] at booked
      cases booked
  · rcases course with start | ⟨old, _, began, ⟨failed, retried, stood⟩ | stood⟩
    · obtain ⟨otherRow, found, pending, carries⟩ := entry (start ▸ booked)
      exact (untouchable.document record document stands shown other otherRow found carries).2
        pending reason (by simp)
    · -- The request was retried before, so a cancel of it comes after a retry.
      rw [stood] at booked
      cases booked
      obtain ⟨otherRow, found, began, carries⟩ := entry began
      have apart := ((untouchable.document record document stands shown other otherRow found
        carries).1 (began.trans failed) (by simp [retried])).2 reason
      have after : Endpoint.cancel other reason ∈ Endpoint.cancel other reason :: rest := by simp
      exact absurd ((List.singleton_sublist.mpr retried).append (List.singleton_sublist.mpr after))
        apart
    · rw [stood] at booked
      cases booked

theorem spared_step {first before after : Database} {done rest : List Endpoint}
    {endpoint : Endpoint} {name : String} {row : SigningRequest}
    (untouchable : Untouchable first (done ++ endpoint :: rest) name row)
    (spared : Spared first done name row before)
    (turned : Turned before after (endpoint.turn (book before))) :
    Spared first (done ++ [endpoint]) name row after := by
  refine ⟨?_, fun other => course_step (spared.courses other) turned, ?_⟩
  · cases turns : endpoint.turn (book before) with
    | none =>
        rw [turns] at turned
        rw [turned.1]
        exact spared.same
    | some turn =>
        obtain ⟨target, status, record⟩ := turn
        rw [turns] at turned
        have booked := book_found spared.same
        by_cases same : name = target
        · subst same
          rcases turn_cases turns with ⟨rfl, failed, _⟩ | ⟨reason, rfl, pending, _⟩
          · rw [failed, Option.some.injEq, Prod.mk.injEq] at booked
            exact absurd (by simp) (untouchable.retried booked.1.symm)
          · rw [pending, Option.some.injEq, Prod.mk.injEq] at booked
            exact absurd (by simp) (untouchable.cancelled booked.1.symm reason)
        · rw [turned.others same]
          exact spared.same
  · intro record stands
    have before' := spared.document record stands
    cases turns : endpoint.turn (book before) with
    | none =>
        rw [turns] at turned
        rw [turned.2]
        exact before'
    | some turn =>
        obtain ⟨other, status, target⟩ := turn
        rw [turns] at turned
        rw [turned.document]
        by_cases same : target = some record
        · subst same
          rw [if_pos rfl, before']
          cases shown : first.docSigns.lookup record with
          | none => rfl
          | some document =>
              rw [Option.map_some, mirror_same
                (untouchable_mirror untouchable stands shown (spared.courses other) turns)]
        · rw [if_neg same]
          exact before'

theorem spared_run {world last : ServerWorld} {calls : List LifecycleCall} {first : Database}
    {done : List Endpoint} {name : String} {row : SigningRequest} (idle : world.Idle)
    (lifecycle : ∀ call ∈ calls, call.endpoint.lifecycle = true)
    (untouchable : Untouchable first (done ++ calls.map LifecycleCall.endpoint) name row)
    (spared : Spared first done name row world.data)
    (served : serveAll lib ctx world calls = some last) :
    Spared first (done ++ calls.map LifecycleCall.endpoint) name row last.data := by
  induction calls generalizing world done with
  | nil =>
      rw [← Option.some.inj served]
      simpa using spared
  | cons call rest ih =>
      simp only [serveAll, Option.bind_eq_some_iff] at served
      obtain ⟨next, one, served⟩ := served
      obtain ⟨rested, turned⟩ := serveCall_turns idle (lifecycle call (by simp))
        (fun oracle _ => (Or.inl trivial : MayRaise True oracle)) one
      have after : Spared first (done ++ [call.endpoint]) name row next.data := by
        rcases turned with turned | ⟨same, _⟩
        · exact spared_step untouchable spared turned
        · rw [same]
          exact spared.longer
      have whole : done ++ (call :: rest).map LifecycleCall.endpoint =
          (done ++ [call.endpoint]) ++ rest.map LifecycleCall.endpoint := by simp
      rw [whole] at untouchable ⊢
      exact ih rested (fun other member => lifecycle other (by simp [member])) untouchable after
        served

/-! ### What a sequence can change -/

/-- The database after these calls, if each takes its turn. -/
def Turns : Database → List Endpoint → Database → Prop
  | before, [], after => after = before
  | before, endpoint :: rest, after =>
      ∃ between, Turned before between (endpoint.turn (book before)) ∧ Turns between rest after

/-- Surroundings that raise at once leave the call without effect. -/
theorem faulted_ensures (endpoint : Endpoint) (lifecycle : endpoint.lifecycle = true)
    (before : Database) (shared : Shared) :
    @Ensures face site Response (fun oracle => oracle.fault ≠ none)
      (fun result data _ _ => (∃ exn, result = .error exn) ∧ data = before)
      (body lib ⟨ctx, endpoint⟩) before shared [] := by
  have raised {Value : Type} (name : String) (next : SigningRequest → Server Value) :
      @Ensures face site Value (fun oracle => oracle.fault ≠ none)
        (fun result data _ _ => (∃ exn, result = .error exn) ∧ data = before)
        ((ask (.getRequest name)).bind next) before shared [] := by
    refine Ensures.perform ?_ ?_
    · intro oracle given later faulted replied
      obtain ⟨exn, fault⟩ := Option.ne_none_iff_exists'.mp faulted
      simp [reply, fault] at replied
    · intro oracle exn later faulted replied
      exact ⟨⟨exn, rfl⟩, rfl⟩
  cases endpoint with
  | retry name =>
      exact Ensures.bind (raised name _) (by simp) (fun _ _ _ _ ended => by simpa using ended)
  | cancel name reason =>
      exact Ensures.bind (raised name _) (by simp) (fun _ _ _ _ ended => by simpa using ended)
  | abortInProgress name reason =>
      exact Ensures.bind (raised name _) (by simp) (fun _ _ _ _ ended => by simpa using ended)
  | _ => cases lifecycle

/-- Outside answers for every question, with one new name. -/
def Oracle.calm (name : String) : Oracle :=
  { fault := none
    pick := 0
    given := fun
      | .uuid4 => some name
      | .insertFile row => some ⟨name, row.fileName, row.fileUrl⟩
      | .tokenHex _ => some name
      | .tokenUrlsafe _ => some name
      | .reverseGeocode .. => some ⟨none, none, false⟩
      | .renderPdf .. => some []
      | .digestForSigning _ pdf => some (pdf, ⟨[], 0, 0⟩)
      | .builtinBundle => some none
      | .sendMail _ => some ()
      | .logError _ => some ()
      | .getHooks _ => some []
      | .runHook .. => some ()
      | _ => none }

/-- Surroundings that raise nothing can answer every question. -/
theorem calm_answers (view : Database) (shared : Shared) (operation : Operation) :
    ∃ oracle replied, MayRaise False oracle ∧
      reply oracle view shared operation = some replied := by
  obtain ⟨name, fresh⟩ := Infinite.exists_notMem_finset (insert "" shared.issued.toFinset)
  simp only [Finset.mem_insert, List.mem_toFinset, not_or] at fresh
  have issued : shared.issued.contains name = false := by simpa using fresh.2
  have named : (name == "") = false := by simpa using fresh.1
  refine ⟨Oracle.calm name, ?_⟩
  cases operation with
  | insertFile row =>
      exact ⟨_, Or.inr rfl, by simp only [reply, answer, Oracle.calm, issued, named]; rfl⟩
  | uuid4 => exact ⟨_, Or.inr rfl, by simp only [reply, answer, Oracle.calm, issued]; rfl⟩
  | _ => exact ⟨_, Or.inr rfl, rfl⟩

variable (lib ctx)

theorem serveCall_completes {kind : Oracle → Prop} {world : ServerWorld} (idle : world.Idle)
    (endpoint : Endpoint)
    (answers : ∀ view shared operation, ∃ oracle replied, kind oracle ∧
      reply oracle view shared operation = some replied) :
    ∃ call next, call.endpoint = endpoint ∧ (∀ oracle ∈ call.oracles, kind oracle) ∧
      serveCall lib ctx world call = some next := by
  obtain ⟨oracles, next, kinds, served⟩ :=
    @serveAlone_completes face site Origin Response (body lib) kind world ⟨ctx, endpoint⟩ idle answers
  exact ⟨⟨0, endpoint, oracles⟩, next, rfl, kinds, served⟩

theorem serveCall_works {world : ServerWorld} (idle : world.Idle) {endpoint : Endpoint}
    (lifecycle : endpoint.lifecycle = true) :
    ∃ call next, call.endpoint = endpoint ∧ serveCall lib ctx world call = some next ∧ next.Idle ∧
      Turned world.data next.data (endpoint.turn (book world.data)) := by
  obtain ⟨call, next, rfl, kinds, served⟩ := serveCall_completes lib ctx idle endpoint calm_answers
  obtain ⟨rested, turned⟩ := serveCall_turns idle lifecycle kinds served
  refine ⟨call, next, rfl, served, rested, ?_⟩
  rcases turned with turned | ⟨same, impossible | none⟩
  · exact turned
  · exact impossible.elim
  · rw [none, same]
    exact ⟨rfl, rfl⟩

theorem serveCall_fails {world : ServerWorld} (idle : world.Idle) {endpoint : Endpoint}
    (lifecycle : endpoint.lifecycle = true) :
    ∃ call next, call.endpoint = endpoint ∧ serveCall lib ctx world call = some next ∧ next.Idle ∧
      next.data = world.data := by
  have answers (view : Database) (shared : Shared) (operation : Operation) :
      ∃ oracle replied, oracle.fault ≠ none ∧ reply oracle view shared operation = some replied :=
    ⟨⟨some (thrown ""), 0, fun _ => none⟩, _, by simp, rfl⟩
  obtain ⟨call, next, rfl, kinds, served⟩ := serveCall_completes lib ctx idle endpoint answers
  refine ⟨call, next, rfl, served, ?_⟩
  simp only [serveCall, step, Move.apply, Option.map_some, Option.bind_some] at served
  have waiting : World.Idle
      { world with shared := { world.shared with now := world.shared.now + call.wait } } := idle
  obtain ⟨rested, result, data, trace, ⟨⟨exn, raised⟩, kept⟩, left⟩ := serveAlone_ensures waiting
    (faulted_ensures call.endpoint lifecycle world.data _) kinds served
  refine ⟨rested, ?_⟩
  rw [left, raised, kept]
  rfl

/-- Any of the calls of a sequence can be the ones that take their turn. -/
theorem serve_chosen {world : ServerWorld} {chosen endpoints : List Endpoint} (idle : world.Idle)
    (sublist : chosen.Sublist endpoints)
    (lifecycle : ∀ endpoint ∈ endpoints, endpoint.lifecycle = true) :
    ∃ calls last, calls.map LifecycleCall.endpoint = endpoints ∧
      serveAll lib ctx world calls = some last ∧ Turns world.data chosen last.data := by
  induction sublist generalizing world with
  | slnil => exact ⟨[], world, rfl, rfl, rfl⟩
  | cons endpoint _ ih =>
      obtain ⟨call, next, same, served, rested, kept⟩ :=
        serveCall_fails lib ctx idle (lifecycle endpoint (by simp))
      obtain ⟨calls, last, rest, ran, turns⟩ :=
        ih rested fun other member => lifecycle other (by simp [member])
      refine ⟨call :: calls, last, by rw [List.map_cons, same, rest], ?_, kept ▸ turns⟩
      simp only [serveAll, served, Option.bind_some, ran]
  | cons_cons endpoint _ ih =>
      obtain ⟨call, next, same, served, rested, turned⟩ :=
        serveCall_works lib ctx idle (lifecycle endpoint (by simp))
      obtain ⟨calls, last, rest, ran, turns⟩ :=
        ih rested fun other member => lifecycle other (by simp [member])
      refine ⟨call :: calls, last, by rw [List.map_cons, same, rest], ?_, next.data, turned, turns⟩
      simp only [serveAll, served, Option.bind_some, ran]

variable {lib ctx}

/-- A turned request is not as it was, nor is a record whose status was another. -/
theorem turned_kept {before after : Database} {name other record : String}
    {row otherRow : SigningRequest} {document : DocumentSign} {status : RequestStatus}
    (turned : Turned before after (some (other, status, otherRow.record)))
    (kept : RequestKept before after name row) (stands : row.record = some record)
    (shared : otherRow.record = some record)
    (shown : before.docSigns.lookup record = some document) :
    document.status = status.document := by
  have same := kept.document record stands
  rw [turned.document, if_pos shared, shown, Option.map_some, Option.some.injEq] at same
  rw [← same]
  rfl

/-! ### Untouched requests -/

/-- Whoever calls: whatever the surroundings reply, a sequence of retries, cancels
and aborts leaves a request and its record as they were exactly if no call in it
turns them. -/
theorem lifecycle_untouched_iff {world : ServerWorld} {endpoints : List Endpoint} {name : String}
    {row : SigningRequest} (lib : Libraries) (ctx : Context) (idle : world.Idle)
    (lifecycle : ∀ endpoint ∈ endpoints, endpoint.lifecycle = true)
    (found : world.data.requests.lookup name = some row) :
    (∀ calls last, calls.map LifecycleCall.endpoint = endpoints →
      serveAll lib ctx world calls = some last → RequestKept world.data last.data name row) ↔
    Untouchable world.data endpoints name row := by
  constructor
  · intro kept
    have outcome {chosen : List Endpoint} (sublist : chosen.Sublist endpoints) :
        ∃ after, Turns world.data chosen after ∧ RequestKept world.data after name row := by
      obtain ⟨calls, last, whole, served, turns⟩ := serve_chosen lib ctx idle sublist lifecycle
      exact ⟨last.data, turns, kept calls last whole served⟩
    refine ⟨?_, ?_, ?_⟩
    · intro failed retried
      obtain ⟨_, ⟨after, turned, rfl⟩, kept⟩ := outcome (List.singleton_sublist.mpr retried)
      simp only [Endpoint.turn, book_found found, failed] at turned
      obtain ⟨turnedRow, lookup, status, _⟩ := turned.row found
      obtain ⟨keptRow, same, statusKept, _⟩ := kept.request
      rw [lookup, Option.some.injEq] at same
      rw [← same, status, failed] at statusKept
      cases statusKept
    · intro pending reason cancelled
      obtain ⟨_, ⟨after, turned, rfl⟩, kept⟩ := outcome (List.singleton_sublist.mpr cancelled)
      simp only [Endpoint.turn, book_found found, pending] at turned
      obtain ⟨turnedRow, lookup, status, _⟩ := turned.row found
      obtain ⟨keptRow, same, statusKept, _⟩ := kept.request
      rw [lookup, Option.some.injEq] at same
      rw [← same, status, pending] at statusKept
      cases statusKept
    · intro record document stands shown other otherRow otherFound shared
      refine ⟨?_, ?_⟩
      · intro failed retried
        have shows : document.status = .pending := by
          obtain ⟨_, ⟨after, turned, rfl⟩, kept⟩ := outcome (List.singleton_sublist.mpr retried)
          simp only [Endpoint.turn, book_found otherFound, failed] at turned
          exact turned_kept turned kept stands shared shown
        refine ⟨shows, ?_⟩
        intro reason sublist
        obtain ⟨_, ⟨between, first, after, second, rfl⟩, kept⟩ := outcome sublist
        simp only [Endpoint.turn, book_found otherFound, failed] at first
        obtain ⟨midRow, lookup, status, carries⟩ := first.row otherFound
        simp only [Endpoint.turn, book_found lookup, status] at second
        have same := kept.document record stands
        rw [second.document, if_pos (carries.trans shared), first.document, if_pos shared, shown,
          Option.map_some, Option.map_some, Option.some.injEq] at same
        have cancelled : document.status = .cancelled := by
          rw [← same]
          rfl
        rw [shows] at cancelled
        cases cancelled
      · intro pending reason cancelled
        obtain ⟨_, ⟨after, turned, rfl⟩, kept⟩ := outcome (List.singleton_sublist.mpr cancelled)
        simp only [Endpoint.turn, book_found otherFound, pending] at turned
        exact turned_kept turned kept stands shared shown
  · intro untouchable calls last whole served
    subst whole
    have spared := spared_run idle
      (fun call member => lifecycle call.endpoint (List.mem_map_of_mem member)) untouchable
      (⟨found, fun _ => Or.inl rfl, fun _ _ => rfl⟩ : Spared world.data [] name row world.data)
      served
    exact ⟨⟨row, spared.same, rfl, rfl, rfl⟩, spared.document⟩

end Sequences

/-- The sample site with a pending request of Alice. -/
def requestedSite : ServerWorld :=
  { sampleSite with
    data :=
      { sampleSite.data with
        requests := sampleSite.data.requests.insert "SR-1" (sampleRequest.row 0) } }

/-- A retry of the pending request is refused. -/
theorem lifecycle_untouched_retry :
    ∃ last, serveAll sampleLibraries (sampleUser "mallory") requestedSite
        [⟨0, .retry "SR-1", [sampleOracle "" ""]⟩] = some last ∧
      RequestKept requestedSite.data last.data "SR-1" (sampleRequest.row 0) := by
  have untouchable : Untouchable requestedSite.data [.retry "SR-1"] "SR-1" (sampleRequest.row 0) :=
    ⟨fun failed => (by cases failed), fun _ reason => (by simp), fun _ _ stands => by cases stands⟩
  have ends : (serveAll sampleLibraries (sampleUser "mallory") requestedSite
      [⟨0, .retry "SR-1", [sampleOracle "" ""]⟩]).isSome = true := by
    decide +kernel
  obtain ⟨last, served⟩ := Option.isSome_iff_exists.mp ends
  exact ⟨last, served, (lifecycle_untouched_iff sampleLibraries (sampleUser "mallory")
    (fun _ _ located => by cases located) (by decide) rfl).mpr untouchable _ last rfl served⟩

/-- Mallory, who has no role, cancels the pending request of Alice. -/
theorem cancelled_by_stranger :
    requestHasPermission (sampleRequest.row 0) .write "mallory"
      (requestedSite.data.masters.roles "mallory") = false ∧
    ∃ last kept,
      serveAll sampleLibraries (sampleUser "mallory") requestedSite
        [⟨0, .cancel "SR-1" "", List.replicate 6 (sampleOracle "" "")⟩] = some last ∧
      requestedSite.data.requests.lookup "SR-1" = some (sampleRequest.row 0) ∧
      (sampleRequest.row 0).status = .pending ∧
      last.data.requests.lookup "SR-1" = some kept ∧ kept.status = .cancelled := by
  refine ⟨by decide, ?_⟩
  have ends : ((serveAll sampleLibraries (sampleUser "mallory") requestedSite
      [⟨0, .cancel "SR-1" "", List.replicate 6 (sampleOracle "" "")⟩]).bind fun last =>
        (last.data.requests.lookup "SR-1").map SigningRequest.status) = some .cancelled := by
    decide +kernel
  simp only [Option.bind_eq_some_iff, Option.map_eq_some_iff] at ends
  obtain ⟨last, served, kept, found, status⟩ := ends
  exact ⟨last, kept, served, rfl, rfl, found, status⟩

end DscSigning
