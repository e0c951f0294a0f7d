/-
The two recoveries of a request that stays In Progress.

`get_signing_status` resets a stale request of the document to Pending, with the
DSC Document Sign record; the hourly cleanup marks it Failed and leaves the record.
A Failed request is stale to neither, so the first run decides.
-/

import DscSigning.Server.CanSign
import DscSigning.Server.MirrorRuns
import DscSigning.Library.Runs

namespace DscSigning

open Interaction Engine

/-! ### What a page view does to the record -/

/-- The DSC Document Sign record, where it exists, shows Pending. -/
def ShowsPending (record : String) (database : Database) : Prop :=
  ∀ document, database.docSigns.lookup record = some document → document.status = .pending

theorem ShowsPending.modified (record : String) (database : Database) (signedFile : Text) :
    ShowsPending record
      (Write.perform database (.setDocSign record ⟨.pending, signedFile⟩)) := by
  intro document found
  simp only [Write.perform, Table.lookup_modify, if_true, Option.map_eq_some_iff] at found
  obtain ⟨before, -, rfl⟩ := found
  rfl

theorem ShowsPending.other {record docname : String} {database : Database} {signedFile : Text}
    (shows : ShowsPending record database) :
    ShowsPending record
      (Write.perform database (.setDocSign docname ⟨.pending, signedFile⟩)) := by
  by_cases same : record = docname
  · subst same
    exact ShowsPending.modified record database signedFile
  · intro document found
    simp only [Write.perform, Table.lookup_modify, if_neg same] at found
    exact shows document found

section View

variable {kind : Oracle → Prop} {data : Database} {shared : Shared} {trace : ServerTrace}
  {doctype docname record : String}

/-- A stale row of a DSC Document Sign record makes the record show Pending, and
nothing the recovery does makes it show anything else. -/
theorem recoverRow_shows (calm : ∀ oracle, kind oracle → oracle.fault = none) (now : Instant)
    (row : ListedRequest)
    (shows : (doctype = documentSign ∧ docname = record ∧ row.stale now = true) ∨
      ShowsPending record (site.view data (site.pending trace))) :
    @Ensures face site ListedRequest kind
      (fun _ after later grown => after = data ∧ later = shared ∧
        ShowsPending record (site.view after (site.pending grown)))
      (recoverRow doctype docname now row) data shared trace := by
  unfold recoverRow
  by_cases stale : row.stale now = true
  · simp only [if_pos stale, Program.bind_eq]
    refine ensures_told calm (by simp) (fun _ _ => rfl) ?_
    unfold mirror
    by_cases signs : doctype = documentSign
    · subst signs
      refine ensures_told calm (by simp) (fun _ _ => rfl) ?_
      refine ⟨rfl, rfl, ?_⟩
      rw [view_pending rfl]
      rcases shows with ⟨-, rfl, -⟩ | shows
      · exact ShowsPending.modified docname _ none
      · refine ShowsPending.other ?_
        rw [view_pending rfl]
        exact shows
    · have elsewhere : (doctype == documentSign) = false := by simpa using signs
      simp only [elsewhere, Bool.false_eq_true, if_false]
      refine ⟨rfl, rfl, ?_⟩
      rw [view_pending rfl]
      exact shows.resolve_left fun here => signs here.1
  · simp only [if_neg stale]
    exact ⟨rfl, rfl, shows.resolve_left fun here => stale here.2.2⟩

theorem recoverStale_shows (calm : ∀ oracle, kind oracle → oracle.fault = none) (now : Instant)
    (rows : List ListedRequest)
    (shows : (doctype = documentSign ∧ docname = record ∧ ∃ row ∈ rows, row.stale now = true) ∨
      ShowsPending record (site.view data (site.pending trace))) :
    @Ensures face site (List ListedRequest) kind
      (fun _ after later grown => after = data ∧ later = shared ∧
        ShowsPending record (site.view after (site.pending grown)))
      (recoverStale doctype docname now rows) data shared trace := by
  induction rows generalizing trace with
  | nil =>
      refine ⟨rfl, rfl, shows.resolve_left ?_⟩
      rintro ⟨-, -, row, none, -⟩
      cases none
  | cons row rest ih =>
      simp only [recoverStale, Program.bind_eq]
      by_cases first : (doctype = documentSign ∧ docname = record ∧ row.stale now = true) ∨
          ShowsPending record (site.view data (site.pending trace))
      · refine (recoverRow_shows calm now row first).bind ?_ fun _ _ _ _ ended => ended
        rintro value after later grown ⟨rfl, rfl, shown⟩
        exact (ih (Or.inr shown)).bind (fun _ _ _ _ ended => ended) fun _ _ _ _ ended => ended
      · -- the row does nothing for the record, so a later one must
        have later_row : doctype = documentSign ∧ docname = record ∧
            ∃ row ∈ rest, row.stale now = true := by
          obtain ⟨signs, same, other, member, stale⟩ :=
            shows.resolve_right fun shown => first (Or.inr shown)
          rcases List.mem_cons.mp member with rfl | member
          · exact absurd (Or.inl ⟨signs, same, stale⟩) first
          · exact ⟨signs, same, other, member, stale⟩
        have unchanged : Reopened (fun _ => false) (site.view data (site.pending trace))
            (site.view data (site.pending trace)) := ⟨rfl, fun name => by simp⟩
        refine (recoverRow_ensures calm now row unchanged).bind ?_ ?_
        · rintro value after later grown ⟨-, rfl, rfl, -⟩
          exact (ih (Or.inl later_row)).bind (fun _ _ _ _ ended => ended) fun _ _ _ _ ended => ended
        · rintro error after later grown ⟨impossible, -⟩
          cases impossible

/-- A page view of the document of a stale request. -/
theorem getSigningStatus_shows (lib : Libraries) (ctx : Context)
    (shows : (doctype = documentSign ∧ docname = record ∧
        ∃ row ∈ listed data doctype docname, row.stale shared.now = true) ∨
      ShowsPending record data) :
    @Ensures face site Response (MayRaise False)
      (fun result after _ grown => ShowsPending record (leaves result after grown))
      (body lib ⟨ctx, .getSigningStatus doctype docname⟩) data shared [] := by
  have calm (oracle : Oracle) (may : MayRaise False oracle) : oracle.fault = none :=
    may.resolve_left id
  refine ensures_status ?_ ?_
  · intro trace pending empty
    simp only [leaves, pending, site, view, List.foldl_nil]
    refine shows.resolve_left ?_
    rintro ⟨-, -, row, member, -⟩
    rw [empty] at member
    cases member
  · intro trace pending
    have unchanged : Reopened (fun _ => false) data (site.view data (site.pending trace)) := by
      rw [pending]
      exact ⟨rfl, fun name => by simp [site, view]⟩
    have start : (doctype = documentSign ∧ docname = record ∧
        ∃ row ∈ listed data doctype docname, row.stale shared.now = true) ∨
        ShowsPending record (site.view data (site.pending trace)) := by
      rw [pending]
      exact shows
    refine ((recoverStale_shows calm shared.now _ start).both
      (recoverStale_ensures calm shared.now _ unchanged)).bind ?_ ?_
    · rintro value after later grown ⟨⟨-, -, shown⟩, -⟩
      exact shown
    · rintro error after later grown ⟨-, impossible, -⟩
      cases impossible

end View

/-! ### What the cleanup does -/

/-- `signing_timeout_seconds`, with its default. -/
def Settings.timeoutSeconds (settings : Settings) : Int :=
  if settings.signingTimeoutSeconds = 0 then 180 else settings.signingTimeoutSeconds

def SigningRequest.timedOut (settings : Settings) (now : Instant) (row : SigningRequest) : Bool :=
  row.status == .inProgress &&
    decide ((row.modified : Int) < (now : Int) - settings.timeoutSeconds * 1000000)

/-- The listed requests have failed; the other requests and the records are as
they were. -/
structure Failing (names : List String) (before after : Database) : Prop where
  failed : ∀ name ∈ names, ∀ row, before.requests.lookup name = some row →
    ∃ kept, after.requests.lookup name = some kept ∧ kept.status = .failed
  kept : ∀ name, name ∉ names → after.requests.lookup name = before.requests.lookup name
  docSigns : after.docSigns = before.docSigns

theorem Failing.one (before : Database) (name reason : String) (at_ : Instant) :
    Failing [name] before (Write.perform before (.setRequest name (.failed reason) at_)) := by
  refine ⟨?_, ?_, rfl⟩
  · intro other member row found
    obtain rfl := List.mem_singleton.mp member
    refine ⟨(RequestUpdate.failed reason).apply at_ row, ?_, rfl⟩
    simp only [Write.perform, Table.lookup_modify, if_true, found, Option.map_some]
  · intro other distinct
    have another : other ≠ name := fun same => distinct (List.mem_singleton.mpr same)
    simp only [Write.perform, Table.lookup_modify, if_neg another]

theorem Failing.trans {names others : List String} {before between after : Database}
    (first : Failing names before between) (second : Failing others between after) :
    Failing (names ++ others) before after := by
  refine ⟨?_, ?_, second.docSigns.trans first.docSigns⟩
  · intro name member row found
    by_cases again : name ∈ others
    · by_cases already : name ∈ names
      · obtain ⟨row, found, -⟩ := first.failed name already row found
        exact second.failed name again row found
      · exact second.failed name again row ((first.kept name already).trans found)
    · rw [second.kept name again]
      exact first.failed name ((List.mem_append.mp member).resolve_right again) row found
  · intro name neither
    rw [List.mem_append, not_or] at neither
    rw [second.kept name neither.2, first.kept name neither.1]

section Cleanup

variable {kind : Oracle → Prop} {data : Database} {shared : Shared} {trace : ServerTrace}

theorem expireAll_ensures (calm : ∀ oracle, kind oracle → oracle.fault = none) (reason : String)
    (names : List String) :
    @Ensures face site Unit kind
      (fun result after later grown => result = .ok () ∧ after = data ∧ later = shared ∧
        Failing names (site.view data (site.pending trace)) (site.view after (site.pending grown)))
      (Program.forEach names fun name => ask (.setRequest name (.failed reason))) data shared
      trace := by
  induction names generalizing trace with
  | nil => exact ⟨rfl, rfl, rfl, fun _ none => (by cases none), fun _ _ => rfl, rfl⟩
  | cons name rest ih =>
      refine ensures_told calm (by simp) (fun _ _ => rfl) ?_
      refine ih.weaken ?_
      rintro result after later grown ⟨ended, rfl, rfl, failing⟩
      refine ⟨ended, rfl, rfl, ?_⟩
      rw [view_pending rfl] at failing
      exact (Failing.one _ name reason _).trans failing

/-- The requests that the cleanup marks as failed. -/
def overdue (data : Database) (now : Instant) : List String :=
  (data.requests.select (SigningRequest.timedOut data.masters.settings now)).map Prod.fst

theorem mem_overdue {now : Instant} {name : String} :
    name ∈ overdue data now ↔ ∃ row, data.requests.lookup name = some row ∧
      row.timedOut data.masters.settings now = true := by
  simp only [overdue, List.mem_map, Prod.exists, Table.mem_select]
  constructor
  · rintro ⟨_, row, overdue, rfl⟩
    exact ⟨row, overdue⟩
  · rintro ⟨row, overdue⟩
    exact ⟨name, row, overdue, rfl⟩

theorem expire_ensures (lib : Libraries) (ctx : Context) :
    @Ensures face site Response (MayRaise False)
      (fun result after _ grown => Failing (overdue data shared.now) data
        (leaves result after grown))
      (body lib ⟨ctx, .expireStalePendingRequests⟩) data shared [] := by
  have calm (oracle : Oracle) (may : MayRaise False oracle) : oracle.fault = none :=
    may.resolve_left id
  simp only [body, serve, expireStalePendingRequests, Program.bind_eq, Program.bind_assoc]
  refine ensures_read calm rfl (by simp) (fun _ _ => rfl) ?_ (fun _ _ _ _ raised => by cases raised)
  intro oracle settings later _ answered pending
  cases answered
  refine ensures_read calm pending (by simp) (fun _ _ => rfl) ?_
    (fun _ _ _ _ raised => by cases raised)
  intro oracle now later _ answered pending
  cases answered
  refine ensures_read calm pending (by simp) (fun _ _ => rfl) ?_
    (fun _ _ _ _ raised => by cases raised)
  intro oracle names later _ answered pending
  cases answered
  refine (expireAll_ensures calm _ (overdue data shared.now)).bind ?_ ?_
  · rintro value after later grown ⟨-, rfl, -, failing⟩
    rw [pending] at failing
    change @Ensures face site Response (MayRaise False) _
      ((if (overdue after shared.now).isEmpty then pure () else ask .commit : Server Unit).bind _)
      after _ grown
    split
    · exact failing
    · refine Ensures.perform ?_ ?_
      · intro oracle done later _ _
        exact failing
      · intro oracle exn later may replied
        simp [reply, calm oracle may, answer] at replied
  · rintro error after later grown ⟨impossible, -⟩
    cases impossible

end Cleanup

/-! ### Runs of the two -/

inductive Recovery where
  | view
  | cleanup
deriving DecidableEq

/-- The view is of the document that the request belongs to. -/
def Recovery.endpoint (row : SigningRequest) : Recovery → Endpoint
  | .view => .getSigningStatus row.sourceDoctype row.sourceName
  | .cleanup => .expireStalePendingRequests

structure RecoveryRun where
  ctx : Context
  wait : Nat
  recovery : Recovery
  oracles : List Oracle

def recoveryStep (lib : Libraries) (row : SigningRequest) (world : ServerWorld)
    (run : RecoveryRun) : Option ServerWorld :=
  serveCall lib run.ctx world ⟨run.wait, run.recovery.endpoint row, run.oracles⟩

/-- The surroundings raise nothing. -/
def RecoveryRun.Calm (run : RecoveryRun) : Prop := ∀ oracle ∈ run.oracles, oracle.fault = none

/-- In Progress for longer than both thresholds. -/
structure Overdue (settings : Settings) (now : Instant) (row : SigningRequest) : Prop where
  stale : row.stale now = true
  timedOut : row.timedOut settings now = true

/-- The request is Pending, and so is the DSC Document Sign record it stands for. -/
structure Retriable (name : String) (row : SigningRequest) (database : Database) : Prop where
  request : ∃ kept, database.requests.lookup name = some kept ∧ kept.status = .pending
  mirrored : ∀ record, row.record = some record → ShowsPending record database

def HasFailed (name : String) (database : Database) : Prop :=
  ∃ kept, database.requests.lookup name = some kept ∧ kept.status = .failed

theorem Overdue.later {settings : Settings} {now : Instant} {row : SigningRequest}
    (overdue : Overdue settings now row) (wait : Nat) : Overdue settings (now + wait) row := by
  obtain ⟨stale, timedOut⟩ := overdue
  simp only [SigningRequest.stale, SigningRequest.timedOut, Bool.and_eq_true, decide_eq_true_eq]
    at stale timedOut
  refine ⟨?_, ?_⟩
  · simp only [SigningRequest.stale, Bool.and_eq_true, decide_eq_true_eq]
    refine ⟨stale.1, stale.2.trans ?_⟩
    exact Nat.sub_le_sub_right (Nat.le_add_right now wait) row.modified
  · simp only [SigningRequest.timedOut, Bool.and_eq_true, decide_eq_true_eq]
    refine ⟨timedOut.1, timedOut.2.trans_le ?_⟩
    push_cast
    omega

theorem Overdue.inProgress {settings : Settings} {now : Instant} {row : SigningRequest}
    (overdue : Overdue settings now row) : row.status = .inProgress := by
  have stale := overdue.stale
  simp only [SigningRequest.stale, Bool.and_eq_true, beq_iff_eq] at stale
  exact stale.1

theorem calm_stale {now : Instant} {row : SigningRequest} (settled : row.status ≠ .inProgress) :
    row.stale now = false := by
  simp [SigningRequest.stale, settled]

theorem calm_timedOut {settings : Settings} {now : Instant} {row : SigningRequest}
    (settled : row.status ≠ .inProgress) : row.timedOut settings now = false := by
  simp [SigningRequest.timedOut, settled]

section Phases

variable {lib : Libraries} {row : SigningRequest} {name : String} {world next : ServerWorld}
  {run : RecoveryRun}

theorem recoveryStep_ends
    {post : Except Exn Response → Database → Shared → ServerTrace → Prop} (idle : world.Idle)
    (calm : run.Calm) (ran : recoveryStep lib row world run = some next)
    (ensures : @Ensures face site Response (MayRaise False) post
      (body lib ⟨run.ctx, run.recovery.endpoint row⟩) world.data
      { world.shared with now := world.shared.now + run.wait } []) :
    next.Idle ∧ ∃ result data trace, post result data next.shared trace ∧
      next.data = leaves result data trace := by
  simp only [recoveryStep, serveCall, step, Move.apply, Option.map_some, Option.bind_some] at ran
  have waiting : World.Idle
      { world with shared := { world.shared with now := world.shared.now + run.wait } } := idle
  exact serveAlone_ensures waiting ensures (fun oracle member => Or.inr (calm oracle member)) ran

theorem view_step (idle : world.Idle) (calm : run.Calm) (viewed : run.recovery = .view)
    (ran : recoveryStep lib row world run = some next) :
    next.Idle ∧ Reopened (choosing (fun _ => false) (world.shared.now + run.wait)
        (listed world.data row.sourceDoctype row.sourceName)) world.data next.data := by
  have ensures := getSigningStatus_ensures lib run.ctx row.sourceDoctype row.sourceName world.data
    { world.shared with now := world.shared.now + run.wait }
  have endpoint : run.recovery.endpoint row =
      .getSigningStatus row.sourceDoctype row.sourceName := by rw [viewed]; rfl
  rw [← endpoint] at ensures
  obtain ⟨rested, result, data, trace, ⟨-, -, reopened, status, ended, -⟩, left⟩ :=
    recoveryStep_ends idle calm ran ensures
  refine ⟨rested, ?_⟩
  rw [left, ended]
  exact reopened

theorem view_shows {record : String} (idle : world.Idle) (calm : run.Calm)
    (viewed : run.recovery = .view)
    (shows : (row.record = some record ∧ ∃ entry ∈
        listed world.data row.sourceDoctype row.sourceName,
        entry.stale (world.shared.now + run.wait) = true) ∨ ShowsPending record world.data)
    (ran : recoveryStep lib row world run = some next) : ShowsPending record next.data := by
  have endpoint : run.recovery.endpoint row =
      .getSigningStatus row.sourceDoctype row.sourceName := by rw [viewed]; rfl
  have start : (row.sourceDoctype = documentSign ∧ row.sourceName = record ∧
      ∃ entry ∈ listed world.data row.sourceDoctype row.sourceName,
        entry.stale (world.shared.now + run.wait) = true) ∨ ShowsPending record world.data := by
    refine shows.imp_left ?_
    rintro ⟨stands, stale⟩
    simp only [SigningRequest.record, Option.ite_none_right_eq_some, beq_iff_eq,
      Option.some.injEq] at stands
    exact ⟨stands.1, stands.2, stale⟩
  have ensures : @Ensures face site Response (MayRaise False) _ _ world.data
      { world.shared with now := world.shared.now + run.wait } [] :=
    getSigningStatus_shows lib run.ctx start
  rw [← endpoint] at ensures
  obtain ⟨-, result, data, trace, shown, left⟩ := recoveryStep_ends idle calm ran ensures
  rw [left]
  exact shown

theorem cleanup_step (idle : world.Idle) (calm : run.Calm) (cleaned : run.recovery = .cleanup)
    (ran : recoveryStep lib row world run = some next) :
    next.Idle ∧ Failing (overdue world.data (world.shared.now + run.wait)) world.data next.data := by
  have endpoint : run.recovery.endpoint row = .expireStalePendingRequests := by rw [cleaned]; rfl
  have ensures : @Ensures face site Response (MayRaise False) _ _ world.data
      { world.shared with now := world.shared.now + run.wait } [] := expire_ensures lib run.ctx
  rw [← endpoint] at ensures
  obtain ⟨rested, result, data, trace, failing, left⟩ := recoveryStep_ends idle calm ran ensures
  refine ⟨rested, ?_⟩
  rw [left]
  exact failing

/-- A request that is not In Progress keeps its status, whichever of the two runs. -/
theorem settled_kept {kept : SigningRequest} (idle : world.Idle) (calm : run.Calm)
    (found : world.data.requests.lookup name = some kept) (settled : kept.status ≠ .inProgress)
    (ran : recoveryStep lib row world run = some next) :
    next.Idle ∧ next.data.requests.lookup name = some kept := by
  cases which : run.recovery with
  | view =>
      obtain ⟨rested, reopened⟩ := view_step idle calm which ran
      refine ⟨rested, ?_⟩
      rw [reopened.requests, found, Option.map_some, choosing_listed found, calm_stale settled,
        Bool.and_false]
      rfl
  | cleanup =>
      obtain ⟨rested, failing⟩ := cleanup_step idle calm which ran
      refine ⟨rested, (failing.kept name ?_).trans found⟩
      intro listed
      obtain ⟨stored, located, late⟩ := mem_overdue.mp listed
      rw [found] at located
      cases located
      rw [calm_timedOut settled] at late
      cases late

/-- Idle between the runs, and the request can be retried. -/
structure Recovered (name : String) (row : SigningRequest) (world : ServerWorld) : Prop where
  idle : world.Idle
  retriable : Retriable name row world.data

structure GivenUp (name : String) (world : ServerWorld) : Prop where
  idle : world.Idle
  failed : HasFailed name world.data

theorem recovered_step (recovered : Recovered name row world) (calm : run.Calm)
    (ran : recoveryStep lib row world run = some next) : Recovered name row next := by
  obtain ⟨idle, ⟨kept, found, pending⟩, mirrored⟩ := recovered
  obtain ⟨rested, same⟩ := settled_kept idle calm found (by simp [pending]) ran
  refine ⟨rested, ⟨kept, same, pending⟩, fun record stands => ?_⟩
  cases which : run.recovery with
  | view => exact view_shows idle calm which (Or.inr (mirrored record stands)) ran
  | cleanup =>
      intro document shown
      rw [(cleanup_step idle calm which ran).2.docSigns] at shown
      exact mirrored record stands document shown

theorem givenUp_step (givenUp : GivenUp name world) (calm : run.Calm)
    (ran : recoveryStep lib row world run = some next) : GivenUp name next := by
  obtain ⟨idle, kept, found, failed⟩ := givenUp
  obtain ⟨rested, same⟩ := settled_kept idle calm found (by simp [failed]) ran
  exact ⟨rested, kept, same, failed⟩

theorem overdue_viewed (idle : world.Idle)
    (found : world.data.requests.lookup name = some row)
    (late : Overdue world.data.masters.settings world.shared.now row) (calm : run.Calm)
    (viewed : run.recovery = .view) (ran : recoveryStep lib row world run = some next) :
    Recovered name row next := by
  obtain ⟨rested, reopened⟩ := view_step idle calm viewed ran
  have stale := (late.later run.wait).stale
  have belongs : row.belongsTo row.sourceDoctype row.sourceName = true := by
    simp [SigningRequest.belongsTo]
  refine ⟨rested, ⟨{ row with status := .pending }, ?_, rfl⟩, fun record stands => ?_⟩
  · rw [reopened.requests, found, Option.map_some, choosing_listed found, stale, belongs]
    rfl
  · refine view_shows idle calm viewed (Or.inl ⟨stands, .ofRow (name, row), ?_, stale⟩) ran
    exact mem_listed.mpr ⟨name, row, found, belongs, rfl⟩

theorem overdue_cleaned (idle : world.Idle)
    (found : world.data.requests.lookup name = some row)
    (late : Overdue world.data.masters.settings world.shared.now row) (calm : run.Calm)
    (cleaned : run.recovery = .cleanup) (ran : recoveryStep lib row world run = some next) :
    GivenUp name next := by
  obtain ⟨rested, failing⟩ := cleanup_step idle calm cleaned ran
  exact ⟨rested, failing.failed name
    (mem_overdue.mpr ⟨row, found, (late.later run.wait).timedOut⟩) row found⟩

end Phases

/-- After any runs of the two the request and its record are Pending exactly if the
first run was a page view. -/
theorem recoveries_agree_iff {lib : Libraries} {name : String} {row : SigningRequest}
    {world last : ServerWorld} {first : RecoveryRun} {rest : List RecoveryRun} (idle : world.Idle)
    (found : world.data.requests.lookup name = some row)
    (late : Overdue world.data.masters.settings world.shared.now row)
    (calm : ∀ run ∈ first :: rest, run.Calm)
    (ran : Runs.run (recoveryStep lib row) world (first :: rest) = some last) :
    Retriable name row last.data ↔ first.recovery = .view := by
  obtain ⟨next, started, ran⟩ := Option.bind_eq_some_iff.mp ran
  have others : Runs.Along (recoveryStep lib row) (fun _ run => run.Calm) next rest :=
    Runs.along_members (fun run member _ => calm run (List.mem_cons_of_mem _ member)) next
  have quiet : first.Calm := calm first List.mem_cons_self
  cases which : first.recovery with
  | view =>
      refine iff_of_true ?_ rfl
      have recovered := Runs.run_invariant
        (fun _ _ _ recovered calm stepped => recovered_step recovered calm stepped)
        (overdue_viewed idle found late quiet which started) others ran
      exact recovered.retriable
  | cleanup =>
      refine iff_of_false ?_ (by simp)
      have givenUp := Runs.run_invariant
        (fun _ _ _ givenUp calm stepped => givenUp_step givenUp calm stepped)
        (overdue_cleaned idle found late quiet which started) others ran
      obtain ⟨kept, located, failed⟩ := givenUp.failed
      rintro ⟨⟨other, same, pending⟩, -⟩
      rw [located] at same
      cases same
      rw [failed] at pending
      cases pending

/-! ### An attempt that is left alone -/

/-- Alice begins to sign her record and leaves it for more than five minutes. -/
def documentAbandoned : List DeskLabel :=
  documentInitiated ++ [.server (.move (.elapse (seconds 400)))]

def recoveryRun (recovery : Recovery) (questions : Nat) : RecoveryRun :=
  ⟨sampleUser "alice", 0, recovery, List.replicate questions .plain⟩

theorem recoveryRun_calm (recovery : Recovery) (questions : Nat) :
    (recoveryRun recovery questions).Calm := by
  intro oracle member
  rw [List.eq_of_mem_replicate member]
  rfl

/-- The request is overdue, and these runs end with the two statuses. -/
def endsAs (runs : List RecoveryRun) (statuses : DocumentStatus × RequestStatus)
    (world : ServerWorld) : Bool :=
  world.idleCheck && (world.data.requests.lookup "SR-1").elim false fun row =>
    row.stale world.shared.now && row.timedOut world.data.masters.settings world.shared.now &&
      row.record == some "DS-1" &&
      ((Runs.run (recoveryStep sampleLibraries row) world runs).bind (statusesOf "DS-1" "SR-1") ==
        some statuses)

theorem endsAs_run {runs : List RecoveryRun} {document : DocumentStatus} {request : RequestStatus}
    {world : ServerWorld} (ends : endsAs runs (document, request) world = true) :
    world.Idle ∧ ∃ row last stored kept, world.data.requests.lookup "SR-1" = some row ∧
      Overdue world.data.masters.settings world.shared.now row ∧ row.record = some "DS-1" ∧
      Runs.run (recoveryStep sampleLibraries row) world runs = some last ∧
      last.data.docSigns.lookup "DS-1" = some stored ∧ stored.status = document ∧
      last.data.requests.lookup "SR-1" = some kept ∧ kept.status = request := by
  simp only [endsAs, Bool.and_eq_true] at ends
  obtain ⟨rested, ends⟩ := ends
  refine ⟨World.idle_of_check rested, ?_⟩
  cases found : world.data.requests.lookup "SR-1" with
  | none =>
      rw [found] at ends
      cases ends
  | some row =>
      simp only [found, Option.elim_some, Bool.and_eq_true, beq_iff_eq,
        Option.bind_eq_some_iff] at ends
      obtain ⟨⟨⟨stale, timedOut⟩, record⟩, last, ran, statuses⟩ := ends
      unfold statusesOf at statuses
      split at statuses
      · rename_i stored kept shown located
        split at statuses
        · cases statuses
          exact ⟨row, last, stored, kept, rfl, ⟨stale, timedOut⟩, record, ran, shown, rfl,
            located, rfl⟩
        · cases statuses
      · cases statuses

/-- The page view comes first, and the cleanup finds nothing to expire. -/
theorem recoveries_agree_viewed :
    ∃ world row last, Runs.run (deskStep sampleLibraries) documentSite documentAbandoned =
        some world ∧
      Runs.run (recoveryStep sampleLibraries row) world
        [recoveryRun .view 4, recoveryRun .cleanup 3] = some last ∧
      Retriable "SR-1" row last.data := by
  have ends : ((Runs.run (deskStep sampleLibraries) documentSite documentAbandoned).map
      (endsAs [recoveryRun .view 4, recoveryRun .cleanup 3] (.pending, .pending))) = some true := by
    decide +kernel
  obtain ⟨world, reached, ends⟩ := Option.map_eq_some_iff.mp ends
  obtain ⟨idle, row, last, -, -, found, late, -, ran, -⟩ := endsAs_run ends
  refine ⟨world, row, last, reached, ran, ?_⟩
  refine (recoveries_agree_iff idle found late ?_ ran).mpr rfl
  simp only [List.mem_cons, List.not_mem_nil, or_false, forall_eq_or_imp, forall_eq]
  exact ⟨recoveryRun_calm _ _, recoveryRun_calm _ _⟩

/-- The cleanup comes first: the request stays Failed, and the record In Progress. -/
theorem cleanup_before_view :
    ∃ world row last, Runs.run (deskStep sampleLibraries) documentSite documentAbandoned =
        some world ∧
      world.Idle ∧ world.data.requests.lookup "SR-1" = some row ∧
      Overdue world.data.masters.settings world.shared.now row ∧
      Runs.run (recoveryStep sampleLibraries row) world
        [recoveryRun .cleanup 5, recoveryRun .view 2] = some last ∧
      ¬ Retriable "SR-1" row last.data ∧
      ∃ kept stored, last.data.requests.lookup "SR-1" = some kept ∧ kept.status = .failed ∧
        last.data.docSigns.lookup "DS-1" = some stored ∧ stored.status = .inProgress := by
  have ends : ((Runs.run (deskStep sampleLibraries) documentSite documentAbandoned).map
      (endsAs [recoveryRun .cleanup 5, recoveryRun .view 2] (.inProgress, .failed))) =
        some true := by
    decide +kernel
  obtain ⟨world, reached, ends⟩ := Option.map_eq_some_iff.mp ends
  obtain ⟨idle, row, last, stored, kept, found, late, record, ran, shown, status, located,
    failed⟩ := endsAs_run ends
  refine ⟨world, row, last, reached, idle, found, late, ran, ?_, kept, stored, located, failed,
    shown, status⟩
  intro retriable
  have pending := retriable.mirrored "DS-1" record stored shown
  rw [status] at pending
  cases pending

end DscSigning
