/-
The way back for every signing request.

Whatever is going on at the site, the calls that run can be given up; then the
hourly cleanup, once the time-out has passed, and a retry make a request Pending
again that is In Progress or Failed.
-/

import DscSigning.Server.StaleRecovery

namespace DscSigning

open Interaction Engine

/-! ### The cleanup and a retry -/

/-- How long it takes until the cleanup takes an attempt for timed out. -/
def SigningRequest.dueIn (row : SigningRequest) (settings : Settings) (now : Instant) : Nat :=
  ((row.modified : Int) + settings.timeoutSeconds * 1000000 + 1 - now).toNat

theorem dueIn_timedOut {row : SigningRequest} {settings : Settings} {now wait : Nat}
    (started : row.status = .inProgress) (waited : row.dueIn settings now ≤ wait) :
    row.timedOut settings (now + wait) = true := by
  have later : (row.modified : Int) < ((now + wait : Nat) : Int) - settings.timeoutSeconds * 1000000 := by
    unfold SigningRequest.dueIn at waited
    omega
  simp only [SigningRequest.timedOut, started, beq_self_eq_true, Bool.true_and, decide_eq_true_eq]
  exact later

/-- A cleanup after some time, and a retry of the request; nothing outside fails. -/
structure Reopening (name : String) (wait : Nat) (cleanup retried : LifecycleCall) : Prop where
  cleans : cleanup.endpoint = .expireStalePendingRequests
  retries : retried.endpoint = .retry name
  waits : wait ≤ cleanup.wait
  calm : ∀ oracle ∈ cleanup.oracles ++ retried.oracles, oracle.fault = none

section Phases

variable {lib : Libraries} {ctx : Context} {world next : ServerWorld} {name : String}
  {row : SigningRequest}

theorem serveCall_for {call : LifecycleCall} (served : serveCall lib ctx world call = some next)
    {doctype docname : String} (source : For world.data name doctype docname) :
    For next.data name doctype docname := by
  obtain ⟨later, waited, ran⟩ := Option.bind_eq_some_iff.mp served
  exact run_invariant (body lib) (fun _ _ _ kept _ stepped => for_step stepped kept)
    (for_step waited source) (along_always (body lib)) ran

theorem For.record {row kept : SigningRequest} {database : Database}
    (source : For database name row.sourceDoctype row.sourceName)
    (found : database.requests.lookup name = some kept) : kept.record = row.record := by
  obtain ⟨other, there, doctype, docname⟩ := source
  rw [found] at there
  cases there
  simp only [SigningRequest.record, doctype, docname]

/-- After the cleanup the request has failed. -/
theorem cleanup_fails {call : LifecycleCall} (idle : world.Idle)
    (found : world.data.requests.lookup name = some row)
    (stuck : row.status = .inProgress ∨ row.status = .failed)
    (cleans : call.endpoint = .expireStalePendingRequests)
    (calm : ∀ oracle ∈ call.oracles, oracle.fault = none)
    (waited : row.dueIn world.data.masters.settings world.shared.now ≤ call.wait)
    (served : serveCall lib ctx world call = some next) :
    next.Idle ∧ ∃ kept, next.data.requests.lookup name = some kept ∧ kept.status = .failed ∧
      kept.record = row.record := by
  obtain ⟨wait, endpoint, oracles⟩ := call
  cases cleans
  let run : RecoveryRun := ⟨ctx, wait, .cleanup, oracles⟩
  have ran : recoveryStep lib row world run = some next := served
  have quiet : run.Calm := calm
  have source := serveCall_for served ⟨row, found, rfl, rfl⟩
  have fails (kept : SigningRequest) (located : next.data.requests.lookup name = some kept)
      (failed : kept.status = .failed) : ∃ kept, next.data.requests.lookup name = some kept ∧
        kept.status = .failed ∧ kept.record = row.record :=
    ⟨kept, located, failed, source.record located⟩
  rcases stuck with started | failed
  · obtain ⟨rested, failing⟩ := cleanup_step idle quiet rfl ran
    obtain ⟨kept, located, failed⟩ := failing.failed name
      (mem_overdue.mpr ⟨row, found, dueIn_timedOut started waited⟩) row found
    exact ⟨rested, fails kept located failed⟩
  · obtain ⟨rested, located⟩ := settled_kept idle quiet found (by simp [failed]) ran
    exact ⟨rested, fails row located failed⟩

/-- A retry makes a failed request and its record Pending. -/
theorem retry_reopens {call : LifecycleCall} (idle : world.Idle)
    (found : world.data.requests.lookup name = some row) (failed : row.status = .failed)
    (retries : call.endpoint = .retry name) (calm : ∀ oracle ∈ call.oracles, oracle.fault = none)
    (served : serveCall lib ctx world call = some next) :
    next.Idle ∧ Retriable name row next.data := by
  have turn : call.endpoint.turn (book world.data) = some (name, .pending, row.record) := by
    rw [retries, Endpoint.turn, book_found found, failed]
  obtain ⟨rested, ended⟩ := @serveCall_turns lib ctx False world next call idle
    (by rw [retries]; rfl) (fun oracle member => Or.inr (calm oracle member)) served
  rw [turn] at ended
  have turned := ended.resolve_right (by simp)
  obtain ⟨kept, located, pending, _⟩ := turned.row found
  refine ⟨rested, ⟨kept, located, pending⟩, fun record stands document shown => ?_⟩
  rw [turned.document record, if_pos stands] at shown
  obtain ⟨before, _, same⟩ := Option.map_eq_some_iff.mp shown
  rw [← same]
  rfl

theorem reopening_reopens {cleanup retried : LifecycleCall} (idle : world.Idle)
    (found : world.data.requests.lookup name = some row)
    (stuck : row.status = .inProgress ∨ row.status = .failed)
    (reopening : Reopening name (row.dueIn world.data.masters.settings world.shared.now) cleanup
      retried) (served : serveAll lib ctx world [cleanup, retried] = some next) :
    next.Idle ∧ Retriable name row next.data := by
  obtain ⟨between, first, served⟩ := Option.bind_eq_some_iff.mp served
  obtain ⟨last, second, same⟩ := Option.bind_eq_some_iff.mp served
  cases same
  obtain ⟨rested, kept, located, failed, record⟩ := cleanup_fails idle found stuck reopening.cleans
    (fun oracle member => reopening.calm oracle (List.mem_append_left _ member)) reopening.waits first
  obtain ⟨ended, retriable⟩ := retry_reopens rested located failed reopening.retries
    (fun oracle member => reopening.calm oracle (List.mem_append_right _ member)) second
  refine ⟨ended, retriable.request, fun other stands => ?_⟩
  exact retriable.mirrored other (record.trans stands)

/-- A call of any endpoint can be answered to its end without a fault, after any time. -/
theorem serveCall_after (lib : Libraries) (ctx : Context) (idle : world.Idle) (endpoint : Endpoint)
    (wait : Nat) : ∃ oracles next, (∀ oracle ∈ oracles, oracle.fault = none) ∧
      serveCall lib ctx world ⟨wait, endpoint, oracles⟩ = some next := by
  have waiting : World.Idle
      { world with shared := { world.shared with now := world.shared.now + wait } } := idle
  obtain ⟨oracles, next, kinds, served⟩ :=
    @serveAlone_completes face site Origin Response (body lib) (MayRaise False) _ ⟨ctx, endpoint⟩
      waiting calm_answers
  refine ⟨oracles, next, fun oracle member => (kinds oracle member).resolve_left id, ?_⟩
  simp only [serveCall, step, Move.apply, Option.map_some, Option.bind_some]
  exact served

theorem reopening_completes {row : SigningRequest} (lib : Libraries) (ctx : Context)
    (idle : world.Idle) (found : world.data.requests.lookup name = some row)
    (stuck : row.status = .inProgress ∨ row.status = .failed) :
    ∃ cleanup retried last, Reopening name
        (row.dueIn world.data.masters.settings world.shared.now) cleanup retried ∧
      serveAll lib ctx world [cleanup, retried] = some last := by
  obtain ⟨oracles, between, calm, first⟩ := serveCall_after lib ctx idle .expireStalePendingRequests
    (row.dueIn world.data.masters.settings world.shared.now)
  obtain ⟨rested, _⟩ := cleanup_fails idle found stuck rfl calm (Nat.le_refl _) first
  obtain ⟨others, last, quiet, second⟩ := serveCall_after lib ctx rested (.retry name) 0
  refine ⟨⟨row.dueIn world.data.masters.settings world.shared.now, .expireStalePendingRequests,
    oracles⟩, ⟨0, .retry name, others⟩, last, ⟨rfl, rfl, Nat.le_refl _, ?_⟩, ?_⟩
  · intro oracle member
    exact (List.mem_append.mp member).elim (calm oracle) (quiet oracle)
  · rw [serveAll, first, Option.bind_some, serveAll, second]
    rfl

end Phases

/-- No signing request is stuck.  From every state of the site, whatever calls are running, these
can be given up without a change to what is committed; then the cleanup and a retry can go
through without a fault, and whenever they do so after the time-out, a request that was In
Progress or Failed is Pending, and so is the DSC Document Sign record it stands for. -/
theorem no_request_is_stuck (lib : Libraries) (ctx : Context) (world : ServerWorld) {name : String}
    {row : SigningRequest} (found : world.data.requests.lookup name = some row)
    (stuck : row.status = .inProgress ∨ row.status = .failed) :
    ∃ labels rested, Halted (body lib) world rested labels ∧ rested.Idle ∧
      (∃ cleanup retried last, Reopening name
          (row.dueIn world.data.masters.settings world.shared.now) cleanup retried ∧
        serveAll lib ctx rested [cleanup, retried] = some last) ∧
      ∀ cleanup retried last, Reopening name
          (row.dueIn world.data.masters.settings world.shared.now) cleanup retried →
        serveAll lib ctx rested [cleanup, retried] = some last →
        last.Idle ∧ Retriable name row last.data := by
  obtain ⟨labels, rested, halted, idle⟩ := @halt _ _ _ _ (body lib) world
  rw [← halted.data] at found
  rw [← halted.data, ← halted.shared]
  refine ⟨labels, rested, halted, idle, reopening_completes lib ctx idle found stuck, ?_⟩
  intro cleanup retried last reopening served
  exact reopening_reopens idle found stuck reopening served

/-- The request whose signing was left alone, and what the two calls make of it. -/
theorem no_request_is_stuck_sample :
    ∃ world row rested cleanup retried last,
      Runs.run (deskStep sampleLibraries) documentSite documentAbandoned = some world ∧
      world.data.requests.lookup "SR-1" = some row ∧ row.status = .inProgress ∧
      rested.data = world.data ∧
      serveAll sampleLibraries (sampleUser "alice") rested [cleanup, retried] = some last ∧
      Retriable "SR-1" row last.data := by
  have ends : ((Runs.run (deskStep sampleLibraries) documentSite documentAbandoned).map fun world =>
      (world.data.requests.lookup "SR-1").any fun row => row.status == .inProgress) =
        some true := by
    decide +kernel
  obtain ⟨world, reached, holds⟩ := Option.map_eq_some_iff.mp ends
  obtain ⟨row, found, started⟩ := (Option.any_eq_true ..).mp holds
  rw [beq_iff_eq] at started
  obtain ⟨labels, rested, halted, _, ⟨cleanup, retried, last, reopening, served⟩, reopens⟩ :=
    no_request_is_stuck sampleLibraries (sampleUser "alice") world found (Or.inl started)
  exact ⟨world, row, rested, cleanup, retried, last, reached, found, started, halted.data, served,
    (reopens cleanup retried last reopening served).2⟩

end DscSigning
