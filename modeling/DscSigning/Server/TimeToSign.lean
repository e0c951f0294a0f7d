/-
What the time-to-sign report measures.

`finalize` reads the clock when it has been given its session and again when it
has saved the file; the request may have been created long before.
-/

import DscSigning.Server.Recording
import DscSigning.Server.SingleFile
import DscSigning.Server.TimeReport

namespace DscSigning

open Interaction Engine TimeReport

variable {lib : Libraries}

/-! ### The duration that is recorded -/

/-- The evidence of a `finalize` holds the last reading, and the whole seconds between the first and
the one before it. -/
def Measures (origin : Origin) (trace : ServerTrace) : Operation → Prop
  | .setRequest name (.signed evidence) => ∀ arguments, origin.endpoint = .finalize arguments →
      ∃ startTime finished, Began trace name startTime ∧
        Finished trace finished evidence.signedOn ∧
        evidence.signDurationSeconds = (finished - startTime) / 1000000
  | _ => True

theorem body_measures (origin : Origin) :
    (body lib origin).Follows (Measures origin) (fun _ _ => True) [] := by
  refine body_records (fun ctx arguments => ?_) ?_ origin
  · constructor
    · intro trace operation ordinary
      cases operation with
      | setRequest name update =>
          cases update with
          | signed evidence => exact ordinary.elim
          | _ => trivial
      | _ => trivial
    · intro _ _ _
      trivial
    · intro trace name evidence startTime finished began ended same _ _
      exact ⟨startTime, finished, began, ended, same⟩
  · intro origin trace operation others
    cases operation with
    | setRequest name update =>
        cases update with
        | signed evidence => exact fun arguments same => absurd same (others arguments)
        | _ => trivial
    | _ => trivial

/-! ### The clock of the site -/

/-- Events follow each other in time, and a reading of the clock is its time. -/
def Timely (_origin : Origin) (earlier : ServerTrace) (event : ServerEvent) : Prop :=
  (∀ older ∈ earlier, older.stamp ≤ event.stamp) ∧
    ∀ reading stamp, event = ⟨.now, .ok reading, stamp⟩ → reading = stamp

/-- The columns of a row that the report reads, as the evidence has them. -/
structure ShowsTimes (row : SigningRequest) (evidence : SignedEvidence) : Prop where
  signedOn : row.signedOn = some evidence.signedOn
  duration : row.signDurationSeconds = some evidence.signDurationSeconds

theorem showsTimes_written : Written ShowsTimes where
  signed _ _ _ := ⟨rfl, rfl⟩
  hashed _ _ _ _ _ shows := ⟨shows.signedOn, shows.duration⟩

theorem fold_createdOn (name : String) (writes : List Write) (row : SigningRequest) :
    (writes.foldl (Write.onRequest name) row).createdOn = row.createdOn := by
  refine fold_keeps SigningRequest.createdOn (fun write _ inner => ?_) row
  refine onRequest_keeps SigningRequest.createdOn inner (fun update at_ _ => ?_) fun _ _ => rfl
  cases update <;> rfl

/-- What the times on the rows go back to. -/
structure Clocked (lib : Libraries) (world : ServerWorld) : Prop where
  measured : world.Disciplined Measures fun _ _ _ => True
  bounded : ∀ index event, world.Asked index event → event.stamp ≤ world.shared.now
  timely : world.Heeds Timely
  created : ∀ name row, world.data.requests.lookup name = some row →
    ∃ createdOn, row.createdOn = some createdOn ∧ createdOn ≤ world.shared.now
  mentioned : ∀ index event name row createdOn, world.Asked index event →
    name ∈ mentioned event → world.data.requests.lookup name = some row →
    row.createdOn = some createdOn → createdOn ≤ event.stamp
  shown : ∀ name row, world.data.requests.lookup name = some row → row.status = .signed →
    ∃ index evidence at_, world.Asked index ⟨.setRequest name (.signed evidence), .ok (), at_⟩ ∧
      ShowsTimes row evidence

section Step

variable {world next : ServerWorld} {label : ServerLabel}

/-- A question leaves the clock where it is. -/
theorem asking_now (stepped : step (body lib) world label = some next) {index : Nat}
    {call : ServerCall} {event : ServerEvent} (found : asking world label = some (index, call, event)) :
    event.stamp = world.shared.now ∧ next.shared.now = world.shared.now := by
  obtain ⟨oracle, replied⟩ := asking_shared (body lib) stepped found
  refine ⟨(asking_located found).2.1, ?_⟩
  generalize next.shared = later at replied ⊢
  cases reply_changed replied <;> rfl

theorem timely_asking (stepped : step (body lib) world label = some next)
    (bounded : ∀ index event, world.Asked index event → event.stamp ≤ world.shared.now)
    {index : Nat} {call : ServerCall} {event : ServerEvent}
    (found : asking world label = some (index, call, event)) :
    Timely call.origin call.trace event := by
  have stamped := (asking_now stepped found).1
  constructor
  · intro older member
    rw [stamped]
    exact bounded index older ⟨call, (asking_located found).1, member⟩
  · rintro reading stamp rfl
    obtain ⟨oracle, replied⟩ := asking_shared (body lib) stepped found
    have answered := answer_of_reply replied
    simp only [answer, Option.some.injEq, Prod.mk.injEq, Except.ok.injEq] at answered
    exact answered.1.symm.trans stamped.symm

/-- A request has its time of creation from the row it had before, or is new. -/
theorem created_before (stepped : step (body lib) world label = some next) {name : String}
    {row : SigningRequest} (found : next.data.requests.lookup name = some row) :
    (∃ old, world.data.requests.lookup name = some old ∧ row.createdOn = old.createdOn) ∨
      (world.data.requests.lookup name = none ∧ row.createdOn = some world.shared.now) := by
  cases there : world.data.requests.lookup name with
  | some old =>
      refine Or.inl ⟨old, rfl, ?_⟩
      rcases row_step stepped there with ⟨same, _⟩ | ⟨index, call, _, after, _⟩
      · rw [found] at same
        cases same
        rfl
      · rw [found] at after
        cases after
        exact fold_createdOn name _ old
  | none =>
      rcases row_before stepped found with ⟨old, there'⟩ | ⟨request, same, _⟩
      · rw [there] at there'
        cases there'
      · exact Or.inr ⟨rfl, by rw [same]; rfl⟩

theorem clocked_step (traced : Traced lib world) (known : Known world) (clocked : Clocked lib world)
    (stepped : step (body lib) world label = some next) : Clocked lib next := by
  have later := now_step stepped
  have created : ∀ name row, next.data.requests.lookup name = some row →
      ∃ createdOn, row.createdOn = some createdOn ∧ createdOn ≤ next.shared.now := by
    intro name row found
    rcases created_before stepped found with ⟨old, there, same⟩ | ⟨_, new⟩
    · obtain ⟨createdOn, written, before⟩ := clocked.created name old there
      exact ⟨createdOn, same.trans written, before.trans later⟩
    · exact ⟨_, new, later⟩
  constructor
  · exact disciplined_step (body lib) body_measures clocked.measured stepped
  · intro index event asked
    rcases asked_step (body lib) stepped asked with old | ⟨call, found⟩
    · exact (clocked.bounded index event old).trans later
    · rw [(asking_now stepped found).1]
      exact later
  · exact heeds_step (body lib) clocked.timely
      (fun _ _ _ found => timely_asking stepped clocked.bounded found) stepped
  · exact created
  · intro index event name row createdOn asked named found written
    rcases asked_step (body lib) stepped asked with old | ⟨call, asks⟩
    · obtain ⟨before, there⟩ := Option.isSome_iff_exists.mp (known index event name old named)
      rcases created_before stepped found with ⟨older, there', same⟩ | ⟨absent, _⟩
      · exact clocked.mentioned index event name older createdOn old named there'
          (same.symm.trans written)
      · rw [there] at absent
        cases absent
    · obtain ⟨stamped, unmoved⟩ := asking_now stepped asks
      obtain ⟨other, same, before⟩ := created name row found
      rw [written] at same
      cases same
      rw [stamped, ← unmoved]
      exact before
  · intro name row found signed
    rcases signed_cases showsTimes_written traced.disciplined stepped found signed with
      ⟨old, there, already, kept⟩ | ⟨index, call, evidence, at_, _, _, asked, shows⟩
    · obtain ⟨index, evidence, at_, asked, shows⟩ := clocked.shown name old there already
      exact ⟨index, evidence, at_, asked_mono (body lib) stepped asked, kept evidence shows⟩
    · exact ⟨index, evidence, at_, asked_mono (body lib) stepped asked, shows⟩

end Step

theorem clocked_installed (masters : Masters) (now : Instant) (zone : Int) :
    Clocked lib (installed masters now zone) where
  measured := by intro index call located; cases located
  bounded _ _ asked := absurd asked not_asked_installed
  timely := by intro index call event earlier located; cases located
  created := by intro name row found; cases found
  mentioned _ _ _ _ _ asked := absurd asked not_asked_installed
  shown := by intro name row found; cases found

theorem run_clocked {masters : Masters} {now : Instant} {zone : Int} {labels : List ServerLabel}
    {world : ServerWorld}
    (reached : run (body lib) (installed masters now zone) labels = some world) :
    Traced lib world ∧ Known world ∧ Clocked lib world := by
  have preserved (world : ServerWorld) (label : ServerLabel) (next : ServerWorld)
      (traced : Traced lib world) (both : Known world ∧ Clocked lib world) (_ : True)
      (stepped : step (body lib) world label = some next) : Known next ∧ Clocked lib next :=
    ⟨known_step traced both.1 stepped, clocked_step traced both.1 both.2 stepped⟩
  exact run_traced (fun world => Known world ∧ Clocked lib world)
    ⟨known_installed masters now zone, clocked_installed masters now zone⟩ preserved
    (along_always (body lib)) reached

/-! ### The readings behind a Signed request -/

/-- The `finalize` whose evidence the request shows, and the readings of the clock that its duration
lies between: when it was given the session, and when the file was saved. -/
def TimedBy (world : ServerWorld) (name : String) (row : SigningRequest)
    (startTime finished : Instant) : Prop :=
  ∃ (index : Nat) (call : ServerCall) (evidence : SignedEvidence) (at_ : Instant)
      (earlier : ServerTrace), world.calls[index]? = some call ∧
    (⟨.setRequest name (.signed evidence), .ok (), at_⟩ : ServerEvent) :: earlier <:+ call.trace ∧
    ShowsTimes row evidence ∧ Began earlier name startTime ∧
    Finished earlier finished evidence.signedOn

section Readings

variable {world : ServerWorld}

/-- The duration of a row is what lies between the readings behind it. -/
theorem timedBy_duration (traced : Traced lib world) (clocked : Clocked lib world) {name : String}
    {row : SigningRequest} {startTime finished : Instant}
    (timed : TimedBy world name row startTime finished) :
    row.signDurationSeconds = some ((finished - startTime) / 1000000) := by
  obtain ⟨index, call, evidence, at_, earlier, located, suffix, shows, began, ended⟩ := timed
  obtain ⟨arguments, _, _, _, _, _, endpoint, _⟩ :=
    ((disciplined_running traced.disciplined located).suffix suffix).1.2
  obtain ⟨first, last, begun, stopped, same⟩ :=
    ((disciplined_running clocked.measured located).suffix suffix).1 arguments endpoint
  rw [shows.duration, same, begun.unique began, stopped.unique ended]

/-- Every Signed request was timed, and not longer than it took. -/
theorem signed_timed (traced : Traced lib world) (clocked : Clocked lib world) {name : String}
    {row : SigningRequest} (found : world.data.requests.lookup name = some row)
    (signed : row.status = .signed) : ∃ startTime finished createdOn signedOn,
      TimedBy world name row startTime finished ∧ row.createdOn = some createdOn ∧
        row.signedOn = some signedOn ∧ createdOn ≤ startTime ∧ finished ≤ signedOn := by
  obtain ⟨index, evidence, at_, asked, shows⟩ := clocked.shown name row found signed
  obtain ⟨call, earlier, located, suffix, permitted⟩ := traced.honours asked
  obtain ⟨arguments, _, _, _, _, _, endpoint, _⟩ := permitted.2
  obtain ⟨startTime, finished, began, ended, _⟩ :=
    ((disciplined_running clocked.measured located).suffix suffix).1 arguments endpoint
  obtain ⟨createdOn, written, _⟩ := clocked.created name row found
  have within : earlier <:+ call.trace := (List.suffix_cons _ _).trans suffix
  refine ⟨startTime, finished, createdOn, evidence.signedOn,
    ⟨index, call, evidence, at_, earlier, located, suffix, shows, began, ended⟩, written,
    shows.signedOn, ?_, ?_⟩
  · -- The session was loaded before the clock was read, and names a request that was there.
    obtain ⟨startedAt, before, inside, _, sessionId, session, ⟨loadedAt, member⟩, rfl⟩ := began
    obtain ⟨ordered, reads⟩ := clocked.timely index call _ before located (inside.trans within)
    have loaded : world.Asked index ⟨.loadSession sessionId, .ok (some session), loadedAt⟩ :=
      ⟨call, located, ((List.suffix_cons _ _).trans (inside.trans within)).subset member⟩
    calc createdOn ≤ loadedAt :=
          clocked.mentioned index _ _ row createdOn loaded (List.mem_singleton_self _) found written
      _ ≤ startedAt := ordered _ member
      _ = startTime := (reads startTime startedAt rfl).symm
  · obtain ⟨finishedAt, signedAt, before, rfl⟩ := ended
    obtain ⟨ordered, reads⟩ := clocked.timely index call _ _ located within
    obtain ⟨_, readsBefore⟩ :=
      clocked.timely index call _ before located ((List.suffix_cons _ _).trans within)
    calc finished = finishedAt := readsBefore finished finishedAt rfl
      _ ≤ signedAt := ordered _ List.mem_cons_self
      _ = evidence.signedOn := (reads evidence.signedOn signedAt rfl).symm

theorem reached_timed (traced : Traced lib world) (clocked : Clocked lib world) :
    Timed world.data := by
  intro name row found signed
  obtain ⟨startTime, finished, createdOn, signedOn, timed, created, signedAt, after, before⟩ :=
    signed_timed traced clocked found signed
  refine ⟨(finished - startTime) / 1000000, (signedOn - createdOn) / 1000000,
    timedBy_duration traced clocked timed, ?_, Nat.div_le_div_right (tsub_le_tsub before after)⟩
  rw [elapsedSeconds, created, signedAt]

end Readings

/-- After every run the report tells the times from creation to signature, for all filters, exactly
where each Signed request was as many whole seconds in the `finalize` that signed it. -/
theorem report_tells_iff {masters : Masters} {now : Instant} {zone : Int}
    {labels : List ServerLabel} {world : ServerWorld}
    (reached : run (body lib) (installed masters now zone) labels = some world) :
    (∀ filters, TellsElapsed world.data filters) ↔
      ∀ name row, world.data.requests.lookup name = some row → row.status = .signed →
        ∃ startTime finished createdOn signedOn, TimedBy world name row startTime finished ∧
          row.createdOn = some createdOn ∧ row.signedOn = some signedOn ∧
          (finished - startTime) / 1000000 = (signedOn - createdOn) / 1000000 := by
  obtain ⟨traced, _, clocked⟩ := run_clocked reached
  rw [tells_iff (reached_timed traced clocked)]
  constructor
  · intro tells name row found signed
    obtain ⟨startTime, finished, createdOn, signedOn, timed, created, signedAt, _, _⟩ :=
      signed_timed traced clocked found signed
    have same := tells name row found signed
    rw [timedBy_duration traced clocked timed, elapsedSeconds, created, signedAt] at same
    exact ⟨startTime, finished, createdOn, signedOn, timed, created, signedAt, Option.some.inj same⟩
  · intro readings name row found signed
    obtain ⟨startTime, finished, createdOn, signedOn, timed, created, signedAt, same⟩ :=
      readings name row found signed
    rw [timedBy_duration traced clocked timed, elapsedSeconds, created, signedAt, same]

/-! ### A request that is signed at once, and one that waits for an hour -/

theorem report_tells_sample :
    ∃ world, run (body sampleLibraries) sampleSite sampleSigning = some world ∧
      ((∀ filters, TellsElapsed world.data filters) ↔
        ∀ name row, world.data.requests.lookup name = some row → row.status = .signed →
          ∃ startTime finished createdOn signedOn, TimedBy world name row startTime finished ∧
            row.createdOn = some createdOn ∧ row.signedOn = some signedOn ∧
            (finished - startTime) / 1000000 = (signedOn - createdOn) / 1000000) := by
  have ends : (run (body sampleLibraries) sampleSite sampleSigning).isSome = true := by
    decide +kernel
  obtain ⟨world, reached⟩ := Option.isSome_iff_exists.mp ends
  exact ⟨world, reached, report_tells_iff reached⟩

/-- The request waits for an hour before it is signed. -/
def delayedSigning : List ServerLabel :=
  .move (.createRequest "SR-1" sampleRequest) :: .move (.elapse (seconds 3600)) ::
    (served 0 ⟨sampleUser "alice", .initiate sampleInitiate⟩ 24 (sampleOracle "S-1" "") ++
      served 1 ⟨sampleUser "alice", .finalize (sampleFinalize "S-1")⟩ 32 (sampleOracle "" "F-1"))

/-- The report shows no second for it. -/
theorem report_misses_wait : ∃ world,
    run (body sampleLibraries) sampleSite delayedSigning = some world ∧
      ¬ TellsElapsed world.data ⟨none, none, none⟩ := by
  have ends : ((run (body sampleLibraries) sampleSite delayedSigning).map fun world =>
      ((execute world.data ⟨none, none, none⟩).map ReportLine.minSeconds,
        (members world.data ⟨none, none, none⟩ ("P-1", "Sales Invoice")).filterMap
          elapsedSeconds)) = some ([0], [3600]) := by
    decide +kernel
  obtain ⟨world, reached, shown⟩ := Option.map_eq_some_iff.mp ends
  obtain ⟨lines, elapsed⟩ := Prod.mk.inj shown
  refine ⟨world, reached, fun tells => ?_⟩
  have some_ : members world.data ⟨none, none, none⟩ ("P-1", "Sales Invoice") ≠ [] := by
    intro none_
    rw [none_] at elapsed
    cases elapsed
  have line := ((tells ("P-1", "Sales Invoice") some_ _).mpr rfl).1
  have least := List.mem_map_of_mem (f := ReportLine.minSeconds) line
  rw [lines, elapsed] at least
  revert least
  decide

end DscSigning
