/-
Runs of the site and the desk in which the audit trail of a request tells its
status and every reason it failed for, and a run in which it does not.
-/

import DscSigning.Server.EventHash
import DscSigning.Server.Retention
import DscSigning.Server.TrailRules

namespace DscSigning

open Interaction Engine

variable {lib : Libraries} {name : String}

/-- The step takes none of the branches that write a status of the request and
log nothing, or something else. -/
def logsRequest (lib : Libraries) (name : String) (world : ServerWorld) : DeskLabel → Bool
  | .server label =>
      match asking world label with
      | some (_, call, event) => !unlogged lib name call.origin (event :: call.trace)
      | none => true
  | .saveDocument user record requestName form =>
      match saveDocument world.data user record requestName form with
      | .ok (_, some (created, _)) => created != name
      | _ => true
  | .evaluateRules _ => true

def readsFailure (name : String) : ServerEvent → Bool
  | ⟨.getRequest other, .ok row, _⟩ =>
      other == name && row.status == .failed && row.failureReason.given
  | _ => false

/-- The call retries the request and has found a failure reason, which it clears. -/
def clearsReason (name : String) (origin : Origin) (trace : ServerTrace) : Bool :=
  origin.endpoint == .retry name && trace.any (readsFailure name)

def retriesBlank (name : String) (world : ServerWorld) : DeskLabel → Bool
  | .server label =>
      match asking world label with
      | some (_, call, event) => !clearsReason name call.origin (event :: call.trace)
      | none => true
  | _ => true

/-- The event of a retry has the failure reason that the retry has read, and clears. -/
def RetriesTold (lib : Libraries) (name : String) (world : ServerWorld) : Prop :=
  ∀ (index : Nat) (call : ServerCall) event stamp earlier doc, world.calls[index]? = some call →
    call.origin.endpoint = .retry name → event.eventType = "Request Retried" →
      ⟨.insertEvent event, .ok (), stamp⟩ :: earlier <:+ call.trace →
        Answered earlier (.getRequest name) doc → Mentions lib event (doc.failureReason.getD "")

/-- What is kept of a request and its trail along a run. -/
structure Trailed (lib : Libraries) (name : String) (world : ServerWorld) : Prop where
  auditing : world.Disciplined (Auditing lib name) fun origin => Audits lib name origin
  logged : ∀ (index : Nat) (call : ServerCall), world.calls[index]? = some call →
    unlogged lib name call.origin call.trace = false
  audited : Audited lib name world.data

/-! ### The steps of the site -/

section Step

variable {world next : ServerWorld}

theorem move_events {move : Move} {database after : Database} {shared later : Shared}
    (moved : move.apply database shared = some (after, later)) : after.events = database.events := by
  cases move with
  | createRequest created request =>
      simp only [Move.apply] at moved
      split at moved <;> cases moved
      rfl
  | _ =>
      cases moved
      rfl

theorem unmoved_same {before after : Database}
    (requests : after.requests.lookup name = before.requests.lookup name)
    (events : after.events = before.events) : Unmoved name before after :=
  { row := by rw [requests]
    told := by rw [events]
    grown := fun event member => by rw [events]; exact member }

theorem logged_step {label : ServerLabel} (trailed : Trailed lib name world)
    (logs : logsRequest lib name world (.server label) = true)
    (stepped : step (body lib) world label = some next) :
    ∀ (index : Nat) (call : ServerCall), next.calls[index]? = some call →
      unlogged lib name call.origin call.trace = false := by
  refine @untainted_step _ _ _ _ (body lib) (unlogged lib name) (fun origin => ?_) _ _ _ trailed.logged
    (fun index call event found => ?_) stepped
  · simp only [unlogged, List.any_nil, Bool.and_false, Bool.or_self]
  · simpa only [logsRequest, found, Bool.not_eq_true'] using logs

theorem committing_complete {label : ServerLabel} (trailed : Trailed lib name world) {index : Nat}
    {call : ServerCall} (committed : committing world label = some (index, call)) :
    Complete lib name call.origin call.trace := by
  rcases disciplined_committing trailed.auditing committed with
    ⟨⟨operation, result, stamp⟩, commits, allowed⟩ | ⟨value, complete⟩
  · cases operation with
    | commit => exact allowed
    | _ => cases result <;> cases commits
  · exact complete

theorem audited_step {label : ServerLabel} (trailed : Trailed lib name world)
    (own : assumed label = false) (stepped : step (body lib) world label = some next) :
    Audited lib name next.data := by
  rcases step_data (body lib) stepped with
    ⟨index, call, committed, after, _⟩ | ⟨_, _, same | ⟨move, _, rfl, moved⟩⟩
  · rw [after]
    exact committing_complete trailed committed
      (trailed.logged index call (committing_located committed).1) world.data trailed.audited
  · rw [same]
    exact trailed.audited
  · exact trailed.audited.unmoved
      (unmoved_same (by rw [(move_documents moved own).1]) (move_events moved))

theorem trailed_step {label : ServerLabel} (trailed : Trailed lib name world)
    (own : assumed label = false) (logs : logsRequest lib name world (.server label) = true)
    (stepped : step (body lib) world label = some next) : Trailed lib name next :=
  { auditing := disciplined_step (body lib) (body_audits name) trailed.auditing stepped
    logged := logged_step trailed logs stepped
    audited := audited_step trailed own stepped }

theorem events_step {label : ServerLabel} (stepped : step (body lib) world label = some next) :
    ∀ event ∈ world.data.events, event ∈ next.data.events := by
  rcases step_data (body lib) stepped with ⟨_, _, _, after, _⟩ | ⟨_, _, same | ⟨move, _, _, moved⟩⟩
  · rw [after]
    exact view_events _ _
  · rw [same]
    exact fun _ member => member
  · rw [move_events moved]
    exact fun _ member => member

end Step

/-! ### Saves and rules -/

section Desk

variable {world next : ServerWorld}

theorem withRequest_events (database : Database) (now : Instant)
    (request : Option (String × NewRequest)) :
    (database.withRequest now request).events = database.events := by
  cases request <;> rfl

theorem withRequest_other {database : Database} {now : Instant}
    {request : Option (String × NewRequest)}
    (other : ∀ created row, request = some (created, row) → created ≠ name) :
    (database.withRequest now request).requests.lookup name = database.requests.lookup name := by
  rcases request with _ | ⟨created, row⟩
  · rfl
  · exact AList.lookup_insert_ne (other created row rfl).symm

/-- A rule evaluation creates the request and tells so, or tells nothing of it. -/
theorem evaluateRules_tells (lib : Libraries) (name : String) (database : Database) (now : Instant)
    (evaluation : Evaluation) :
    (∃ row, (evaluateRules lib database now evaluation).request = some (name, row) ∧
      ∀ events, replay name ((evaluateRules lib database now evaluation).events ++ events) =
        some .pending) ∨
    (∀ created row, (evaluateRules lib database now evaluation).request = some (created, row) →
      created ≠ name) ∧
    ∀ events, replay name ((evaluateRules lib database now evaluation).events ++ events) =
      replay name events := by
  unfold evaluateRules
  split
  · exact Or.inr ⟨fun _ _ impossible => (by cases impossible), fun _ => rfl⟩
  · rename_i rule _
    generalize created : createSigningRequest lib database now evaluation rule = made
    have silent (events : List AuditEvent) : replay name ((if rule.signatureTemplate.given then
        [auditEvent lib evaluation.ctx made.1 "Template Selected"
          [("template", .ofText rule.signatureTemplate)] now] else []) ++
        auditEvent lib evaluation.ctx made.1 "Rule Evaluated"
          [("rule", .text rule.name), ("matched", .bool true),
            ("trigger_event", .text evaluation.triggerEvent),
            ("priority", .int rule.priority)] now :: events) = replay name events := by
      split
      · rw [List.singleton_append, replay_apart _ fun _ => rfl, replay_apart _ fun _ => rfl]
      · rw [List.nil_append, replay_apart _ fun _ => rfl]
    simp only [List.append_assoc, List.cons_append, silent]
    simp only [createSigningRequest] at created
    split at created
    · subst created
      exact Or.inr ⟨fun _ _ impossible => (by cases impossible), fun _ => rfl⟩
    · subst created
      by_cases own : evaluation.requestName = name
      · exact Or.inl ⟨_, by rw [own], fun events => replay_own _ own rfl⟩
      · refine Or.inr ⟨fun created row same => ?_, fun events => ?_⟩
        · cases same
          exact own
        · exact replay_apart _ fun same => absurd same own

theorem audited_evaluated {evaluation : Evaluation} (audited : Audited lib name world.data)
    (data : next.data = { world.data.withRequest world.shared.now
        (evaluateRules lib world.data world.shared.now evaluation).request with
      events := (evaluateRules lib world.data world.shared.now evaluation).events ++
        world.data.events }) : Audited lib name next.data := by
  rcases evaluateRules_tells lib name world.data world.shared.now evaluation with
    ⟨row, created, told⟩ | ⟨other, told⟩
  · rw [data, created]
    have found : (world.data.withRequest world.shared.now (some (name, row))).requests.lookup name =
        some (row.row world.shared.now) := AList.lookup_insert _
    constructor
    · intro stored present
      cases found.symm.trans present
      exact told _
    · intro stored reason present failed
      cases found.symm.trans present
      cases failed
  · rw [data]
    exact audited.unmoved
      { row := congrArg (Option.map SigningRequest.outcome) (withRequest_other other)
        told := told _
        grown := fun event member => List.mem_append_right _ member }

theorem trailed_desk {label : DeskLabel} (trailed : Trailed lib name world)
    (logs : logsRequest lib name world label = true)
    (stepped : deskStep lib world label = some next) : Trailed lib name next := by
  have audits (before : ServerWorld) (label : ServerLabel) (after : ServerWorld)
      (holds : before.Disciplined (Auditing lib name) fun origin => Audits lib name origin)
      (stepped : step (body lib) before label = some after) :
      after.Disciplined (Auditing lib name) fun origin => Audits lib name origin :=
    disciplined_step (body lib) (body_audits name) holds stepped
  have auditing := desk_preserves audits (fun _ _ holds => holds) trailed.auditing stepped
  have kept (calls : next.calls = world.calls) (audited : Audited lib name next.data) :
      Trailed lib name next :=
    { auditing := auditing
      logged := by
        intro index call located
        rw [calls] at located
        exact trailed.logged index call located
      audited := audited }
  cases label with
  | server label =>
      obtain ⟨own, stepped⟩ := server_cases stepped
      exact trailed_step trailed own logs stepped
  | saveDocument user record requestName form =>
      rcases save_cases stepped with rfl | ⟨document, request, saved, calls, data, _⟩
      · exact trailed
      · refine kept calls (trailed.audited.unmoved ?_)
        rw [data]
        refine unmoved_same (withRequest_other fun created row same => ?_) (withRequest_events _ _ _)
        rw [same] at saved
        simpa only [logsRequest, saved, bne_iff_ne, ne_eq] using logs
  | evaluateRules evaluation =>
      obtain ⟨calls, data, _⟩ := evaluate_cases stepped
      exact kept calls (audited_evaluated trailed.audited data)

theorem events_desk {label : DeskLabel} (stepped : deskStep lib world label = some next) :
    ∀ event ∈ world.data.events, event ∈ next.data.events := by
  cases label with
  | server label =>
      exact events_step (server_cases stepped).2
  | saveDocument user record requestName form =>
      rcases save_cases stepped with rfl | ⟨document, request, _, _, data, _⟩
      · exact fun _ member => member
      · rw [data]
        simp only [withRequest_events]
        exact fun _ member => member
  | evaluateRules evaluation =>
      obtain ⟨_, data, _⟩ := evaluate_cases stepped
      rw [data]
      exact fun event member => List.mem_append_right _ member

theorem trailed_installed (masters : Masters) (now : Instant) (zone : Int) :
    Trailed lib name (installed masters now zone) where
  auditing := fun _ _ located => by cases located
  logged := fun _ _ located => by cases located
  audited :=
    { status := fun _ found => by cases found
      reason := fun _ _ found => by cases found }

end Desk

/-- No retry has found a failure reason. -/
structure Blank (lib : Libraries) (name : String) (world : ServerWorld) : Prop where
  retrying : world.Disciplined (Retrying lib name) fun _ _ _ => True
  blank : ∀ (index : Nat) (call : ServerCall), world.calls[index]? = some call →
    clearsReason name call.origin call.trace = false

theorem blank_step {world next : ServerWorld} {label : ServerLabel} (blank : Blank lib name world)
    (spares : retriesBlank name world (.server label) = true)
    (stepped : step (body lib) world label = some next) : Blank lib name next where
  retrying := disciplined_step (body lib) (body_retrying name) blank.retrying stepped
  blank := by
    refine @untainted_step _ _ _ _ (body lib) (clearsReason name) (fun _ => Bool.and_false _) _ _ _
      blank.blank (fun index call event found => ?_) stepped
    simpa only [retriesBlank, found, Bool.not_eq_true'] using spares

theorem blank_desk {world next : ServerWorld} {label : DeskLabel} (blank : Blank lib name world)
    (spares : retriesBlank name world label = true)
    (stepped : deskStep lib world label = some next) : Blank lib name next := by
  refine desk_preserves_under (fun world label => retriesBlank name world (.server label) = true)
    (fun _ _ => rfl) (fun _ _ _ blank spares stepped => blank_step blank spares stepped)
    (fun _ _ blank => ⟨blank.retrying, blank.blank⟩) blank (fun served same => ?_) stepped
  rw [← same]
  exact spares

theorem blank_installed (masters : Masters) (now : Instant) (zone : Int) :
    Blank lib name (installed masters now zone) where
  retrying := fun _ _ located => by cases located
  blank := fun _ _ located => by cases located

theorem Blank.retriesTold {world : ServerWorld} (blank : Blank lib name world) :
    RetriesTold lib name world := by
  intro index call event stamp earlier doc located retries retried suffix read
  obtain ⟨failed, details⟩ :=
    ((disciplined_running blank.retrying located).suffix suffix).1 retries retried
  have status := failed doc read
  have unread : doc.failureReason.given = false := by
    have spared := blank.blank index call located
    simp only [clearsReason, retries, beq_self_eq_true, Bool.true_and] at spared
    obtain ⟨readAt, member⟩ := read
    have single := List.any_eq_false.mp spared _
      (suffix.subset (List.mem_cons_of_mem _ member))
    simpa [readsFailure, status] using single
  have empty : doc.failureReason.getD "" = "" := by
    cases reason : doc.failureReason with
    | none => rfl
    | some text => simpa [reason, Text.given] using unread
  rw [empty]
  exact ⟨_, "previous_failure", "", details, List.mem_cons_self, List.infix_refl _⟩

/-- In a run none of whose steps takes an unlogged branch, the events of a request
tell its status and every reason it ever failed for. -/
theorem trail_tells (masters : Masters) (now : Instant) (zone : Int) (name : String)
    (labels later : List DeskLabel) (before after : ServerWorld)
    (logs : Runs.Along (deskStep lib) (fun world label => logsRequest lib name world label = true)
      (installed masters now zone) (labels ++ later))
    (reached : Runs.run (deskStep lib) (installed masters now zone) labels = some before)
    (continued : Runs.run (deskStep lib) before later = some after) :
    (∀ row, after.data.requests.lookup name = some row →
      replay name after.data.events = some row.status) ∧
    ∀ row reason, before.data.requests.lookup name = some row → row.status = .failed →
      row.failureReason = some reason →
        ∃ event ∈ after.data.events, event.request = name ∧ Mentions lib event reason := by
  obtain ⟨early, late⟩ := Runs.along_append logs
  have first : Trailed lib name before :=
    Runs.run_invariant (fun _ _ _ trailed logs stepped => trailed_desk trailed logs stepped)
      (trailed_installed masters now zone) early reached
  have last : Trailed lib name after :=
    Runs.run_invariant (fun _ _ _ trailed logs stepped => trailed_desk trailed logs stepped) first
      (late before reached) continued
  refine ⟨last.audited.status, fun row reason found failed given => ?_⟩
  obtain ⟨event, member, own, mentions⟩ := first.audited.reason row reason found failed given
  have grows := @Runs.run_invariant _ _ (deskStep lib) (fun _ _ => True)
    (fun world => event ∈ world.data.events)
    (fun _ _ _ there _ stepped => events_desk stepped event there) _ _ _ member
    (Runs.along_members (fun _ _ _ => trivial) before) continued
  exact ⟨event, grows, own, mentions⟩

/-- Where moreover no retry finds a failure reason, the trail is complete. -/
theorem audit_trail_complete (masters : Masters) (now : Instant) (zone : Int) (name : String)
    (labels later : List DeskLabel) (before after : ServerWorld)
    (logs : Runs.Along (deskStep lib) (fun world label => logsRequest lib name world label = true)
      (installed masters now zone) (labels ++ later))
    (blank : Runs.Along (deskStep lib) (fun world label => retriesBlank name world label = true)
      (installed masters now zone) (labels ++ later))
    (reached : Runs.run (deskStep lib) (installed masters now zone) labels = some before)
    (continued : Runs.run (deskStep lib) before later = some after) :
    (∀ row, after.data.requests.lookup name = some row →
      replay name after.data.events = some row.status) ∧
    (∀ row reason, before.data.requests.lookup name = some row → row.status = .failed →
      row.failureReason = some reason →
        ∃ event ∈ after.data.events, event.request = name ∧ Mentions lib event reason) ∧
    RetriesTold lib name after := by
  obtain ⟨tells, reasons⟩ := trail_tells masters now zone name labels later before after logs reached
    continued
  have whole : Runs.run (deskStep lib) (installed masters now zone) (labels ++ later) =
      some after := by
    rw [Runs.run_append, reached, Option.bind_some, continued]
  have spared : Blank lib name after :=
    Runs.run_invariant (fun _ _ _ blank spares stepped => blank_desk blank spares stepped)
      (blank_installed masters now zone) blank whole
  exact ⟨tells, reasons, spared.retriesTold⟩

/-! ### Requests for an invoice -/

def trailSite : ServerWorld := installed sampleMasters 0 0

/-- A rule creates a request, and alice initiates its signing. -/
def trailStarted : List DeskLabel :=
  .evaluateRules (invoiceEvaluation "INV-1" "SR-1") ::
    (served 0 ⟨sampleUser "alice", .initiate sampleInitiate⟩ 24 (sampleOracle "S-1" "")).map .server

/-- The agent's signature does not decode. -/
def trailFailed : List DeskLabel :=
  trailStarted ++
    (served 1 ⟨sampleUser "alice", .finalize { sampleFinalize "S-1" with signatureBytesB64 := "A" }⟩ 15
      (sampleOracle "" "F-1")).map .server

def undecodable : String :=
  "Invalid base64-encoded string: number of data characters cannot be 1 more than a multiple of 4"

/-- The outcome of a request, and the status its events tell. -/
def historyOf (name : String) (world : ServerWorld) :
    Option ((RequestStatus × Text) × Option RequestStatus) :=
  (world.data.requests.lookup name).map fun row => (row.outcome, replay name world.data.events)

theorem historyOf_some {world : ServerWorld} {outcome : RequestStatus × Text}
    {told : Option RequestStatus} (shown : historyOf name world = some (outcome, told)) :
    ∃ row, world.data.requests.lookup name = some row ∧ row.status = outcome.1 ∧
      row.failureReason = outcome.2 ∧ replay name world.data.events = told := by
  obtain ⟨row, found, same⟩ := Option.map_eq_some_iff.mp shown
  cases same
  exact ⟨row, found, rfl, rfl, rfl⟩

/-- The rule is evaluated once more after the failure. -/
theorem audit_trail_complete_sample :
    ∃ before after, Runs.run (deskStep auditLibraries) trailSite trailFailed = some before ∧
      historyOf "SR-1" before = some ((.failed, some undecodable), some .failed) ∧
      Runs.run (deskStep auditLibraries) before
        [.evaluateRules (invoiceEvaluation "INV-1" "SR-2")] = some after ∧
      (∀ row, after.data.requests.lookup "SR-1" = some row →
        replay "SR-1" after.data.events = some row.status) ∧
      ∃ event ∈ after.data.events, event.request = "SR-1" ∧
        Mentions auditLibraries event undecodable := by
  have ends : ((Runs.run (deskStep auditLibraries) trailSite trailFailed).bind fun before =>
      (Runs.run (deskStep auditLibraries) before
        [.evaluateRules (invoiceEvaluation "INV-1" "SR-2")]).map fun _ =>
          historyOf "SR-1" before) =
      some (some ((.failed, some undecodable), some .failed)) := by decide +kernel
  obtain ⟨before, reached, ends⟩ := Option.bind_eq_some_iff.mp ends
  obtain ⟨after, continued, shown⟩ := Option.map_eq_some_iff.mp ends
  have logs : Runs.alongCheck (deskStep auditLibraries) (logsRequest auditLibraries "SR-1") trailSite
      (trailFailed ++ [.evaluateRules (invoiceEvaluation "INV-1" "SR-2")]) = true := by
    decide +kernel
  have blank : Runs.alongCheck (deskStep auditLibraries) (retriesBlank "SR-1") trailSite
      (trailFailed ++ [.evaluateRules (invoiceEvaluation "INV-1" "SR-2")]) = true := by
    decide +kernel
  have complete := audit_trail_complete sampleMasters 0 0 "SR-1" trailFailed
    [.evaluateRules (invoiceEvaluation "INV-1" "SR-2")] before after
    (Runs.along_of_check (fun _ _ checked => checked) logs)
    (Runs.along_of_check (fun _ _ checked => checked) blank) reached continued
  obtain ⟨row, found, failed, given, _⟩ := historyOf_some shown
  exact ⟨before, after, reached, shown, continued, complete.1,
    complete.2.1 row undecodable found failed given⟩

/-- A request is timed out, one is recovered, and one created by a saved record. -/
theorem history_untold :
    (∃ world row, Runs.run (deskStep auditLibraries) trailSite
        (trailStarted ++ (.move (.elapse (seconds 200)) ::
          served 1 ⟨sampleUser "Administrator", .expireStalePendingRequests⟩ 5 .plain).map .server) =
        some world ∧
      world.data.requests.lookup "SR-1" = some row ∧ row.status = .failed ∧
      replay "SR-1" world.data.events = some .inProgress) ∧
    (∃ world row, Runs.run (deskStep auditLibraries) trailSite
        (trailStarted ++ (.move (.elapse (seconds 400)) ::
          served 1 ⟨sampleUser "alice", .getSigningStatus "Sales Invoice" "INV-1"⟩ 3 .plain).map
            .server) = some world ∧
      world.data.requests.lookup "SR-1" = some row ∧ row.status = .pending ∧
      replay "SR-1" world.data.events = some .inProgress) ∧
    ∃ world row, Runs.run (deskStep auditLibraries) trailSite
        [.saveDocument "alice" "DS-1" "SR-1" documentForm] = some world ∧
      world.data.requests.lookup "SR-1" = some row ∧ row.status = .pending ∧
      replay "SR-1" world.data.events = none := by
  have expired : ((Runs.run (deskStep auditLibraries) trailSite
      (trailStarted ++ (.move (.elapse (seconds 200)) ::
        served 1 ⟨sampleUser "Administrator", .expireStalePendingRequests⟩ 5 .plain).map
          .server)).map (historyOf "SR-1")) =
      some (some ((.failed, some "Signing timed out after 180 seconds"), some .inProgress)) := by
    decide +kernel
  have recovered : ((Runs.run (deskStep auditLibraries) trailSite
      (trailStarted ++ (.move (.elapse (seconds 400)) ::
        served 1 ⟨sampleUser "alice", .getSigningStatus "Sales Invoice" "INV-1"⟩ 3 .plain).map
          .server)).map (historyOf "SR-1")) = some (some ((.pending, none), some .inProgress)) := by
    decide +kernel
  have saved : ((Runs.run (deskStep auditLibraries) trailSite
      [.saveDocument "alice" "DS-1" "SR-1" documentForm]).map (historyOf "SR-1")) =
      some (some ((.pending, none), none)) := by decide +kernel
  have shows_ (labels : List DeskLabel) (outcome : RequestStatus × Text)
      (told : Option RequestStatus)
      (ends : (Runs.run (deskStep auditLibraries) trailSite labels).map (historyOf "SR-1") =
        some (some (outcome, told))) :
      ∃ world row, Runs.run (deskStep auditLibraries) trailSite labels = some world ∧
        world.data.requests.lookup "SR-1" = some row ∧ row.status = outcome.1 ∧
        replay "SR-1" world.data.events = told := by
    obtain ⟨world, reached, shown⟩ := Option.map_eq_some_iff.mp ends
    obtain ⟨row, found, status, _, tells⟩ := historyOf_some shown
    exact ⟨world, row, reached, found, status, tells⟩
  exact ⟨shows_ _ _ _ expired, shows_ _ _ _ recovered, shows_ _ _ _ saved⟩

end DscSigning
