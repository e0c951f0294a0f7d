/-
Whose name stands on a Signed request.

The checks of the signer are made by `initiate`; `finalize` only needs the id
of a live session.  The recorded signer is the checked one in every run in which
the evidence of a session is written for the user who created the session.
-/

import DscSigning.Server.Provenance

namespace DscSigning

open Interaction Engine

/-- The session is not one that another user has stored. -/
def storedByOther (user sessionId : String) (creator : ServerCall) : ServerEvent → Bool
  | ⟨.storeSession stored _, .ok _, _⟩ => stored == sessionId && creator.origin.ctx.user != user
  | _ => false

/-- A call that is about to write the evidence of a signing was given a session
of its own user. -/
def signsOwn (world : ServerWorld) (label : ServerLabel) : Bool :=
  match asking world label with
  | some (_, call, ⟨.setRequest _ (.signed _), .ok _, _⟩) =>
      match call.origin.endpoint with
      | .finalize arguments => world.calls.all fun creator =>
          creator.trace.all fun event =>
            !storedByOther call.origin.ctx.user arguments.sessionId creator event
      | _ => true
  | _ => true

/-- The session of every written evidence was stored by a call of the same user. -/
def OwnSessions (world : ServerWorld) : Prop :=
  ∀ index name evidence at_ call arguments,
    world.Asked index ⟨.setRequest name (.signed evidence), .ok (), at_⟩ →
    world.calls[index]? = some call → call.origin.endpoint = .finalize arguments →
    ∃ creator session owner, StoredBy world creator arguments.sessionId session ∧
      world.calls[creator]? = some owner ∧ owner.origin.ctx.user = call.origin.ctx.user

variable {lib : Libraries}

theorem ownSessions_step {world next : ServerWorld} {label : ServerLabel}
    (traced : Traced lib world) (own : OwnSessions world) (same : signsOwn world label = true)
    (stepped : step (body lib) world label = some next) : OwnSessions next := by
  intro index name evidence at_ call arguments asked located endpoint
  have kept {creator : Nat} {session : SigningSession} {owner before : ServerCall}
      (stored : StoredBy world creator arguments.sessionId session)
      (there : world.calls[creator]? = some owner)
      (user : owner.origin.ctx.user = before.origin.ctx.user)
      (origin : call.origin = before.origin) :
      ∃ creator session owner, StoredBy next creator arguments.sessionId session ∧
        next.calls[creator]? = some owner ∧ owner.origin.ctx.user = call.origin.ctx.user := by
    obtain ⟨later, found, unchanged, _⟩ := step_grows (body lib) stepped there
    exact ⟨creator, session, later, stored.mono stepped, found, by rw [unchanged, user, origin]⟩
  rcases asked_step (body lib) stepped asked with old | ⟨before, found⟩
  · obtain ⟨before, there, member⟩ := old
    obtain ⟨later, found, unchanged, _⟩ := step_grows (body lib) stepped there
    rw [located] at found
    cases found
    rw [unchanged] at endpoint
    obtain ⟨creator, session, owner, stored, ownerAt, user⟩ :=
      own index name evidence at_ before arguments ⟨before, there, member⟩ there endpoint
    exact kept stored ownerAt user unchanged
  · obtain ⟨later, there, unchanged, _⟩ := asking_asked (body lib) stepped found
    rw [located] at there
    cases there
    rw [unchanged] at endpoint
    have permitted := disciplined_asking traced.disciplined found
    obtain ⟨chosen, _, session, _, _, _, finalized, _, _, ⟨time, loaded⟩, _⟩ := permitted.2
    rw [endpoint] at finalized
    cases finalized
    have beforeAt := (asking_located found).1
    obtain ⟨creator, stored⟩ := traced.loaded index _ session time ⟨before, beforeAt, loaded⟩
    obtain ⟨stamp, owner, ownerAt, member⟩ := stored
    refine kept ⟨stamp, owner, ownerAt, member⟩ ownerAt ?_ unchanged
    simp only [signsOwn, found, endpoint, List.all_eq_true, Bool.not_eq_true'] at same
    have mine := same owner (List.mem_of_getElem? ownerAt) _ member
    simpa only [storedByOther, beq_self_eq_true, Bool.true_and, bne_eq_false_iff_eq] using mine

/-- In such a run the signer recorded on a Signed request is the user whose own
`initiate` created the finalized session and passed its checks. -/
theorem recorded_signer_authorised (masters : Masters) (now : Instant) (zone : Int)
    (labels : List ServerLabel) (world : ServerWorld)
    (own : Along (body lib) (fun world label => signsOwn world label = true)
      (installed masters now zone) labels)
    (reached : run (body lib) (installed masters now zone) labels = some world)
    (name : String) (row : SigningRequest)
    (found : world.data.requests.lookup name = some row) (signed : row.status = .signed) :
    ∃ (signing : Signing lib world name row) (call : ServerCall) (earlier : ServerTrace),
      world.calls[signing.creator]? = some call ∧ earlier <:+ call.trace ∧
      row.actualSignerUser = some call.origin.ctx.user ∧
      Authorised call.origin earlier signing.arguments.sessionId signing.session := by
  obtain ⟨traced, sessions⟩ := run_traced OwnSessions
    (fun _ _ _ _ _ _ asked => absurd asked not_asked_installed)
    (fun _ _ _ traced own same stepped => ownSessions_step traced own same stepped) own reached
  obtain ⟨signing⟩ := traced.signing found signed
  obtain ⟨creator, session, owner, stored, ownerAt, user⟩ :=
    sessions signing.index name signing.evidence signing.time signing.call signing.arguments
      ⟨signing.call, signing.located, signing.suffix.subset List.mem_cons_self⟩ signing.located
      signing.endpoint
  obtain ⟨same, _⟩ := traced.creator_unique stored signing.created
  obtain ⟨call, earlier, located, suffix, authorised⟩ := traced.authorised signing.created
  rw [same, located] at ownerAt
  cases ownerAt
  exact ⟨signing, owner, earlier, located, suffix, by rw [signing.signer, user], authorised⟩

theorem recorded_signer_authorised_sample :
    ∃ world row, run (body sampleLibraries) sampleSite sampleSigning = some world ∧
      world.data.requests.lookup "SR-1" = some row ∧
      ∃ (signing : Signing sampleLibraries world "SR-1" row) (call : ServerCall)
        (earlier : ServerTrace),
        world.calls[signing.creator]? = some call ∧ earlier <:+ call.trace ∧
        row.actualSignerUser = some call.origin.ctx.user ∧
        Authorised call.origin earlier signing.arguments.sessionId signing.session := by
  have own : alongCheck (body sampleLibraries) signsOwn sampleSite sampleSigning = true := by
    decide +kernel
  have ends : statusAfter sampleSigning "SR-1" = some .signed := by decide +kernel
  simp only [statusAfter, Option.bind_eq_some_iff, Option.map_eq_some_iff] at ends
  obtain ⟨world, reached, row, found, signed⟩ := ends
  exact ⟨world, row, reached, found, recorded_signer_authorised sampleMasters 0 0 sampleSigning
    world (along_check (body sampleLibraries) own) reached "SR-1" row found signed⟩

/-- Mallory, who has no role, finishes the session that Alice has created. -/
def takenSession : List ServerLabel :=
  .move (.createRequest "SR-1" sampleRequest) ::
    (served 0 ⟨sampleUser "alice", .initiate sampleInitiate⟩ 24 (sampleOracle "S-1" "") ++
      served 1 ⟨sampleUser "mallory", .finalize (sampleFinalize "S-1")⟩ 32 (sampleOracle "" "F-1"))

/-- Mallory is recorded as the signer, and Alice alone has created a session. -/
theorem taken_session_recorded :
    ∃ world row, run (body sampleLibraries) sampleSite takenSession = some world ∧
      world.data.requests.lookup "SR-1" = some row ∧ row.status = .signed ∧
      row.actualSignerUser = some "mallory" ∧
      ∀ call ∈ world.calls, call.trace.any storesSession = true →
        call.origin.ctx.user = "alice" := by
  have ends : ((run (body sampleLibraries) sampleSite takenSession).bind fun world =>
      (world.data.requests.lookup "SR-1").map fun row =>
        row.status == .signed && row.actualSignerUser == some "mallory" &&
          world.calls.all fun call =>
            !call.trace.any storesSession || call.origin.ctx.user == "alice") = some true := by
    decide +kernel
  simp only [Option.bind_eq_some_iff, Option.map_eq_some_iff, Bool.and_eq_true, beq_iff_eq,
    List.all_eq_true, Bool.or_eq_true, Bool.not_eq_true'] at ends
  obtain ⟨world, reached, row, found, ⟨signed, signer⟩, creators⟩ := ends
  refine ⟨world, row, reached, found, signed, signer, fun call member stores => ?_⟩
  rcases creators call member with none_ | user
  · rw [stores] at none_
    cases none_
  · exact user

end DscSigning
