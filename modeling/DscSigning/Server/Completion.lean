/-
What a `finalize` has written that answers: the evidence of the request of the
session it was given, with the signature it was given.
-/

import DscSigning.Server.Provenance

namespace DscSigning

open Interaction Program Engine

variable {lib : Libraries}

/-- The request of the answer was signed with the signature of the call. -/
structure Signs (ctx : Context) (arguments : FinalizeArguments) (trace : ServerTrace)
    (response : FinalizeResponse) : Prop where
  session : ∃ session, Answered trace (.loadSession arguments.sessionId) (some session) ∧
    session.signingRequestName = response.signingRequest
  evidence : ∃ evidence, Answered trace (.setRequest response.signingRequest (.signed evidence)) () ∧
    evidence.signatureBytes = arguments.signatureBytesB64 ∧ evidence.actualSignerUser = ctx.user

def Completes (origin : Origin) (trace : ServerTrace) (result : Except Exn Response) : Prop :=
  ∀ response, result = .ok (.finalized response) → ∃ arguments,
    origin.endpoint = .finalize arguments ∧ Signs origin.ctx arguments trace response

/-- A rule that allows everything. -/
def Anything (_ : ServerTrace) (_ : Operation) : Prop := True

theorem past_anything {Value Result : Type} {program : Server Value} {next : Value → Server Result}
    {settles : ServerTrace → Except Exn Result → Prop} {trace : ServerTrace}
    (onDone : ∀ later value, trace <:+ later → (next value).Follows Anything settles later)
    (onFail : ∀ later exn, trace <:+ later → settles later (.error exn)) :
    (program.bind next).Follows Anything settles trace :=
  Uses.past (Uses.any program) (fun _ _ _ => trivial) onDone onFail

theorem recordSigned_signs (ctx : Context) (arguments : FinalizeArguments) (name : String)
    (startTime : Instant) (signedResult : SignedResult) (verification : Verification)
    (trace : ServerTrace) :
    (recordSigned lib ctx arguments name startTime signedResult verification).Follows Anything
      (fun later result => ∀ response, result = .ok response → response.signingRequest = name ∧
        ∃ evidence, Answered later (.setRequest name (.signed evidence)) () ∧
          evidence.signatureBytes = arguments.signatureBytesB64 ∧
          evidence.actualSignerUser = ctx.user) trace := by
  refine past_anything ?_ fun _ _ _ => by simp
  intro afterSave fileDoc _
  refine past_anything ?_ fun _ _ _ => by simp
  intro afterFinished finished _
  refine past_anything ?_ fun _ _ _ => by simp
  intro afterNow signedOn _
  refine Follows.perform trivial (fun _ writtenAt => ?_) fun _ _ => by simp
  refine past_anything ?_ fun _ _ _ => by simp
  intro afterMirror _ mirrored
  refine past_anything ?_ fun _ _ _ => by simp
  intro afterEvent _ logged
  refine past_anything ?_ fun _ _ _ => by simp
  intro afterComment _ commented
  refine past_anything ?_ fun _ _ _ => by simp
  intro afterMail _ mailed
  refine past_anything ?_ fun _ _ _ => by simp
  intro afterCommit _ committed
  refine past_anything ?_ fun _ _ _ => by simp
  intro afterHooks _ hooked response same
  cases same
  refine ⟨rfl, _, Answered.head.mono (mirrored.trans (logged.trans (commented.trans
    (mailed.trans (committed.trans hooked))))), rfl, rfl⟩

theorem finalize_signs (ctx : Context) (arguments : FinalizeArguments) :
    (finalize lib ctx arguments).Follows Anything
      (fun later result => ∀ response, result = .ok response →
        Signs ctx arguments later response) [] := by
  have receives : (receiveSignature lib ctx arguments).Follows Anything
      (fun later result => ∀ received, result = .ok received →
        Answered later (.loadSession arguments.sessionId) (some received.1)) [] := by
    have loads : (loadSession arguments.sessionId false).Follows Anything
        (fun later result => ∀ session, result = .ok (some session) →
          Answered later (.loadSession arguments.sessionId) (some session)) [] := by
      refine Follows.perform trivial (fun found stamp => ?_) fun _ _ => by simp
      cases found with
      | none => exact fun _ impossible => by cases impossible
      | some stored =>
          intro session same
          cases same
          exact Answered.head
    refine Follows.bind loads ?_ fun _ _ _ _ => by simp
    intro afterLoad found _ answered
    refine Follows.ofOption (fun session taken => ?_) fun _ => by simp
    have loaded := answered session (by rw [taken])
    refine past_anything ?_ fun _ _ _ => by simp
    intro afterStart startTime started
    refine past_anything ?_ fun _ _ _ => by simp
    intro afterDecode presented decoded
    refine past_anything ?_ fun _ _ _ => by simp
    intro afterReturned _ returned
    refine past_anything ?_ fun _ _ _ => by simp
    intro afterPresented _ shown received same
    cases same
    exact loaded.mono (started.trans (decoded.trans (returned.trans shown)))
  refine Follows.bind receives ?_ fun _ _ _ _ => by simp
  rintro afterReceive ⟨session, startTime, presented⟩ _ received
  have loaded := received _ rfl
  refine past_anything ?_ fun _ _ _ => by simp
  intro afterRequest reqDoc requested
  refine past_anything ?_ fun _ _ _ => by simp
  intro afterExpected expected looked
  have kept := loaded.mono (requested.trans looked)
  split
  · refine past_anything ?_ fun _ _ _ => by simp
    intro _ _ _
    refine past_anything ?_ fun _ _ _ => by simp
    intro _ _ _
    refine past_anything ?_ fun _ _ _ => by simp
    intro _ _ _ response impossible
    cases impossible
  · refine past_anything ?_ fun _ _ _ => by simp
    intro afterChain chain chained
    have builds : (completeSigning lib ctx arguments session.signingRequestName startTime
        chain).Follows Anything (fun later result => ∀ response, result = .ok response →
          Signs ctx arguments later response) afterChain := by
      refine past_anything ?_ fun _ _ _ => by simp
      intro afterBuild signedResult built
      refine past_anything ?_ fun _ _ _ => by simp
      intro afterCheck verification checked
      refine (recordSigned_signs ctx arguments session.signingRequestName startTime signedResult
        verification afterCheck).weaken ?_
      intro later result suffix signs response same
      obtain ⟨named, evidence⟩ := signs response same
      rw [← named] at evidence
      exact ⟨⟨session, kept.mono (chained.trans (built.trans (checked.trans suffix))), named.symm⟩,
        evidence⟩
    refine Follows.recover builds (fun _ _ _ signs => signs) ?_
    intro later exn _ _
    refine past_anything ?_ fun _ _ _ => by simp
    intro _ _ _
    refine past_anything ?_ fun _ _ _ => by simp
    intro _ _ _
    refine past_anything ?_ fun _ _ _ => by simp
    intro _ _ _
    refine past_anything ?_ fun _ _ _ => by simp
    intro _ _ _
    refine past_anything ?_ fun _ _ _ => by simp
    intro _ _ _ response impossible
    cases impossible

theorem body_completes (origin : Origin) :
    (body lib origin).Follows (fun _ _ => True) (Completes origin) [] := by
  obtain ⟨ctx, endpoint⟩ := origin
  cases endpoint with
  | finalize arguments =>
      refine Follows.bind (finalize_signs ctx arguments) ?_ fun _ _ _ _ => by simp [Completes]
      intro later response _ signs other same
      cases same
      exact ⟨arguments, rfl, signs response rfl⟩
  | _ =>
      refine past_anything ?_ fun _ _ _ => by simp [Completes]
      intro later value _ response impossible
      cases impossible

/-- Every `finalize` of a run that has answered has signed the request. -/
theorem run_completes {masters : Masters} {now : Instant} {zone : Int} {labels : List ServerLabel}
    {world : ServerWorld}
    (reached : run (body lib) (installed masters now zone) labels = some world) :
    world.Disciplined (fun _ _ _ => True) Completes := by
  have preserved (world : ServerWorld) (label : ServerLabel) (next : ServerWorld)
      (disciplined : world.Disciplined (fun _ _ _ => True) Completes) (_ : True)
      (stepped : step (body lib) world label = some next) :
      next.Disciplined (fun _ _ _ => True) Completes :=
    disciplined_step (body lib) body_completes disciplined stepped
  refine run_invariant (body lib) preserved ?_ (along_always (body lib)) reached
  intro index call located
  cases located

/-- What a `finalize` leaves that has answered: the signature it was given, put into the PDF of
its session, is the evidence of the request of this session. -/
structure Recorded (lib : Libraries) (world : ServerWorld) (index : Nat) (ctx : Context)
    (arguments : FinalizeArguments) (request : String) where
  session : SigningSession
  creator : Nat
  evidence : SignedEvidence
  time : Instant
  chain : Json
  file : FileRow
  stored : StoredFile
  created : StoredBy world creator arguments.sessionId session
  named : session.signingRequestName = request
  written : ∃ entry ∈ world.journal, Write.setRequest request (.signed evidence) time ∈ entry.2
  user : evidence.actualSignerUser = ctx.user
  signature : evidence.signatureBytes = arguments.signatureBytesB64
  certificate : evidence.certificateFingerprintPresented = lib.sha256Hex session.certDer
  signedFile : evidence.signedFile = stored.name
  saved : SavedBy world index file stored
  parsed : arguments.certChainDerB64.parse lib = .ok chain
  assembled : assemble lib session arguments.signatureBytesB64 chain = .ok file.content

theorem run_persisted {masters : Masters} {now : Instant} {zone : Int} {labels : List ServerLabel}
    {world : ServerWorld}
    (reached : run (body lib) (installed masters now zone) labels = some world) :
    world.Persisted := by
  have preserved (world : ServerWorld) (label : ServerLabel) (next : ServerWorld)
      (persisted : world.Persisted) (_ : True)
      (stepped : step (body lib) world label = some next) : next.Persisted :=
    persisted_step (body lib) persisted stepped
  refine run_invariant (body lib) preserved ?_ (along_always (body lib)) reached
  intro index call event write located
  cases located

theorem run_recorded {masters : Masters} {now : Instant} {zone : Int} {labels : List ServerLabel}
    {world : ServerWorld}
    (reached : run (body lib) (installed masters now zone) labels = some world) {index : Nat}
    {call : ServerCall} (located : world.calls[index]? = some call) {ctx : Context}
    {arguments : FinalizeArguments} (origin : call.origin = ⟨ctx, .finalize arguments⟩)
    {response : FinalizeResponse} (ended : call.phase = .ended (.ok (.finalized response))) :
    Nonempty (Recorded lib world index ctx arguments response.signingRequest) := by
  obtain ⟨traced, _⟩ := run_traced (fun _ => True) trivial (fun _ _ _ _ _ _ _ => trivial)
    (along_always (body lib)) reached
  have completes := (run_completes reached index call located).2
  simp only [ended, origin] at completes
  obtain ⟨_, same, ⟨session, ⟨loadedAt, loaded⟩, named⟩, evidence, ⟨time, written⟩, bytes, user⟩ :=
    completes response rfl
  cases same
  obtain ⟨creator, created⟩ := traced.loaded index _ _ loadedAt ⟨call, located, loaded⟩
  obtain ⟨other, earlier, there, suffix, permitted⟩ := traced.honours ⟨call, located, written⟩
  rw [located] at there
  cases there
  obtain ⟨_, _, last, chain, file, stored, endpoint, _, _, ⟨lastAt, lastLoaded⟩, ⟨savedAt, saved⟩, _,
    parsed, assembled, _, signedFile, _, _, certificate⟩ := permitted.2
  rw [origin] at endpoint
  cases endpoint
  have within : earlier <:+ call.trace := (List.suffix_cons _ _).trans suffix
  obtain ⟨_, again⟩ := traced.loaded index _ _ lastAt ⟨call, located, within.subset lastLoaded⟩
  obtain ⟨_, rfl⟩ := traced.creator_unique created again
  have entry := (run_persisted reached).recorded located ended written rfl List.mem_cons_self
  exact ⟨{
    session := session
    creator := creator
    evidence := evidence
    time := time
    chain := chain
    file := file
    stored := stored
    created := created
    named := named
    written := entry
    user := user
    signature := bytes
    certificate := certificate
    signedFile := signedFile
    saved := ⟨savedAt, call, located, within.subset saved⟩
    parsed := parsed
    assembled := assembled }⟩

/-- The session that an `initiate` has stored which has answered. -/
theorem run_initiated {masters : Masters} {now : Instant} {zone : Int} {labels : List ServerLabel}
    {world : ServerWorld}
    (reached : run (body lib) (installed masters now zone) labels = some world) {index : Nat}
    {call : ServerCall} (located : world.calls[index]? = some call) {response : InitiateResponse}
    (ended : call.phase = .ended (.ok (.initiated response))) :
    ∃ session, StoredBy world index response.sessionId session ∧
      session.signingRequestName = response.signingRequest ∧
      response.hashToSign = lib.sha256Hex session.signedAttrs := by
  obtain ⟨traced, _⟩ := run_traced (fun _ => True) trivial (fun _ _ _ _ _ _ _ => trivial)
    (along_always (body lib)) reached
  have ends := (traced.disciplined index call located).2
  simp only [ended] at ends
  obtain ⟨session, ⟨stamp, stored⟩, named, _, hashed⟩ := ends.2 response rfl
  exact ⟨session, ⟨stamp, call, located, stored⟩, named, hashed⟩

end DscSigning
