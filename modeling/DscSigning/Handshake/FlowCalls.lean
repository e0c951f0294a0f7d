/-
The calls that pages make: each critical question of a flow makes one at most,
and a session is finalized, and signed for, by the flow that it was prepared for.
-/

import DscSigning.Handshake.SignedFlow

namespace DscSigning.Page

open Interaction Clients

variable {lib : AgentApi.Libraries} {bridge : Bridge.Libraries} {platform : Platform}
  {ports : Nat → Int}

/-- Nobody but a page finalizes a session or asks an agent to sign. -/
def Outside : (peer : Peer) → peer.Origin → Prop
  | .signing, origin => ∀ arguments, origin.endpoint ≠ .finalize arguments
  | .agentApi, _ => True
  | .machine _, origin => ∀ request, origin = .http request → request.signBody = none

theorem worlds_empty (start : Start) (peer : Peer) : (start.worlds lib bridge peer).calls = [] := by
  cases peer <;> rfl

/-- Of two critical questions of one stage a flow has asked one. -/
theorem same_question {client : (desk lib bridge platform ports).Client}
    {left right : (peers lib bridge).Place} {one other : Sender face (peers lib bridge)}
    (oneThrough : client.Through left one) (otherThrough : client.Through right other)
    (oneBelow : Below one.trace (stage one.query)) (otherBelow : Below other.trace (stage other.query))
    (index : one.index = other.index) (same : stage one.query = stage other.query) : one = other := by
  have asked {first second : Sender face (peers lib bridge)} {reply : face.Reply first.query}
      {stamp : Option (peers lib bridge).Place}
      (earlier : (⟨first.query, reply, stamp⟩ : Event face (Option (peers lib bridge).Place)) ::
        first.trace <:+ second.trace) (below : Below second.trace (stage second.query))
      (equal : stage first.query = stage second.query) : False := by
    have lower := below _ (earlier.subset List.mem_cons_self)
    rw [equal] at lower
    exact lt_irrefl _ lower
  obtain ⟨oneIndex, oneQuery, oneTrace⟩ := one
  obtain ⟨otherIndex, otherQuery, otherTrace⟩ := other
  cases index
  rcases oneThrough with ⟨_, oneSame, oneAfter, oneAsks⟩ | ⟨oneReply, oneStamp, oneSuffix⟩
  · rcases otherThrough with ⟨_, otherSame, otherAfter, otherAsks⟩ | ⟨reply, stamp, suffix⟩
    · rw [oneAsks] at otherAsks
      cases otherAsks
      cases oneSame
      cases otherSame
      rfl
    · rw [oneSame] at suffix
      exact (asked suffix oneBelow same.symm).elim
  · rcases otherThrough with ⟨_, otherSame, otherAfter, otherAsks⟩ | ⟨reply, stamp, suffix⟩
    · rw [otherSame] at oneSuffix
      exact (asked oneSuffix otherBelow same).elim
    · rcases List.suffix_or_suffix_of_suffix oneSuffix suffix with within | within
      · rcases List.suffix_cons_iff.mp within with equal | inside
        · cases equal
          rfl
        · exact (asked inside otherBelow same).elim
      · rcases List.suffix_cons_iff.mp within with equal | inside
        · cases equal
          rfl
        · exact (asked inside oneBelow same.symm).elim

/-- Only a signing flow asks what takes part in a signing. -/
theorem rule_signs {visit : Visit} {trace : Trace face (Option (peers lib bridge).Place)}
    {operation : Operation} (rule : PageRule platform visit trace operation)
    (signs : operation.signs = true) : ∃ doctype docname agentPort,
      Allowed platform visit.window doctype docname (portOr agentPort) trace operation := by
  obtain ⟨window, handler⟩ := visit
  cases handler with
  | startSigningFlow doctype docname agentPort => exact ⟨doctype, docname, agentPort, rule⟩
  | _ => cases signs.symm.trans rule

section Runs

variable {start : Start} {labels : List (desk lib bridge platform ports).Label}
  {system : (desk lib bridge platform ports).System}

theorem desk_attribution
    (outside : ∀ label ∈ labels, ∀ peer origin, label = .serve peer (.start origin) →
      Outside peer origin)
    (ran : Runs.run step (opened (start.worlds lib bridge)) labels = some system) :
    Nonempty (system.Attribution (@PageRule lib bridge platform) Outside) :=
  run_attribution (@serve_follows lib bridge platform) (worlds_empty start) outside ran

/-- The call at the place is the critical question of this stage of the flow whose page was given
the session. -/
def Serves (attribution : system.Attribution (@PageRule lib bridge platform) Outside)
    (place : (peers lib bridge).Place) (bound : Nat) (sessionId : String) (ctx : Context)
    (machine : Nat) : Prop :=
  ∃ one client initiated, attribution.sender place = some one ∧
    system.clients[one.index]? = some client ∧ stage one.query = bound ∧ Below one.trace bound ∧
    client.who.window.ctx = ctx ∧ client.who.window.machine = machine ∧
    Initiated client.trace initiated ∧ initiated.sessionId = sessionId

variable {attribution : system.Attribution (@PageRule lib bridge platform) Outside}

theorem sender_trace {place : (peers lib bridge).Place} {one : Sender face (peers lib bridge)}
    (given : attribution.sender place = some one) {client : (desk lib bridge platform ports).Client}
    (located : system.clients[one.index]? = some client) : one.trace <:+ client.trace := by
  obtain ⟨holder, there, through⟩ := attribution.through place one given
  rw [located] at there
  cases there
  rcases through with ⟨_, same, _⟩ | ⟨reply, stamp, suffix⟩
  · rw [same]
  · exact (List.suffix_cons _ _).trans suffix

variable (attribution) in
theorem finalize_serves {index : Nat} {call : ServerCall}
    (located : (system.worlds .signing).calls[index]? = some call) {arguments : FinalizeArguments}
    (endpoint : call.origin.endpoint = .finalize arguments) :
    ∃ machine, Serves attribution ⟨.signing, index⟩ 9 arguments.sessionId call.origin.ctx machine := by
  rcases attribution.made ⟨.signing, index⟩ call located with
    foreign | ⟨⟨number, query, trace⟩, client, given, there, sent, permitted⟩
  · exact absurd endpoint (foreign arguments)
  · have within := sender_trace given there
    simp only at sent permitted within
    have asked : query = .signing (.finalize arguments) ∧
        client.who.window.ctx = call.origin.ctx := by
      cases query with
      | signing other =>
          simp only [sends, Option.some.injEq, Peers.Message.mk.injEq, heq_eq_eq, true_and] at sent
          rw [← sent] at endpoint
          exact ⟨congrArg _ endpoint, by rw [← sent]⟩
      | fetch port request =>
          simp only [sends] at sent
          split at sent <;> cases sent
      | _ => cases sent
    obtain ⟨rfl, ctx⟩ := asked
    obtain ⟨doctype, docname, agentPort, below, initiated, signed, signedFor, same⟩ :=
      rule_signs permitted rfl
    have bound : Below trace 9 := below (show 9 ≠ 0 by omega)
    refine ⟨_, _, client, initiated, given, there, rfl, bound, ctx, rfl,
      signedFor.prepared.mono within, ?_⟩
    rw [same]
    rfl

variable (attribution) in
theorem sign_serves {machine index : Nat}
    {call : (Bridge.bridge bridge).Call Bridge.Origin Bridge.Response}
    (located : (system.worlds (.machine machine)).calls[index]? = some call)
    {request : Bridge.HttpRequest} {body : Bridge.SignRequest} (origin : call.origin = .http request)
    (sent : request.signBody = some body) :
    ∃ ctx, Serves attribution ⟨.machine machine, index⟩ 8 body.sessionID ctx machine := by
  rcases attribution.made ⟨.machine machine, index⟩ call located with
    foreign | ⟨⟨number, query, trace⟩, client, given, there, target, permitted⟩
  · cases (foreign request origin).symm.trans sent
  · have within := sender_trace given there
    simp only at target permitted within
    rw [origin] at target
    have asked : ∃ port, query = .fetch port request ∧ client.who.window.machine = machine := by
      cases query with
      | fetch port other =>
          simp only [sends] at target
          split at target
          · cases target
            exact ⟨port, rfl, rfl⟩
          · cases target
      | _ => cases target
    obtain ⟨port, rfl, here⟩ := asked
    obtain ⟨doctype, docname, agentPort, below, _, _, _, grounds⟩ :=
      rule_signs permitted (by simp [Operation.signs, sent])
    obtain ⟨initiated, pin, already, _, _, same⟩ := grounds body sent
    have place : stage (.fetch port request) = 8 := by
      rw [same]
      exact sign_stage port _ _
    have bound : Below trace 8 := by
      rw [place] at below
      exact below (by omega)
    refine ⟨_, _, client, initiated, given, there, place, bound, rfl, here, already.mono within, ?_⟩
    rw [same] at sent
    cases sent
    rfl

/-- A session was prepared by a call of the page that was given it. -/
theorem serves_prepared (ran : Runs.run step (opened (start.worlds lib bridge)) labels = some system)
    {place : (peers lib bridge).Place} {bound : Nat} {sessionId : String} {ctx : Context}
    {machine : Nat} (serves : Serves attribution place bound sessionId ctx machine) :
    ∃ one client creator arguments session, attribution.sender place = some one ∧
      system.clients[one.index]? = some client ∧ ⟨.signing, creator⟩ ∈ client.places ∧
      system.Made ⟨.signing, creator⟩ ⟨ctx, .initiate arguments⟩ ∧
      StoredBy (system.worlds .signing) creator sessionId session := by
  obtain ⟨one, client, initiated, given, there, _, _, rfl, rfl, ⟨arguments, told⟩, rfl⟩ := serves
  obtain ⟨creator, prepares, here⟩ := signing_answered (run_genuine ran) there told
  obtain ⟨siteLabels, siteRan, _⟩ := run_world ran Peer.signing
  obtain ⟨preparing, preparedAt, origin, preparedPhase⟩ := prepares
  obtain ⟨session, stored, _⟩ := run_initiated siteRan preparedAt preparedPhase
  exact ⟨one, client, creator, arguments, session, given, there, here,
    ⟨preparing, preparedAt, origin⟩, stored⟩

/-- Two calls for one session and of one stage are the same call. -/
theorem serves_once (ran : Runs.run step (opened (start.worlds lib bridge)) labels = some system)
    {left right : (peers lib bridge).Place} {bound : Nat} {sessionId : String} {ctx others : Context}
    {machine number : Nat} (first : Serves attribution left bound sessionId ctx machine)
    (second : Serves attribution right bound sessionId others number) : left = right := by
  obtain ⟨siteLabels, siteRan, _⟩ := run_world ran Peer.signing
  obtain ⟨traced, _⟩ := run_traced (fun _ => True) trivial (fun _ _ _ _ _ _ _ => trivial)
    (Engine.along_always (DscSigning.body lib.toLibraries)) siteRan
  obtain ⟨one, page, creator, _, _, oneGiven, oneAt, here, _, stored⟩ := serves_prepared ran first
  obtain ⟨two, other, again, _, _, otherGiven, otherAt, there, _, restored⟩ := serves_prepared ran second
  obtain ⟨_, _, _, given, _, oneStage, oneBelow, _⟩ := first
  obtain ⟨_, _, _, given', _, twoStage, twoBelow, _⟩ := second
  rw [oneGiven] at given
  cases given
  rw [otherGiven] at given'
  cases given'
  -- The session was drawn by one call, and that call belongs to one page.
  obtain ⟨rfl, _⟩ := traced.creator_unique stored restored
  have same := (run_genuine ran).apart _ _ page other oneAt otherAt ⟨.signing, creator⟩ here there
  obtain ⟨holder, holds, through⟩ := attribution.through left one oneGiven
  obtain ⟨keeper, keeps, passed⟩ := attribution.through right two otherGiven
  rw [same, keeps] at holds
  cases holds
  rw [← oneStage] at oneBelow
  rw [← twoStage] at twoBelow
  have equal := same_question through passed oneBelow twoBelow same (oneStage.trans twoStage.symm)
  rw [equal] at oneGiven
  exact attribution.distinct left right two oneGiven otherGiven

/-- Where only pages finalize and ask for signatures, a session is signed for once at most, on all
computers together, and finalized once at most, answers lost or not; and it is finalized for the
user whose page had prepared it. -/
theorem session_used_once (lib : AgentApi.Libraries) (bridge : Bridge.Libraries)
    (platform : Platform) (ports : Nat → Int) (start : Start)
    (labels : List (desk lib bridge platform ports).Label)
    (system : (desk lib bridge platform ports).System)
    (outside : ∀ label ∈ labels, ∀ peer origin, label = .serve peer (.start origin) →
      Outside peer origin)
    (ran : Runs.run step (opened (start.worlds lib bridge)) labels = some system) :
    (∀ (left right : Nat) (one other : ServerCall) (first second : FinalizeArguments),
      (system.worlds .signing).calls[left]? = some one →
      (system.worlds .signing).calls[right]? = some other →
      one.origin.endpoint = .finalize first → other.origin.endpoint = .finalize second →
      first.sessionId = second.sessionId → left = right) ∧
    (∀ (index : Nat) (call : ServerCall) (arguments : FinalizeArguments),
      (system.worlds .signing).calls[index]? = some call →
      call.origin.endpoint = .finalize arguments → ∃ creator prepared session,
        system.Made ⟨.signing, creator⟩ ⟨call.origin.ctx, .initiate prepared⟩ ∧
        StoredBy (system.worlds .signing) creator arguments.sessionId session) ∧
    ∀ (machine number left right : Nat)
      (one other : (Bridge.bridge bridge).Call Bridge.Origin Bridge.Response)
      (ask again : Bridge.HttpRequest) (first second : Bridge.SignRequest),
      (system.worlds (.machine machine)).calls[left]? = some one →
      (system.worlds (.machine number)).calls[right]? = some other →
      one.origin = .http ask → other.origin = .http again → ask.signBody = some first →
      again.signBody = some second → first.sessionID = second.sessionID →
      machine = number ∧ left = right := by
  obtain ⟨attribution⟩ := desk_attribution outside ran
  refine ⟨?_, ?_, ?_⟩
  · intro left right one other first second leftAt rightAt leftEnds rightEnds same
    obtain ⟨_, serves⟩ := finalize_serves attribution leftAt leftEnds
    obtain ⟨_, again⟩ := finalize_serves attribution rightAt rightEnds
    rw [← same] at again
    cases serves_once ran serves again
    rfl
  · intro index call arguments located endpoint
    obtain ⟨_, serves⟩ := finalize_serves attribution located endpoint
    obtain ⟨_, _, creator, prepared, session, _, _, _, made, stored⟩ := serves_prepared ran serves
    exact ⟨creator, prepared, session, made, stored⟩
  · intro machine number left right one other ask again first second leftAt rightAt leftOrigin
      rightOrigin leftSent rightSent same
    obtain ⟨_, serves⟩ := sign_serves attribution leftAt leftOrigin leftSent
    obtain ⟨_, served⟩ := sign_serves attribution rightAt rightOrigin rightSent
    rw [← same] at served
    cases serves_once ran serves served
    exact ⟨rfl, rfl⟩

end Runs

/-- The label starts no call that signs. -/
def startsOutside (label : sampleDesk.Label) : Bool :=
  match label with
  | .serve .signing (.start ⟨_, .finalize _⟩) => false
  | .serve (.machine _) (.start (.http request)) => request.signBody.isNone
  | _ => true

theorem startsOutside_outside {label : sampleDesk.Label} (harmless : startsOutside label = true)
    (peer : Peer) (origin : peer.Origin) (starts : label = .serve peer (.start origin)) :
    Outside peer origin := by
  subst starts
  cases peer with
  | signing =>
      obtain ⟨ctx, endpoint⟩ := origin
      intro arguments same
      cases same
      cases harmless
  | agentApi => trivial
  | machine number =>
      intro request same
      cases same
      exact Option.isNone_iff_eq_none.mp harmless

theorem wholeFlow_outside : wholeFlow.all startsOutside = true := by
  rfl

theorem wholeFlow_used_once : ∃ system client message,
    Runs.run step (opened (deskStart.worlds deskLibraries roundBridge)) wholeFlow = some system ∧
      system.clients[0]? = some client ∧ Asked client.trace (.setState .done message) ∧
      (∀ (left right : Nat) (one other : ServerCall) (first second : FinalizeArguments),
        (system.worlds .signing).calls[left]? = some one →
        (system.worlds .signing).calls[right]? = some other →
        one.origin.endpoint = .finalize first → other.origin.endpoint = .finalize second →
        first.sessionId = second.sessionId → left = right) := by
  obtain ⟨system, client, message, ran, located, _, _, said⟩ := wholeFlow_done
  exact ⟨system, client, message, ran, located, said, (session_used_once deskLibraries roundBridge
    deskPlatform _ deskStart wholeFlow system (fun label member => startsOutside_outside
      (List.all_eq_true.mp wholeFlow_outside label member)) ran).1⟩

end DscSigning.Page
