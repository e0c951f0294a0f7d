/-
What stands behind a paired site and behind a list of certificates.

Every way to pair goes through the dialog of the computer and through the site
that is named in it.
-/

import DscSigning.Bridge.HmacRequired
import DscSigning.Bridge.Middleware
import DscSigning.Bridge.PinCache

namespace DscSigning.Bridge

open Interaction Engine Program

variable (lib : Libraries)

/-- A request to pair a site that the user of the computer has agreed to. -/
structure Approved (origin : Origin) (trace : AgentTrace) (request : HttpRequest)
    (req : PairRequest) : Prop where
  call : origin = .http request
  path : request.path = "/v1/pair"
  body : request.pairBody = some req
  agreed : Answered trace (.confirmPairing req.siteURL) true

/-- The site has accepted the code, too. -/
structure Accepted (origin : Origin) (trace : AgentTrace) (request : HttpRequest)
    (req : PairRequest) (pairing : PairingResult) : Prop extends
    Approved origin trace request req where
  accepted : Answered trace (.validatePairingCode req.siteURL req.pairingCode) pairing

theorem Approved.mono {origin : Origin} {trace later : AgentTrace} {request : HttpRequest}
    {req : PairRequest} (approved : Approved origin trace request req) (suffix : trace <:+ later) :
    Approved origin later request req :=
  { approved with agreed := approved.agreed.mono suffix }

theorem Accepted.mono {origin : Origin} {trace later : AgentTrace} {request : HttpRequest}
    {req : PairRequest} {pairing : PairingResult}
    (accepted : Accepted origin trace request req pairing) (suffix : trace <:+ later) :
    Accepted origin later request req pairing :=
  { accepted.toApproved.mono suffix with accepted := accepted.accepted.mono suffix }

variable {lib}

section Handlers

variable {origin : Origin} {trace : AgentTrace}

end Handlers

/-! ### Behind the middleware -/

/-- Anything else than the pairing is answered with an error status. -/
def PairAnswered (origin : Origin) (result : Except GoError Response) : Prop :=
  ∀ request response, origin = .http request → request.path = "/v1/pair" →
    request.method = "POST" → result = .ok response → response.status ≤ 299 →
    response.body = .paired

theorem handlePair_answers {trace : AgentTrace} (request : HttpRequest) :
    (handlePair request).Follows (fun _ _ => True)
      (fun _ result => ∀ response, result = .ok response → response.status ≤ 299 →
        response.body = .paired) trace := by
  have refused {later : AgentTrace} (response : Response) (status : 299 < response.status) :
      (pure response : Agent Response).Follows (fun _ _ => True)
        (fun _ result => ∀ other, result = .ok other → other.status ≤ 299 →
          other.body = .paired) later := by
    intro other same low
    cases same
    omega
  have failed {error : GoError} : ∀ other : Response, (.error error : Except GoError Response) =
      .ok other → other.status ≤ 299 → other.body = .paired := by
    intro other same
    cases same
  unfold handlePair
  split
  · exact refused _ (by decide)
  · cases request.pairBody with
    | none => exact refused _ (by decide)
    | some req =>
        simp only
        split
        · exact refused _ (by decide)
        · refine Follows.perform trivial (fun approved _ => ?_) fun _ _ => failed
          split
          · exact refused _ (by decide)
          · refine ⟨trivial, fun reply _ => ?_⟩
            cases reply with
            | error error => exact refused _ (by decide)
            | ok pairing =>
                refine Follows.perform trivial (fun pairedOn _ => ?_) fun _ _ => failed
                refine (Uses.any (addSite _ _)).past (fun _ _ _ => trivial) (fun _ added _ => ?_)
                  fun _ _ _ => failed
                cases added with
                | error error => exact refused _ (show 299 < 500 by decide)
                | ok _ =>
                    refine (Uses.any (setHMACSecret _ _)).past (fun _ _ _ => trivial)
                      (fun _ _ _ => ?_) fun _ _ _ => failed
                    intro response same _
                    cases same
                    rfl

theorem body_answers (lib : Libraries) (origin : Origin) :
    (body lib origin).Follows (fun _ _ => True)
      (fun (_ : AgentTrace) result => PairAnswered origin result) [] := by
  have free {later : AgentTrace} {program : Agent Response}
      (other : ∀ request, origin = .http request → request.path = "/v1/pair" →
        request.method = "POST" → False) :
      program.Follows (fun _ _ => True) (fun _ result => PairAnswered origin result) later := by
    refine (Follows.always fun _ _ _ => trivial).weaken fun _ _ _ _ request response call path post => ?_
    exact (other request call path post).elim
  cases origin with
  | remove siteURL =>
      apply free
      intro request call
      cases call
  | http request =>
      by_cases pairs : request.path = "/v1/pair" ∧ request.method = "POST"
      · have mapped : corsMiddleware lib request = (allowedOrigin request).bind fun allowOrigin =>
            (handlePair request).bind fun response =>
              .done { response with allowOrigin := allowOrigin } := by
          unfold corsMiddleware securityMiddleware mux
          simp only [pairs.1, pairs.2, beq_self_eq_true, if_true]
          rfl
        show (corsMiddleware lib request).Follows _ _ _
        rw [mapped]
        have failed {error : GoError} : PairAnswered (.http request) (.error error) := by
          intro _ _ _ _ _ same
          cases same
        refine (Uses.any (allowedOrigin request)).past (fun _ _ _ => trivial)
          (fun later allowOrigin _ => ?_) fun _ _ _ => failed
        refine Follows.bind (handlePair_answers request) ?_ fun _ _ _ _ => failed
        intro last response _ answered other answer call _ _ same low
        cases same
        exact answered response rfl low
      · apply free
        intro other call path post
        cases call
        exact pairs ⟨path, post⟩

/-! ### Every run -/

section Replies

variable {lib : Libraries} {oracle : Oracle} {shared : Shared} {operation : Operation}

theorem reply_now : (Bridge.reply lib oracle shared operation).2.now = shared.now := by
  have answered : (answer lib oracle shared operation).2.now = shared.now := by
    cases operation with
    | keychainGet key =>
        simp only [answer]
        split <;> rfl
    | keychainDelete key =>
        simp only [answer]
        split <;> rfl
    | validatePairingCode named code =>
        simp only [answer]
        split
        · split <;> rfl
        · rfl
    | fetchOCSP certDER issuer =>
        simp only [answer]
        split <;> rfl
    | _ => rfl
  unfold Bridge.reply
  split
  · split
    · cases operation <;> rfl
    · exact answered
  · exact answered

theorem move_now {move : Move} {later : Shared} (moved : move.apply shared = some later) :
    shared.now ≤ later.now := by
  cases move with
  | elapse seconds =>
      cases moved
      exact Int.le_add_of_nonneg_right (Int.natCast_nonneg _)
  | tokens modules =>
      cases moved
      exact Int.le_refl _
  | loseSecrets keychain =>
      simp only [Move.apply] at moved
      split at moved
      · cases moved
        exact Int.le_refl _
      · cases moved

end Replies

section Runs

variable {lib : Libraries}

/-- A pairing that was agreed to by that time stands behind the record of a site. -/
def Consented (world : BridgeWorld lib) (record : PairedSite) (time : Int) : Prop :=
  ∃ (index : Nat) (call : (bridge lib).Call Origin Response) (request : HttpRequest)
    (req : PairRequest) (pairing : PairingResult) (agreedAt : Int),
    world.calls[index]? = some call ∧ Accepted call.origin call.trace request req pairing ∧
    record.siteURL = req.siteURL ∧ record.agentRegistration = pairing.agentRegistration ∧
    ⟨.confirmPairing req.siteURL, .ok true, agreedAt⟩ ∈ call.trace ∧ agreedAt ≤ time

theorem Consented.later {world : BridgeWorld lib} {record : PairedSite} {time later : Int}
    (consented : Consented world record time) (onward : time ≤ later) :
    Consented world record later := by
  obtain ⟨index, call, request, req, pairing, agreedAt, located, accepted, named, registered, agreed,
    early⟩ := consented
  exact ⟨index, call, request, req, pairing, agreedAt, located, accepted, named, registered, agreed,
    early.trans onward⟩

section Steps

variable {world next : BridgeWorld lib} {label : BridgeLabel lib}

theorem Consented.step {record : PairedSite} {time : Int}
    (consented : Consented world record time)
    (stepped : step (body lib) world label = some next) : Consented next record time := by
  obtain ⟨index, call, request, req, pairing, agreedAt, located, accepted, named, registered, agreed,
    early⟩ := consented
  obtain ⟨later, there, origin, suffix⟩ := step_grows (body lib) stepped located
  refine ⟨index, later, request, req, pairing, agreedAt, there, ?_, named, registered,
    suffix.subset agreed, early⟩
  rw [origin]
  exact accepted.mono suffix

theorem now_step (stepped : step (body lib) world label = some next) :
    world.shared.now ≤ next.shared.now := by
  rcases step_shared (body lib) stepped with same | ⟨index, call, event, asked⟩ |
    ⟨move, data, _, applied⟩
  · rw [same]
  · obtain ⟨oracle, _, replied⟩ := asking_replied stepped asked
    have kept := @reply_now lib oracle world.shared event.query
    rw [replied] at kept
    exact kept.ge
  · obtain ⟨later, moved, same⟩ := Option.map_eq_some_iff.mp applied
    rw [← (Prod.mk.inj same).2]
    exact move_now moved

end Steps

section Origins

variable {now : Int} {tokens : List Module} {labels : List (BridgeLabel lib)}
  {world : BridgeWorld lib} (reached : run (body lib) (started lib now tokens) labels = some world)
  {index : Nat} {call : (bridge lib).Call Origin Response}
  (located : world.calls[index]? = some call)

include reached located

end Origins

end Runs

end DscSigning.Bridge
