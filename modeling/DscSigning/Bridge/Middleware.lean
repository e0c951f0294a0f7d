/-
Which handler a request gets to, and who may read the response.

Two middlewares stand before the mux, each with its own exemptions: the first
sets the CORS header and answers preflights, the second checks origin and token.
-/

import DscSigning.Bridge.FailedPairing

namespace DscSigning.Bridge

open Interaction Engine

variable (lib : Libraries)

/-! ### The way of a request -/

inductive Handler where
  | status
  | certs
  | pair
  | sign
deriving DecidableEq

/-- The handler that the mux has for a path. -/
def route (path : String) : Option Handler :=
  if path == "/v1/status" then some .status
  else if path == "/v1/certs" then some .certs
  else if path == "/v1/pair" then some .pair
  else if path == "/v1/sign" then some .sign
  else none

def handle (request : HttpRequest) : Option Handler → Agent Response
  | some .status => handleStatus request
  | some .certs => handleCerts lib request
  | some .pair => handlePair request
  | some .sign => handleSign lib request
  | none => pure (respond 404 (.text "404 page not found"))

inductive Verdict where
  | preflight
  | refused
  | passed (handler : Option Handler)
deriving DecidableEq

/-- What the middlewares make of a request. -/
structure Dispatch where
  allowOrigin : Option String
  verdict : Verdict
deriving DecidableEq

/-- Whether the second middleware lets the request pass. -/
def passes (request : HttpRequest) : Agent Bool :=
  if request.path == "/v1/pair" then pure true
  else if request.path == "/v1/status" && request.method == "GET" then pure true
  else if request.origin == "" then pure false
  else admits request

def dispatch (request : HttpRequest) : Agent Dispatch :=
  (allowedOrigin request).bind fun allowOrigin =>
    if request.method == "OPTIONS" then .done ⟨allowOrigin, .preflight⟩
    else (passes request).bind fun passed =>
      .done ⟨allowOrigin, if passed then .passed (route request.path) else .refused⟩

/-- The response once it is clear which handler runs. -/
def conclude (request : HttpRequest) (dispatched : Dispatch) : Agent Response :=
  match dispatched.verdict with
  | .preflight => .done ⟨204, .empty, dispatched.allowOrigin⟩
  | .refused =>
      .done { writeError .unauthorized 403 with allowOrigin := dispatched.allowOrigin }
  | .passed handler => (handle lib request handler).bind fun response =>
      .done { response with allowOrigin := dispatched.allowOrigin }

theorem mux_eq (request : HttpRequest) :
    mux lib request = handle lib request (route request.path) := by
  unfold mux route
  split
  · rfl
  · split
    · rfl
    · split
      · rfl
      · split <;> rfl

theorem securityMiddleware_eq (request : HttpRequest) :
    securityMiddleware lib request = (passes request).bind fun passed =>
      if passed then mux lib request else .done (writeError .unauthorized 403) := by
  unfold securityMiddleware passes
  split
  · rfl
  · split
    · rfl
    · split
      · rfl
      · rfl

/-- The server runs what the middlewares dispatch to, and nothing else. -/
theorem corsMiddleware_eq (request : HttpRequest) :
    corsMiddleware lib request = (dispatch request).bind (conclude lib request) := by
  unfold corsMiddleware dispatch
  rw [Program.bind_eq, Program.bind_assoc]
  congr 1
  funext allowOrigin
  split
  · rfl
  · rw [securityMiddleware_eq, Program.bind_eq, Program.bind_assoc, Program.bind_assoc]
    congr 1
    funext passed
    cases passed with
    | false => rfl
    | true => rw [mux_eq]; rfl

/-! ### What the checks have seen -/

/-- The token is the one that the keystore has for the site: the keychain's, or
that of the file where the keychain gave none. -/
def TokenStored (shared : Shared) (trace : AgentTrace) (siteURL token : String) : Prop :=
  shared.keychain.lookup siteURL = some token ∨
    FellBack trace siteURL (.ok shared.tokenFile) ∧ shared.tokenFile.lookup siteURL = some token

/-- The origin is paired, and a token that came with the request is its own. -/
structure Trusted (shared : Shared) (trace : AgentTrace) (request : HttpRequest) : Prop where
  paired : isPairedSite shared request.origin = true
  token : request.siteToken ≠ "" → TokenStored shared trace request.origin request.siteToken

variable {lib}

section Plays

variable {shared : Shared} {trace : AgentTrace} {script : List Oracle} {request : HttpRequest}

theorem fallback_played {key : String} {error : GoError} {stamp : Int}
    {outcome : (bridge lib).Outcome (Except GoError String)}
    (played : (bridge lib).play ((getTokenFile key).bind fun read => .done (instead error read)) ()
      shared (⟨.keychainGet key, .error error, stamp⟩ :: trace) script = some outcome) :
    outcome.shared = shared ∧ ∀ value, outcome.result = .ok (.ok value) →
      TokenStored shared outcome.trace key value := by
  obtain ⟨read, rest, rfl, _, played⟩ := play_asked played
  cases fault : read.fault with
  | some broken =>
      rw [reply_faulty fault rfl] at played
      obtain ⟨rfl, rfl⟩ := play_done.mp played
      exact ⟨rfl, fun value same => by cases same⟩
  | none =>
      rw [reply_faultless fault] at played
      simp only [answer, Program.bind, Program.pure_eq] at played
      cases stored : shared.tokenFile.lookup key with
      | none =>
          rw [stored] at played
          obtain ⟨rfl, rfl⟩ := play_done.mp played
          exact ⟨rfl, fun value same => by cases same⟩
      | some token =>
          rw [stored] at played
          obtain ⟨rfl, rfl⟩ := play_done.mp played
          refine ⟨rfl, fun value same => ?_⟩
          cases same
          exact Or.inr ⟨FellBack.head, stored⟩

theorem readEntry_played {key : String} {outcome : (bridge lib).Outcome (Except GoError String)}
    (played : (bridge lib).play (readEntry key) () shared trace script = some outcome) :
    outcome.shared = shared ∧ ∀ value, outcome.result = .ok (.ok value) →
      TokenStored shared outcome.trace key value := by
  obtain ⟨get, rest, rfl, _, played⟩ := play_asked played
  cases fault : get.fault with
  | some error =>
      rw [reply_faulty fault rfl] at played
      exact fallback_played played
  | none =>
      rw [reply_faultless fault] at played
      cases stored : shared.keychain.lookup key with
      | none =>
          simp only [answer, stored] at played
          exact fallback_played played
      | some token =>
          simp only [answer, stored] at played
          obtain ⟨rfl, rfl⟩ := play_done.mp played
          refine ⟨rfl, fun value same => ?_⟩
          cases same
          exact Or.inl stored

/-- One look into the map of paired sites. -/
theorem isPaired_played {Value : Type} {siteURL : String} {next : Bool → Agent Value}
    {outcome : (bridge lib).Outcome Value}
    (played : (bridge lib).play ((known (.isPaired siteURL)).bind next) () shared trace script =
      some outcome) :
    ∃ oracle rest, script = oracle :: rest ∧ ∃ later,
      (bridge lib).play (next (isPairedSite shared siteURL)) () shared later rest =
        some outcome := by
  obtain ⟨oracle, rest, rfl, _, played⟩ := play_asked played
  rw [reply_memory rfl] at played
  exact ⟨oracle, rest, rfl, _, played⟩

theorem siteToken_played {siteURL : String}
    {outcome : (bridge lib).Outcome (Except GoError String)}
    (played : (bridge lib).play (siteToken siteURL) () shared trace script = some outcome) :
    outcome.shared = shared ∧ ∀ token, outcome.result = .ok (.ok token) →
      isPairedSite shared siteURL = true ∧ TokenStored shared outcome.trace siteURL token := by
  rw [siteToken_eq] at played
  obtain ⟨_, rest, rfl, _, played⟩ := isPaired_played played
  split at played
  · rename_i paired
    rw [play_bind_done] at played
    obtain ⟨read, got, rfl⟩ := Option.map_eq_some_iff.mp played
    obtain ⟨same, stored⟩ := readEntry_played got
    refine ⟨same, fun token returned => ⟨paired, stored token ?_⟩⟩
    cases result : read.result with
    | error error =>
        rw [result] at returned
        cases returned
    | ok value =>
        rw [result] at returned
        cases value with
        | error error => cases returned
        | ok found =>
            cases returned
            rfl
  · obtain ⟨rfl, rfl⟩ := play_done.mp played
    exact ⟨rfl, fun token same => by cases same⟩

theorem admits_played {outcome : (bridge lib).Outcome Bool}
    (played : (bridge lib).play (admits request) () shared trace script = some outcome) :
    outcome.shared = shared ∧
      (outcome.result = .ok true → Trusted shared outcome.trace request) := by
  unfold admits at played
  split at played
  · unfold validateToken at played
    obtain ⟨first, second, middle, rfl, read, finish⟩ := play_bind.mp played
    obtain ⟨same, stored⟩ := siteToken_played read
    cases result : middle.result with
    | error error =>
        rw [result] at finish
        obtain ⟨rfl, rfl⟩ := finish
        exact ⟨same, fun impossible => by cases impossible⟩
    | ok value =>
        rw [result] at finish
        cases value with
        | error error =>
            obtain ⟨rfl, rfl⟩ := play_done.mp finish
            exact ⟨same, fun impossible => by cases impossible⟩
        | ok token =>
            obtain ⟨rfl, rfl⟩ := play_done.mp finish
            obtain ⟨paired, kept⟩ := stored token result
            refine ⟨same, fun matching => ⟨paired, fun _ => ?_⟩⟩
            have matches_ : token = request.siteToken := by
              simpa using Except.ok.inj matching
            rw [← matches_]
            exact kept
  · rename_i absent
    rw [← Program.bind_done (known _)] at played
    obtain ⟨_, rest, rfl, _, played⟩ := isPaired_played played
    obtain ⟨rfl, rfl⟩ := play_done.mp played
    refine ⟨rfl, fun paired => ⟨Except.ok.inj paired, fun present => ?_⟩⟩
    simp only [bne_iff_ne, ne_eq, not_not] at absent
    exact absurd absent present

theorem allowedOrigin_played {outcome : (bridge lib).Outcome (Option String)}
    (played : (bridge lib).play (allowedOrigin request) () shared trace script = some outcome) :
    outcome.shared = shared ∧ ∃ allowOrigin, outcome.result = .ok allowOrigin ∧
      ∀ origin, allowOrigin = some origin → origin = request.origin ∧
        (isPairedSite shared origin = true ∨ request.path = "/v1/pair" ∨
          request.path = "/v1/status") := by
  unfold allowedOrigin corsOriginAllowed at played
  rw [Program.bind_eq, Program.bind_eq, Program.bind_assoc] at played
  split at played
  · obtain ⟨_, rest, rfl, _, played⟩ := isPaired_played played
    obtain ⟨rfl, rfl⟩ := play_done.mp played
    refine ⟨rfl, _, rfl, fun origin same => ?_⟩
    split at same
    · rename_i allowed
      cases same
      simp only [Bool.or_eq_true, beq_iff_eq, or_assoc] at allowed
      exact ⟨rfl, allowed⟩
    · cases same
  · obtain ⟨rfl, rfl⟩ := play_done.mp played
    exact ⟨rfl, none, rfl, fun origin same => by cases same⟩

theorem passes_played {outcome : (bridge lib).Outcome Bool}
    (played : (bridge lib).play (passes request) () shared trace script = some outcome) :
    outcome.shared = shared ∧ (outcome.result = .ok true →
      request.path = "/v1/pair" ∨ request.path = "/v1/status" ∨
        request.origin ≠ "" ∧ Trusted shared outcome.trace request) := by
  unfold passes at played
  split at played
  · rename_i pairing
    obtain ⟨rfl, rfl⟩ := play_done.mp played
    exact ⟨rfl, fun _ => Or.inl (by simpa using pairing)⟩
  · split at played
    · rename_i status
      obtain ⟨rfl, rfl⟩ := play_done.mp played
      simp only [Bool.and_eq_true, beq_iff_eq] at status
      exact ⟨rfl, fun _ => Or.inr (Or.inl status.1)⟩
    · split at played
      · obtain ⟨rfl, rfl⟩ := play_done.mp played
        exact ⟨rfl, fun impossible => by cases impossible⟩
      · rename_i named
        obtain ⟨same, trusted⟩ := admits_played played
        exact ⟨same, fun admitted => Or.inr (Or.inr ⟨by simpa using named, trusted admitted⟩)⟩

end Plays

/-- A certificate or a signature is only reached by a paired origin whose token,
if it sent one, is the stored one; and only a paired origin may read what comes
back from anywhere but the two paths of the bootstrap. -/
theorem unpaired_never_served (lib : Libraries) (request : HttpRequest) :
    corsMiddleware lib request = (dispatch request).bind (conclude lib request) ∧
    ∀ shared script outcome,
      (bridge lib).play (dispatch request) () shared [] script = some outcome →
      outcome.shared = shared ∧ ∀ dispatched, outcome.result = .ok dispatched →
        (dispatched.verdict = .passed (some .certs) ∨ dispatched.verdict = .passed (some .sign) →
          request.origin ≠ "" ∧ Trusted shared outcome.trace request) ∧
        ∀ origin, dispatched.allowOrigin = some origin → request.path ≠ "/v1/pair" →
          request.path ≠ "/v1/status" → origin = request.origin ∧
            isPairedSite shared origin = true := by
  refine ⟨corsMiddleware_eq lib request, ?_⟩
  intro shared script outcome played
  obtain ⟨first, second, middle, rfl, origins, finish⟩ := play_bind.mp played
  obtain ⟨same, allowOrigin, allowed, permitted⟩ := allowedOrigin_played origins
  have readable (origin : String) (given : allowOrigin = some origin)
      (notPair : request.path ≠ "/v1/pair") (notStatus : request.path ≠ "/v1/status") :
      origin = request.origin ∧ isPairedSite shared origin = true := by
    obtain ⟨named, paired | pairing | status⟩ := permitted origin given
    · exact ⟨named, paired⟩
    · exact absurd pairing notPair
    · exact absurd status notStatus
  rw [allowed] at finish
  simp only [same] at finish
  split at finish
  · obtain ⟨rfl, rfl⟩ := play_done.mp finish
    refine ⟨rfl, fun dispatched ended => ?_⟩
    cases ended
    refine ⟨?_, readable⟩
    rintro (reached | reached) <;> cases reached
  · rw [play_bind_done] at finish
    obtain ⟨checked, passed, rfl⟩ := Option.map_eq_some_iff.mp finish
    obtain ⟨unchanged, trusted⟩ := passes_played passed
    refine ⟨unchanged, fun dispatched ended => ?_⟩
    cases result : checked.result with
    | error error =>
        rw [result] at ended
        cases ended
    | ok admitted =>
        rw [result] at ended
        cases ended
        refine ⟨fun reached => ?_, readable⟩
        -- Neither handler has a path that the checks exempt.
        have routed : admitted = true ∧ request.path ≠ "/v1/pair" ∧
            request.path ≠ "/v1/status" := by
          cases admitted with
          | false => rcases reached with reached | reached <;> cases reached
          | true =>
              have handled : route request.path = some .certs ∨
                  route request.path = some .sign :=
                reached.imp Verdict.passed.inj Verdict.passed.inj
              refine ⟨rfl, fun path => ?_, fun path => ?_⟩
              · rw [path] at handled
                revert handled
                decide
              · rw [path] at handled
                revert handled
                decide
        rcases trusted (by rw [result, routed.1]) with pairing | status | checked
        · exact absurd pairing routed.2.1
        · exact absurd status routed.2.2
        · exact checked

/-- A paired site asks for its certificates with its token. -/
def listingCerts : HttpRequest :=
  { method := "GET"
    path := "/v1/certs"
    origin := "http://other.example"
    siteToken := "T-9"
    pairBody := none
    signBody := none }

theorem unpaired_never_served_sample :
    ∃ outcome, (bridge plainLibraries).play (dispatch listingCerts) () besideOther []
        (List.replicate 3 calm) = some outcome ∧
      outcome.result = .ok ⟨some "http://other.example", .passed (some .certs)⟩ ∧
      listingCerts.origin ≠ "" ∧ Trusted besideOther outcome.trace listingCerts := by
  have ends : ((bridge plainLibraries).play (dispatch listingCerts) () besideOther []
      (List.replicate 3 calm)).bind (fun outcome => outcome.result.toOption) =
      some ⟨some "http://other.example", .passed (some .certs)⟩ := by
    decide +kernel
  obtain ⟨outcome, played, shown⟩ := Option.bind_eq_some_iff.mp ends
  have ended : outcome.result = .ok ⟨some "http://other.example", .passed (some .certs)⟩ := by
    cases result : outcome.result with
    | error error =>
        rw [result] at shown
        cases shown
    | ok dispatched =>
        rw [result] at shown
        cases shown
        rfl
  obtain ⟨_, served⟩ := (unpaired_never_served plainLibraries listingCerts).2 besideOther
    (List.replicate 3 calm) outcome played
  exact ⟨outcome, played, ended, (served _ ended).1 (Or.inl rfl)⟩

end DscSigning.Bridge
