/-
The cached PINs over a series of signing requests.

A PIN stays in the cache as long as the token has not rejected one for the same
certificate, so it is always that of the last signing that succeeded.
-/

import DscSigning.Bridge.Keystore
import DscSigning.Bridge.SigningKey
import DscSigning.Library.Runs

namespace DscSigning.Bridge

open Interaction Engine

/-! ### Requests one after another -/

variable (lib : Libraries)

/-- The bridge, with tokens, clock and keychain that may change before every operation. -/
abbrev stirred : Engine face :=
  { bridge lib with
    Oracle := List Move × Oracle
    reply := fun oracle _ shared operation =>
      (oracle.1.foldlM Move.apply shared).map fun moved => reply lib oracle.2 moved operation }

/-- A signing request that has got to `SignHash`. -/
structure Attempt where
  req : SignRequest
  signing : Signing

def Attempt.fingerprint (attempt : Attempt) : String := attempt.req.expectedFingerprint

/-- The PIN handed to `C_Login`, if there was a login. -/
def Attempt.login (attempt : Attempt) : Option String :=
  attempt.signing.operations.findSome? fun
    | .login pin => some pin
    | .sign _ => none

def Attempt.succeeded (attempt : Attempt) : Bool := attempt.signing.result.isOk

/-- CKR_PIN_INCORRECT, CKR_PIN_INVALID, CKR_PIN_LEN_RANGE and CKR_PIN_LOCKED -/
def pinCodes : List Nat := [0xA0, 0xA1, 0xA2, 0xA4]

/-- The token has answered that the PIN is wrong. -/
def Attempt.rejected (attempt : Attempt) : Bool :=
  match attempt.signing.result with
  | .ok _ => false
  | .error failure => (failure.code.map pinCodes.contains).getD false

def signingOf : AgentEvent → Option Signing
  | ⟨.signHash .., .ok signing, _⟩ => some signing
  | _ => none

def attemptsOf (request : HttpRequest) (trace : AgentTrace) : List Attempt :=
  match request.signBody with
  | some req => (trace.filterMap signingOf).map (Attempt.mk req)
  | none => []

/-- One request is served, and its attempt goes to the head of the history. -/
def handled (state : Shared × List Attempt) (call : HttpRequest × List (List Move × Oracle)) :
    Option (Shared × List Attempt) :=
  ((stirred lib).play (body lib (.http call.1)) () state.1 [] call.2).map fun outcome =>
    (outcome.shared, attemptsOf call.1 outcome.trace ++ state.2)

variable {lib}

/-! ### One signing -/

/-- `SignHash` logs in with the PIN that it is given, and before it signs. -/
theorem signHash_login {modules : List Module} {id : SlotId} {fingerprint : String}
    {hashBytes : Bytes} {pin : String} (req : SignRequest) :
    let attempt : Attempt := ⟨req, signHash lib modules id fingerprint hashBytes pin⟩
    (attempt.login = none ∨ attempt.login = some pin) ∧
      (attempt.succeeded = true → attempt.login = some pin) := by
  unfold Attempt.login Attempt.succeeded signHash
  simp only
  split
  · exact ⟨Or.inl rfl, fun succeeded => by cases succeeded⟩
  · split
    · exact ⟨Or.inl rfl, fun succeeded => by cases succeeded⟩
    · split
      · exact ⟨Or.inr rfl, fun succeeded => by cases succeeded⟩
      · split
        · exact ⟨Or.inr rfl, fun succeeded => by cases succeeded⟩
        · exact ⟨Or.inr rfl, fun _ => rfl⟩

/-- What a signing leaves in the cache. -/
def cacheAfter (pins : Table String String) (fingerprint pin : String) (signing : Signing) :
    Table String String :=
  match signing.result with
  | .ok _ => if fingerprint == "" || pin == "" then pins else pins.insert fingerprint pin
  | .error failure =>
      if (failure.code.map pinCodes.contains).getD false && fingerprint != "" then
        pins.erase fingerprint
      else pins

/-! ### One request -/

/-- The cache, and what the token has answered to `SignHash`. -/
def Holding (pins : Table String String) (signings : List Signing) (shared : Shared)
    (trace : AgentTrace) : Prop :=
  shared.pins = pins ∧ trace.filterMap signingOf = signings

/-- Whatever changes meanwhile, the program can only end in the post. -/
abbrev Brings (lib : Libraries) {Value : Type}
    (post : Except GoError Value → Shared → AgentTrace → Prop) (program : Agent Value)
    (shared : Shared) (trace : AgentTrace) : Prop :=
  @Ensures face (stirred lib) Value (fun _ => True) (fun result _ later longer =>
    post result later longer) program () shared trace

/-- The PIN of the request, or the cached one. -/
def Supplied (pins : Table String String) (req : SignRequest) (pin : String) : Prop :=
  req.pin ≠ "" ∧ pin = req.pin ∨
    req.pin = "" ∧ req.expectedFingerprint ≠ "" ∧ pins.lookup req.expectedFingerprint = some pin

/-- The request did not get to `SignHash`, or did once, with the effect of that on the cache. -/
def Served (lib : Libraries) (pins : Table String String) (req : SignRequest) (shared : Shared)
    (trace : AgentTrace) : Prop :=
  Holding pins [] shared trace ∨
    ∃ modules id hashBytes pin, Supplied pins req pin ∧
      let signing := signHash lib modules id req.expectedFingerprint hashBytes pin
      Holding (cacheAfter pins req.expectedFingerprint pin signing) [signing] shared trace

section Serving

variable {pins : Table String String} {signings : List Signing} {shared : Shared}
  {trace : AgentTrace} {Value : Type}

theorem move_pins {moves : List Move} {before after : Shared}
    (moved : moves.foldlM Move.apply before = some after) : after.pins = before.pins := by
  induction moves generalizing before with
  | nil =>
      cases moved
      rfl
  | cons move rest ih =>
      rw [List.foldlM_cons] at moved
      obtain ⟨next, applied, moved⟩ := Option.bind_eq_some_iff.mp moved
      rw [ih moved]
      cases move with
      | elapse seconds =>
          cases applied
          rfl
      | tokens modules =>
          cases applied
          rfl
      | loseSecrets keychain =>
          simp only [Move.apply] at applied
          split at applied
          · cases applied
            rfl
          · cases applied

theorem stirred_reply {oracle : List Move × Oracle} {operation : Operation}
    {reply : Except GoError operation.Answer} {later : Shared}
    (replied : (stirred lib).reply oracle () shared operation = some (reply, later)) :
    ∃ moved : Shared, moved.pins = shared.pins ∧
      Bridge.reply lib oracle.2 moved operation = (reply, later) := by
  obtain ⟨moved, stirs, same⟩ := Option.map_eq_some_iff.mp replied
  exact ⟨moved, move_pins stirs, same⟩

theorem reading_reply {oracle : Oracle} {moved : Shared} {operation : Operation}
    (reading : Reading operation) :
    (Bridge.reply lib oracle moved operation).2.pins = moved.pins := by
  have answered : (answer lib oracle moved operation).2.pins = moved.pins := by
    cases operation with
    | keychainGet key => simp only [answer]; split <;> rfl
    | fetchOCSP cert issuer => simp only [answer]; split <;> rfl
    | _ => first | rfl | exact reading.elim
  unfold Bridge.reply
  split
  · split
    · cases operation <;> rfl
    · exact answered
  · exact answered

theorem reading_brings {program : Agent Value} (uses : program.Uses Reading)
    (holding : Holding pins signings shared trace) :
    Brings lib (fun _ => Holding pins signings) program shared trace := by
  refine @Ensures.of_uses face (stirred lib) Value (fun _ => True) Reading
    (fun _ => Holding pins signings) ?_ program uses () shared trace holding
  intro operation oracle reply later _ shared trace reading holding replied
  obtain ⟨moved, same, told⟩ := stirred_reply replied
  constructor
  · have kept := @reading_reply lib oracle.2 moved operation reading
    rw [told] at kept
    exact kept.trans (same.trans holding.1)
  · rw [List.filterMap_cons]
    cases operation <;> first | exact holding.2 | exact reading.elim

theorem rememberPIN_brings {fingerprint pin : String} {signing : Signing}
    {made : Signature × Bytes} (succeeded : signing.result = .ok made)
    (holding : Holding pins [signing] shared trace) :
    Brings lib (fun _ => Holding (cacheAfter pins fingerprint pin signing) [signing])
      (rememberPIN fingerprint pin) shared trace := by
  unfold rememberPIN cacheAfter
  rw [succeeded]
  simp only
  split
  · exact holding
  · intro oracle reply later _ replied
    obtain ⟨moved, same, told⟩ := stirred_reply replied
    rw [reply_memory rfl] at told
    cases told
    exact ⟨congrArg (AList.insert fingerprint pin) (same.trans holding.1), holding.2⟩

/-- The codes that clear the cache are those of a wrong PIN. -/
theorem pinError_iff (failure : Failure) :
    ((mapPKCS11Error failure).1 == .pinIncorrect || (mapPKCS11Error failure).1 == .pinLocked) =
      (failure.code.map pinCodes.contains).getD false := by
  unfold mapPKCS11Error
  split
  -- No code of a wrong PIN is left over for the last branch.
  case h_13 => cases code : failure.code <;> simp_all [pinCodes]
  all_goals
    rename_i code
    rw [code]
    rfl

theorem dropPIN_brings {fingerprint pin : String} {signing : Signing} {failure : Failure}
    (failed : signing.result = .error failure) (holding : Holding pins [signing] shared trace) :
    Brings lib (fun _ => Holding (cacheAfter pins fingerprint pin signing) [signing])
      (dropPIN (mapPKCS11Error failure).1 fingerprint) shared trace := by
  have wrong := pinError_iff failure
  unfold dropPIN forgetPIN cacheAfter
  rw [failed]
  simp only
  rw [wrong]
  cases rejects : (failure.code.map pinCodes.contains).getD false with
  | false => exact holding
  | true =>
      simp only [if_true, Bool.true_and]
      cases nameless : fingerprint == "" with
      | true =>
          simp only [if_true, bne, nameless, Bool.not_true, Bool.false_eq_true, if_false]
          exact holding
      | false =>
          simp only [if_true, bne, nameless, Bool.not_false, Bool.false_eq_true, if_false]
          intro oracle reply later _ replied
          obtain ⟨moved, same, told⟩ := stirred_reply replied
          rw [reply_memory rfl] at told
          cases told
          exact ⟨congrArg (AList.erase fingerprint) (same.trans holding.1), holding.2⟩

theorem signedResponse_uses (req : SignRequest) (signature : Signature) (certDER : Bytes) :
    (signedResponse lib req signature certDER).Uses Reading :=
  Program.Uses.bind (chainOf_uses certDER) fun chain =>
    Program.Uses.bind (ocspOf_uses certDER chain) fun _ =>
      Program.Uses.bind (uses_known trivial) fun _ => trivial

theorem signAndRespond_brings {req : SignRequest} {id : SlotId} {hashBytes : Bytes} {pin : String}
    (supplied : Supplied pins req pin) (holding : Holding pins [] shared trace) :
    Brings lib (fun _ => Served lib pins req) (signAndRespond lib req id hashBytes pin) shared
      trace := by
  intro oracle reply later _ replied
  obtain ⟨moved, same, told⟩ := stirred_reply replied
  rw [reply_memory rfl] at told
  cases told
  have served (shared : Shared) (trace : AgentTrace) (left : Holding (cacheAfter pins
      req.expectedFingerprint pin (signHash lib later.tokens id req.expectedFingerprint hashBytes
        pin)) [signHash lib later.tokens id req.expectedFingerprint hashBytes pin] shared trace) :
      Served lib pins req shared trace :=
    Or.inr ⟨later.tokens, id, hashBytes, pin, supplied, left⟩
  have held : Holding pins [signHash lib later.tokens id req.expectedFingerprint hashBytes pin]
      later (⟨.signHash id req.expectedFingerprint hashBytes pin,
        .ok (signHash lib later.tokens id req.expectedFingerprint hashBytes pin), shared.now⟩ ::
          trace) :=
    ⟨same.trans holding.1, congrArg (List.cons _) holding.2⟩
  simp only [Program.bind]
  cases ended : (signHash lib later.tokens id req.expectedFingerprint hashBytes pin).result with
  | error failure =>
      refine Ensures.bind (dropPIN_brings ended held) ?_ fun _ _ => served
      intro _ _ last longer left
      exact served last longer left
  | ok made =>
      refine Ensures.bind (rememberPIN_brings ended held) ?_ fun _ _ => served
      intro _ _ last longer left
      exact (reading_brings (signedResponse_uses req made.1 made.2) left).weaken
        fun _ _ => served

theorem resolvePIN_brings {req : SignRequest} (holding : Holding pins [] shared trace) :
    Brings lib (fun result shared trace => Holding pins [] shared trace ∧
      ∀ pin, result = .ok (some pin) → Supplied pins req pin) (resolvePIN req) shared trace := by
  unfold resolvePIN
  split
  · rename_i given
    refine ⟨holding, fun pin same => ?_⟩
    cases same
    exact Or.inl ⟨by simpa using given, rfl⟩
  · rename_i absent
    split
    · refine ⟨holding, fun pin same => ?_⟩
      cases same
    · rename_i named
      intro oracle reply later _ replied
      obtain ⟨moved, same, told⟩ := stirred_reply replied
      rw [reply_memory rfl] at told
      cases told
      refine ⟨⟨same.trans holding.1, holding.2⟩, fun pin found => ?_⟩
      have cached : later.pins.lookup req.expectedFingerprint = some pin := Except.ok.inj found
      rw [same, holding.1] at cached
      exact Or.inr ⟨by simpa using absent, by simpa using named, cached⟩

theorem signWithToken_brings {req : SignRequest} (holding : Holding pins [] shared trace) :
    Brings lib (fun _ => Served lib pins req) (signWithToken lib req) shared trace := by
  have idle (shared : Shared) (trace : AgentTrace) (left : Holding pins [] shared trace) :
      Served lib pins req shared trace := Or.inl left
  unfold signWithToken
  refine Ensures.bind (reading_brings (uses_known trivial) holding) ?_ fun _ _ => idle
  intro modules _ later longer held
  simp only
  split
  · refine Ensures.bind (reading_brings (uses_known trivial) held) ?_ fun _ _ => idle
    intro present _ last longest left
    split <;> exact idle last longest left
  · split
    · exact idle later longer held
    · refine Ensures.bind (resolvePIN_brings held) ?_ fun _ _ shared trace left =>
        idle shared trace left.1
      intro pin _ last longest left
      cases pin with
      | none => exact idle last longest left.1
      | some pin => exact signAndRespond_brings (left.2 pin rfl) left.1

/-- What a request leaves, whether or not it has a body. -/
def Handled (lib : Libraries) (pins : Table String String) (request : HttpRequest)
    (shared : Shared) (trace : AgentTrace) : Prop :=
  Holding pins [] shared trace ∨
    ∃ req, request.signBody = some req ∧ Served lib pins req shared trace

theorem handleSign_brings {request : HttpRequest} (holding : Holding pins [] shared trace) :
    Brings lib (fun _ => Handled lib pins request) (handleSign lib request) shared trace := by
  have idle (shared : Shared) (trace : AgentTrace) (left : Holding pins [] shared trace) :
      Handled lib pins request shared trace := Or.inl left
  unfold handleSign
  split
  · exact idle shared trace holding
  · split
    · exact idle shared trace holding
    · rename_i req sent
      split
      · exact idle shared trace holding
      · refine Ensures.bind (reading_brings (checkHMAC_uses request.origin req) holding) ?_
          fun _ _ => idle
        intro refusal _ later longer held
        cases refusal with
        | some refusal => exact idle later longer held
        | none =>
            exact (signWithToken_brings held).weaken fun _ _ last longest served =>
              Or.inr ⟨req, sent, served⟩

theorem admits_uses (request : HttpRequest) : (admits request).Uses Reading := by
  unfold admits
  split
  · refine Program.Uses.bind (siteToken_uses request.origin) fun read => ?_
    cases read <;> trivial
  · exact uses_known trivial

theorem allowedOrigin_uses (request : HttpRequest) : (allowedOrigin request).Uses Reading := by
  unfold allowedOrigin
  split
  · exact Program.Uses.bind (Program.Uses.bind (uses_known trivial) fun _ => trivial)
      fun _ => trivial
  · trivial

theorem sign_brings {request : HttpRequest} (path : request.path = "/v1/sign")
    (holding : Holding pins [] shared trace) :
    Brings lib (fun _ => Handled lib pins request) (body lib (.http request)) shared trace := by
  have idle (shared : Shared) (trace : AgentTrace) (left : Holding pins [] shared trace) :
      Handled lib pins request shared trace := Or.inl left
  have routed : mux lib request = handleSign lib request := by
    unfold mux
    rw [path]
    rfl
  have exempt : (request.path == "/v1/pair") = false ∧
      (request.path == "/v1/status" && request.method == "GET") = false := by
    rw [path]
    exact ⟨rfl, rfl⟩
  unfold body corsMiddleware
  refine Ensures.bind (reading_brings (allowedOrigin_uses request) holding) ?_ fun _ _ => idle
  intro allowed _ later longer held
  simp only
  split
  · exact idle later longer held
  · have guarded : Brings lib (fun _ => Handled lib pins request) (securityMiddleware lib request)
        later longer := by
      unfold securityMiddleware
      rw [exempt.1, exempt.2]
      simp only [Bool.false_eq_true, if_false]
      split
      · exact idle later longer held
      · refine Ensures.bind (reading_brings (admits_uses request) held) ?_ fun _ _ => idle
        intro admitted _ last longest left
        cases admitted with
        | false => exact idle last longest left
        | true =>
            simp only [if_true, routed]
            exact handleSign_brings left
    exact Ensures.bind guarded (fun _ _ _ _ left => left) fun _ _ _ _ left => left

end Serving

/-! ### Histories -/

/-- The last request for the certificate whose signing succeeded. -/
def lastSuccess (fingerprint : String) (history : List Attempt) : Option Attempt :=
  history.find? fun attempt => attempt.fingerprint == fingerprint && attempt.succeeded

/-- The token has rejected a PIN for the certificate, and no PIN that came with a
request has succeeded since. -/
def Barred (fingerprint : String) (history : List Attempt) : Prop :=
  ∃ newer rejected older, history = newer ++ rejected :: older ∧
    rejected.fingerprint = fingerprint ∧ rejected.rejected = true ∧
    ∀ attempt ∈ newer, attempt.fingerprint = fingerprint → attempt.req.pin ≠ "" →
      attempt.succeeded = false

/-- The cached PIN is that of the last success, and has not been rejected since. -/
structure Trustworthy (history : List Attempt) (fingerprint pin : String) : Prop where
  last : ∃ success, lastSuccess fingerprint history = some success ∧ success.login = some pin
  unbarred : ¬ Barred fingerprint history

/-- A login of the attempt has a PIN, and one that did not come with the request is trusted. -/
def Fair (earlier : List Attempt) (attempt : Attempt) : Prop :=
  ∀ pin, attempt.login = some pin →
    pin ≠ "" ∧ (attempt.req.pin = "" → Trustworthy earlier attempt.fingerprint pin)

/-- The cache holds trusted PINs only. -/
def Cautious (history : List Attempt) (pins : Table String String) : Prop :=
  ∀ fingerprint pin, pins.lookup fingerprint = some pin →
    fingerprint ≠ "" ∧ pin ≠ "" ∧ Trustworthy history fingerprint pin

theorem barred_cons {fingerprint : String} {attempt : Attempt} {history : List Attempt}
    (barred : Barred fingerprint (attempt :: history)) :
    attempt.fingerprint = fingerprint ∧ attempt.rejected = true ∨
      Barred fingerprint history ∧ (attempt.fingerprint = fingerprint → attempt.req.pin ≠ "" →
        attempt.succeeded = false) := by
  obtain ⟨newer, rejected, older, split, named, wrong, none_⟩ := barred
  cases newer with
  | nil =>
      obtain ⟨rfl, rfl⟩ := List.cons.inj split
      exact Or.inl ⟨named, wrong⟩
  | cons first newer =>
      obtain ⟨rfl, rfl⟩ := List.cons.inj split
      exact Or.inr ⟨⟨newer, rejected, older, rfl, named, wrong, fun other member =>
        none_ other (List.mem_cons_of_mem _ member)⟩, none_ attempt (by simp)⟩

/-- Neither an attempt for another certificate nor one without a verdict matters. -/
theorem Trustworthy.cons {fingerprint pin : String} {attempt : Attempt} {history : List Attempt}
    (trusted : Trustworthy history fingerprint pin)
    (aside : attempt.fingerprint ≠ fingerprint ∨
      attempt.succeeded = false ∧ attempt.rejected = false) :
    Trustworthy (attempt :: history) fingerprint pin := by
  constructor
  · obtain ⟨success, found, login⟩ := trusted.last
    refine ⟨success, ?_, login⟩
    have passed : (attempt.fingerprint == fingerprint && attempt.succeeded) = false := by
      rcases aside with other | ⟨failed, _⟩
      · simp [other]
      · simp [failed]
    rw [lastSuccess, List.find?_cons, passed]
    exact found
  · intro barred
    rcases barred_cons barred with ⟨named, wrong⟩ | ⟨before, _⟩
    · rcases aside with other | ⟨_, right⟩
      · exact other named
      · rw [right] at wrong
        cases wrong
    · exact trusted.unbarred before

section Attempts

variable {history : List Attempt} {pins : Table String String} {req : SignRequest} {pin : String}
  {modules : List Module} {id : SlotId} {hashBytes : Bytes}

theorem Supplied.nonempty (cautious : Cautious history pins) (supplied : Supplied pins req pin) :
    pin ≠ "" := by
  rcases supplied with ⟨given, rfl⟩ | ⟨_, _, cached⟩
  · exact given
  · exact (cautious _ _ cached).2.1

theorem attempt_fair (cautious : Cautious history pins) (supplied : Supplied pins req pin) :
    Fair history ⟨req, signHash lib modules id req.expectedFingerprint hashBytes pin⟩ := by
  intro login handed
  have same : login = pin := by
    rcases (signHash_login req).1 with none_ | some_
    · rw [none_] at handed
      cases handed
    · rw [some_] at handed
      exact (Option.some.inj handed).symm
  subst same
  refine ⟨supplied.nonempty cautious, fun absent => ?_⟩
  rcases supplied with ⟨given, _⟩ | ⟨_, _, cached⟩
  · exact absurd absent given
  · exact (cautious _ _ cached).2.2

/-- A success is what its certificate is trusted by from then on. -/
theorem success_trusted (cautious : Cautious history pins) (supplied : Supplied pins req pin)
    (succeeded : (Attempt.mk req (signHash lib modules id req.expectedFingerprint hashBytes
      pin)).succeeded = true) :
    Trustworthy (⟨req, signHash lib modules id req.expectedFingerprint hashBytes pin⟩ :: history)
      req.expectedFingerprint pin := by
  constructor
  · refine ⟨_, ?_, (signHash_login req).2 succeeded⟩
    rw [lastSuccess, List.find?_cons, succeeded]
    simp [Attempt.fingerprint]
  · intro barred
    rcases barred_cons barred with ⟨_, wrong⟩ | ⟨before, explicit⟩
    · unfold Attempt.succeeded at succeeded
      unfold Attempt.rejected at wrong
      split at wrong
      · cases wrong
      · rename_i failed
        rw [failed] at succeeded
        cases succeeded
    · rcases supplied with ⟨given, _⟩ | ⟨_, _, cached⟩
      · rw [explicit rfl given] at succeeded
        cases succeeded
      · exact (cautious _ _ cached).2.2.unbarred before

theorem attempt_cautious (cautious : Cautious history pins) (supplied : Supplied pins req pin) :
    Cautious (⟨req, signHash lib modules id req.expectedFingerprint hashBytes pin⟩ :: history)
      (cacheAfter pins req.expectedFingerprint pin
        (signHash lib modules id req.expectedFingerprint hashBytes pin)) := by
  have trusted : (Attempt.mk req (signHash lib modules id req.expectedFingerprint hashBytes
      pin)).succeeded = true →
      Trustworthy (⟨req, signHash lib modules id req.expectedFingerprint hashBytes pin⟩ :: history)
        req.expectedFingerprint pin := success_trusted cautious supplied
  generalize signHash lib modules id req.expectedFingerprint hashBytes pin = signing at trusted ⊢
  intro fingerprint value cached
  -- An entry that was there before stays trusted unless the attempt is about it.
  have older (before : pins.lookup fingerprint = some value)
      (aside : req.expectedFingerprint ≠ fingerprint ∨
        (Attempt.mk req signing).succeeded = false ∧ (Attempt.mk req signing).rejected = false) :
      fingerprint ≠ "" ∧ value ≠ "" ∧ Trustworthy (⟨req, signing⟩ :: history) fingerprint value :=
    have held := cautious fingerprint value before
    ⟨held.1, held.2.1, held.2.2.cons aside⟩
  unfold cacheAfter at cached
  cases ended : signing.result with
  | ok made =>
      have succeeded : (Attempt.mk req signing).succeeded = true := by
        simp [Attempt.succeeded, ended, Except.isOk, Except.toBool]
      rw [ended] at cached
      simp only at cached
      split at cached
      · rename_i nameless
        have empty : req.expectedFingerprint = "" := by
          simpa [supplied.nonempty cautious] using nameless
        refine older cached (Or.inl fun same => ?_)
        exact (cautious fingerprint value cached).1 (same.symm.trans empty)
      · rename_i named
        by_cases same : fingerprint = req.expectedFingerprint
        · subst same
          rw [AList.lookup_insert] at cached
          cases cached
          exact ⟨fun empty => named (by simp [empty]), supplied.nonempty cautious,
            trusted succeeded⟩
        · rw [AList.lookup_insert_ne same] at cached
          exact older cached (Or.inl fun other => same other.symm)
  | error failure =>
      have failed : (Attempt.mk req signing).succeeded = false := by
        simp [Attempt.succeeded, ended, Except.isOk, Except.toBool]
      rw [ended] at cached
      simp only at cached
      split at cached
      · by_cases same : fingerprint = req.expectedFingerprint
        · subst same
          rw [AList.lookup_erase] at cached
          cases cached
        · rw [AList.lookup_erase_ne same] at cached
          exact older cached (Or.inl fun other => same other.symm)
      · rename_i kept
        by_cases same : req.expectedFingerprint = fingerprint
        · have named := (cautious fingerprint value cached).1
          refine older cached (Or.inr ⟨failed, ?_⟩)
          subst same
          simpa [Attempt.rejected, ended, named] using kept
        · exact older cached (Or.inl same)

end Attempts

/-! ### Runs -/

/-- What the state of the bridge and the history have in common at all times. -/
structure Careful (state : Shared × List Attempt) : Prop where
  cautious : Cautious state.2 state.1.pins
  fair : ∀ newer attempt earlier, state.2 = newer ++ attempt :: earlier → Fair earlier attempt

theorem handled_careful {state next : Shared × List Attempt}
    {call : HttpRequest × List (List Move × Oracle)} (path : call.1.path = "/v1/sign")
    (careful : Careful state) (stepped : handled lib state call = some next) : Careful next := by
  obtain ⟨shared, history⟩ := state
  obtain ⟨request, script⟩ := call
  obtain ⟨outcome, played, rfl⟩ := Option.map_eq_some_iff.mp stepped
  have served : Handled lib shared.pins request outcome.shared outcome.trace :=
    Ensures.played (sign_brings path ⟨rfl, rfl⟩) (fun _ _ => trivial) played
  rcases served with ⟨pins, quiet⟩ | ⟨req, sent, ⟨pins, quiet⟩ | ⟨modules, id, hashBytes, pin,
    supplied, pins, invoked⟩⟩
  · have none_ : attemptsOf request outcome.trace = [] := by
      unfold attemptsOf
      rw [quiet]
      cases request.signBody <;> rfl
    rw [none_]
    exact ⟨by rw [pins]; exact careful.cautious, careful.fair⟩
  · have none_ : attemptsOf request outcome.trace = [] := by
      unfold attemptsOf
      rw [sent, quiet]
      rfl
    rw [none_]
    exact ⟨by rw [pins]; exact careful.cautious, careful.fair⟩
  · have one : attemptsOf request outcome.trace =
        [⟨req, signHash lib modules id req.expectedFingerprint hashBytes pin⟩] := by
      unfold attemptsOf
      rw [sent, invoked]
      rfl
    rw [one]
    constructor
    · simp only [pins]
      exact attempt_cautious careful.cautious supplied
    · intro newer attempt earlier split
      cases newer with
      | nil =>
          obtain ⟨rfl, rfl⟩ := List.cons.inj split
          exact attempt_fair careful.cautious supplied
      | cons first newer =>
          exact careful.fair newer attempt earlier (List.cons.inj split).2

/-- In a series of signing requests, every PIN handed to `C_Login` is one that came
with its request, or that of the last success for the certificate, not rejected since. -/
theorem rejected_pin_not_replayed (lib : Libraries) (start : Shared) (fresh : start.pins = ∅)
    (calls : List (HttpRequest × List (List Move × Oracle)))
    (paths : ∀ call ∈ calls, call.1.path = "/v1/sign") (last : Shared × List Attempt)
    (ran : Runs.run (handled lib) (start, []) calls = some last)
    (newer earlier : List Attempt) (attempt : Attempt)
    (split : last.2 = newer ++ attempt :: earlier) : Fair earlier attempt := by
  have began : Careful (start, []) := by
    constructor
    · intro fingerprint pin cached
      rw [fresh] at cached
      cases cached
    · intro newer attempt earlier split
      exact absurd split.symm (by simp)
  have ended : Careful last :=
    Runs.run_invariant (fun state call next careful path stepped =>
      handled_careful path careful stepped) began
      (Runs.along_members (fun call member _ => paths call member) _) ran
  exact ended.fair newer attempt earlier split

def pairedBridge : Shared :=
  { (started plainLibraries 0 onePair).shared with
    sites := (∅ : Table String PairedSite).insert "https://site.example"
      ⟨"https://site.example", "2026-01-01", "A-1"⟩ }

/-- The token once its PIN has been changed. -/
def changedPIN : List Module :=
  onePair.map fun ctx =>
    { ctx with
      slots := ctx.slots.map fun slots => slots.map fun slot =>
        { slot with login := fun pin => if pin == "5678" then none else some 0xA0 } }

/-- A signing with its PIN, one with the cached PIN, one after the PIN was changed,
and one that asks for the PIN. -/
def fourSignings : List (HttpRequest × List (List Move × Oracle)) :=
  [(signing signRequest, List.replicate 10 ([], calm)),
    (signing { signRequest with pin := "" }, List.replicate 11 ([], calm)),
    (signing { signRequest with pin := "" }, ([.tokens changedPIN], calm) ::
      List.replicate 8 ([], calm)),
    (signing { signRequest with pin := "" }, List.replicate 7 ([], calm))]

theorem rejected_pin_not_replayed_sample :
    ∃ last rejected earlier, Runs.run (handled plainLibraries) (pairedBridge, []) fourSignings =
        some last ∧
      last.2 = rejected :: earlier ∧ earlier.length = 2 ∧ rejected.login = some "1234" ∧
      rejected.rejected = true ∧ Fair earlier rejected := by
  have ends : (Runs.run (handled plainLibraries) (pairedBridge, []) fourSignings).map
      (fun last => (last.2.length, last.2.head?.bind Attempt.login,
        last.2.head?.map Attempt.rejected)) = some (3, some "1234", some true) := by
    decide +kernel
  obtain ⟨last, ran, shown⟩ := Option.map_eq_some_iff.mp ends
  simp only [Prod.mk.injEq] at shown
  obtain ⟨long, login, wrong⟩ := shown
  cases history : last.2 with
  | nil =>
      rw [history] at long
      cases long
  | cons rejected earlier =>
      rw [history] at long login wrong
      have fair := rejected_pin_not_replayed plainLibraries pairedBridge rfl fourSignings
        (by decide) last ran [] earlier rejected history
      exact ⟨last, rejected, earlier, ran, history, Nat.succ.inj long, login,
        Option.some.inj wrong, fair⟩

end DscSigning.Bridge
