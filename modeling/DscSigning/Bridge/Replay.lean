/-
Requests to sign that come more than once.

`verifyHMAC` compares a timestamp and an HMAC and remembers nothing, so a copy
of a request passes as the request did until its minute is over.
-/

import DscSigning.Bridge.SigningKey

namespace DscSigning.Bridge

open Interaction Engine

variable {lib : Libraries}

/-- A server-issued authorisation, as a site has it sent to the bridge. -/
structure Ticket where
  site : String
  sessionID : String
  hashToSign : String
  hashAlgorithm : String
  timestamp : Int
  nonce : String
  hmac : String
deriving DecidableEq

def ticketOf : Origin → Option Ticket
  | .http request =>
      if request.path = "/v1/sign" then
        request.signBody.map fun req =>
          { site := request.origin
            sessionID := req.sessionID
            hashToSign := req.hashToSign
            hashAlgorithm := req.hashAlgorithm
            timestamp := req.timestamp
            nonce := req.nonce
            hmac := req.hmac }
      else none
  | .remove _ => none

/-- The private-key operations of `SignHash`. -/
def keyOperation : AgentEvent → List Signature
  | ⟨.signHash .., .ok signing, _⟩ => signing.operations.filterMap fun operation =>
      match operation with
      | .sign signature => some signature
      | .login _ => none
  | _ => []

def keyOperations (trace : AgentTrace) : List Signature := trace.flatMap keyOperation

/-- `verifyHMAC` has looked at the clock. -/
def readsClock : AgentEvent → Bool
  | ⟨.now, _, _⟩ => true
  | _ => false

/-- The call is over and has not used the private key. -/
def unused (call : (bridge lib).Call Origin Response) : Bool :=
  (keyOperations call.trace).isEmpty &&
    match call.phase with
    | .running _ => false
    | .ended _ => true
    | .abandoned => true

/-- All private-key operations that requests with this ticket have led to. -/
def operationsFor (ticket : Ticket) (world : BridgeWorld lib) : List Signature :=
  world.calls.flatMap fun call =>
    if ticketOf call.origin = some ticket then keyOperations call.trace else []

/-- The site has a stored secret: the keystore returns one to each of the requests. -/
def Enforced (ticket : Ticket) (world : BridgeWorld lib) : Prop :=
  ∀ call ∈ world.calls, ticketOf call.origin = some ticket → ¬ Secretless call.trace ticket.site

/-- A request is verified after its minute, or when no other with its ticket has
been verified before, or only such that are over and have not used the key. -/
def VerifiesOnce (world : BridgeWorld lib) (label : BridgeLabel lib) : Prop :=
  ∀ index call event, asking world label = some (index, call, event) →
    readsClock event = true → ∀ ticket, ticketOf call.origin = some ticket →
      ticket.timestamp + 60 < world.shared.now ∨
        ∀ other earlier, other ≠ index → world.calls[other]? = some earlier →
          ticketOf earlier.origin = some ticket → earlier.trace.any readsClock = true →
            unused earlier = true

/-! ### One call -/

theorem signHash_sign_once (modules : List Module) (id : SlotId) (fingerprint : String)
    (hashBytes : Bytes) (pin : String) (stamp : Int) :
    (keyOperation ⟨.signHash id fingerprint hashBytes pin,
      .ok (signHash lib modules id fingerprint hashBytes pin), stamp⟩).length ≤ 1 := by
  have signing (slot : Slot) (key : KeyObject) :
      ((signWith lib slot key hashBytes).operations.filterMap fun operation =>
        match operation with
        | .sign signature => some signature
        | .login _ => none).length ≤ 1 := by
    unfold signWith
    split
    · simp
    · simp
    · split
      · simp
      · split
        · simp
        · simp only
          split <;> simp
  simp only [keyOperation, signHash]
  split
  · simp
  · split
    · simp
    · split
      · simp
      · split
        · simp
        · rw [List.filterMap_cons]
          exact signing _ _

theorem keyOperation_invokes {event : AgentEvent} (used : keyOperation event ≠ []) :
    ∃ id fingerprint hashBytes pin signing,
      event.query = .signHash id fingerprint hashBytes pin ∧
      event = ⟨.signHash id fingerprint hashBytes pin, .ok signing, event.stamp⟩ := by
  obtain ⟨operation, reply, stamp⟩ := event
  cases operation with
  | signHash id fingerprint hashBytes pin =>
      cases reply with
      | error error => exact absurd rfl used
      | ok signing => exact ⟨id, fingerprint, hashBytes, pin, signing, rfl, rfl⟩
  | _ => exact absurd rfl used

theorem keyOperations_cons {event : AgentEvent} {trace : AgentTrace}
    (idle : keyOperation event = []) : keyOperations (event :: trace) = keyOperations trace := by
  rw [keyOperations, List.flatMap_cons, idle]
  rfl

theorem untouched_unused {trace : AgentTrace} (untouched : Untouched trace) :
    keyOperations trace = [] := by
  rw [keyOperations, List.flatMap_eq_nil_iff]
  intro event member
  by_contra used
  obtain ⟨id, fingerprint, hashBytes, pin, signing, _, same⟩ := keyOperation_invokes used
  have silent := untouched event member
  rw [same] at silent
  cases silent

/-- A call uses the private key once at most. -/
theorem keyOperations_once {origin : Origin} {trace : AgentTrace}
    (honours : Honours (Permitted lib origin) trace)
    (short : ∀ event ∈ trace, (keyOperation event).length ≤ 1) :
    (keyOperations trace).length ≤ 1 := by
  induction trace with
  | nil => simp [keyOperations]
  | cons event earlier ih =>
      have single := short event (by simp)
      have others := ih honours.2 fun event member => short event (by simp [member])
      by_cases used : keyOperation event = []
      · rw [keyOperations_cons used]
        exact others
      · obtain ⟨id, fingerprint, hashBytes, pin, signing, query, _⟩ := keyOperation_invokes used
        have permitted := honours.1
        rw [query] at permitted
        obtain ⟨request, req, allowed⟩ := permitted
        have before := untouched_unused allowed.first
        rw [keyOperations] at before ⊢
        rw [List.flatMap_cons, before, List.append_nil]
        exact single

theorem hmacFault_window {secret : String} {req : SignRequest} {now : Int}
    (accepted : hmacFault lib secret req now = none) : now ≤ req.timestamp + 60 := by
  have near := ((hmacFault_none_iff lib).mp accepted).1
  omega

/-- A request that has used the private key was verified within its minute. -/
theorem used_verified {origin : Origin} {trace : AgentTrace} {ticket : Ticket}
    (honours : Honours (Permitted lib origin) trace) (carries : ticketOf origin = some ticket)
    (enforced : ¬ Secretless trace ticket.site) (used : keyOperations trace ≠ []) :
    ∃ now, Answered trace .now now ∧ now ≤ ticket.timestamp + 60 := by
  obtain ⟨event, member, operation⟩ :
      ∃ event ∈ trace, keyOperation event ≠ [] := by
    by_contra none_
    refine used (List.flatMap_eq_nil_iff.mpr fun event member => ?_)
    by_contra operation
    exact none_ ⟨event, member, operation⟩
  obtain ⟨id, fingerprint, hashBytes, pin, signing, query, _⟩ := keyOperation_invokes operation
  obtain ⟨earlier, suffix, permitted⟩ := honours.of_mem member
  rw [query] at permitted
  obtain ⟨request, req, allowed⟩ := permitted
  have older : earlier <:+ trace := (List.suffix_cons event earlier).trans suffix
  have named := allowed.call
  subst named
  simp only [ticketOf, allowed.path, allowed.body, if_true, Option.map_some,
    Option.some.injEq] at carries
  subst carries
  rcases allowed.guarded with ⟨secret, now, _, _, answered, accepted⟩ | secretless | nowhere
  · exact ⟨now, answered.mono older, hmacFault_window accepted⟩
  · exact absurd (secretless.mono older) enforced
  · exact absurd nowhere allowed.admitted.1

/-! ### Every run -/

/-- The call has looked at the clock while the ticket was good. -/
def InTime (ticket : Ticket) (trace : AgentTrace) : Prop :=
  ∃ now, Answered trace .now now ∧ now ≤ ticket.timestamp + 60

theorem InTime.read {ticket : Ticket} {trace : AgentTrace} (inTime : InTime ticket trace) :
    trace.any readsClock = true := by
  obtain ⟨now, ⟨stamp, member⟩, _⟩ := inTime
  exact List.any_eq_true.mpr ⟨_, member, rfl⟩

/-- Of two calls with one ticket that were verified in time, one is over and has
not used the key. -/
def Separate (world : BridgeWorld lib) : Prop :=
  ∀ (left right : Nat) (one other : (bridge lib).Call Origin Response) (ticket : Ticket),
    left ≠ right → world.calls[left]? = some one → world.calls[right]? = some other →
    ticketOf one.origin = some ticket → ticketOf other.origin = some ticket →
    InTime ticket one.trace → InTime ticket other.trace → unused one = true ∨ unused other = true

theorem not_unused_running {call : (bridge lib).Call Origin Response} {program : Agent Response}
    (running : call.phase = .running program) : unused call = false := by
  simp only [unused, running, Bool.and_false]

/-- The time that is read is that of the surroundings. -/
theorem asking_now {world next : BridgeWorld lib} {label : BridgeLabel lib}
    (stepped : step (body lib) world label = some next) {index : Nat}
    {call : (bridge lib).Call Origin Response} {event : AgentEvent}
    (found : asking world label = some (index, call, event)) {now stamp : Int}
    (reads : event = ⟨.now, .ok now, stamp⟩) : now = world.shared.now := by
  obtain ⟨oracle, replied⟩ := asking_shared (body lib) stepped found
  subst reads
  have told : (Bridge.reply lib oracle world.shared .now).1 = .ok now :=
    congrArg Prod.fst (Option.some.inj replied)
  have memory : (Bridge.reply lib oracle world.shared .now).1 = .ok world.shared.now := by
    unfold Bridge.reply
    split <;> rfl
  exact (Except.ok.inj (memory.symm.trans told)).symm

/-- One call of a step, as it was before: it was as it is, it has just started, or
it was running and only its question is new. -/
theorem step_before {world next : BridgeWorld lib} {label : BridgeLabel lib}
    (stepped : step (body lib) world label = some next) {index : Nat}
    {later : (bridge lib).Call Origin Response} (located : next.calls[index]? = some later) :
    world.calls[index]? = some later ∨ later.trace = [] ∨
      ∃ call program, world.calls[index]? = some call ∧ call.origin = later.origin ∧
        call.phase = .running program ∧
        (later.trace = call.trace ∨
          ∃ event, asking world label = some (index, call, event) ∧
            later.trace = event :: call.trace) := by
  rcases step_call (body lib) stepped located with old | ⟨_, _, fresh⟩ | ⟨call, there, asked |
    finished | abandoned⟩
  · exact Or.inl old
  · rw [fresh]
    exact Or.inr (Or.inl rfl)
  · obtain ⟨oracle, query, after, reply, shared, rfl, running, replied, _, rfl⟩ := asked
    exact Or.inr (Or.inr ⟨call, _, there, rfl, running,
      Or.inr ⟨_, asking_ask there running replied, rfl⟩⟩)
  · obtain ⟨result, _, running, rfl⟩ := finished
    exact Or.inr (Or.inr ⟨call, _, there, rfl, running, Or.inl rfl⟩)
  · obtain ⟨program, _, running, rfl⟩ := abandoned
    exact Or.inr (Or.inr ⟨call, _, there, rfl, running, Or.inl rfl⟩)

/-- A call that was verified in time was so before, or is verified by this step. -/
theorem inTime_step {world next : BridgeWorld lib} {label : BridgeLabel lib}
    (stepped : step (body lib) world label = some next) {index : Nat}
    {later : (bridge lib).Call Origin Response} (located : next.calls[index]? = some later)
    {ticket : Ticket} (inTime : InTime ticket later.trace) :
    ∃ call, world.calls[index]? = some call ∧ call.origin = later.origin ∧
      (later = call ∨ unused call = false) ∧
      (InTime ticket call.trace ∨ ∃ event, asking world label = some (index, call, event) ∧
        readsClock event = true ∧ world.shared.now ≤ ticket.timestamp + 60) := by
  rcases step_before stepped located with old | fresh | ⟨call, program, there, origin, running, grown⟩
  · exact ⟨later, old, rfl, Or.inl rfl, Or.inl inTime⟩
  · obtain ⟨now, ⟨stamp, member⟩, _⟩ := inTime
    rw [fresh] at member
    cases member
  · refine ⟨call, there, origin, Or.inr (not_unused_running running), ?_⟩
    rcases grown with same | ⟨event, found, extended⟩
    · rw [same] at inTime
      exact Or.inl inTime
    · obtain ⟨now, ⟨stamp, member⟩, early⟩ := inTime
      rw [extended] at member
      rcases List.mem_cons.mp member with new | old
      · have clock := asking_now stepped found new.symm
        rw [clock] at early
        exact Or.inr ⟨event, found, by rw [← new]; rfl, early⟩
      · exact Or.inl ⟨now, ⟨stamp, old⟩, early⟩

theorem separate_step {world next : BridgeWorld lib} {label : BridgeLabel lib}
    (separate : Separate world) (once : VerifiesOnce world label)
    (stepped : step (body lib) world label = some next) : Separate next := by
  intro left right one other ticket distinct leftThere rightThere leftTicket rightTicket leftIn
    rightIn
  obtain ⟨first, firstThere, firstOrigin, firstSame, firstIn⟩ :=
    inTime_step stepped leftThere leftIn
  obtain ⟨second, secondThere, secondOrigin, secondSame, secondIn⟩ :=
    inTime_step stepped rightThere rightIn
  rw [← firstOrigin] at leftTicket
  rw [← secondOrigin] at rightTicket
  -- What is over does not change any more.
  have stays {call later : (bridge lib).Call Origin Response}
      (same : later = call ∨ unused call = false) (ended : unused call = true) :
      unused later = true := by
    rcases same with rfl | running
    · exact ended
    · rw [ended] at running
      cases running
  rcases firstIn with leftBefore | ⟨event, found, reads, early⟩
  · rcases secondIn with rightBefore | ⟨event, found, reads, early⟩
    · exact (separate left right first second ticket distinct firstThere secondThere leftTicket
        rightTicket leftBefore rightBefore).imp (stays firstSame) (stays secondSame)
    · rcases once right second event found reads ticket rightTicket with late | others
      · omega
      · exact Or.inl (stays firstSame
          (others left first distinct firstThere leftTicket leftBefore.read))
  · rcases secondIn with rightBefore | ⟨again, foundAgain, _, _⟩
    · rcases once left first event found reads ticket leftTicket with late | others
      · omega
      · exact Or.inr (stays secondSame
          (others right second distinct.symm secondThere rightTicket rightBefore.read))
    · rw [found] at foundAgain
      cases foundAgain
      exact absurd rfl distinct

/-- What a token answers is one operation at most. -/
theorem run_short {now : Int} {tokens : List Module} {labels : List (BridgeLabel lib)}
    {world : BridgeWorld lib}
    (reached : run (body lib) (started lib now tokens) labels = some world) {index : Nat}
    {call : (bridge lib).Call Origin Response} (located : world.calls[index]? = some call) :
    ∀ event ∈ call.trace, (keyOperation event).length ≤ 1 := by
  let short : BridgeWorld lib → Prop := fun world =>
    world.Heeds fun _ _ event => (keyOperation event).length ≤ 1
  have start : short (started lib now tokens) := by
    intro index call event earlier located
    cases located
  have preserved (world : BridgeWorld lib) (label : BridgeLabel lib) (next : BridgeWorld lib)
      (kept : short world) (_ : True) (stepped : step (body lib) world label = some next) :
      short next := by
    refine heeds_step (body lib) kept ?_ stepped
    intro index call event found
    have shown := shownBy_asking stepped found
    obtain ⟨operation, reply, stamp⟩ := event
    cases operation with
    | signHash id fingerprint hashBytes pin =>
        cases reply with
        | error error => simp [keyOperation]
        | ok signing =>
            have same : signing = signHash lib world.shared.tokens id fingerprint hashBytes pin :=
              shown
            rw [same]
            exact signHash_sign_once _ id fingerprint hashBytes pin stamp
    | _ => simp [keyOperation]
  have heeds := run_invariant (body lib) preserved start (along_always (body lib)) reached
  intro event member
  obtain ⟨newer, earlier, split⟩ := List.append_of_mem member
  exact heeds index call event earlier located ⟨newer, split.symm⟩

/-- Where nothing is verified twice, a ticket leads to one private-key operation at
most. -/
theorem sign_authorisation_used_once (lib : Libraries) (now : Int) (tokens : List Module)
    (labels : List (BridgeLabel lib)) (world : BridgeWorld lib) (ticket : Ticket)
    (reached : run (body lib) (started lib now tokens) labels = some world)
    (once : Along (body lib) VerifiesOnce (started lib now tokens) labels)
    (enforced : Enforced ticket world) : (operationsFor ticket world).length ≤ 1 := by
  have separate : Separate world := by
    refine run_invariant (body lib) (fun _ _ _ => separate_step) ?_ once reached
    intro left right one other ticket _ located
    cases located
  have disciplined := run_permitted reached
  apply length_flatMap_le_one
  · intro call member
    obtain ⟨index, located⟩ := List.mem_iff_getElem?.mp member
    split
    · exact keyOperations_once (disciplined index call located).1 (run_short reached located)
    · simp
  · intro left right one other distinct leftThere rightThere leftUsed rightUsed
    have inTime {index : Nat} {call : (bridge lib).Call Origin Response}
        (located : world.calls[index]? = some call)
        (used : (if ticketOf call.origin = some ticket then keyOperations call.trace else []) ≠ []) :
        ticketOf call.origin = some ticket ∧ keyOperations call.trace ≠ [] ∧
          InTime ticket call.trace := by
      by_cases carries : ticketOf call.origin = some ticket
      · rw [if_pos carries] at used
        exact ⟨carries, used, used_verified (disciplined index call located).1 carries
          (enforced call (List.mem_of_getElem? located) carries) used⟩
      · rw [if_neg carries] at used
        exact absurd rfl used
    obtain ⟨leftTicket, leftNonempty, leftIn⟩ := inTime leftThere leftUsed
    obtain ⟨rightTicket, rightNonempty, rightIn⟩ := inTime rightThere rightUsed
    have silent {call : (bridge lib).Call Origin Response} (idle : unused call = true) :
        keyOperations call.trace = [] := by
      simp only [unused, Bool.and_eq_true, List.isEmpty_iff] at idle
      exact idle.1
    rcases separate left right one other ticket distinct leftThere rightThere leftTicket rightTicket
      leftIn rightIn with idle | idle
    · exact leftNonempty (silent idle)
    · exact rightNonempty (silent idle)

/-! ### A copy in time, and one that is late -/

def pairedWithSecret : Oracle := { agreeing with pairing := some ⟨"T-1", "A-1", "K-1"⟩ }

/-- The request as the server has issued it at the time 5. -/
def issuedRequest : SignRequest :=
  let req : SignRequest := { signRequest with timestamp := 5, nonce := "N-1" }
  { req with hmac := hex (plainLibraries.hmacSha256 (utf8 "K-1") (hmacPayload req)) }

def issuedTicket : Ticket :=
  { site := "https://site.example"
    sessionID := "S-1"
    hashToSign := "0a0b"
    hashAlgorithm := "sha256"
    timestamp := 5
    nonce := "N-1"
    hmac := issuedRequest.hmac }

/-- The site is paired, and the request is sent. -/
def firstSent : List (BridgeLabel plainLibraries) :=
  served plainLibraries 0 (.http pairing) 8 pairedWithSecret ++
    served plainLibraries 1 (.http (signing issuedRequest)) 10 agreeing

def sentTwice : List (BridgeLabel plainLibraries) :=
  firstSent ++ served plainLibraries 2 (.http (signing issuedRequest)) 10 agreeing

/-- The copy comes when the minute is over. -/
def sentLate : List (BridgeLabel plainLibraries) :=
  firstSent ++ .move (.elapse 100) ::
    served plainLibraries 2 (.http (signing issuedRequest)) 5 agreeing

/-- Sites are paired, and the keychain has a secret for them. -/
def answersSecret : AgentEvent → Bool
  | ⟨.isPaired _, .ok paired, _⟩ => paired
  | ⟨.keychainGet _, .ok secret, _⟩ => secret != ""
  | ⟨.keychainGet _, .error _, _⟩ => false
  | _ => true

theorem answersSecret_kept {trace : AgentTrace} {site : String}
    (answers : trace.all answersSecret = true) : ¬ Secretless trace site := by
  have each := List.all_eq_true.mp answers
  have found {key : String} {reply : Except GoError (Table String String)} :
      ¬ FellBack trace key reply := by
    rintro ⟨newer, error, older, one, other, rfl⟩
    have silent := each ⟨.keychainGet key, .error error, other⟩ (by simp)
    cases silent
  intro secretless
  cases secretless with
  | unpaired answered =>
      obtain ⟨stamp, member⟩ := answered
      cases each _ member
  | unread reply fell absent => exact found fell
  | empty read =>
      rcases read with ⟨stamp, member⟩ | ⟨tokens, fell, _⟩
      · cases each _ member
      · exact found fell

def enforced (ticket : Ticket) (world : BridgeWorld lib) : Bool :=
  world.calls.all fun call => ticketOf call.origin != some ticket || call.trace.all answersSecret

theorem enforced_holds {ticket : Ticket} {world : BridgeWorld lib}
    (checked : enforced ticket world = true) : Enforced ticket world := by
  intro call member carries
  have answers := List.all_eq_true.mp checked call member
  simp only [carries, bne_self_eq_false, Bool.false_or] at answers
  exact answersSecret_kept answers

/-- The condition, where it can be computed. -/
def verifiesOnce (world : BridgeWorld lib) (label : BridgeLabel lib) : Bool :=
  match asking world label with
  | some (index, call, event) => !readsClock event ||
      match ticketOf call.origin with
      | none => true
      | some ticket => decide (ticket.timestamp + 60 < world.shared.now) ||
          world.calls.zipIdx.all fun entry => entry.2 == index ||
            ticketOf entry.1.origin != some ticket || !entry.1.trace.any readsClock ||
              unused entry.1
  | none => true

theorem verifiesOnce_holds (world : BridgeWorld lib) (label : BridgeLabel lib)
    (checked : verifiesOnce world label = true) : VerifiesOnce world label := by
  intro index call event found reads ticket carries
  simp only [verifiesOnce, found, reads, carries, Bool.not_true, Bool.false_or,
    Bool.or_eq_true, decide_eq_true_eq] at checked
  refine checked.imp id fun others other earlier distinct there same read => ?_
  have entry := List.all_eq_true.mp others (earlier, other)
    (List.mem_zipIdx_iff_getElem?.mpr there)
  simpa [distinct, same, read] using entry

theorem sign_authorisation_used_once_sample :
    ∃ world, run (body plainLibraries) (started plainLibraries 10 onePair) sentLate = some world ∧
      operationsFor issuedTicket world ≠ [] ∧
      (operationsFor issuedTicket world).length ≤ 1 := by
  have ends : (run (body plainLibraries) (started plainLibraries 10 onePair) sentLate).map
      (fun world => enforced issuedTicket world && !(operationsFor issuedTicket world).isEmpty) =
        some true := by
    decide +kernel
  obtain ⟨world, reached, holds⟩ := Option.map_eq_some_iff.mp ends
  simp only [Bool.and_eq_true, Bool.not_eq_true', List.isEmpty_eq_false_iff] at holds
  have once : Along (body plainLibraries) VerifiesOnce (started plainLibraries 10 onePair)
      sentLate :=
    along_of_check (body plainLibraries) verifiesOnce_holds
      (along_check (body plainLibraries) (by decide +kernel))
  exact ⟨world, reached, holds.2, sign_authorisation_used_once plainLibraries 10 onePair sentLate
    world issuedTicket reached once (enforced_holds holds.1)⟩

/-- The copy signs once more. -/
theorem sign_authorisation_used_twice :
    ∃ world, run (body plainLibraries) (started plainLibraries 10 onePair) sentTwice =
        some world ∧
      Enforced issuedTicket world ∧ (operationsFor issuedTicket world).length = 2 := by
  have ends : (run (body plainLibraries) (started plainLibraries 10 onePair) sentTwice).map
      (fun world => enforced issuedTicket world && (operationsFor issuedTicket world).length == 2) =
        some true := by
    decide +kernel
  obtain ⟨world, reached, holds⟩ := Option.map_eq_some_iff.mp ends
  simp only [Bool.and_eq_true, beq_iff_eq] at holds
  exact ⟨world, reached, enforced_holds holds.1, holds.2⟩

end DscSigning.Bridge
