/-
What stands behind a signature when HMAC secrets may get lost.

`HandlePair` stores the secret as well as it can, and a site for which the
keystore has none is served without.  Where the keystore returns a secret, it is
one that a pairing of the site has brought, and the request is verified under it.
-/

import DscSigning.Bridge.FailedPairing
import DscSigning.Bridge.Replay

namespace DscSigning.Bridge

open Interaction Engine

variable {lib : Libraries}

/-- A pairing response has brought this value for the key. -/
def Brought (world : BridgeWorld lib) (key value : String) : Prop :=
  ∃ (index : Nat) (call : (bridge lib).Call Origin Response),
    world.calls[index]? = some call ∧ Delivered call.trace key value

/-- A failed write of the fallback file has left this entry. -/
def LeftBehind (labels : List (BridgeLabel lib)) (key value : String) : Prop :=
  ∃ index oracle tokens, (.ask index oracle : BridgeLabel lib) ∈ labels ∧
    oracle.leaves = some tokens ∧ tokens.lookup key = some value

/-- Everything the keystore holds and has returned was brought or left behind. -/
structure Sourced (left : String → String → Prop) (world : BridgeWorld lib) : Prop where
  keychain : ∀ key value, world.shared.keychain.lookup key = some value →
    Brought world key value ∨ left key value
  tokenFile : ∀ key value, world.shared.tokenFile.lookup key = some value →
    Brought world key value ∨ left key value
  chainRead : ∀ index key value stamp,
    world.Asked index ⟨.keychainGet key, .ok value, stamp⟩ →
      Brought world key value ∨ left key value
  fileRead : ∀ index tokens stamp, world.Asked index ⟨.readTokenFile, .ok tokens, stamp⟩ →
    ∀ key value, tokens.lookup key = some value → Brought world key value ∨ left key value

/-! ### What a reply writes -/

section Replies

variable {oracle : Oracle} {shared : Shared} {operation : Operation} {key value : String}

theorem lookup_inserted {table : Table String String} {other given : String}
    (found : (table.insert other given).lookup key = some value) :
    key = other ∧ value = given ∨ table.lookup key = some value := by
  by_cases same : key = other
  · subst same
    rw [AList.lookup_insert] at found
    exact Or.inl ⟨rfl, (Option.some.inj found).symm⟩
  · rw [AList.lookup_insert_ne same] at found
    exact Or.inr found

theorem lookup_erased {table : Table String String} {other : String}
    (found : (table.erase other).lookup key = some value) : table.lookup key = some value := by
  by_cases same : key = other
  · subst same
    rw [AList.lookup_erase] at found
    cases found
  · rwa [AList.lookup_erase_ne same] at found

/-- The operations that write to the keychain or to the fallback file. -/
def storing : Operation → Bool
  | .keychainSet .. => true
  | .keychainDelete _ => true
  | .writeTokenFile _ => true
  | .removeTokenFile => true
  | _ => false

theorem answer_stores (reading : storing operation = false) :
    (answer lib oracle shared operation).2.keychain = shared.keychain ∧
      (answer lib oracle shared operation).2.tokenFile = shared.tokenFile := by
  cases operation with
  | keychainSet other given => cases reading
  | keychainDelete other => cases reading
  | writeTokenFile tokens => cases reading
  | removeTokenFile => cases reading
  | keychainGet other =>
      simp only [answer]
      split <;> exact ⟨rfl, rfl⟩
  | validatePairingCode site code =>
      simp only [answer]
      split
      · split <;> exact ⟨rfl, rfl⟩
      · exact ⟨rfl, rfl⟩
  | fetchOCSP cert issuer =>
      simp only [answer]
      split <;> exact ⟨rfl, rfl⟩
  | _ => exact ⟨rfl, rfl⟩

theorem reply_keychain
    (found : (Bridge.reply lib oracle shared operation).2.keychain.lookup key = some value) :
    shared.keychain.lookup key = some value ∨ operation = .keychainSet key value := by
  have answered (found : (answer lib oracle shared operation).2.keychain.lookup key = some value) :
      shared.keychain.lookup key = some value ∨ operation = .keychainSet key value := by
    cases operation with
    | keychainSet other given =>
        rcases lookup_inserted found with ⟨rfl, rfl⟩ | old
        · exact Or.inr rfl
        · exact Or.inl old
    | keychainDelete other =>
        simp only [answer] at found
        split at found
        · exact Or.inl (lookup_erased found)
        · exact Or.inl found
    | writeTokenFile tokens => exact Or.inl found
    | removeTokenFile => exact Or.inl found
    | _ =>
        rw [(answer_stores rfl).1] at found
        exact Or.inl found
  unfold Bridge.reply at found
  split at found
  · split at found
    · cases operation <;> exact Or.inl found
    · exact answered found
  · exact answered found

theorem reply_tokenFile
    (found : (Bridge.reply lib oracle shared operation).2.tokenFile.lookup key = some value) :
    shared.tokenFile.lookup key = some value ∨
      (∃ tokens, operation = .writeTokenFile tokens ∧ tokens.lookup key = some value) ∨
      ∃ tokens, oracle.leaves = some tokens ∧ tokens.lookup key = some value := by
  have answered (found : (answer lib oracle shared operation).2.tokenFile.lookup key = some value) :
      shared.tokenFile.lookup key = some value ∨
        ∃ tokens, operation = .writeTokenFile tokens ∧ tokens.lookup key = some value := by
    cases operation with
    | writeTokenFile tokens => exact Or.inr ⟨tokens, rfl, found⟩
    | removeTokenFile =>
        have empty : (∅ : Table String String).lookup key = some value := found
        rw [AList.lookup_empty] at empty
        cases empty
    | keychainDelete other =>
        simp only [answer] at found
        split at found <;> exact Or.inl found
    | keychainSet other given => exact Or.inl found
    | _ =>
        rw [(answer_stores rfl).2] at found
        exact Or.inl found
  unfold Bridge.reply at found
  split at found
  · split at found
    · cases operation with
      | writeTokenFile tokens =>
          simp only [failed] at found
          cases left : oracle.leaves with
          | none =>
              rw [left, Option.getD_none] at found
              exact Or.inl found
          | some remains =>
              rw [left, Option.getD_some] at found
              exact Or.inr (Or.inr ⟨remains, rfl, found⟩)
      | _ => exact Or.inl found
    · exact (answered found).imp id Or.inl
  · exact (answered found).imp id Or.inl

theorem reply_chainRead {given : String} {later : Shared}
    (replied : Bridge.reply lib oracle shared (.keychainGet key) = (.ok given, later)) :
    shared.keychain.lookup key = some given := by
  unfold Bridge.reply at replied
  split at replied
  · cases replied
  · simp only [answer] at replied
    split at replied
    · rename_i found
      cases replied
      exact found
    · cases replied

theorem reply_fileRead {tokens : Table String String} {later : Shared}
    (replied : Bridge.reply lib oracle shared .readTokenFile = (.ok tokens, later)) :
    tokens = shared.tokenFile := by
  unfold Bridge.reply at replied
  split at replied
  · cases replied
  · cases replied
    rfl

theorem move_secrets {move : Move} {later : Shared} (moved : move.apply shared = some later) :
    (∀ key value, later.keychain.lookup key = some value →
      shared.keychain.lookup key = some value) ∧ later.tokenFile = shared.tokenFile := by
  cases move with
  | elapse seconds =>
      rw [← Option.some.inj moved]
      exact ⟨fun _ _ found => found, rfl⟩
  | tokens modules =>
      rw [← Option.some.inj moved]
      exact ⟨fun _ _ found => found, rfl⟩
  | loseSecrets keychain =>
      simp only [Move.apply] at moved
      split at moved
      · rename_i fewer
        rw [← Option.some.inj moved]
        refine ⟨fun key value found => ?_, rfl⟩
        have entry := List.all_eq_true.mp fewer (key, value) (Table.mem_rows.mpr found)
        simpa using entry
      · cases moved

end Replies

/-! ### Every run -/

section Steps

variable {world next : BridgeWorld lib} {label : BridgeLabel lib}

/-- The oracle of a question is that of the step. -/
theorem asking_replied (stepped : step (body lib) world label = some next) {index : Nat}
    {call : (bridge lib).Call Origin Response} {event : AgentEvent}
    (found : asking world label = some (index, call, event)) :
    ∃ oracle, label = .ask index oracle ∧
      Bridge.reply lib oracle world.shared event.query = (event.reply, next.shared) := by
  cases step_cases (body lib) stepped with
  | start origin => cases found
  | ask target oracle old query after reply shared there running replied free =>
      rw [asking_ask there running replied] at found
      cases found
      exact ⟨oracle, rfl, Option.some.inj replied⟩
  | done target old value there finished => cases found
  | fail target old error there failed => cases found
  | abandon target old program there running => cases found
  | move move data shared moved => cases found

theorem brought_step (stepped : step (body lib) world label = some next) {key value : String}
    (brought : Brought world key value) : Brought next key value := by
  obtain ⟨index, call, located, delivered⟩ := brought
  obtain ⟨later, there, _, suffix⟩ := step_grows (body lib) stepped located
  exact ⟨index, later, there, delivered.mono suffix⟩

/-- The question of a step was permitted. -/
theorem asking_permitted (disciplined : next.Disciplined (Permitted lib) (Ends lib))
    (stepped : step (body lib) world label = some next) {index : Nat}
    {call : (bridge lib).Call Origin Response} {event : AgentEvent}
    (found : asking world label = some (index, call, event)) :
    ∃ later, next.calls[index]? = some later ∧ later.trace = event :: call.trace ∧
      Permitted lib later.origin call.trace event.query := by
  obtain ⟨later, there, _, extended⟩ := asking_asked (body lib) stepped found
  have honours := (disciplined index later there).1
  rw [extended] at honours
  exact ⟨later, there, extended, honours.1⟩

theorem asking_asks (stepped : step (body lib) world label = some next) {index : Nat}
    {call : (bridge lib).Call Origin Response} {event : AgentEvent}
    (found : asking world label = some (index, call, event)) :
    world.calls[index]? = some call := by
  cases step_cases (body lib) stepped with
  | start origin => cases found
  | ask target oracle old query after reply shared there running replied free =>
      rw [asking_ask there running replied] at found
      cases found
      exact there
  | done target old value there finished => cases found
  | fail target old error there failed => cases found
  | abandon target old program there running => cases found
  | move move data shared moved => cases found

/-- Fallback files are written with what was read of them and what was brought. -/
theorem rewritten_brought {left : String → String → Prop} (sourced : Sourced left world)
    (stepped : step (body lib) world label = some next)
    {index : Nat} {call later : (bridge lib).Call Origin Response}
    (located : world.calls[index]? = some call) (there : next.calls[index]? = some later)
    (suffix : call.trace <:+ later.trace) {tokens : Table String String}
    (rewritten : Rewritten call.trace tokens) {key value : String}
    (found : tokens.lookup key = some value) : Brought next key value ∨ left key value := by
  obtain ⟨before, source, change⟩ := rewritten
  have old (found : before.lookup key = some value) : Brought next key value ∨ left key value := by
    rcases source with rfl | ⟨stamp, member⟩
    · rw [AList.lookup_empty] at found
      cases found
    · exact (sourced.fileRead index before stamp ⟨call, located, member⟩ key value found).imp
        (brought_step stepped) id
  rcases change with ⟨other, given, rfl, delivered⟩ | ⟨other, rfl⟩
  · rcases lookup_inserted found with ⟨rfl, rfl⟩ | found
    · exact Or.inl ⟨index, later, there, delivered.mono suffix⟩
    · exact old found
  · exact old (lookup_erased found)

theorem sourced_step {left : String → String → Prop} (sourced : Sourced left world)
    (disciplined : next.Disciplined (Permitted lib) (Ends lib))
    (leaves : ∀ index oracle tokens key value, label = .ask index oracle →
      oracle.leaves = some tokens → tokens.lookup key = some value → left key value)
    (stepped : step (body lib) world label = some next) : Sourced left next := by
  have kept {key value : String} (source : Brought world key value ∨ left key value) :
      Brought next key value ∨ left key value :=
    source.imp (brought_step stepped) id
  have moved {move : Move} {data : Unit}
      (applied : (bridge lib).move move world.data world.shared = some (data, next.shared)) :
      move.apply world.shared = some next.shared := by
    obtain ⟨later, moved, same⟩ := Option.map_eq_some_iff.mp applied
    rw [moved, (Prod.mk.inj same).2]
  constructor
  · intro key value found
    rcases step_shared (body lib) stepped with same | ⟨index, call, event, asked⟩ |
      ⟨move, data, _, applied⟩
    · rw [same] at found
      exact kept (sourced.keychain key value found)
    · obtain ⟨oracle, _, replied⟩ := asking_replied stepped asked
      have written : (Bridge.reply lib oracle world.shared event.query).2.keychain.lookup key =
          some value := by
        rw [replied]
        exact found
      rcases reply_keychain written with old | sets
      · exact kept (sourced.keychain key value old)
      · obtain ⟨later, there, extended, permitted⟩ := asking_permitted disciplined stepped asked
        rw [sets] at permitted
        refine Or.inl ⟨index, later, there, Delivered.mono permitted ?_⟩
        rw [extended]
        exact List.suffix_cons _ _
    · exact kept (sourced.keychain key value ((move_secrets (moved applied)).1 key value found))
  · intro key value found
    rcases step_shared (body lib) stepped with same | ⟨index, call, event, asked⟩ |
      ⟨move, data, _, applied⟩
    · rw [same] at found
      exact kept (sourced.tokenFile key value found)
    · obtain ⟨oracle, labelled, replied⟩ := asking_replied stepped asked
      have written : (Bridge.reply lib oracle world.shared event.query).2.tokenFile.lookup key =
          some value := by
        rw [replied]
        exact found
      rcases reply_tokenFile written with old | ⟨tokens, writes, found⟩ | ⟨tokens, remains, found⟩
      · exact kept (sourced.tokenFile key value old)
      · obtain ⟨later, there, extended, permitted⟩ := asking_permitted disciplined stepped asked
        rw [writes] at permitted
        refine rewritten_brought sourced stepped (asking_asks stepped asked) there ?_ permitted found
        rw [extended]
        exact List.suffix_cons _ _
      · exact Or.inr (leaves index oracle tokens key value labelled remains found)
    · rw [(move_secrets (moved applied)).2] at found
      exact kept (sourced.tokenFile key value found)
  · intro index key value stamp asked
    rcases asked_step (body lib) stepped asked with before | ⟨call, found⟩
    · exact kept (sourced.chainRead index key value stamp before)
    · obtain ⟨oracle, _, replied⟩ := asking_replied stepped found
      exact kept (sourced.keychain key value (reply_chainRead replied))
  · intro index tokens stamp asked key value found
    rcases asked_step (body lib) stepped asked with before | ⟨call, asks⟩
    · exact kept (sourced.fileRead index tokens stamp before key value found)
    · obtain ⟨oracle, _, replied⟩ := asking_replied stepped asks
      rw [reply_fileRead replied] at found
      exact kept (sourced.tokenFile key value found)

end Steps

theorem run_sourced {now : Int} {tokens : List Module} {labels : List (BridgeLabel lib)}
    {world : BridgeWorld lib}
    (reached : run (body lib) (started lib now tokens) labels = some world) :
    Sourced (LeftBehind labels) world := by
  let kept : BridgeWorld lib → Prop := fun world =>
    world.Disciplined (Permitted lib) (Ends lib) ∧ Sourced (LeftBehind labels) world
  have start : kept (started lib now tokens) := by
    have empty {key value : String}
        (found : (∅ : Table String String).lookup key = some value) : False := by
      rw [AList.lookup_empty] at found
      cases found
    constructor
    · intro index call located
      cases located
    · constructor
      · exact fun key value found => (empty found).elim
      · exact fun key value found => (empty found).elim
      · rintro index key value stamp ⟨call, located, _⟩
        cases located
      · rintro index tokens stamp ⟨call, located, _⟩
        cases located
  have preserved (world : BridgeWorld lib) (label : BridgeLabel lib) (next : BridgeWorld lib)
      (invariant : kept world) (member : label ∈ labels)
      (stepped : step (body lib) world label = some next) : kept next := by
    have disciplined := disciplined_step (body lib) body_follows invariant.1 stepped
    refine ⟨disciplined, sourced_step invariant.2 disciplined ?_ stepped⟩
    rintro index oracle tokens key value rfl remains found
    exact ⟨index, oracle, tokens, member, remains, found⟩
  exact (run_invariant (body lib) preserved start
    (along_labels (body lib) fun _ member => member) reached).2

/-- A pairing code is redeemed at a site that `http.Post` can reach. -/
def AtReachable : AgentEvent → Prop
  | ⟨.validatePairingCode site _, .ok _, _⟩ => reachable site = true
  | _ => True

theorem run_reachable {now : Int} {tokens : List Module} {labels : List (BridgeLabel lib)}
    {world : BridgeWorld lib}
    (reached : run (body lib) (started lib now tokens) labels = some world) {index : Nat}
    {call : (bridge lib).Call Origin Response} (located : world.calls[index]? = some call) :
    ∀ event ∈ call.trace, AtReachable event := by
  let heeding : BridgeWorld lib → Prop := fun world => world.Heeds fun _ _ => AtReachable
  have start : heeding (started lib now tokens) := by
    intro index call event earlier located
    cases located
  have preserved (world : BridgeWorld lib) (label : BridgeLabel lib) (next : BridgeWorld lib)
      (kept : heeding world) (_ : True) (stepped : step (body lib) world label = some next) :
      heeding next := by
    refine heeds_step (body lib) kept ?_ stepped
    intro index call event found
    obtain ⟨oracle, _, replied⟩ := asking_replied stepped found
    obtain ⟨operation, reply, stamp⟩ := event
    cases operation with
    | validatePairingCode site code =>
        cases reply with
        | error error => trivial
        | ok result =>
            rcases @reply_pairing lib oracle world.shared site code with
              ⟨error, refused⟩ | ⟨given, _, _, near, _, _⟩
            · rw [refused] at replied
              cases (Prod.mk.inj replied).1
            · exact near
    | _ => cases reply <;> trivial
  have heeds := run_invariant (body lib) preserved start (along_always (body lib)) reached
  intro event member
  obtain ⟨newer, earlier, split⟩ := List.append_of_mem member
  exact heeds index call event earlier located ⟨newer, split.symm⟩

/-- A pairing response of the site has carried the secret. -/
def PairedWith (world : BridgeWorld lib) (site secret : String) : Prop :=
  ∃ call ∈ world.calls, ∃ code result,
    Answered call.trace (.validatePairingCode site code) result ∧ result.hmacSecret = secret

/-- What the keystore returns as the secret of a site is one, and not the token of another. -/
theorem secretRead_source {now : Int} {tokens : List Module} {labels : List (BridgeLabel lib)}
    {world : BridgeWorld lib}
    (reached : run (body lib) (started lib now tokens) labels = some world) {index : Nat}
    {call : (bridge lib).Call Origin Response} (located : world.calls[index]? = some call)
    {site secret : String} (read : SecretRead call.trace site secret) :
    PairedWith world site secret ∨ LeftBehind labels (secretKey site) secret := by
  have sourced := run_sourced reached
  have source : Brought world (secretKey site) secret ∨
      LeftBehind labels (secretKey site) secret := by
    rcases read with ⟨stamp, member⟩ | ⟨tokens, ⟨newer, error, older, one, other, split⟩, found⟩
    · exact sourced.chainRead index _ _ stamp ⟨call, located, member⟩
    · refine sourced.fileRead index tokens one ⟨call, located, ?_⟩ _ _ found
      rw [split]
      simp
  refine source.imp ?_ id
  rintro ⟨index, call, located, brought, code, result, ⟨stamp, member⟩, named | named⟩
  · have near : reachable brought = true := run_reachable reached located _ member
    exact absurd named.1.symm (reachable_ne_secretKey near site)
  · have same := secretKey_inj named.1
    rw [← same] at member
    exact ⟨call, List.mem_of_getElem? located, code, result, ⟨stamp, member⟩, named.2.symm⟩

/-- Where `SignHash` is invoked, the keystore has returned no secret, or the request
is verified under the one it has returned, which the site has brought. -/
theorem hmac_required (lib : Libraries) (now : Int) (tokens : List Module)
    (labels : List (BridgeLabel lib)) (world : BridgeWorld lib) (index : Nat)
    (call : (bridge lib).Call Origin Response) (id : SlotId) (fingerprint : String)
    (hashBytes : Bytes) (pin : String) (result : Except GoError Signing) (stamp : Int)
    (reached : run (body lib) (started lib now tokens) labels = some world)
    (located : world.calls[index]? = some call)
    (invoked : (⟨.signHash id fingerprint hashBytes pin, result, stamp⟩ : AgentEvent) ∈ call.trace) :
    ∃ request req, call.origin = .http request ∧ request.path = "/v1/sign" ∧
      request.signBody = some req ∧ request.origin ≠ "" ∧
      (Secretless call.trace request.origin ∨
        ∃ secret time, secret ≠ "" ∧ SecretRead call.trace request.origin secret ∧
          (PairedWith world request.origin secret ∨
            LeftBehind labels (secretKey request.origin) secret) ∧
          Answered call.trace .now time ∧ ((time : Int) - req.timestamp).natAbs ≤ 60 ∧
          req.hmac = hex (lib.hmacSha256 (utf8 secret) (hmacPayload req))) := by
  have disciplined := run_permitted reached
  obtain ⟨earlier, suffix, request, req, allowed⟩ :=
    (disciplined index call located).1.of_mem invoked
  have older := (List.suffix_cons _ earlier).trans suffix
  refine ⟨request, req, allowed.call, allowed.path, allowed.body, allowed.admitted.1, ?_⟩
  rcases allowed.guarded with ⟨secret, time, given, read, answered, accepted⟩ | secretless | nowhere
  · obtain ⟨near, _, right⟩ := (hmacFault_none_iff lib).mp accepted
    exact Or.inr ⟨secret, time, given, read.mono older,
      secretRead_source reached located (read.mono older), answered.mono older, near, right.symm⟩
  · exact Or.inl (secretless.mono older)
  · exact absurd nowhere allowed.admitted.1

theorem invokesToken_signHash {event : AgentEvent} (invokes : invokesToken event = true) :
    ∃ id fingerprint hashBytes pin result stamp,
      event = ⟨.signHash id fingerprint hashBytes pin, result, stamp⟩ := by
  obtain ⟨operation, reply, stamp⟩ := event
  cases operation with
  | signHash id fingerprint hashBytes pin => exact ⟨id, fingerprint, hashBytes, pin, reply, stamp, rfl⟩
  | _ => cases invokes

/-- Where the secret is stored, the request that signs is verified under one. -/
theorem hmac_required_sample :
    ∃ secret time, secret ≠ "" ∧ ((time : Int) - issuedRequest.timestamp).natAbs ≤ 60 ∧
      issuedRequest.hmac =
        hex (plainLibraries.hmacSha256 (utf8 secret) (hmacPayload issuedRequest)) := by
  have ends : (run (body plainLibraries) (started plainLibraries 10 onePair) firstSent).map
      (fun world => match world.calls[1]? with
        | some call => decide (call.origin = .http (signing issuedRequest)) &&
            call.trace.all answersSecret && call.trace.any invokesToken
        | none => false) = some true := by
    decide +kernel
  obtain ⟨world, reached, holds⟩ := Option.map_eq_some_iff.mp ends
  split at holds
  · rename_i call located
    simp only [Bool.and_eq_true, decide_eq_true_eq] at holds
    obtain ⟨⟨named, answers⟩, invokes⟩ := holds
    obtain ⟨event, member, invokes⟩ := List.any_eq_true.mp invokes
    obtain ⟨id, fingerprint, hashBytes, pin, result, stamp, rfl⟩ := invokesToken_signHash invokes
    obtain ⟨request, req, origin, _, sent, _, secretless | ⟨secret, time, given, _, _, _, near, right⟩⟩ :=
      hmac_required plainLibraries 10 onePair firstSent world 1 call id fingerprint hashBytes pin
        result stamp reached located member
    · exact absurd secretless (answersSecret_kept answers)
    · rw [named] at origin
      cases origin
      cases sent
      exact ⟨secret, time, given, near, right⟩
  · cases holds

/-! ### A secret that is lost at the pairing -/

def endedWith (status : Nat) (call : (bridge lib).Call Origin Response) : Bool :=
  match call.phase with
  | .ended (.ok response) => response.status == status
  | _ => false

/-- The site of the sample has brought this secret. -/
def bringsSecret (secret : String) : AgentEvent → Bool
  | ⟨.validatePairingCode site _, .ok result, _⟩ =>
      site == "https://site.example" && result.hmacSecret == secret
  | _ => false

def failing : Oracle := { pairedWithSecret with fault := some ⟨false, "no space left on device"⟩ }

/-- Keychain and fallback file refuse the secret; a request without HMAC follows. -/
def lostSecret : List (BridgeLabel plainLibraries) :=
  .start (.http pairing) :: (List.replicate 7 (.ask 0 pairedWithSecret) ++
    [.ask 0 failing, .ask 0 pairedWithSecret, .ask 0 failing, .finish 0]) ++
    served plainLibraries 1 (.http (signing signRequest)) 10 agreeing

/-- One pairing of the run ends with 200 and shows the secret, and the next request signs. -/
def signsUnsigned (calls : List ((bridge plainLibraries).Call Origin Response)) : Bool :=
  match calls with
  | [first, second] => decide (first.origin = .http pairing) && endedWith 200 first &&
      first.trace.any (bringsSecret "K-1") &&
      decide (second.origin = .http (signing signRequest)) && second.trace.any invokesToken
  | _ => false

/-- The pairing is answered with 200, and a request without an HMAC signs. -/
theorem unsigned_request_signs :
    ∃ world first second,
      run (body plainLibraries) (started plainLibraries 10 onePair) lostSecret = some world ∧
      world.calls = [first, second] ∧ first.origin = .http pairing ∧
      endedWith 200 first = true ∧ first.trace.any (bringsSecret "K-1") = true ∧
      second.origin = .http (signing signRequest) ∧ second.trace.any invokesToken = true ∧
      signRequest.hmac ≠
        hex (plainLibraries.hmacSha256 (utf8 "K-1") (hmacPayload signRequest)) := by
  have ends : (run (body plainLibraries) (started plainLibraries 10 onePair) lostSecret).map
      (fun world => signsUnsigned world.calls) = some true := by
    decide +kernel
  obtain ⟨world, reached, holds⟩ := Option.map_eq_some_iff.mp ends
  unfold signsUnsigned at holds
  split at holds
  · rename_i first second calls
    simp only [Bool.and_eq_true, decide_eq_true_eq] at holds
    obtain ⟨⟨⟨⟨paired, ended⟩, brought⟩, asked⟩, signs⟩ := holds
    exact ⟨world, first, second, reached, calls, paired, ended, brought, asked, signs,
      by decide +kernel⟩
  · cases holds

end DscSigning.Bridge
