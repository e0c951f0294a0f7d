/-
What a request does on the token and in the keystore, given all that it asked
and was told before.
-/

import DscSigning.Bridge.Agent

namespace DscSigning.Bridge

open Interaction Program

/-! ### Answers in a trace -/

/-- The operation was asked and answered so. -/
def Answered (trace : AgentTrace) (operation : Operation) (answer : operation.Answer) : Prop :=
  ∃ stamp, (⟨operation, .ok answer, stamp⟩ : AgentEvent) ∈ trace

theorem Answered.mono {trace later : AgentTrace} {operation : Operation}
    {answer : operation.Answer} (answered : Answered trace operation answer)
    (suffix : trace <:+ later) : Answered later operation answer := by
  obtain ⟨stamp, member⟩ := answered
  exact ⟨stamp, suffix.subset member⟩

theorem Answered.head {earlier : AgentTrace} {operation : Operation}
    {answer : operation.Answer} {stamp : Int} :
    Answered (⟨operation, .ok answer, stamp⟩ :: earlier) operation answer :=
  ⟨stamp, by simp⟩

def secretKey (site : String) : String := keyringHMACPrefix ++ site

/-- The keychain had no answer for the key, and the fallback file was read next. -/
def FellBack (trace : AgentTrace) (key : String)
    (reply : Except GoError (Table String String)) : Prop :=
  ∃ newer error older one other, trace = newer ++
    (⟨.readTokenFile, reply, one⟩ : AgentEvent) ::
      (⟨.keychainGet key, .error error, other⟩ : AgentEvent) :: older

theorem FellBack.mono {trace later : AgentTrace} {key : String}
    {reply : Except GoError (Table String String)} (fell : FellBack trace key reply)
    (suffix : trace <:+ later) : FellBack later key reply := by
  obtain ⟨newer, error, older, one, other, rfl⟩ := fell
  obtain ⟨latest, rfl⟩ := suffix
  exact ⟨latest ++ newer, error, older, one, other, by rw [List.append_assoc]⟩

theorem FellBack.head {older : AgentTrace} {key : String} {error : GoError}
    {reply : Except GoError (Table String String)} {one other : Int} :
    FellBack (⟨.readTokenFile, reply, one⟩ :: ⟨.keychainGet key, .error error, other⟩ :: older) key
      reply :=
  ⟨[], error, older, one, other, rfl⟩

/-- The keystore returned this secret for the site. -/
def SecretRead (trace : AgentTrace) (site secret : String) : Prop :=
  Answered trace (.keychainGet (secretKey site)) secret ∨
    ∃ tokens, FellBack trace (secretKey site) (.ok tokens) ∧
      tokens.lookup (secretKey site) = some secret

/-- The keystore returned no secret for the site: it is not paired, or neither
the keychain nor the fallback file gave one. -/
inductive Secretless (trace : AgentTrace) (site : String) : Prop
  | unpaired (answered : Answered trace (.isPaired site) false)
  | unread (reply : Except GoError (Table String String))
      (fell : FellBack trace (secretKey site) reply)
      (absent : ∀ tokens, reply = .ok tokens → tokens.lookup (secretKey site) = none)
  | empty (read : SecretRead trace site "")

theorem SecretRead.mono {trace later : AgentTrace} {site secret : String}
    (read : SecretRead trace site secret) (suffix : trace <:+ later) :
    SecretRead later site secret := by
  rcases read with answered | ⟨tokens, fell, found⟩
  · exact Or.inl (answered.mono suffix)
  · exact Or.inr ⟨tokens, fell.mono suffix, found⟩

theorem Secretless.mono {trace later : AgentTrace} {site : String}
    (secretless : Secretless trace site) (suffix : trace <:+ later) : Secretless later site := by
  cases secretless with
  | unpaired answered => exact .unpaired (answered.mono suffix)
  | unread reply fell absent => exact .unread reply (fell.mono suffix) absent
  | empty read => exact .empty (read.mono suffix)

variable (lib : Libraries)

theorem hmacFault_none_iff {secret : String} {req : SignRequest} {now : Int} :
    hmacFault lib secret req now = none ↔
      (now - req.timestamp).natAbs ≤ 60 ∧ 0 < req.timestamp ∧
        hex (lib.hmacSha256 (utf8 secret) (hmacPayload req)) = req.hmac := by
  unfold hmacFault
  constructor
  · intro accepted
    split at accepted
    · cases accepted
    · split at accepted
      · cases accepted
      · split at accepted
        · cases accepted
        · rename_i late early wrong
          refine ⟨Nat.le_of_not_lt early, Int.not_le.mp late, ?_⟩
          simpa using wrong
  · rintro ⟨early, late, right⟩
    rw [if_neg (Int.not_le.mpr late), if_neg (Nat.not_lt.mpr early), right]
    simp

/-- The HMAC of the request was verified under the secret of its origin, at a
time that was read. -/
def Verified (trace : AgentTrace) (site : String) (req : SignRequest) : Prop :=
  ∃ secret now, secret ≠ "" ∧ SecretRead trace site secret ∧ Answered trace .now now ∧
    hmacFault lib secret req now = none

/-- What the HMAC check of a request leaves behind when it lets it pass. -/
def Guarded (trace : AgentTrace) (site : String) (req : SignRequest) : Prop :=
  Verified lib trace site req ∨ Secretless trace site ∨ site = ""

theorem Guarded.mono {trace later : AgentTrace} {site : String} {req : SignRequest}
    (guarded : Guarded lib trace site req) (suffix : trace <:+ later) :
    Guarded lib later site req := by
  rcases guarded with ⟨secret, now, given, read, answered, faultless⟩ | secretless | nowhere
  · exact Or.inl ⟨secret, now, given, read.mono suffix, answered.mono suffix, faultless⟩
  · exact Or.inr (Or.inl (secretless.mono suffix))
  · exact Or.inr (Or.inr nowhere)

/-! ### The rule -/

/-- `SignHash` is invoked. -/
def invokesToken : AgentEvent → Bool
  | ⟨.signHash .., _, _⟩ => true
  | _ => false

/-- No `SignHash` so far. -/
def Untouched (trace : AgentTrace) : Prop := ∀ event ∈ trace, invokesToken event = false

/-- What stands behind an invocation of `SignHash`. -/
structure SignAllowed (origin : Origin) (trace : AgentTrace) (id : SlotId) (fingerprint : String)
    (hashBytes : Bytes) (pin : String) (request : HttpRequest) (req : SignRequest) : Prop where
  call : origin = .http request
  body : request.signBody = some req
  path : request.path = "/v1/sign"
  admitted : request.origin ≠ "" ∧ Answered trace (.isPaired request.origin) true
  algorithm : req.hashAlgorithm = "" ∨ req.hashAlgorithm = "sha256"
  guarded : Guarded lib trace request.origin req
  named : fingerprint = req.expectedFingerprint
  found : ∃ modules cert, Answered trace .tokens modules ∧
    findCertByFingerprint lib modules fingerprint = some (cert, id)
  decoded : hexDecode req.hashToSign = some hashBytes
  supplied : req.pin ≠ "" ∧ pin = req.pin ∨
    req.pin = "" ∧ fingerprint ≠ "" ∧ Answered trace (.pinGet fingerprint) (some pin)
  first : Untouched trace

/-- A secret that a pairing of the site has delivered, and its key. -/
def Delivered (trace : AgentTrace) (key value : String) : Prop :=
  ∃ site code result, Answered trace (.validatePairingCode site code) result ∧
    (key = site ∧ value = result.siteToken ∨ key = secretKey site ∧ value = result.hmacSecret)

/-- The content of a fallback file: what was read, with one entry more or less. -/
def Rewritten (trace : AgentTrace) (tokens : Table String String) : Prop :=
  ∃ before, (before = ∅ ∨ Answered trace .readTokenFile before) ∧
    ((∃ key value, tokens = before.insert key value ∧ Delivered trace key value) ∨
      ∃ key, tokens = before.erase key)

/-- What a call may ask, given all that it asked and was told before. -/
def Permitted (origin : Origin) (trace : AgentTrace) : Operation → Prop
  | .signHash id fingerprint hashBytes pin =>
      ∃ request req, SignAllowed lib origin trace id fingerprint hashBytes pin request req
  | .keychainSet key value => Delivered trace key value
  | .writeTokenFile tokens => Rewritten trace tokens
  | _ => True

/-- The response to a signature is about the one the token has made. -/
def Ends (origin : Origin) (trace : AgentTrace) (result : Except GoError Response) : Prop :=
  ∀ response answered, result = .ok response → response.body = .signed answered →
    ∃ request req id hashBytes pin signing signature certDER,
      origin = .http request ∧ request.signBody = some req ∧
      Answered trace (.signHash id req.expectedFingerprint hashBytes pin) signing ∧
      signing.result = .ok (signature, certDER) ∧
      answered.signatureBytesB64 = Base64.encode (lib.signatureValue signature) ∧
      answered.certDERB64 = Base64.encode certDER

/-! ### Questions that are always permitted -/

/-- Neither a signature nor a write of a secret. -/
def Mild : Operation → Prop
  | .signHash .. => False
  | .keychainSet .. => False
  | .writeTokenFile _ => False
  | _ => True

/-- A question that changes nothing. -/
def Reading : Operation → Prop
  | .isPaired _ => True
  | .keychainGet _ => True
  | .readTokenFile => True
  | .now => True
  | .timeText => True
  | .tokens => True
  | .fetchCertChain _ => True
  | .fetchOCSP .. => True
  | _ => False

theorem Reading.mild {operation : Operation} (reading : Reading operation) : Mild operation := by
  cases operation <;> trivial

theorem permitted_mild {origin : Origin} (earlier : AgentTrace) (operation : Operation)
    (mild : Mild operation) : Permitted lib origin earlier operation := by
  cases operation with
  | signHash id fingerprint hashBytes pin => exact mild.elim
  | keychainSet key value => exact mild.elim
  | writeTokenFile tokens => exact mild.elim
  | _ => trivial

theorem Untouched.append {trace newer : AgentTrace} (untouched : Untouched trace)
    (mild : ∀ event ∈ newer, Mild event.query) : Untouched (newer ++ trace) := by
  intro event member
  rcases List.mem_append.mp member with fresh | old
  · obtain ⟨operation, reply, stamp⟩ := event
    have calm := mild _ fresh
    cases operation with
    | signHash id fingerprint hashBytes pin => exact calm.elim
    | _ => rfl
  · exact untouched event old

variable {lib}

/-- Mild programs leave the token alone. -/
theorem mild_follows {origin : Origin} {trace : AgentTrace} {Value : Type}
    {program : Agent Value} (uses : program.Uses Mild) (untouched : Untouched trace) :
    program.Follows (Permitted lib origin) (fun later _ => Untouched later) trace := by
  refine (Uses.follows uses trace (permitted_mild lib)).weaken ?_
  rintro later result - ⟨newer, rfl, mild⟩
  exact untouched.append mild

/-! ### The keystore -/

theorem mildly {Value : Type} {program : Agent Value} (uses : program.Uses Reading) :
    program.Uses Mild := uses.weaken fun _ => Reading.mild

theorem uses_ask {kind : Operation → Prop} {operation : Operation} (asked : kind operation) :
    (ask operation).Uses kind :=
  ⟨asked, fun _ => trivial⟩

theorem uses_known {kind : Operation → Prop} {operation : Operation} (asked : kind operation) :
    (known operation).Uses kind := Uses.perform asked

theorem loadTokenFile_uses : loadTokenFile.Uses Reading := by
  refine Uses.bind (uses_ask trivial) fun read => ?_
  cases read <;> trivial

theorem getTokenFile_uses (siteURL : String) : (getTokenFile siteURL).Uses Reading := by
  refine Uses.bind loadTokenFile_uses fun tokens => ?_
  cases tokens.lookup siteURL <;> trivial

theorem siteToken_uses (siteURL : String) : (siteToken siteURL).Uses Reading := by
  refine Uses.bind (uses_known trivial) fun paired => ?_
  cases paired with
  | false => trivial
  | true =>
      refine Uses.bind (uses_ask trivial) fun read => ?_
      cases read with
      | ok token => trivial
      | error error =>
          refine Uses.bind (getTokenFile_uses siteURL) fun token => ?_
          cases token with
          | ok token => trivial
          | error _ => cases error.notFound <;> trivial

theorem getHMACSecret_uses (siteURL : String) : (getHMACSecret siteURL).Uses Reading := by
  refine Uses.bind (uses_known trivial) fun paired => ?_
  cases paired with
  | false => trivial
  | true =>
      refine Uses.bind (uses_ask trivial) fun read => ?_
      cases read with
      | ok secret => trivial
      | error error =>
          refine Uses.bind (getTokenFile_uses _) fun secret => ?_
          cases secret <;> trivial

/-- What `HMACSecret` returns, as the trace shows it. -/
def SecretEnds (site : String) (trace : AgentTrace) :
    Except GoError (Except GoError String) → Prop
  | .ok (.ok secret) =>
      (secret = "" → Secretless trace site) ∧ (secret ≠ "" → SecretRead trace site secret)
  | .ok (.error _) => Secretless trace site
  | .error _ => True

theorem getHMACSecret_follows {origin : Origin} {trace : AgentTrace} (site : String) :
    (getHMACSecret site).Follows (Permitted lib origin) (SecretEnds site) trace := by
  have ends {later : AgentTrace} {secret : String} (read : SecretRead later site secret) :
      SecretEnds site later (.ok (.ok secret)) := by
    refine ⟨fun none_ => ?_, fun _ => read⟩
    rw [none_] at read
    exact .empty read
  refine Follows.perform trivial ?_ fun _ _ => trivial
  intro paired stamp
  cases paired with
  | false => exact Secretless.unpaired Answered.head
  | true =>
      refine ⟨trivial, fun reply at_ => ?_⟩
      cases reply with
      | ok secret => exact ends (Or.inl Answered.head)
      | error error =>
          refine ⟨trivial, fun reply at_ => ?_⟩
          cases reply with
          | error broken =>
              refine ⟨fun _ => .unread _ FellBack.head ?_, fun given => absurd rfl given⟩
              intro tokens impossible
              cases impossible
          | ok tokens =>
              simp only [Program.bind, pure]
              cases found : tokens.lookup (keyringHMACPrefix ++ site) with
              | some secret => exact ends (Or.inr ⟨tokens, FellBack.head, found⟩)
              | none =>
                  refine ⟨fun _ => .unread _ FellBack.head ?_, fun given => absurd rfl given⟩
                  intro same given
                  cases given
                  exact found

/-! ### Signing -/

variable (lib) in
/-- What the HMAC check returns: nothing behind a guard, or a refusal. -/
def GuardEnds (site : String) (req : SignRequest) (trace : AgentTrace) :
    Except GoError (Option Response) → Prop
  | .ok none => Guarded lib trace site req
  | .ok (some response) => ∀ answered, response.body ≠ .signed answered
  | .error _ => True

theorem guard_refuses {site : String} {req : SignRequest} {trace : AgentTrace} {code : ErrorCode}
    {message : String} {status : Nat} :
    GuardEnds lib site req trace (.ok (some (writeErrorMsg code message status))) := by
  intro answered same
  cases same

theorem checkHMAC_follows {origin : Origin} {trace : AgentTrace} {site : String}
    {req : SignRequest} :
    (checkHMAC lib site req).Follows (Permitted lib origin) (GuardEnds lib site req) trace := by
  unfold checkHMAC
  split
  · split
    · exact guard_refuses
    · refine Follows.bind (getHMACSecret_follows site) ?_ fun _ _ _ _ => trivial
      intro later read _ ended
      cases read with
      | error error => exact Or.inr (Or.inl ended)
      | ok secret =>
          by_cases absent : secret = ""
          · simp only [absent, beq_self_eq_true, if_true]
            exact Or.inr (Or.inl (ended.1 absent))
          · have present : (secret == "") = false := by simpa using absent
            simp only [present, Bool.false_eq_true, if_false]
            refine ⟨trivial, fun reply stamp => ?_⟩
            cases reply with
            | error error => trivial
            | ok now =>
                change ((Program.done (hmacFault lib secret req now)).bind _).Follows _ _ _
                cases faulty : hmacFault lib secret req now with
                | some fault => exact guard_refuses
                | none =>
                    refine Or.inl ⟨secret, now, absent, ?_, Answered.head, faulty⟩
                    exact (ended.2 absent).mono (List.suffix_cons _ _)
  · split
    · refine Follows.bind (getHMACSecret_follows site) ?_ fun _ _ _ _ => trivial
      intro later read _ ended
      cases read with
      | error error => exact Or.inr (Or.inl ended)
      | ok secret =>
          by_cases absent : secret = ""
          · simp only [absent, beq_self_eq_true, if_true]
            exact Or.inr (Or.inl (ended.1 absent))
          · have present : (secret == "") = false := by simpa using absent
            simp only [present, Bool.false_eq_true, if_false]
            exact guard_refuses
    · rename_i unnamed
      refine Or.inr (Or.inr ?_)
      simpa using unnamed

theorem checkHMAC_uses (site : String) (req : SignRequest) :
    (checkHMAC lib site req).Uses Reading := by
  unfold checkHMAC
  split
  · split
    · trivial
    · refine Uses.bind (getHMACSecret_uses site) fun read => ?_
      cases read with
      | error error => trivial
      | ok secret =>
          simp only
          split
          · trivial
          · refine Uses.bind (Uses.bind (uses_known trivial) fun _ => trivial) fun fault => ?_
            cases fault <;> trivial
  · split
    · refine Uses.bind (getHMACSecret_uses site) fun read => ?_
      cases read with
      | error error => trivial
      | ok secret =>
          simp only
          split <;> trivial
    · trivial

theorem resolvePIN_follows {origin : Origin} {trace : AgentTrace} {req : SignRequest} :
    (resolvePIN req).Follows (Permitted lib origin)
      (fun later result => ∀ pin, result = .ok (some pin) → req.pin ≠ "" ∧ pin = req.pin ∨
        req.pin = "" ∧ req.expectedFingerprint ≠ "" ∧
          Answered later (.pinGet req.expectedFingerprint) (some pin)) trace := by
  unfold resolvePIN
  split
  · rename_i given
    intro pin same
    cases same
    exact Or.inl ⟨by simpa using given, rfl⟩
  · rename_i absent
    split
    · intro pin same
      cases same
    · rename_i named
      refine ⟨trivial, fun reply stamp => ?_⟩
      cases reply with
      | error error =>
          intro pin same
          cases same
      | ok cached =>
          intro pin same
          cases same
          exact Or.inr ⟨by simpa using absent, by simpa using named, Answered.head⟩

theorem resolvePIN_uses (req : SignRequest) : (resolvePIN req).Uses Mild := by
  unfold resolvePIN
  split
  · trivial
  · split
    · trivial
    · exact uses_known trivial

variable (lib) in
/-- The response carries this signature and this certificate. -/
def Carries (signature : Signature) (certDER : Bytes) (result : Except GoError Response) : Prop :=
  ∀ response answered, result = .ok response → response.body = .signed answered →
    answered.signatureBytesB64 = Base64.encode (lib.signatureValue signature) ∧
      answered.certDERB64 = Base64.encode certDER

theorem chainOf_uses (certDER : Bytes) : (chainOf certDER).Uses Reading := by
  refine Uses.bind (uses_ask trivial) fun read => ?_
  cases read <;> trivial

theorem ocspOf_uses (certDER : Bytes) (chain : List Bytes) :
    (ocspOf certDER chain).Uses Reading := by
  cases chain with
  | nil => trivial
  | cons issuer _ =>
      refine Uses.bind (uses_ask trivial) fun read => ?_
      cases read <;> trivial

theorem free_follows {origin : Origin} {trace : AgentTrace} {Value : Type}
    {program : Agent Value} (uses : program.Uses Mild) :
    program.Follows (Permitted lib origin) (fun _ _ => True) trace :=
  (Uses.follows uses trace (permitted_mild lib)).weaken fun _ _ _ _ => trivial

theorem signedResponse_follows {origin : Origin} {trace : AgentTrace} (req : SignRequest)
    (signature : Signature) (certDER : Bytes) :
    (signedResponse lib req signature certDER).Follows (Permitted lib origin)
      (fun _ result => Carries lib signature certDER result) trace := by
  have failed {error : GoError} : Carries lib signature certDER (.error error) := by
    intro response answered same
    cases same
  refine Follows.bind (free_follows (mildly (chainOf_uses certDER))) ?_ fun _ _ _ _ => failed
  intro later chain _ _
  refine Follows.bind (free_follows (mildly (ocspOf_uses certDER chain))) ?_ fun _ _ _ _ => failed
  intro later ocsp _ _
  refine Follows.perform trivial ?_ fun _ _ => failed
  intro signedAt stamp response answered same signed
  cases same
  cases signed
  exact ⟨rfl, rfl⟩

theorem rememberPIN_uses (fingerprint pin : String) : (rememberPIN fingerprint pin).Uses Mild := by
  unfold rememberPIN
  split
  · trivial
  · exact uses_known trivial

theorem dropPIN_uses (code : ErrorCode) (fingerprint : String) :
    (dropPIN code fingerprint).Uses Mild := by
  unfold dropPIN forgetPIN
  split
  · split
    · trivial
    · exact uses_known trivial
  · trivial

theorem ends_error {origin : Origin} {trace : AgentTrace} {error : GoError} :
    Ends lib origin trace (.error error) := by
  intro response answered same
  cases same

/-- A response without a signature. -/
theorem ends_unsigned {origin : Origin} {trace : AgentTrace} {response : Response}
    (unsigned : ∀ answered, response.body ≠ .signed answered) :
    Ends lib origin trace (.ok response) := by
  intro other answered same signed
  cases same
  exact absurd signed (unsigned answered)

theorem signAndRespond_follows {origin : Origin} {trace : AgentTrace} {request : HttpRequest}
    {req : SignRequest} {id : SlotId} {hashBytes : Bytes} {pin : String}
    (allowed : SignAllowed lib origin trace id req.expectedFingerprint hashBytes pin request req) :
    (signAndRespond lib req id hashBytes pin).Follows (Permitted lib origin) (Ends lib origin)
      trace := by
  refine Follows.perform ⟨request, req, allowed⟩ ?_ fun _ _ => ends_error
  intro signing stamp
  cases outcome : signing.result with
  | error failure =>
      simp only
      refine Follows.bind (free_follows (dropPIN_uses _ _)) ?_ fun _ _ _ _ => ends_error
      intro later _ _ _
      exact ends_unsigned (by intro answered same; cases same)
  | ok made =>
      obtain ⟨signature, certDER⟩ := made
      simp only
      refine Follows.bind (free_follows (rememberPIN_uses _ _)).ran ?_ fun _ _ _ _ => ends_error
      intro later _ suffix _
      refine (signedResponse_follows req signature certDER).ran.weaken ?_
      intro last result extended carried response answered same signed
      obtain ⟨value, cert⟩ := carried.1 response answered same signed
      exact ⟨request, req, id, hashBytes, pin, signing, signature, certDER, allowed.call,
        allowed.body, Answered.head.mono (suffix.trans extended), outcome, value, cert⟩

/-- What `securityMiddleware` has made sure of before it lets a request through. -/
structure Entered (origin : Origin) (trace : AgentTrace) (request : HttpRequest) : Prop where
  call : origin = .http request
  admitted : request.origin ≠ "" ∧ Answered trace (.isPaired request.origin) true
  first : Untouched trace

theorem signWithToken_follows {origin : Origin} {trace : AgentTrace} {request : HttpRequest}
    {req : SignRequest} (entered : Entered origin trace request) (body : request.signBody = some req)
    (path : request.path = "/v1/sign")
    (algorithm : req.hashAlgorithm = "" ∨ req.hashAlgorithm = "sha256")
    (guarded : Guarded lib trace request.origin req) :
    (signWithToken lib req).Follows (Permitted lib origin) (Ends lib origin) trace := by
  refine Follows.perform trivial ?_ fun _ _ => ends_error
  intro modules stamp
  cases located : findCertByFingerprint lib modules req.expectedFingerprint with
  | none =>
      simp only
      refine Follows.perform trivial (fun present stamp => ?_) fun _ _ => ends_error
      split <;> exact ends_unsigned (by intro answered same; cases same)
  | some found =>
      obtain ⟨cert, id⟩ := found
      simp only
      cases decoded : hexDecode req.hashToSign with
      | none => exact ends_unsigned (by intro answered same; cases same)
      | some hashBytes =>
          simp only
          have untouched : Untouched (⟨.tokens, .ok modules, stamp⟩ :: trace) :=
            List.forall_mem_cons.mpr ⟨rfl, entered.first⟩
          refine Follows.bind
            (resolvePIN_follows.both (mild_follows (resolvePIN_uses req) untouched)) ?_
            fun _ _ _ _ => ends_error
          intro later pin suffix ended
          cases pin with
          | none => exact ends_unsigned (by intro answered same; cases same)
          | some pin =>
              have older := (List.suffix_cons _ _).trans suffix
              exact signAndRespond_follows
                { call := entered.call
                  body := body
                  path := path
                  admitted := ⟨entered.admitted.1, entered.admitted.2.mono older⟩
                  algorithm := algorithm
                  guarded := guarded.mono _ older
                  named := rfl
                  found := ⟨modules, cert, Answered.head.mono suffix, located⟩
                  decoded := decoded
                  supplied := ended.1 pin rfl
                  first := ended.2 }

theorem handleSign_follows {origin : Origin} {trace : AgentTrace} {request : HttpRequest}
    (entered : Entered origin trace request) (path : request.path = "/v1/sign") :
    (handleSign lib request).Follows (Permitted lib origin) (Ends lib origin) trace := by
  unfold handleSign
  split
  · exact ends_unsigned (by intro answered same; cases same)
  · cases body : request.signBody with
    | none => exact ends_unsigned (by intro answered same; cases same)
    | some req =>
        simp only
        split
        · exact ends_unsigned (by intro answered same; cases same)
        · rename_i supported
          have algorithm : req.hashAlgorithm = "" ∨ req.hashAlgorithm = "sha256" := by
            simp only [Bool.and_eq_true, bne_iff_ne, not_and, not_not] at supported
            exact or_iff_not_imp_left.mpr supported
          refine Follows.bind (checkHMAC_follows.both
            (mild_follows (mildly (checkHMAC_uses _ req)) entered.first)) ?_ fun _ _ _ _ => ends_error
          intro later refusal suffix ended
          cases refusal with
          | some refusal => exact ends_unsigned ended.1
          | none =>
              exact signWithToken_follows
                ⟨entered.call, ⟨entered.admitted.1, entered.admitted.2.mono suffix⟩, ended.2⟩ body
                path algorithm ended.1

/-! ### The other handlers -/

theorem Delivered.mono {trace later : AgentTrace} {key value : String}
    (delivered : Delivered trace key value) (suffix : trace <:+ later) :
    Delivered later key value := by
  obtain ⟨site, code, result, answered, matches_⟩ := delivered
  exact ⟨site, code, result, answered.mono suffix, matches_⟩

/-- The fallback file as it was read; an unreadable one counts as empty. -/
theorem loadTokenFile_follows {origin : Origin} {trace : AgentTrace} :
    loadTokenFile.Follows (Permitted lib origin)
      (fun later result => ∀ tokens, result = .ok tokens →
        tokens = ∅ ∨ Answered later .readTokenFile tokens) trace := by
  refine ⟨trivial, fun reply stamp => ?_⟩
  cases reply with
  | ok tokens =>
      intro read same
      cases same
      exact Or.inr Answered.head
  | error error =>
      intro read same
      cases same
      exact Or.inl rfl

theorem deleteTokenFile_follows {origin : Origin} {trace : AgentTrace} (siteURL : String) :
    (deleteTokenFile siteURL).Follows (Permitted lib origin) (fun _ _ => True) trace := by
  refine Follows.bind loadTokenFile_follows ?_ fun _ _ _ _ => trivial
  intro later tokens _ read
  cases tokens.lookup siteURL with
  | none => trivial
  | some token =>
      simp only
      split
      · exact ⟨trivial, fun _ _ => trivial⟩
      · exact ⟨⟨tokens, read tokens rfl, Or.inr ⟨siteURL, rfl⟩⟩, fun _ _ => trivial⟩

theorem storeGiven_follows {origin : Origin} {trace : AgentTrace} {key value : String}
    (delivered : Delivered trace key value) :
    (storeGiven key value).Follows (Permitted lib origin) (fun _ _ => True) trace := by
  unfold storeGiven
  split
  · refine ⟨delivered, fun reply stamp => ?_⟩
    cases reply with
    | ok _ => trivial
    | error error =>
        change (setTokenFile key value).Follows _ _ _
        refine Follows.bind loadTokenFile_follows ?_ fun _ _ _ _ => trivial
        intro later tokens suffix read
        have kept := delivered.mono ((List.suffix_cons _ _).trans suffix)
        exact ⟨⟨tokens, read tokens rfl, Or.inl ⟨key, value, rfl, kept⟩⟩, fun _ _ => trivial⟩
  · trivial

theorem addSite_follows {origin : Origin} {trace : AgentTrace} {site : PairedSite}
    {token : String} (delivered : Delivered trace site.siteURL token) :
    (addSite site token).Follows (Permitted lib origin) (fun _ _ => True) trace := by
  refine Follows.bind (storeGiven_follows delivered) ?_ fun _ _ _ _ => trivial
  intro later stored _ _
  cases stored with
  | error error => trivial
  | ok _ =>
      refine Follows.perform trivial (fun _ _ => ?_) fun _ _ => trivial
      exact ⟨trivial, fun _ _ => trivial⟩

theorem handlePair_follows {origin : Origin} {trace : AgentTrace} (request : HttpRequest) :
    (handlePair request).Follows (Permitted lib origin) (Ends lib origin) trace := by
  have plain {later : AgentTrace} {response : Response}
      (unsigned : ∀ answered, response.body ≠ .signed answered) :
      (pure response : Agent Response).Follows (Permitted lib origin) (Ends lib origin) later :=
    ends_unsigned unsigned
  unfold handlePair
  split
  · exact plain (by intro answered same; cases same)
  · cases request.pairBody with
    | none => exact plain (by intro answered same; cases same)
    | some req =>
      simp only
      split
      · exact plain (by intro answered same; cases same)
      · refine Follows.perform trivial (fun approved _ => ?_) fun _ _ => ends_error
        split
        · exact plain (by intro answered same; cases same)
        · refine ⟨trivial, fun reply _ => ?_⟩
          cases reply with
          | error error => exact plain (by intro answered same; cases same)
          | ok pairing =>
              refine Follows.perform trivial (fun pairedOn _ => ?_) fun _ _ => ends_error
              refine Follows.bind (addSite_follows ⟨req.siteURL, req.pairingCode, pairing,
                Answered.head.mono (List.suffix_cons _ _), Or.inl ⟨rfl, rfl⟩⟩) ?_
                fun _ _ _ _ => ends_error
              intro later added suffix _
              cases added with
              | error error => exact plain (by intro answered same; cases same)
              | ok _ =>
                  have secret : Delivered later (secretKey req.siteURL) pairing.hmacSecret :=
                    ⟨req.siteURL, req.pairingCode, pairing,
                      (Answered.head.mono (List.suffix_cons _ _)).mono suffix, Or.inr ⟨rfl, rfl⟩⟩
                  refine Follows.bind (storeGiven_follows secret) ?_ fun _ _ _ _ => ends_error
                  intro _ _ _ _
                  exact plain (by intro answered same; cases same)

theorem removeSite_follows {origin : Origin} {trace : AgentTrace} (siteURL : String) :
    (removeSite siteURL).Follows (Permitted lib origin) (fun _ _ => True) trace := by
  refine Follows.perform trivial (fun _ _ => ?_) fun _ _ => trivial
  refine ⟨trivial, fun _ _ => ⟨trivial, fun _ _ => ?_⟩⟩
  change ((deleteTokenFile siteURL).bind _).Follows _ _ _
  refine Follows.bind (deleteTokenFile_follows _) (fun _ _ _ _ => ?_) fun _ _ _ _ => trivial
  refine Follows.bind (deleteTokenFile_follows _) (fun _ _ _ _ => ?_) fun _ _ _ _ => trivial
  exact ⟨trivial, fun _ _ => trivial⟩

/-! ### Behind the middleware -/

theorem siteToken_paired {trace later : AgentTrace} {siteURL token : String}
    (ran : (siteToken siteURL).Ran trace later (.ok (.ok token))) :
    Answered later (.isPaired siteURL) true := by
  obtain ⟨reply, stamp, rest⟩ := ran
  cases reply with
  | error error => cases rest.2
  | ok paired =>
      cases paired with
      | false => cases rest.2
      | true => exact Answered.head.mono (Ran.grows rest)

theorem admits_follows {origin : Origin} {trace : AgentTrace} (request : HttpRequest)
    (untouched : Untouched trace) :
    (admits request).Follows (Permitted lib origin)
      (fun later result => Untouched later ∧
        (result = .ok true → Answered later (.isPaired request.origin) true)) trace := by
  unfold admits
  split
  · unfold validateToken
    refine Follows.bind (mild_follows (mildly (siteToken_uses request.origin)) untouched).ran ?_ ?_
    · rintro later read suffix ⟨kept, ran⟩
      cases read with
      | ok stored => exact ⟨kept, fun _ => siteToken_paired ran⟩
      | error error => exact ⟨kept, fun same => by cases same⟩
    · rintro later error suffix ⟨kept, _⟩
      exact ⟨kept, fun same => by cases same⟩
  · refine ⟨trivial, fun reply stamp => ?_⟩
    have kept : Untouched (⟨.isPaired request.origin, reply, stamp⟩ :: trace) :=
      List.forall_mem_cons.mpr ⟨rfl, untouched⟩
    cases reply with
    | error error => exact ⟨kept, fun same => by cases same⟩
    | ok paired =>
        refine ⟨kept, fun same => ?_⟩
        cases same
        exact Answered.head

/-- A handler other than `HandleSign`. -/
theorem mux_follows {origin : Origin} {trace : AgentTrace} (request : HttpRequest)
    (signing : request.path = "/v1/sign" → Entered origin trace request) :
    (mux lib request).Follows (Permitted lib origin) (Ends lib origin) trace := by
  unfold mux
  split
  · unfold handleStatus
    split
    · exact ends_unsigned (by intro answered same; cases same)
    · refine Follows.perform trivial (fun _ _ => ?_) fun _ _ => ends_error
      refine Follows.perform trivial (fun _ _ => ?_) fun _ _ => ends_error
      exact ends_unsigned (by intro answered same; cases same)
  · split
    · unfold handleCerts
      split
      · exact ends_unsigned (by intro answered same; cases same)
      · refine Follows.perform trivial (fun _ _ => ?_) fun _ _ => ends_error
        exact ends_unsigned (by intro answered same; cases same)
    · split
      · exact handlePair_follows request
      · split
        · rename_i path
          have signs : request.path = "/v1/sign" := by simpa using path
          exact handleSign_follows (signing signs) signs
        · exact ends_unsigned (by intro answered same; cases same)

theorem securityMiddleware_follows {origin : Origin} {trace : AgentTrace} (request : HttpRequest)
    (call : origin = .http request) (untouched : Untouched trace) :
    (securityMiddleware lib request).Follows (Permitted lib origin) (Ends lib origin) trace := by
  unfold securityMiddleware
  split
  · rename_i path
    refine mux_follows request fun signs => ?_
    rw [signs] at path
    cases path
  · split
    · rename_i path
      refine mux_follows request fun signs => ?_
      rw [signs] at path
      cases path
    · split
      · exact ends_unsigned (by intro answered same; cases same)
      · rename_i named
        refine Follows.bind (admits_follows request untouched) ?_ fun _ _ _ _ => ends_error
        rintro later admitted suffix ⟨kept, paired⟩
        cases admitted with
        | false => exact ends_unsigned (by intro answered same; cases same)
        | true =>
            exact mux_follows request fun _ => ⟨call, ⟨by simpa using named, paired rfl⟩, kept⟩

theorem corsMiddleware_follows {origin : Origin} (request : HttpRequest)
    (call : origin = .http request) :
    (corsMiddleware lib request).Follows (Permitted lib origin) (Ends lib origin) [] := by
  have uses : (allowedOrigin request).Uses Mild := by
    unfold allowedOrigin
    split
    · exact Uses.bind (Uses.bind (uses_known trivial) fun _ => trivial) fun _ => trivial
    · trivial
  have fresh : Untouched [] := fun event member => by cases member
  refine Follows.bind (mild_follows uses fresh) ?_ fun _ _ _ _ => ends_error
  intro later allowOrigin _ untouched
  split
  · exact ends_unsigned (by intro answered same; cases same)
  · refine Follows.bind (securityMiddleware_follows request call untouched) ?_
      fun _ _ _ _ => ends_error
    intro last response _ ended other answered same signed
    cases same
    exact ended response answered rfl signed

theorem body_follows (origin : Origin) :
    (body lib origin).Follows (Permitted lib origin) (Ends lib origin) [] := by
  cases origin with
  | http request => exact corsMiddleware_follows request rfl
  | remove siteURL =>
      refine Follows.bind (removeSite_follows siteURL) ?_ fun _ _ _ _ => ends_error
      intro later removed _ _
      cases removed <;> exact ends_unsigned (by intro answered same; cases same)

theorem run_permitted {now : Int} {tokens : List Module} {labels : List (BridgeLabel lib)}
    {world : BridgeWorld lib}
    (reached : Engine.run (body lib) (started lib now tokens) labels = some world) :
    world.Disciplined (Permitted lib) (Ends lib) := by
  have preserved (world : BridgeWorld lib) (label : BridgeLabel lib) (next : BridgeWorld lib)
      (disciplined : world.Disciplined (Permitted lib) (Ends lib)) (_ : True)
      (stepped : Engine.step (body lib) world label = some next) :
      next.Disciplined (Permitted lib) (Ends lib) :=
    Engine.disciplined_step (body lib) body_follows disciplined stepped
  refine Engine.run_invariant (body lib) preserved ?_ (Engine.along_always (body lib)) reached
  intro index call located
  cases located

end DscSigning.Bridge
