/-
What stands behind the answers of the agent endpoints.

An agent is registered for the user who had its pairing code made, not longer ago
than a code lives, and a certificate is registered by a call that may write the
profile.
-/

import DscSigning.Server.PairingCodes
import DscSigning.Server.Renewal
import DscSigning.Library.ExpiringStore

namespace DscSigning.AgentApi

open Interaction Engine

def Answered (trace : AgentTrace) (operation : Operation) (answer : operation.Answer) : Prop :=
  ∃ stamp, (⟨operation, .ok answer, stamp⟩ : AgentEvent) ∈ trace

theorem Answered.mono {trace later : AgentTrace} {operation : Operation}
    {answer : operation.Answer} (answered : Answered trace operation answer)
    (suffix : trace <:+ later) : Answered later operation answer := by
  obtain ⟨stamp, member⟩ := answered
  exact ⟨stamp, suffix.subset member⟩

theorem answered_head {earlier : AgentTrace} {operation : Operation} {answer : operation.Answer}
    {stamp : Instant} : Answered (⟨operation, .ok answer, stamp⟩ :: earlier) operation answer :=
  ⟨stamp, List.mem_cons_self⟩

/-! ### What a call rests on -/

variable (lib : Libraries)

/-- A code is kept for the user who asks for it; an agent is registered with what its
code was kept for and with the hash of a new token; a certificate is saved for
somebody who may write the profile. -/
def AnswerRule (origin : Origin) (trace : AgentTrace) : Operation → Prop
  | .setCode key data => ∃ request code, origin.endpoint = .generatePairingCode request ∧
      origin.user ≠ "Guest" ∧ Drew trace code ∧ key = pairingKey code ∧ data.user = origin.user ∧
      data.siteUrl = publicSiteUrl lib request
  | .insertRegistration row => ∃ arguments data token,
      origin.endpoint = .validatePairingCode arguments ∧
      Answered trace (.getCode (pairingKey arguments.pairingCode)) (some data) ∧
      Answered trace (.tokenUrlsafe 32) token ∧ row.user = data.user ∧
      row.agentFingerprint = arguments.agentFingerprint ∧ row.siteTokenHash = hashToken lib token
  | .saveProfile name row => ∃ certDerB64 certDer roles,
      origin.endpoint = .registerCertificate name certDerB64 ∧
      b64decode certDerB64 = .ok certDer ∧ Answered trace (.getRoles origin.user) roles ∧
      mayWriteProfile roles = true ∧ row.Holds lib certDer
  | _ => True

/-- What the answers tell is what was kept, inserted and saved. -/
def AnswerEnds (origin : Origin) (trace : AgentTrace) : Except Exn Response → Prop
  | .ok (.code code) => ∃ data, Answered trace (.setCode (pairingKey code.pairingCode) data) () ∧
      data.user = origin.user
  | .ok (.paired paired) =>
      (∃ row, Answered trace (.insertRegistration row) paired.agentRegistration) ∧
      ∀ row name stamp, (⟨.insertRegistration row, .ok name, stamp⟩ : AgentEvent) ∈ trace →
        paired.agentRegistration = name ∧ row.siteTokenHash = hashToken lib paired.siteToken
  | .ok (.registered registered) => ∃ profileName certDerB64 certDer row,
      origin.endpoint = .registerCertificate profileName certDerB64 ∧
      b64decode certDerB64 = .ok certDer ∧ registered.fingerprint = lib.sha256Hex certDer ∧
      Answered trace (.saveProfile profileName row) () ∧ row.Holds lib certDer
  | _ => True

/-- Neither a code, nor a registration, nor a profile is written. -/
def Modest : Operation → Prop
  | .setCode .. => False
  | .insertRegistration _ => False
  | .saveProfile .. => False
  | _ => True

theorem answerRule_modest {origin : Origin} (earlier : AgentTrace) (operation : Operation)
    (modest : Modest operation) : AnswerRule lib origin earlier operation := by
  cases operation with
  | setCode key data => exact modest.elim
  | insertRegistration row => exact modest.elim
  | saveProfile name row => exact modest.elim
  | _ => trivial

variable {lib}

theorem generatePairingCode_answers {user : String} {request : Option WebRequest}
    (known : user ≠ "Guest") :
    ((generatePairingCode lib user request).bind fun response => .done (.code response)).Follows
      (AnswerRule lib ⟨user, .generatePairingCode request⟩)
      (AnswerEnds lib ⟨user, .generatePairingCode request⟩) [] := by
  unfold generatePairingCode
  simp only [Program.bind_eq, Program.bind_assoc]
  refine Program.Follows.perform trivial (fun code drawn => ?_) fun _ _ => trivial
  refine Program.Follows.perform trivial (fun createdAt told => ?_) fun _ _ => trivial
  refine Program.Follows.perform ⟨request, code, rfl, known, ⟨drawn, by simp⟩, rfl, rfl, rfl⟩
    (fun _ kept => ?_) fun _ _ => trivial
  exact ⟨_, answered_head, rfl⟩

theorem validatePairingCode_answers {user : String} {arguments : PairingArguments} :
    ((validatePairingCode lib arguments).bind fun response => .done (.paired response)).Follows
      (AnswerRule lib ⟨user, .validatePairingCode arguments⟩)
      (AnswerEnds lib ⟨user, .validatePairingCode arguments⟩) [] := by
  unfold validatePairingCode registerAgent
  simp only [Program.bind_eq, Program.bind_assoc]
  refine Program.Follows.perform trivial (fun raw read => ?_) fun _ _ => trivial
  cases raw with
  | none => trivial
  | some data =>
      simp only [Program.bind_assoc]
      refine Program.Follows.perform trivial (fun _ gone => ?_) fun _ _ => trivial
      refine Program.Follows.perform trivial (fun siteToken drawn => ?_) fun _ _ => trivial
      refine Program.Follows.perform trivial (fun pairedOn one => ?_) fun _ _ => trivial
      refine Program.Follows.perform trivial (fun lastSeenOn other => ?_) fun _ _ => trivial
      refine Program.Follows.perform ⟨arguments, data, siteToken, rfl, ⟨read, by simp⟩,
        ⟨drawn, by simp⟩, rfl, rfl, rfl⟩ (fun name named => ?_) fun _ _ => trivial
      refine Program.Follows.perform trivial (fun _ committed => ?_) fun _ _ => trivial
      have secret : getOrCreateHmacSecret.Uses Modest :=
        getOrCreateHmacSecret_uses trivial trivial trivial (fun _ => trivial) trivial
      refine Program.Follows.bind (secret.follows _ (answerRule_modest lib)) ?_
        fun _ _ _ _ => trivial
      intro later hmacSecret _ grown
      obtain ⟨newer, rfl, modest⟩ := grown
      constructor
      · exact ⟨_, named,
          List.mem_append_right _ (List.mem_cons_of_mem _ List.mem_cons_self)⟩
      · intro row other stamp member
        rcases List.mem_append.mp member with fresh | old
        · exact (modest _ fresh).elim
        · simp only [List.mem_cons, List.not_mem_nil, or_false, Event.mk.injEq, reduceCtorEq,
            false_and, false_or, or_self] at old
          obtain ⟨same, given, _⟩ := old
          cases same
          cases given
          exact ⟨rfl, rfl⟩

theorem registerCertificate_answers {user profileName certDerB64 : String} :
    ((registerCertificate lib user profileName certDerB64).bind fun response =>
      .done (.registered response)).Follows
      (AnswerRule lib ⟨user, .registerCertificate profileName certDerB64⟩)
      (AnswerEnds lib ⟨user, .registerCertificate profileName certDerB64⟩) [] := by
  unfold registerCertificate
  simp only [Program.bind_eq, Program.bind_assoc]
  refine Program.Follows.ofExcept (fun certDer decoded => ?_) fun _ _ => trivial
  refine Program.Follows.ofExcept (fun fields parsed => ?_) fun _ _ => trivial
  refine Program.Follows.perform trivial (fun profile loaded => ?_) fun _ _ => trivial
  refine Program.Follows.perform trivial (fun roles asked => ?_) fun _ _ => trivial
  refine Program.Follows.demand (fun may => ?_) fun _ => trivial
  have replaces : profile.replacedOn.Uses Modest := by
    unfold ProfileCertificates.replacedOn
    split
    · exact Program.Uses.perform trivial
    · trivial
  refine replaces.past (answerRule_modest lib) (fun later replacedOn suffix => ?_)
    fun _ _ _ => trivial
  refine Program.Follows.perform trivial (fun registeredOn told => ?_) fun _ _ => trivial
  have holds : (profile.renew fields (lib.sha256Hex certDer) (pemOf certDer) replacedOn
      registeredOn).Holds lib certDer := ⟨rfl, rfl⟩
  refine Program.Follows.perform ⟨certDerB64, certDer, roles, rfl, decoded, ?_, may, holds⟩
    (fun _ saved => ?_) fun _ _ => trivial
  · exact answered_head.mono (suffix.trans (List.suffix_cons _ _))
  · exact ⟨profileName, certDerB64, certDer, _, rfl, decoded, rfl, answered_head, holds⟩

theorem body_answers (origin : Origin) :
    (body lib origin).Follows (AnswerRule lib origin) (AnswerEnds lib origin) [] := by
  obtain ⟨user, endpoint⟩ := origin
  unfold body
  split
  · trivial
  · rename_i open_
    cases endpoint with
    | generatePairingCode request =>
        refine generatePairingCode_answers fun guest => open_ ?_
        rw [guest]
        rfl
    | validatePairingCode arguments => exact validatePairingCode_answers
    | verifySiteToken siteToken agentFingerprint =>
        refine (verifySiteToken_uses (fun _ _ => trivial) trivial (fun _ _ => trivial) siteToken
          agentFingerprint).past (answerRule_modest lib) (fun _ _ _ => ?_) fun _ _ _ => trivial
        trivial
    | registerCertificate profileName certDerB64 => exact registerCertificate_answers
    | listAgentCertificates agentPort => trivial

theorem run_answers {database : Database} {now : Instant} {labels : List AgentLabel}
    {world : AgentWorld} (reached : run (body lib) (installed database now) labels = some world) :
    world.Disciplined (AnswerRule lib) (AnswerEnds lib) := by
  have preserved (world : AgentWorld) (label : AgentLabel) (next : AgentWorld)
      (disciplined : world.Disciplined (AnswerRule lib) (AnswerEnds lib)) (_ : True)
      (stepped : step (body lib) world label = some next) :
      next.Disciplined (AnswerRule lib) (AnswerEnds lib) :=
    disciplined_step (body lib) body_answers disciplined stepped
  refine run_invariant (body lib) preserved ?_ (along_always (body lib)) reached
  intro index call located
  cases located

theorem run_tidy {database : Database} {now : Instant} {labels : List AgentLabel}
    {world : AgentWorld} (reached : run (body lib) (installed database now) labels = some world) :
    Tidy world := by
  have started : (installed database now).Disciplined Permitted Ends ∧
      Tidy (installed database now) := by
    constructor
    · intro index call located
      cases located
    · constructor
      · intro index call code located
        cases located
      · intro left right leftCall rightCall code located
        cases located
      · intro key entry cached
        cases cached
      · intro index call key located
        cases located
      · intro index call key located
        cases located
  have preserved (world : AgentWorld) (label : AgentLabel) (next : AgentWorld)
      (held : world.Disciplined Permitted Ends ∧ Tidy world) (_ : True)
      (stepped : step (body lib) world label = some next) :
      next.Disciplined Permitted Ends ∧ Tidy next :=
    ⟨disciplined_step (body lib) body_follows held.1 stepped, tidy_step held.1 held.2 stepped⟩
  exact (run_invariant (body lib) preserved started (along_always (body lib)) reached).2

theorem run_persisted {database : Database} {now : Instant} {labels : List AgentLabel}
    {world : AgentWorld} (reached : run (body lib) (installed database now) labels = some world) :
    world.Persisted := by
  have preserved (world : AgentWorld) (label : AgentLabel) (next : AgentWorld)
      (persisted : world.Persisted) (_ : True)
      (stepped : step (body lib) world label = some next) : next.Persisted :=
    persisted_step (body lib) persisted stepped
  refine run_invariant (body lib) preserved ?_ (along_always (body lib)) reached
  intro index call event write located
  cases located

/-! ### Codes are found while they live -/

theorem reply_onward {oracle : Oracle} {view : Database} {shared later : Shared}
    {operation : Operation} {given : Except Exn operation.Answer}
    (replied : reply oracle view shared operation = some (given, later)) :
    shared.now ≤ later.now := by
  have drawn {bytes : Option Nat} {fresh : String} {name : Except Exn String}
      (draws : draw bytes fresh shared = some (name, later)) : later.now = shared.now := by
    unfold draw at draws
    split at draws
    · cases draws
    · cases draws
      rfl
  unfold reply at replied
  split at replied
  · cases replied
    exact Nat.le_refl _
  · cases operation with
    | tokenUrlsafe bytes => exact (drawn replied).ge
    | insertRegistration row => exact (drawn replied).ge
    | saveProfile name row =>
        cases replied
        exact Nat.le_add_right _ _
    | _ =>
        cases replied
        exact Nat.le_refl _

/-- The cache of the pairing codes. -/
def codeStore : site.Filling String CodeData where
  store := Shared.codes
  clock := fun stamp => stamp
  fills := fun event key data life => ∃ stamp, event = ⟨.setCode key data, .ok (), stamp⟩ ∧
    life = seconds pairingTtlSeconds
  finds := fun event key data => ∃ stamp, event = ⟨.getCode key, .ok (some data), stamp⟩
  replied := by
    intro oracle view shared operation given later replied
    refine ⟨reply_onward replied, fun key entry found => ?_⟩
    let event : AgentEvent := ⟨operation, given, shared.now⟩
    have answered : reply oracle view shared event.query = some (event.reply, later) := replied
    rcases (reply_kept answered).2 with same | ⟨put, data, asked, inserted⟩ | ⟨gone, erased⟩
    · exact Or.inl (same ▸ found)
    · rw [inserted] at found
      rcases ExpiringStore.lookup_put found with ⟨sameKey, sameEntry⟩ | old
      · subst sameKey sameEntry
        exact Or.inr ⟨_, ⟨_, asked, rfl⟩, rfl⟩
      · exact Or.inl old
    · rw [erased] at found
      by_cases same : key = gone
      · rw [same, AList.lookup_erase] at found
        cases found
      · rw [AList.lookup_erase_ne same] at found
        exact Or.inl found
  moved := by
    intro move view shared other later moved
    have applied : move.apply view shared = (other, later) := Option.some.inj moved
    have kept := (@move_codes shared view move).2
    rw [applied] at kept
    refine ⟨?_, kept⟩
    obtain rfl : (move.apply view shared).2 = later := congrArg Prod.snd applied
    cases move with
    | elapse time => exact Nat.le_add_right _ _
    | _ => exact Nat.le_refl _
  read := by
    intro oracle view shared operation given later key data replied finds
    obtain ⟨stamp, same⟩ := finds
    cases same
    have answered := congrArg Prod.fst (Option.some.inj (answer_of_reply replied))
    obtain ⟨⟨stored, expires⟩, cached, alive⟩ := Option.bind_eq_some_iff.mp (Except.ok.inj answered)
    simp only at alive
    split at alive
    · cases alive
      exact ExpiringStore.find_some.mpr ⟨expires, cached, ‹_›⟩
    · cases alive

/-- The code was made for this user, at a time from which it was still kept when it was read. -/
structure MadeFor (lib : Libraries) (world : AgentWorld) (code : String) (data : CodeData)
    (read : Instant) where
  maker : Nat
  call : AgentCall
  request : Option WebRequest
  placed : Instant
  there : world.calls[maker]? = some call
  endpoint : call.origin.endpoint = .generatePairingCode request
  known : call.origin.user ≠ "Guest"
  user : data.user = call.origin.user
  siteUrl : data.siteUrl = publicSiteUrl lib request
  drew : Drew call.trace code
  alone : ∀ other otherCall, world.calls[other]? = some otherCall → Drew otherCall.trace code →
    other = maker
  kept : (⟨.setCode (pairingKey code) data, .ok (), placed⟩ : AgentEvent) ∈ call.trace
  before : placed ≤ read
  within : read < placed + seconds pairingTtlSeconds

theorem found_made {database : Database} {now : Instant} {labels : List AgentLabel}
    {world : AgentWorld} (reached : run (body lib) (installed database now) labels = some world)
    {index : Nat} {call : AgentCall} (located : world.calls[index]? = some call) {code : String}
    {data : CodeData} {read : Instant}
    (found : (⟨.getCode (pairingKey code), .ok (some data), read⟩ : AgentEvent) ∈ call.trace) :
    Nonempty (MadeFor lib world code data read) := by
  have sound : codeStore.Sound world :=
    Filling.run_sound rfl (fun key => AList.lookup_empty key) reached
  obtain ⟨maker, event, life, ⟨making, there, member⟩, ⟨placed, same, lives⟩, before, within⟩ :=
    sound.found index _ _ _ ⟨call, located, found⟩ ⟨read, rfl⟩
  subst same lives
  obtain ⟨earlier, suffix, rule⟩ := (run_answers reached maker making there).1.of_mem member
  obtain ⟨request, drawn, endpoint, known, drew, sameKey, user, siteUrl⟩ := rule
  have whole : Drew making.trace code := by
    obtain ⟨stamp, drawing⟩ := drew
    rw [pairingKey_inj sameKey]
    exact ⟨stamp, ((List.suffix_cons _ _).trans suffix).subset drawing⟩
  exact ⟨{
    maker := maker
    call := making
    request := request
    placed := placed
    there := there
    endpoint := endpoint
    known := known
    user := user
    siteUrl := siteUrl
    drew := whole
    alone := fun other otherCall located drew =>
      (run_tidy reached).separate other maker otherCall making code located there drew whole
    kept := member
    before := before
    within := within }⟩

/-- Every agent is registered for the one user whose call has drawn the pairing code, who was
logged in then, less than ten minutes after the code was put aside; with the hash of a
token of its own.  A call that answers has registered the agent for good, and has
given this token away. -/
theorem registered_for_code_owner (database : Database) (now : Instant)
    (labels : List AgentLabel) {world : AgentWorld}
    (reached : run (body lib) (installed database now) labels = some world) {index : Nat}
    {call : AgentCall} (located : world.calls[index]? = some call) {row : AgentRegistration}
    {name : String} (registers : Answered call.trace (.insertRegistration row) name) :
    ∃ arguments data read token, call.origin.endpoint = .validatePairingCode arguments ∧
      Nonempty (MadeFor lib world arguments.pairingCode data read) ∧ row.user = data.user ∧
      row.agentFingerprint = arguments.agentFingerprint ∧
      Answered call.trace (.tokenUrlsafe 32) token ∧ row.siteTokenHash = hashToken lib token ∧
      ∀ paired, call.phase = .ended (.ok (.paired paired)) →
        paired.agentRegistration = name ∧ row.siteTokenHash = hashToken lib paired.siteToken ∧
        ∃ entry ∈ world.journal, Write.insertRegistration name row ∈ entry.2 := by
  obtain ⟨stamp, member⟩ := registers
  have disciplined := run_answers reached index call located
  obtain ⟨earlier, suffix, rule⟩ := disciplined.1.of_mem member
  obtain ⟨arguments, data, token, endpoint, ⟨read, found⟩, drawn, user, fingerprint, hashed⟩ := rule
  have within : earlier <:+ call.trace := (List.suffix_cons _ _).trans suffix
  refine ⟨arguments, data, read, token, endpoint,
    found_made reached located (within.subset found), user, fingerprint, drawn.mono within, hashed,
    fun paired ended => ?_⟩
  have ends := disciplined.2
  rw [ended] at ends
  obtain ⟨named, tokened⟩ := ends.2 row name stamp member
  exact ⟨named, tokened,
    (run_persisted reached).recorded located ended member rfl List.mem_cons_self⟩

/-- What a call has registered, and whether it has answered. -/
def registering (call : AgentCall) : Option (AgentRegistration × String) :=
  call.trace.findSome? fun event => match event with
    | ⟨.insertRegistration row, .ok name, _⟩ => some (row, name)
    | _ => none

theorem registering_answered {call : AgentCall} {row : AgentRegistration} {name : String}
    (registers : registering call = some (row, name)) :
    Answered call.trace (.insertRegistration row) name := by
  obtain ⟨event, member, gives⟩ := List.exists_of_findSome?_eq_some registers
  split at gives
  · cases gives
    exact ⟨_, member⟩
  · cases gives

theorem registered_for_code_owner_sample :
    ∃ world call, ∃ row : AgentRegistration, ∃ data read,
      run (body agentLibraries) (installed emptySite 0) oneAfterAnother = some world ∧
      world.calls[1]? = some call ∧ row.user = data.user ∧ row.user = "alice" ∧
      Nonempty (MadeFor agentLibraries world "CODE" data read) := by
  have ends : (run (body agentLibraries) (installed emptySite 0) oneAfterAnother).map
      (fun world => (world.calls[1]?.bind fun call => (registering call).map fun registers =>
        (call.origin, registers.1.user, registers.2))) =
      some (some (validates, "alice", "AGENT-1")) := by
    decide +kernel
  obtain ⟨world, reached, told⟩ := Option.map_eq_some_iff.mp ends
  obtain ⟨call, located, registers⟩ := Option.bind_eq_some_iff.mp told
  obtain ⟨⟨row, name⟩, registered, shown⟩ := Option.map_eq_some_iff.mp registers
  simp only [Prod.mk.injEq] at shown
  obtain ⟨arguments, data, read, _, endpoint, made, user, _⟩ := registered_for_code_owner emptySite 0
    oneAfterAnother reached located (registering_answered registered)
  rw [shown.1] at endpoint
  cases endpoint
  exact ⟨world, call, row, data, read, reached, located, user, shown.2.1, made⟩

end DscSigning.AgentApi
