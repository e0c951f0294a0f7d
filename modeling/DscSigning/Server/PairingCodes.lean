/-
The use of a pairing code by concurrent calls.

A call reads the code and deletes it in two steps.  Where no other call reads
between the two, the code is gone for everybody else from then on.
-/

import DscSigning.Server.AgentApi
import DscSigning.Server.SigningApi
import DscSigning.Library.Transactions

namespace DscSigning.AgentApi

open Interaction Engine

variable {lib : Libraries}

/-! ### Marks in a trace -/

/-- The call has drawn this code. -/
def Drew (trace : AgentTrace) (code : String) : Prop :=
  ∃ stamp, (⟨.tokenUrlsafe 16, .ok code, stamp⟩ : AgentEvent) ∈ trace

def Placed (trace : AgentTrace) (key : String) : Prop :=
  ∃ data stamp, (⟨.setCode key data, .ok (), stamp⟩ : AgentEvent) ∈ trace

/-- The call has found the code in the cache. -/
def Found (trace : AgentTrace) (key : String) : Prop :=
  ∃ data stamp, (⟨.getCode key, .ok (some data), stamp⟩ : AgentEvent) ∈ trace

def Deleted (trace : AgentTrace) (key : String) : Prop :=
  ∃ stamp, (⟨.deleteCode key, .ok (), stamp⟩ : AgentEvent) ∈ trace

def setsCode : AgentEvent → Bool
  | ⟨.setCode .., _, _⟩ => true
  | _ => false

def inserted : AgentEvent → Option AgentRegistration
  | ⟨.insertRegistration row, .ok _, _⟩ => some row
  | _ => none

def insertsRegistration : AgentEvent → Bool
  | ⟨.insertRegistration _, _, _⟩ => true
  | _ => false

theorem Placed.mono {trace later : AgentTrace} {key : String} (placed : Placed trace key)
    (suffix : trace <:+ later) : Placed later key := by
  obtain ⟨data, stamp, member⟩ := placed
  exact ⟨data, stamp, suffix.subset member⟩

theorem Found.mono {trace later : AgentTrace} {key : String} (found : Found trace key)
    (suffix : trace <:+ later) : Found later key := by
  obtain ⟨data, stamp, member⟩ := found
  exact ⟨data, stamp, suffix.subset member⟩

theorem Deleted.mono {trace later : AgentTrace} {key : String} (deleted : Deleted trace key)
    (suffix : trace <:+ later) : Deleted later key := by
  obtain ⟨stamp, member⟩ := deleted
  exact ⟨stamp, suffix.subset member⟩

/-! ### What each call asks -/

/-- What stands behind the questions about codes and registrations. -/
def Permitted (origin : Origin) (trace : AgentTrace) : Operation → Prop
  | .setCode key _ => (∃ code, key = pairingKey code ∧ Drew trace code) ∧
      ∀ event ∈ trace, setsCode event = false
  | .getCode key => ∃ arguments, origin.endpoint = .validatePairingCode arguments ∧
      key = pairingKey arguments.pairingCode
  | .deleteCode key => Found trace key
  | .insertRegistration _ => (∃ arguments, origin.endpoint = .validatePairingCode arguments ∧
      Deleted trace (pairingKey arguments.pairingCode)) ∧
      ∀ event ∈ trace, insertsRegistration event = false
  | _ => True

/-- A call that has paired an agent has deleted the code. -/
def Ends (origin : Origin) (trace : AgentTrace) (result : Except Exn Response) : Prop :=
  ∀ response, result = .ok (.paired response) → ∃ arguments,
    origin.endpoint = .validatePairingCode arguments ∧
    Deleted trace (pairingKey arguments.pairingCode)

/-- Questions that are always permitted. -/
def Free : Operation → Prop
  | .setCode .. => False
  | .getCode _ => False
  | .deleteCode _ => False
  | .insertRegistration _ => False
  | _ => True

theorem permitted_free {origin : Origin} (earlier : AgentTrace) (operation : Operation)
    (free : Free operation) : Permitted origin earlier operation := by
  cases operation <;> trivial

theorem getOrCreateHmacSecret_uses {kind : Operation → Prop} (stored : kind .secretGiven)
    (password : kind .getPassword) (token : kind (.tokenUrlsafe 48))
    (saves : ∀ secret, kind (.saveSecret secret)) (commits : kind .commit) :
    getOrCreateHmacSecret.Uses kind := by
  refine Program.Uses.bind (Program.Uses.bind (Program.Uses.perform stored) fun stored => ?_)
    fun current => ?_
  · cases stored
    · trivial
    · exact Program.Uses.perform password
  · split
    · trivial
    · exact Program.Uses.bind (Program.Uses.perform token) fun newSecret =>
        Program.Uses.bind (Program.Uses.perform (saves newSecret)) fun _ =>
          Program.Uses.bind (Program.Uses.perform commits) fun _ => trivial

theorem free_follows {origin : Origin} {trace : AgentTrace} {Value : Type}
    {program : Endpoints Value} (uses : program.Uses Free) :
    program.Follows (Permitted origin) (fun _ _ => True) trace :=
  (Program.Uses.follows uses trace permitted_free).weaken fun _ _ _ _ => trivial

theorem ends_unpaired {origin : Origin} {trace : AgentTrace} {result : Except Exn Response}
    (unpaired : ∀ response, result ≠ .ok (.paired response)) : Ends origin trace result :=
  fun response same => absurd same (unpaired response)

theorem generatePairingCode_follows {origin : Origin} (user : String)
    (request : Option WebRequest) :
    ((generatePairingCode lib user request).bind fun response => .done (.code response)).Follows
      (Permitted origin) (Ends origin) [] := by
  have failed (trace : AgentTrace) (error : Exn) :
      Ends origin trace (.error error : Except Exn Response) :=
    ends_unpaired fun response same => by cases same
  unfold generatePairingCode
  simp only [Program.bind_eq, Program.bind_assoc]
  refine Program.Follows.perform trivial (fun code drawn => ?_) fun _ _ => failed _ _
  refine Program.Follows.perform trivial (fun createdAt told => ?_) fun _ _ => failed _ _
  refine Program.Follows.perform ⟨⟨code, rfl, drawn, by simp⟩, ?_⟩ (fun _ _ => ?_)
    fun _ _ => failed _ _
  · intro event member
    simp only [List.mem_cons, List.not_mem_nil, or_false] at member
    rcases member with rfl | rfl <;> rfl
  · exact ends_unpaired fun response same => by cases same

theorem validatePairingCode_follows (origin : Origin) (arguments : PairingArguments)
    (endpoint : origin.endpoint = .validatePairingCode arguments) :
    ((validatePairingCode lib arguments).bind fun response => .done (.paired response)).Follows
      (Permitted origin) (Ends origin) [] := by
  have failed (trace : AgentTrace) (error : Exn) :
      Ends origin trace (.error error : Except Exn Response) :=
    ends_unpaired fun response same => by cases same
  unfold validatePairingCode registerAgent
  simp only [Program.bind_eq, Program.bind_assoc]
  refine Program.Follows.perform ⟨arguments, endpoint, rfl⟩ (fun raw read => ?_)
    fun _ _ => failed _ _
  cases raw with
  | none => exact failed _ _
  | some data =>
      simp only [Program.bind_assoc]
      refine Program.Follows.perform ⟨data, read, List.mem_singleton_self _⟩ (fun _ gone => ?_)
        fun _ _ => failed _ _
      refine Program.Follows.perform trivial (fun siteToken drawn => ?_) fun _ _ => failed _ _
      refine Program.Follows.perform trivial (fun pairedOn one => ?_) fun _ _ => failed _ _
      refine Program.Follows.perform trivial (fun lastSeenOn other => ?_) fun _ _ => failed _ _
      refine Program.Follows.perform ⟨⟨arguments, endpoint, gone, by simp⟩, ?_⟩
        (fun name named => ?_) fun _ _ => failed _ _
      · intro event member
        simp only [List.mem_cons, List.not_mem_nil, or_false] at member
        rcases member with rfl | rfl | rfl | rfl | rfl <;> rfl
      · refine Program.Follows.perform trivial (fun _ committed => ?_) fun _ _ => failed _ _
        refine Program.Follows.bind (free_follows (getOrCreateHmacSecret_uses trivial trivial trivial
          (fun _ => trivial) trivial)).ran ?_
          fun _ _ _ _ => failed _ _
        intro later secret suffix _ response same
        exact ⟨arguments, endpoint, gone, suffix.subset (by simp)⟩

theorem verifySiteToken_uses {kind : Operation → Prop}
    (finds : ∀ tokenHash agentFingerprint, kind (.findRegistration tokenHash agentFingerprint))
    (now : kind .now) (touches : ∀ name at_, kind (.touchRegistration name at_))
    (siteToken agentFingerprint : Text) :
    (verifySiteToken lib siteToken agentFingerprint).Uses kind := by
  unfold verifySiteToken
  split
  · refine Program.Uses.bind (Program.Uses.perform (finds _ _)) fun agentName => ?_
    split
    · exact Program.Uses.bind (Program.Uses.perform now) fun _ =>
        Program.Uses.bind (Program.Uses.perform (touches _ _)) fun _ => trivial
    · trivial
  · trivial

/-- All that the endpoint asks, the saved profile having the certificate it is given. -/
theorem registerCertificate_uses {kind : Operation → Prop} (user profileName certDerB64 : String)
    (profile : kind (.getProfile profileName)) (roles : kind (.getRoles user)) (now : kind .now)
    (saves : ∀ certDer, b64decode certDerB64 = .ok certDer →
      ∀ (old : ProfileCertificates) (fields : CertificateFields) (replacedOn registeredOn : Instant),
        kind (.saveProfile profileName (old.renew fields (lib.sha256Hex certDer) (pemOf certDer)
          replacedOn registeredOn))) :
    (registerCertificate lib user profileName certDerB64).Uses kind := by
  unfold registerCertificate
  cases decoded : b64decode certDerB64 with
  | error exn => trivial
  | ok certDer =>
      change ((attempt (lib.certificateFields certDer)).bind _).Uses kind
      refine Program.Uses.bind (Program.Uses.ofExcept _) fun fields => ?_
      refine Program.Uses.bind (Program.Uses.perform profile) fun old => ?_
      refine Program.Uses.bind (Program.Uses.perform roles) fun _ => ?_
      refine Program.Uses.bind (Program.Uses.demand _ _) fun _ => ?_
      refine Program.Uses.bind ?_ fun replacedOn => ?_
      · unfold ProfileCertificates.replacedOn
        split
        · exact Program.Uses.perform now
        · trivial
      · exact Program.Uses.bind (Program.Uses.perform now) fun registeredOn =>
          Program.Uses.bind (Program.Uses.perform
            (saves certDer decoded old fields replacedOn registeredOn)) fun _ => trivial

theorem body_follows (origin : Origin) :
    (body lib origin).Follows (Permitted origin) (Ends origin) [] := by
  have aside {Value : Type} {program : Endpoints Value} (uses : program.Uses Free)
      (respond : Value → Response) (unpaired : ∀ value response, respond value ≠ .paired response) :
      (program.bind fun value => .done (respond value)).Follows (Permitted origin) (Ends origin)
        [] := by
    refine uses.past permitted_free ?_ ?_
    · intro later value _
      exact ends_unpaired fun response same => unpaired value response (Except.ok.inj same)
    · intro later error _
      exact ends_unpaired fun response same => by cases same
  obtain ⟨user, endpoint⟩ := origin
  unfold body
  split
  · exact ends_unpaired fun response same => by cases same
  · cases endpoint with
    | generatePairingCode request => exact generatePairingCode_follows user request
    | validatePairingCode arguments => exact validatePairingCode_follows _ arguments rfl
    | verifySiteToken siteToken agentFingerprint =>
        exact aside (verifySiteToken_uses (fun _ _ => trivial) trivial (fun _ _ => trivial) siteToken
          agentFingerprint) Response.agent
          fun _ _ same => by cases same
    | registerCertificate profileName certDerB64 =>
        exact aside (registerCertificate_uses user profileName certDerB64 trivial trivial trivial
          fun _ _ _ _ _ _ => trivial) Response.registered
          fun _ _ same => by cases same
    | listAgentCertificates agentPort =>
        have told : (listAgentCertificates agentPort).Uses Free := trivial
        exact aside told Response.message fun _ _ same => by cases same

/-! ### Replies -/

section Replies

variable {oracle : Oracle} {view : Database} {shared later : Shared}

theorem draw_fresh {bytes : Option Nat} {fresh name : String} {drawn : Except Exn String}
    (draws : draw bytes fresh shared = some (drawn, later)) :
    later.codes = shared.codes ∧ shared.issued ⊆ later.issued ∧
      (drawn = .ok name → (bytes, name) ∉ shared.issued ∧ (bytes, name) ∈ later.issued) := by
  unfold draw at draws
  split at draws
  · cases draws
  · rename_i unissued
    cases draws
    refine ⟨rfl, fun _ member => List.mem_cons_of_mem _ member, fun same => ?_⟩
    cases same
    exact ⟨by simpa using fun inside => unissued (by simp [inside]), by simp⟩

/-- A question that is answered leaves the drawn names, and changes the codes if
it sets or deletes one. -/
theorem reply_kept {event : AgentEvent}
    (replied : reply oracle view shared event.query = some (event.reply, later)) :
    shared.issued ⊆ later.issued ∧ (later.codes = shared.codes ∨
      (∃ key data, event = ⟨.setCode key data, .ok (), event.stamp⟩ ∧ later.codes =
        shared.codes.insert key (data, shared.now + seconds pairingTtlSeconds)) ∨
      ∃ key, later.codes = shared.codes.erase key) := by
  obtain ⟨operation, given, stamp⟩ := event
  simp only at replied
  unfold reply at replied
  split at replied
  · cases replied
    exact ⟨fun _ member => member, Or.inl rfl⟩
  · cases operation with
    | tokenUrlsafe bytes =>
        obtain ⟨codes, issued, _⟩ := @draw_fresh shared later _ _ "" given replied
        exact ⟨issued, Or.inl codes⟩
    | insertRegistration row =>
        obtain ⟨codes, issued, _⟩ := @draw_fresh shared later _ _ "" given replied
        exact ⟨issued, Or.inl codes⟩
    | setCode key data =>
        cases replied
        exact ⟨fun _ member => member, Or.inr (Or.inl ⟨key, data, rfl, rfl⟩)⟩
    | deleteCode key =>
        cases replied
        exact ⟨fun _ member => member, Or.inr (Or.inr ⟨key, rfl⟩)⟩
    | _ =>
        cases replied
        exact ⟨fun _ member => member, Or.inl rfl⟩

theorem reply_token {bytes : Nat} {code : String}
    (replied : reply oracle view shared (.tokenUrlsafe bytes) = some (.ok code, later)) :
    (some bytes, code) ∉ shared.issued ∧ (some bytes, code) ∈ later.issued := by
  replace replied := answer_of_reply replied
  exact (draw_fresh replied).2.2 rfl

theorem reply_found {key : String} {data : CodeData}
    (replied : reply oracle view shared (.getCode key) = some (.ok (some data), later)) :
    ∃ expiry, shared.codes.lookup key = some (data, expiry) := by
  replace replied := answer_of_reply replied
  have told := congrArg Prod.fst (Option.some.inj replied)
  simp only [Except.ok.injEq] at told
  obtain ⟨⟨stored, expiry⟩, cached, live⟩ := Option.bind_eq_some_iff.mp told
  simp only at live
  split at live
  · cases live
    exact ⟨expiry, cached⟩
  · cases live

theorem reply_deleted {key : String}
    (replied : reply oracle view shared (.deleteCode key) = some (.ok (), later)) :
    later.codes = shared.codes.erase key := by
  replace replied := answer_of_reply replied
  cases replied
  rfl

theorem move_codes {database : Database} {move : Move} :
    (move.apply database shared).2.issued = shared.issued ∧
      ∀ key entry, (move.apply database shared).2.codes.lookup key = some entry →
        shared.codes.lookup key = some entry := by
  cases move with
  | elapse by_ => exact ⟨rfl, fun _ _ found => found⟩
  | administer other => exact ⟨rfl, fun _ _ found => found⟩
  | evict gone =>
      refine ⟨rfl, fun key entry found => ?_⟩
      simp only [Move.apply] at found
      by_cases same : key = gone
      · subst same
        rw [AList.lookup_erase] at found
        cases found
      · rw [AList.lookup_erase_ne same] at found
        exact found

end Replies

/-! ### The life of a code -/

theorem pairingKey_inj {one other : String} (same : pairingKey one = pairingKey other) :
    one = other :=
  (String.append_right_inj pairingKeyPrefix).mp same

/-- Some call has set the code. -/
def PlacedIn (world : AgentWorld) (key : String) : Prop :=
  ∃ (index : Nat) (call : AgentCall), world.calls[index]? = some call ∧ Placed call.trace key

/-- A code is drawn by one call, set by that call at most once, and not set again
once it is deleted. -/
structure Tidy (world : AgentWorld) : Prop where
  drawn : ∀ (index : Nat) (call : AgentCall) (code : String),
    world.calls[index]? = some call → Drew call.trace code → (some 16, code) ∈ world.shared.issued
  separate : ∀ (left right : Nat) (leftCall rightCall : AgentCall) (code : String),
    world.calls[left]? = some leftCall → world.calls[right]? = some rightCall →
    Drew leftCall.trace code → Drew rightCall.trace code → left = right
  cached : ∀ key entry, world.shared.codes.lookup key = some entry → PlacedIn world key
  placed : ∀ (index : Nat) (call : AgentCall) (key : String), world.calls[index]? = some call →
    Found call.trace key → PlacedIn world key
  gone : ∀ (index : Nat) (call : AgentCall) (key : String), world.calls[index]? = some call →
    Deleted call.trace key → world.shared.codes.lookup key = none

section Steps

variable {world next : AgentWorld} {label : AgentLabel}

/-- The call that has set a code has drawn it. -/
theorem placed_drew (disciplined : world.Disciplined Permitted Ends) {index : Nat}
    {call : AgentCall} {key : String} (located : world.calls[index]? = some call)
    (placed : Placed call.trace key) : ∃ code, key = pairingKey code ∧ Drew call.trace code := by
  obtain ⟨data, stamp, member⟩ := placed
  obtain ⟨earlier, suffix, ⟨code, same, drew⟩, _⟩ :=
    (disciplined_running disciplined located).of_mem member
  obtain ⟨at_, drawn⟩ := drew
  exact ⟨code, same, at_, ((List.suffix_cons _ _).trans suffix).subset drawn⟩

theorem deleted_found (disciplined : world.Disciplined Permitted Ends) {index : Nat}
    {call : AgentCall} {key : String} (located : world.calls[index]? = some call)
    (deleted : Deleted call.trace key) : Found call.trace key := by
  obtain ⟨stamp, member⟩ := deleted
  obtain ⟨earlier, suffix, found⟩ := (disciplined_running disciplined located).of_mem member
  exact Found.mono found ((List.suffix_cons _ _).trans suffix)

/-- Nobody sets a code that has been set. -/
theorem never_set_again (disciplined : world.Disciplined Permitted Ends) (tidy : Tidy world)
    {index other : Nat} {call otherCall : AgentCall} {key : String} {data : CodeData}
    {given : Except Exn Unit} {stamp : Instant}
    (found : asking world label = some (index, call, ⟨.setCode key data, given, stamp⟩))
    (located : world.calls[other]? = some otherCall) (placed : Placed otherCall.trace key) :
    False := by
  obtain ⟨⟨code, same, drew⟩, unset⟩ := disciplined_asking disciplined found
  obtain ⟨otherCode, otherSame, otherDrew⟩ := placed_drew disciplined located placed
  rw [same] at otherSame
  rw [← pairingKey_inj otherSame] at otherDrew
  have there := (asking_located found).1
  have one := tidy.separate index other call otherCall code there located drew otherDrew
  subst one
  rw [there] at located
  cases located
  obtain ⟨at_, when_, member⟩ := placed
  have quiet := unset _ member
  cases quiet

theorem issued_step (stepped : step (body lib) world label = some next) :
    world.shared.issued ⊆ next.shared.issued := by
  rcases step_shared (body lib) stepped with same | ⟨index, call, event, found⟩ |
    ⟨move, data, _, moved⟩
  · rw [same]
    exact fun _ member => member
  · obtain ⟨oracle, replied⟩ := asking_shared (body lib) stepped found
    exact (reply_kept replied).1
  · have applied : move.apply world.data world.shared = (data, next.shared) :=
      Option.some.inj moved
    have kept := @move_codes world.shared world.data move
    rw [applied] at kept
    rw [kept.1]
    exact fun _ member => member

/-- An entry of the cache was there before, or is being set. -/
theorem codes_step (stepped : step (body lib) world label = some next) {key : String}
    {entry : CodeData × Instant} (cached : next.shared.codes.lookup key = some entry) :
    world.shared.codes.lookup key = some entry ∨ ∃ index call data stamp,
      asking world label = some (index, call, ⟨.setCode key data, .ok (), stamp⟩) := by
  rcases step_shared (body lib) stepped with same | ⟨index, call, event, found⟩ |
    ⟨move, data, _, moved⟩
  · rw [same] at cached
    exact Or.inl cached
  · obtain ⟨oracle, replied⟩ := asking_shared (body lib) stepped found
    rcases (reply_kept replied).2 with same | ⟨changed, data, set_, inserted⟩ | ⟨changed, erased⟩
    · rw [same] at cached
      exact Or.inl cached
    · by_cases named : key = changed
      · subst named
        rw [set_] at found
        exact Or.inr ⟨index, call, data, _, found⟩
      · rw [inserted, AList.lookup_insert_ne named] at cached
        exact Or.inl cached
    · by_cases named : key = changed
      · rw [erased, named, AList.lookup_erase] at cached
        cases cached
      · rw [erased, AList.lookup_erase_ne named] at cached
        exact Or.inl cached
  · have applied : move.apply world.data world.shared = (data, next.shared) :=
      Option.some.inj moved
    have kept := @move_codes world.shared world.data move
    rw [applied] at kept
    exact Or.inl (kept.2 key entry cached)

theorem PlacedIn.step {key : String} (placed : PlacedIn world key)
    (stepped : step (body lib) world label = some next) : PlacedIn next key := by
  obtain ⟨index, call, located, set_⟩ := placed
  obtain ⟨later, there, _, grown⟩ := step_grows (body lib) stepped located
  exact ⟨index, later, there, set_.mono grown⟩

theorem asked_placed (stepped : step (body lib) world label = some next) {index : Nat}
    {call : AgentCall} {key : String} {data : CodeData} {stamp : Instant}
    (found : asking world label = some (index, call, ⟨.setCode key data, .ok (), stamp⟩)) :
    PlacedIn next key := by
  obtain ⟨later, there, _, traced⟩ := asking_asked (body lib) stepped found
  refine ⟨index, later, there, data, stamp, ?_⟩
  rw [traced]
  exact List.mem_cons_self

theorem tidy_step (disciplined : world.Disciplined Permitted Ends) (tidy : Tidy world)
    (stepped : step (body lib) world label = some next) : Tidy next := by
  constructor
  · intro index later code located drew
    obtain ⟨stamp, member⟩ := drew
    rcases step_event (body lib) stepped located member with ⟨call, there, _, before⟩ |
      ⟨call, found, _⟩
    · exact issued_step stepped (tidy.drawn index call code there ⟨stamp, before⟩)
    · obtain ⟨oracle, replied⟩ := asking_shared (body lib) stepped found
      exact (reply_token replied).2
  · intro left right leftLater rightLater code leftThere rightThere leftDrew rightDrew
    obtain ⟨leftStamp, leftMember⟩ := leftDrew
    obtain ⟨rightStamp, rightMember⟩ := rightDrew
    rcases step_event (body lib) stepped leftThere leftMember with ⟨leftCall, leftOld, _, leftBefore⟩ |
      ⟨leftCall, leftFound, _⟩
    · rcases step_event (body lib) stepped rightThere rightMember with
        ⟨rightCall, rightOld, _, rightBefore⟩ | ⟨rightCall, rightFound, _⟩
      · exact tidy.separate left right leftCall rightCall code leftOld rightOld
          ⟨leftStamp, leftBefore⟩ ⟨rightStamp, rightBefore⟩
      · obtain ⟨oracle, replied⟩ := asking_shared (body lib) stepped rightFound
        exact absurd (tidy.drawn left leftCall code leftOld ⟨leftStamp, leftBefore⟩)
          (reply_token replied).1
    · rcases step_event (body lib) stepped rightThere rightMember with
        ⟨rightCall, rightOld, _, rightBefore⟩ | ⟨rightCall, rightFound, _⟩
      · obtain ⟨oracle, replied⟩ := asking_shared (body lib) stepped leftFound
        exact absurd (tidy.drawn right rightCall code rightOld ⟨rightStamp, rightBefore⟩)
          (reply_token replied).1
      · rw [leftFound] at rightFound
        cases rightFound
        rfl
  · intro key entry cached
    rcases codes_step stepped cached with before | ⟨index, call, data, stamp, found⟩
    · exact (tidy.cached key entry before).step stepped
    · exact asked_placed stepped found
  · intro index later key located found
    obtain ⟨data, stamp, member⟩ := found
    rcases step_event (body lib) stepped located member with ⟨call, there, _, before⟩ |
      ⟨call, asked, _⟩
    · exact (tidy.placed index call key there ⟨data, stamp, before⟩).step stepped
    · obtain ⟨oracle, replied⟩ := asking_shared (body lib) stepped asked
      obtain ⟨expiry, cached⟩ := reply_found replied
      exact (tidy.cached key _ cached).step stepped
  · intro index later key located deleted
    obtain ⟨stamp, member⟩ := deleted
    rcases step_event (body lib) stepped located member with ⟨call, there, _, before⟩ |
      ⟨call, asked, _⟩
    · cases cached : next.shared.codes.lookup key with
      | none => rfl
      | some entry =>
          rcases codes_step stepped cached with old | ⟨setter, setting, data, at_, found⟩
          · rw [tidy.gone index call key there ⟨stamp, before⟩] at old
            cases old
          · obtain ⟨other, otherCall, located, placed⟩ := tidy.placed index call key there
              (deleted_found disciplined there ⟨stamp, before⟩)
            exact (never_set_again disciplined tidy found located placed).elim
    · obtain ⟨oracle, replied⟩ := asking_shared (body lib) stepped asked
      rw [reply_deleted replied, AList.lookup_erase]

/-- The call can still delete the code, or has. -/
def Alive (call : AgentCall) (key : String) : Prop :=
  (∃ program, call.phase = .running program) ∨ Deleted call.trace key

/-- Of the calls that have found a code, at most one gets to use it. -/
def Single (world : AgentWorld) : Prop :=
  ∀ (left right : Nat) (leftCall rightCall : AgentCall) (key : String), left ≠ right →
    world.calls[left]? = some leftCall → world.calls[right]? = some rightCall →
    Found leftCall.trace key → Found rightCall.trace key →
    Alive leftCall key → Alive rightCall key → False

/-- The call has read the code and is about to delete it. -/
def Between (call : AgentCall) (key : String) : Prop :=
  (∃ program, call.phase = .running program) ∧ Found call.trace key ∧ ¬ Deleted call.trace key

/-- No code is found in the cache while another call is between reading and deleting it. -/
def ReadsAlone (world : AgentWorld) (label : AgentLabel) : Prop :=
  ∀ (index : Nat) (call : AgentCall) (key : String) (data : CodeData) (stamp : Instant),
    asking world label = some (index, call, ⟨.getCode key, .ok (some data), stamp⟩) →
    ∀ (other : Nat) (otherCall : AgentCall), other ≠ index →
      world.calls[other]? = some otherCall → ¬ Between otherCall key

theorem alive_before (stepped : step (body lib) world label = some next) {index : Nat}
    {call later : AgentCall} {key : String} (there : world.calls[index]? = some call)
    (located : next.calls[index]? = some later) (found : Found later.trace key)
    (alive : Alive later key) : Alive call key := by
  rcases alive with ⟨program, running⟩ | ⟨stamp, member⟩
  · rcases step_running (body lib) stepped located running with ⟨old, before, same, _, ran⟩ | empty
    · rw [there] at same
      cases same
      exact Or.inl ⟨before, ran⟩
    · obtain ⟨data, stamp, member⟩ := found
      rw [empty] at member
      cases member
  · rcases step_event (body lib) stepped located member with ⟨old, same, _, before⟩ | ⟨old, asked, _⟩
    · rw [there] at same
      cases same
      exact Or.inr ⟨stamp, before⟩
    · obtain ⟨same, _, ⟨after, ran⟩, _⟩ := asking_located asked
      rw [there] at same
      cases same
      exact Or.inl ⟨_, ran⟩

/-- A call that finds a code is the only one that gets to use it. -/
theorem found_alone (tidy : Tidy world)
    (alone : ReadsAlone world label) (stepped : step (body lib) world label = some next)
    {index other : Nat} {call otherCall : AgentCall} {key : String} {data : CodeData}
    {stamp : Instant}
    (asked : asking world label = some (index, call, ⟨.getCode key, .ok (some data), stamp⟩))
    (distinct : other ≠ index) (located : world.calls[other]? = some otherCall)
    (found : Found otherCall.trace key) (alive : Alive otherCall key) : False := by
  obtain ⟨oracle, replied⟩ := asking_shared (body lib) stepped asked
  obtain ⟨expiry, cached⟩ := reply_found replied
  have kept (deleted : Deleted otherCall.trace key) : False := by
    rw [tidy.gone other otherCall key located deleted] at cached
    cases cached
  rcases alive with running | deleted
  · exact alone index call key data stamp asked other otherCall distinct located
      ⟨running, found, kept⟩
  · exact kept deleted

theorem single_step (tidy : Tidy world) (single : Single world) (alone : ReadsAlone world label)
    (stepped : step (body lib) world label = some next) : Single next := by
  intro left right leftLater rightLater key distinct leftThere rightThere leftFound rightFound
    leftAlive rightAlive
  have leftFull := leftFound
  have rightFull := rightFound
  obtain ⟨leftData, leftStamp, leftMember⟩ := leftFound
  obtain ⟨rightData, rightStamp, rightMember⟩ := rightFound
  rcases step_event (body lib) stepped leftThere leftMember with ⟨leftCall, leftOld, _, leftBefore⟩ |
    ⟨leftCall, leftAsked, _⟩
  · have leftWas := alive_before stepped leftOld leftThere leftFull leftAlive
    rcases step_event (body lib) stepped rightThere rightMember with
      ⟨rightCall, rightOld, _, rightBefore⟩ | ⟨rightCall, rightAsked, _⟩
    · exact single left right leftCall rightCall key distinct leftOld rightOld
        ⟨leftData, leftStamp, leftBefore⟩ ⟨rightData, rightStamp, rightBefore⟩ leftWas
        (alive_before stepped rightOld rightThere rightFull rightAlive)
    · exact found_alone tidy alone stepped rightAsked distinct leftOld
        ⟨leftData, leftStamp, leftBefore⟩ leftWas
  · rcases step_event (body lib) stepped rightThere rightMember with
      ⟨rightCall, rightOld, _, rightBefore⟩ | ⟨rightCall, rightAsked, _⟩
    · exact found_alone tidy alone stepped leftAsked (Ne.symm distinct) rightOld
        ⟨rightData, rightStamp, rightBefore⟩
        (alive_before stepped rightOld rightThere rightFull rightAlive)
    · rw [leftAsked] at rightAsked
      cases rightAsked
      exact distinct rfl

end Steps

/-! ### What a code leads to -/

/-- The registrations that a call has inserted for the code. -/
def registrationsFor (code : String) (call : AgentCall) : List AgentRegistration :=
  match call.origin.endpoint with
  | .validatePairingCode arguments =>
      if arguments.pairingCode == code then call.trace.filterMap inserted else []
  | _ => []

/-- The site token that a call has answered with for the code. -/
def tokensFor (code : String) (call : AgentCall) : List String :=
  match call.origin.endpoint, call.phase with
  | .validatePairingCode arguments, .ended (.ok (.paired response)) =>
      if arguments.pairingCode == code then [response.siteToken] else []
  | _, _ => []

section Counting

variable {origin : Origin} {trace : AgentTrace}

theorem inserted_once (honours : Honours (Permitted origin) trace) :
    (trace.filterMap inserted).length ≤ 1 := by
  induction trace with
  | nil => exact Nat.zero_le 1
  | cons event earlier ih =>
      rw [List.filterMap_cons]
      cases shown : inserted event with
      | none => exact ih honours.2
      | some row =>
          -- An insertion is the first one of its call.
          have first : earlier.filterMap inserted = [] := by
            rw [List.filterMap_eq_nil_iff]
            intro before member
            obtain ⟨operation, given, stamp⟩ := event
            cases operation with
            | insertRegistration other =>
                have quiet := honours.1.2 before member
                obtain ⟨operation, given, stamp⟩ := before
                cases operation <;> first | rfl | cases quiet
            | _ => cases shown
          rw [first]
          exact Nat.le_refl 1

theorem inserted_deleted (honours : Honours (Permitted origin) trace)
    (nonempty : trace.filterMap inserted ≠ []) : ∃ arguments,
      origin.endpoint = .validatePairingCode arguments ∧
      Deleted trace (pairingKey arguments.pairingCode) := by
  obtain ⟨row, member⟩ := List.exists_mem_of_ne_nil _ nonempty
  obtain ⟨⟨operation, given, stamp⟩, asked, shown⟩ := List.mem_filterMap.mp member
  cases operation with
  | insertRegistration other =>
      obtain ⟨earlier, suffix, ⟨arguments, endpoint, deleted⟩, _⟩ := honours.of_mem asked
      exact ⟨arguments, endpoint, Deleted.mono deleted ((List.suffix_cons _ _).trans suffix)⟩
  | _ => cases shown

end Counting

section Worlds

variable {world : AgentWorld} {index : Nat} {call : AgentCall} {code : String}

theorem registrationsFor_deleted (disciplined : world.Disciplined Permitted Ends)
    (located : world.calls[index]? = some call) (nonempty : registrationsFor code call ≠ []) :
    Deleted call.trace (pairingKey code) := by
  unfold registrationsFor at nonempty
  split at nonempty
  · rename_i arguments endpoint
    split at nonempty
    · rename_i same
      obtain ⟨other, named, deleted⟩ :=
        inserted_deleted (disciplined_running disciplined located) nonempty
      rw [endpoint] at named
      cases named
      rw [← beq_iff_eq.mp same]
      exact deleted
    · exact absurd rfl nonempty
  · exact absurd rfl nonempty

theorem tokensFor_deleted (disciplined : world.Disciplined Permitted Ends)
    (located : world.calls[index]? = some call) (nonempty : tokensFor code call ≠ []) :
    Deleted call.trace (pairingKey code) := by
  unfold tokensFor at nonempty
  split at nonempty
  · rename_i arguments response endpoint ended
    split at nonempty
    · rename_i same
      have ends := (disciplined index call located).2
      rw [ended] at ends
      obtain ⟨other, named, deleted⟩ := ends response rfl
      rw [endpoint] at named
      cases named
      rw [← beq_iff_eq.mp same]
      exact deleted
    · exact absurd rfl nonempty
  · exact absurd rfl nonempty

/-- What only a call can have that has deleted the code, is there at most once. -/
theorem deleted_once (code : String) {Part : Type} {parts : AgentCall → List Part}
    (disciplined : world.Disciplined Permitted Ends) (single : Single world)
    (short : ∀ call ∈ world.calls, (parts call).length ≤ 1)
    (deleted : ∀ (index : Nat) (call : AgentCall), world.calls[index]? = some call →
      parts call ≠ [] → Deleted call.trace (pairingKey code)) :
    (world.calls.flatMap parts).length ≤ 1 := by
  apply length_flatMap_le_one short
  intro left right leftCall rightCall distinct leftThere rightThere leftSome rightSome
  have leftGone := deleted left leftCall leftThere leftSome
  have rightGone := deleted right rightCall rightThere rightSome
  exact single left right leftCall rightCall (pairingKey code) distinct leftThere rightThere
    (deleted_found disciplined leftThere leftGone) (deleted_found disciplined rightThere rightGone)
    (Or.inr leftGone) (Or.inr rightGone)

end Worlds

/-- As long as no code is read while another call is between reading and deleting
it, every code leads to one registration and to one site token. -/
theorem pairing_code_used_once (lib : Libraries) (database : Database) (now : Instant)
    (labels : List AgentLabel) (world : AgentWorld)
    (alone : Along (body lib) ReadsAlone (installed database now) labels)
    (reached : run (body lib) (installed database now) labels = some world) (code : String) :
    (world.calls.flatMap (registrationsFor code)).length ≤ 1 ∧
      (world.calls.flatMap (tokensFor code)).length ≤ 1 := by
  have started : (installed database now).Disciplined Permitted Ends ∧
      Tidy (installed database now) ∧ Single (installed database now) := by
    refine ⟨?_, ?_, ?_⟩
    · intro index call located
      cases located
    · constructor
      · intro index call code located
        cases located
      · intro left right leftCall rightCall code located
        cases located
      · intro key entry cached
        cases cached
      · intro index call key located
        cases located
      · intro index call key located
        cases located
    · intro left right leftCall rightCall key _ located
      cases located
  have preserved (world : AgentWorld) (label : AgentLabel) (next : AgentWorld)
      (held : world.Disciplined Permitted Ends ∧ Tidy world ∧ Single world)
      (alone : ReadsAlone world label) (stepped : step (body lib) world label = some next) :
      next.Disciplined Permitted Ends ∧ Tidy next ∧ Single next :=
    ⟨disciplined_step (body lib) body_follows held.1 stepped,
      tidy_step held.1 held.2.1 stepped, single_step held.2.1 held.2.2 alone stepped⟩
  obtain ⟨disciplined, _, single⟩ := run_invariant (body lib) preserved started alone reached
  constructor
  · apply deleted_once code disciplined single _ fun index call located =>
      registrationsFor_deleted disciplined located
    intro call member
    obtain ⟨index, located⟩ := List.mem_iff_getElem?.mp member
    unfold registrationsFor
    split
    · split
      · exact inserted_once (disciplined_running disciplined located)
      · exact Nat.zero_le 1
    · exact Nat.zero_le 1
  · apply deleted_once code disciplined single _ fun index call located =>
      tokensFor_deleted disciplined located
    intro call _
    unfold tokensFor
    split
    · split
      · exact Nat.le_refl 1
      · exact Nat.zero_le 1
    · exact Nat.zero_le 1

/-! ### Two runs -/

def agentLibraries : Libraries :=
  { toLibraries := sampleLibraries
    certificateFields := fun _ => .error ⟨"ValueError", "not a certificate"⟩ }

def emptySite : Database :=
  { registrations := ∅
    profiles := ∅
    hmacSecret := some "secret"
    roles := fun _ => [] }

def handing (fresh : String) : Oracle := ⟨none, 0, fun _ => fresh, fresh⟩

def generates : Origin := ⟨"alice", .generatePairingCode none⟩

def validates : Origin := ⟨"Guest", .validatePairingCode ⟨"CODE", "FP", none, none⟩⟩

/-- One question after another of the same call, each with its own fresh name. -/
def hands (index : Nat) (names : List String) : List AgentLabel :=
  names.map fun fresh => .ask index (handing fresh)

/-- Alice generates a code; an agent uses it, and then another one tries. -/
def oneAfterAnother : List AgentLabel :=
  .start generates :: hands 0 ["CODE", "", ""] ++ [.finish 0] ++
    .start validates :: hands 1 ["", "", "TOKEN-1", "", "", "AGENT-1", "", "", ""] ++ [.finish 1] ++
    [.start validates, .ask 2 (handing ""), .finish 2]

/-- Two agents read the code before either deletes it. -/
def bothAtOnce : List AgentLabel :=
  .start generates :: hands 0 ["CODE", "", ""] ++ [.finish 0] ++
    [.start validates, .start validates, .ask 1 (handing ""), .ask 2 (handing "")] ++
    hands 1 ["", "TOKEN-1", "", "", "AGENT-1", "", "", ""] ++ [.finish 1] ++
    hands 2 ["", "TOKEN-2", "", "", "AGENT-2", "", "", ""] ++ [.finish 2]

/-- A check of `ReadsAlone`: all other calls have ended. -/
def othersEnded (world : AgentWorld) (label : AgentLabel) : Bool :=
  match asking world label with
  | some (index, _, _) => (List.range world.calls.length).all fun other =>
      other == index || match world.calls[other]? with
        | some ⟨_, _, .running _⟩ => false
        | _ => true
  | none => true

theorem othersEnded_alone (world : AgentWorld) (label : AgentLabel)
    (checked : othersEnded world label = true) : ReadsAlone world label := by
  intro index call key data stamp asked other otherCall distinct located between
  obtain ⟨⟨program, running⟩, _⟩ := between
  obtain ⟨origin, trace, phase⟩ := otherCall
  cases running
  unfold othersEnded at checked
  rw [asked] at checked
  have bound := (List.getElem?_eq_some_iff.mp located).1
  have ended := List.all_eq_true.mp checked other (List.mem_range.mpr bound)
  simp only [located, Bool.or_false, beq_iff_eq] at ended
  exact distinct ended

theorem pairing_code_used_once_sample :
    ∃ world, run (body agentLibraries) (installed emptySite 0) oneAfterAnother = some world ∧
      world.calls.flatMap (tokensFor "CODE") = ["TOKEN-1"] ∧
      (world.calls.flatMap (registrationsFor "CODE")).length ≤ 1 := by
  have ends : (run (body agentLibraries) (installed emptySite 0) oneAfterAnother).map
      (fun world => world.calls.flatMap (tokensFor "CODE")) = some ["TOKEN-1"] := by
    decide +kernel
  obtain ⟨world, reached, tokens⟩ := Option.map_eq_some_iff.mp ends
  have alone : alongCheck (body agentLibraries) othersEnded (installed emptySite 0)
      oneAfterAnother = true := by
    decide +kernel
  have once := pairing_code_used_once agentLibraries emptySite 0 oneAfterAnother world
    (along_of_check (body agentLibraries) othersEnded_alone
      (along_check (body agentLibraries) alone)) reached "CODE"
  exact ⟨world, reached, tokens, once.1⟩

/-- Both agents get registered and receive a token. -/
theorem pairing_code_used_twice :
    ∃ world, run (body agentLibraries) (installed emptySite 0) bothAtOnce = some world ∧
      (world.calls.flatMap (registrationsFor "CODE")).length = 2 ∧
      world.calls.flatMap (tokensFor "CODE") = ["TOKEN-1", "TOKEN-2"] := by
  have ends : (run (body agentLibraries) (installed emptySite 0) bothAtOnce).map
      (fun world => ((world.calls.flatMap (registrationsFor "CODE")).length,
        world.calls.flatMap (tokensFor "CODE"))) = some (2, ["TOKEN-1", "TOKEN-2"]) := by
    decide +kernel
  obtain ⟨world, reached, counted⟩ := Option.map_eq_some_iff.mp ends
  simp only [Prod.mk.injEq] at counted
  exact ⟨world, reached, counted.1, counted.2⟩

end DscSigning.AgentApi
