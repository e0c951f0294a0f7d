/-
The check of the signer in `initiate` against the document-level policy.

The endpoint asks for the write permission without a document, so the role
table alone answers; the hook that compares the signer with the document is not
consulted.  The two agree except for a DSC Signer who is not the expected one.
-/

import DscSigning.Library.Alone
import DscSigning.Server.Provenance

namespace DscSigning

open Interaction Engine

/-! ### The policy -/

/-- Who may sign a request with a profile: the expected signer, or whoever the
hook grants the write permission, and of these the ones the profile lists. -/
structure Policy (row : SigningRequest) (user : String) (roles : List Role)
    (allowedUsers : List Text) : Prop where
  signer : row.expectedSignerUser = some user ∨ requestHasPermission row .write user roles = true
  listed : allowedUsers = [] ∨ some user ∈ allowedUsers

/-- The rows of a list of allowed users that let the user pass. -/
def Open (user : String) (allowedUsers : List Text) : Prop :=
  (∀ entry ∈ allowedUsers, entry.given = false) ∨ some user ∈ allowedUsers.filter Text.given

/-- A DSC Signer who is not the expected one and whose other roles grant nothing. -/
structure Stranger (row : SigningRequest) (user : String) (roles : List Role) : Prop where
  other : row.expectedSignerUser ≠ some user
  signer : .dscSigner ∈ roles
  noAdministrator : .dscAdministrator ∉ roles
  noManager : .systemManager ∉ roles

/-- Someone signs a request with a list of rows that name no user. -/
structure BlankList (row : SigningRequest) (user : String) (roles : List Role)
    (allowedUsers : List Text) : Prop where
  passes : row.expectedSignerUser = some user ∨ .dscSigner ∈ roles ∨ .dscAdministrator ∈ roles ∨
    .systemManager ∈ roles
  rows : allowedUsers ≠ []
  blank : ∀ entry ∈ allowedUsers, entry.given = false
  unlisted : some user ∉ allowedUsers

theorem hasPermission_write {roles : List Role} :
    hasPermission roles .write = true ↔
      .dscSigner ∈ roles ∨ .dscAdministrator ∈ roles ∨ .systemManager ∈ roles := by
  simp only [hasPermission, List.any_eq_true]
  constructor
  · rintro ⟨role, member, grants⟩
    cases role with
    | dscSigner => exact Or.inl member
    | dscAdministrator => exact Or.inr (Or.inl member)
    | systemManager => exact Or.inr (Or.inr member)
    | dscAuditor => cases grants
    | other _ => cases grants
  · rintro (member | member | member)
    · exact ⟨_, member, rfl⟩
    · exact ⟨_, member, rfl⟩
    · exact ⟨_, member, rfl⟩

theorem allows_iff {profile : Profile} {user : String} :
    profile.allows user = true ↔ Open user profile.allowedUsers := by
  simp only [Profile.allows, Profile.allowed, Open, Bool.or_eq_true, List.isEmpty_iff,
    List.filter_eq_nil_iff, Bool.not_eq_true, List.contains_iff_mem]

/-- What the endpoint checks is the policy but for strangers and blank lists. -/
theorem checks_policy {row : SigningRequest} {user : String} {roles : List Role}
    {allowedUsers : List Text}
    (signer : row.expectedSignerUser = some user ∨ hasPermission roles .write = true)
    (listed : Open user allowedUsers) :
    Policy row user roles allowedUsers ↔
      ¬ (Stranger row user roles ∨ BlankList row user roles allowedUsers) := by
  rw [hasPermission_write] at signer
  constructor
  · rintro ⟨granted, named⟩ (⟨other, _, noAdministrator, noManager⟩ | ⟨_, rows, _, unlisted⟩)
    · simp only [requestHasPermission, Bool.or_eq_true, List.contains_iff_mem, Bool.and_eq_true,
        beq_iff_eq] at granted
      rcases granted with own | (administrator | manager) | ⟨_, own⟩
      · exact other own
      · exact noAdministrator administrator
      · exact noManager manager
      · exact other own
    · rcases named with empty | member
      · exact rows empty
      · exact unlisted member
  · intro agreed
    rw [not_or] at agreed
    refine ⟨?_, ?_⟩
    · by_contra refused
      rw [not_or, Bool.not_eq_true] at refused
      simp only [requestHasPermission, Bool.or_eq_false_iff] at refused
      obtain ⟨other, ⟨administrator, manager⟩, _⟩ := refused
      have noAdministrator : Role.dscAdministrator ∉ roles := by simpa using administrator
      have noManager : Role.systemManager ∉ roles := by simpa using manager
      rcases signer with own | member | member | member
      · exact other own
      · exact agreed.1 ⟨other, member, noAdministrator, noManager⟩
      · exact noAdministrator member
      · exact noManager member
    · by_contra refused
      rw [not_or] at refused
      rcases listed with blank | member
      · exact agreed.2 ⟨signer, refused.1, blank, refused.2⟩
      · exact refused.2 (List.mem_of_mem_filter member)

/-! ### What a call was told -/

/-- The answers of a call agree with a request, an assignment of roles and a list. -/
def Agrees (row : SigningRequest) (roles : List Role) (allowedUsers : List Text) :
    ServerEvent → Prop
  | ⟨.findPending .., .ok (some found), _⟩ => found.expectedSignerUser = row.expectedSignerUser
  | ⟨.getRoles _, .ok told, _⟩ => told = roles
  | ⟨.getProfile _, .ok profile, _⟩ => profile.allowedUsers = allowedUsers
  | _ => True

theorem Agrees.found {row : SigningRequest} {roles : List Role} {allowedUsers : List Text}
    {trace : ServerTrace} (agrees : ∀ event ∈ trace, Agrees row roles allowedUsers event)
    {doctype docname : String} {found : PendingRequest}
    (told : Answered trace (.findPending doctype docname) (some found)) :
    found.expectedSignerUser = row.expectedSignerUser := by
  obtain ⟨_, member⟩ := told
  exact agrees _ member

/-- The checks behind a stored session, for what the call was told. -/
theorem authorised_checks {origin : Origin} {trace : ServerTrace} {sessionId : String}
    {session : SigningSession} {row : SigningRequest} {roles : List Role}
    {allowedUsers : List Text} (set : row.expectedSignerUser.given = true)
    (agrees : ∀ event ∈ trace, Agrees row roles allowedUsers event)
    (authorised : Authorised origin trace sessionId session) :
    (row.expectedSignerUser = some origin.ctx.user ∨ hasPermission roles .write = true) ∧
      Open origin.ctx.user allowedUsers := by
  obtain ⟨arguments, found, _, told, signer, ⟨profile, ⟨_, given⟩, _, allowed⟩, _⟩ := authorised
  have same := Agrees.found agrees told
  refine ⟨?_, ?_⟩
  · rw [SignerChecked, same] at signer
    rcases signer with unset | own | ⟨answered, ⟨_, asked⟩, granted⟩
    · rw [set] at unset
      cases unset
    · exact Or.inl own
    · have answer : answered = roles := agrees _ asked
      rw [answer] at granted
      exact Or.inr granted
  · have listed : profile.allowedUsers = allowedUsers := agrees _ given
    rw [← listed]
    exact allows_iff.mp allowed

/-! ### A run that stores a session -/

/-- A site with these roles and this list, and a pending request with this signer. -/
def policyProfile (allowedUsers : List Text) : Profile :=
  { profileName := "P-1"
    label := some "Director"
    isActive := true
    allowedUsers := allowedUsers
    certificateFingerprint := none
    certificateCommonName := some "A Signer"
    certificateNotAfter := none
    designationForStamp := none }

def policyMasters (roles : List Role) (allowedUsers : List Text) : Masters :=
  { sampleMasters with
    profile := fun _ => some (policyProfile allowedUsers)
    roles := fun _ => roles }

def policyRequest (row : SigningRequest) : NewRequest :=
  { sampleRequest with expectedSignerUser := row.expectedSignerUser }

def policySite (row : SigningRequest) (roles : List Role) (allowedUsers : List Text) :
    ServerWorld :=
  { installed (policyMasters roles allowedUsers) 0 0 with
    data :=
      { (installed (policyMasters roles allowedUsers) 0 0).data with
        requests := (∅ : Table String SigningRequest).insert "SR-1" ((policyRequest row).row 0) } }

section Walk

variable {row : SigningRequest} {roles : List Role} {allowedUsers : List Text}

/-- A call whose answers agree has stored a session. -/
def Stores (row : SigningRequest) (roles : List Role) (allowedUsers : List Text)
    (trace : ServerTrace) : Prop :=
  trace.any storesSession = true ∧ ∀ event ∈ trace, Agrees row roles allowedUsers event

/-- A call so far: what it sees, and that its answers agree. -/
structure Walked (row : SigningRequest) (roles : List Role) (allowedUsers : List Text)
    (data view : Database) (trace : ServerTrace) : Prop where
  sees : site.view data (site.pending trace) = view
  agrees : ∀ event ∈ trace, Agrees row roles allowedUsers event

/-- One question that agrees, answered by the sample oracle. -/
theorem stores_ask {Result : Type} {operation : Operation} {data view : Database}
    {shared : Shared} {trace : ServerTrace} {next : operation.Answer → Server Result}
    {given : operation.Answer} {later : Shared}
    (walked : Walked row roles allowedUsers data view trace) (statement : operation ≠ .commit)
    (answered : answer (sampleOracle "S-1" "") view shared operation = some (.ok given, later))
    (agrees : Agrees row roles allowedUsers ⟨operation, .ok given, shared.now⟩)
    (beyond : Walked row roles allowedUsers data
        (site.view view (effects ⟨operation, .ok given, shared.now⟩))
        (⟨operation, .ok given, shared.now⟩ :: trace) →
      @Reaches face site Result (Stores row roles allowedUsers) (next given) data later
        (⟨operation, .ok given, shared.now⟩ :: trace)) :
    @Reaches face site Result (Stores row roles allowedUsers) ((ask operation).bind next) data
      shared trace := by
  have uncommitted : commits ⟨operation, .ok given, shared.now⟩ = false := by
    cases operation <;> first | rfl | exact absurd rfl statement
  rw [← walked.sees] at answered beyond
  have settled : @settle face site data trace ⟨operation, .ok given, shared.now⟩ = data := by
    simp only [settle, uncommitted, Bool.false_eq_true, if_false]
  refine Reaches.perform (sampleOracle "S-1" "") answered ?_
  rw [settled]
  refine beyond ⟨?_, ?_⟩
  · rw [view_pending uncommitted]
  · rintro event (_ | ⟨_, member⟩)
    · exact agrees
    · exact walked.agrees event member

theorem checkSigner_reaches {Result : Type} {ctx : Context} {found : PendingRequest}
    {next : Unit → Server Result} {data view : Database} {shared : Shared} {trace : ServerTrace}
    (walked : Walked row roles allowedUsers data view trace)
    (same : found.expectedSignerUser = row.expectedSignerUser)
    (assigned : view.masters.roles ctx.user = roles)
    (signer : row.expectedSignerUser = some ctx.user ∨ hasPermission roles .write = true)
    (beyond : ∀ trace, Walked row roles allowedUsers data view trace →
      @Reaches face site Result (Stores row roles allowedUsers) (next ()) data shared trace) :
    @Reaches face site Result (Stores row roles allowedUsers) ((checkSigner ctx found).bind next)
      data shared trace := by
  unfold checkSigner
  split
  · rename_i asks
    have granted : hasPermission roles .write = true := by
      rcases signer with own | granted
      · rw [same, own] at asks
        simp at asks
      · exact granted
    rw [Program.bind_eq, Program.bind_assoc]
    refine stores_ask walked (by simp) (by simp only [answer, assigned]; rfl) rfl ?_
    intro walked
    exact Reaches.demand granted (beyond _ walked)
  · exact beyond trace walked

/-- The expected signer, and whoever has the role permission, comes as far as a
session, if the list lets the user pass. -/
theorem initiate_stores {user : String}
    (signer : row.expectedSignerUser = some user ∨ hasPermission roles .write = true)
    (listed : Open user allowedUsers) :
    @Reaches face site Response (Stores row roles allowedUsers)
      (body sampleLibraries ⟨sampleUser user, .initiate sampleInitiate⟩)
      (policySite row roles allowedUsers).data (policySite row roles allowedUsers).shared [] := by
  have walked : Walked row roles allowedUsers (policySite row roles allowedUsers).data
      (policySite row roles allowedUsers).data [] := ⟨rfl, by simp⟩
  have pending : answer (sampleOracle "S-1" "") (policySite row roles allowedUsers).data
      (policySite row roles allowedUsers).shared
      (.findPending sampleInitiate.doctype sampleInitiate.docname) =
        some (.ok (some ⟨"SR-1", "P-1", none, row.expectedSignerUser⟩),
          (policySite row roles allowedUsers).shared) := rfl
  refine Reaches.bind (Reaches.demand (by decide) ?_)
  refine stores_ask walked (by simp) pending rfl ?_
  intro walked
  refine checkSigner_reaches walked rfl rfl signer ?_
  intro trace walked
  refine stores_ask walked (by simp) rfl rfl ?_
  intro walked
  have checked : checkProfile sampleLibraries (sampleUser user) (policyProfile allowedUsers) =
      .done () := by
    have allows : (policyProfile allowedUsers).allows user = true := allows_iff.mpr listed
    simp only [checkProfile, sampleUser, allows]
    rfl
  refine Reaches.skip checked ?_
  refine stores_ask walked (by simp) rfl trivial ?_
  intro walked
  refine Reaches.demand rfl ?_
  refine Reaches.skip rfl (Reaches.skip rfl (Reaches.skip rfl ?_))
  -- The print format: no rule is fetched, so the default of the DocType.
  refine Reaches.assoc (Reaches.skip rfl (Reaches.assoc ?_))
  refine stores_ask walked (by simp) rfl trivial ?_
  intro walked
  refine Reaches.skip rfl (Reaches.skip rfl ?_)
  refine stores_ask walked (by simp) rfl trivial ?_
  intro walked
  refine Reaches.assoc ?_
  refine stores_ask walked (by simp) rfl trivial ?_
  intro walked
  refine Reaches.skip rfl (Reaches.skip rfl (Reaches.skip rfl (Reaches.bind ?_)))
  refine stores_ask walked (by simp) rfl trivial ?_
  intro walked
  refine stores_ask walked (by simp) rfl trivial ?_
  intro walked
  -- The stamp text reads the settings twice.
  refine Reaches.assoc (Reaches.assoc ?_)
  refine stores_ask walked (by simp) rfl trivial ?_
  intro walked
  refine Reaches.skip rfl (Reaches.assoc (Reaches.assoc ?_))
  refine stores_ask walked (by simp) rfl trivial ?_
  intro walked
  refine Reaches.skip rfl (Reaches.skip rfl ?_)
  refine stores_ask walked (by simp) rfl trivial ?_
  intro walked
  refine Reaches.skip rfl ?_
  refine stores_ask walked (by simp) rfl trivial ?_
  intro walked
  refine stores_ask walked (by simp) rfl trivial ?_
  intro walked
  refine stores_ask walked (by simp) rfl trivial ?_
  intro walked
  refine stores_ask walked (by simp) rfl trivial ?_
  intro walked
  exact Reaches.here ⟨rfl, walked.agrees⟩

end Walk

/-! ### The endpoint against the policy -/

theorem storesSession_event {event : ServerEvent} (stores : storesSession event = true) :
    ∃ sessionId session stamp, event = ⟨.storeSession sessionId session, .ok (), stamp⟩ := by
  obtain ⟨operation, reply, stamp⟩ := event
  cases operation <;> cases reply <;> cases stores
  exact ⟨_, _, stamp, rfl⟩

/-- In every run every session that the user gets created agrees with the policy,
exactly if the user is not a stranger whom the list lets pass, and the list does not
consist of rows without a user. -/
theorem signer_check_policy_iff (row : SigningRequest) (user : String) (roles : List Role)
    (allowedUsers : List Text) (set : row.expectedSignerUser.given = true) :
    (∀ lib masters now zone labels world call,
      run (body lib) (installed masters now zone) labels = some world → call ∈ world.calls →
      call.origin.ctx.user = user → call.trace.any storesSession = true →
      (∀ event ∈ call.trace, Agrees row roles allowedUsers event) →
      Policy row user roles allowedUsers) ↔
    ¬ (Stranger row user roles ∧ Open user allowedUsers ∨
      BlankList row user roles allowedUsers) := by
  constructor
  · intro agrees
    have policy (signer : row.expectedSignerUser = some user ∨ hasPermission roles .write = true)
        (listed : Open user allowedUsers) : Policy row user roles allowedUsers := by
      have idle : (policySite row roles allowedUsers).Idle := by
        intro index call located
        cases located
      obtain ⟨oracles, last, later, ran, located, origin, stores, told⟩ :=
        start_reaches idle (initiate_stores signer listed)
      refine agrees sampleLibraries (policyMasters roles allowedUsers) 0 0
        (.move (.createRequest "SR-1" (policyRequest row)) :: .start _ :: oracles.map (.ask 0)) last
        later ran (List.mem_of_getElem? located) ?_ stores told
      rw [origin]
      rfl
    rintro (⟨stranger, listed⟩ | blank)
    · have granted : hasPermission roles .write = true :=
        hasPermission_write.mpr (Or.inl stranger.signer)
      exact ((checks_policy (Or.inr granted) listed).mp (policy (Or.inr granted) listed))
        (Or.inl stranger)
    · have listed : Open user allowedUsers := Or.inl blank.blank
      have signer : row.expectedSignerUser = some user ∨ hasPermission roles .write = true := by
        rw [hasPermission_write]
        exact blank.passes
      exact ((checks_policy signer listed).mp (policy signer listed)) (Or.inr blank)
  · intro agreed lib masters now zone labels world call reached member same stores told
    subst same
    obtain ⟨index, inside, rfl⟩ := List.getElem_of_mem member
    have located := List.getElem?_eq_getElem inside
    obtain ⟨event, asked, storing⟩ := List.any_eq_true.mp stores
    obtain ⟨sessionId, session, stamp, rfl⟩ := storesSession_event storing
    obtain ⟨traced, _⟩ := run_traced (fun _ => True) trivial (fun _ _ _ _ _ _ _ => trivial)
      (along_always (body lib)) reached
    obtain ⟨owner, earlier, ownerAt, suffix, authorised⟩ :=
      traced.authorised ⟨stamp, _, located, asked⟩
    rw [located] at ownerAt
    cases ownerAt
    obtain ⟨signer, listed⟩ := authorised_checks set
      (fun event before => told event (suffix.subset before)) authorised
    refine (checks_policy signer listed).mpr ?_
    rintro (stranger | blank)
    · exact agreed (Or.inl ⟨stranger, listed⟩)
    · exact agreed (Or.inr blank)

theorem signer_check_policy_alice :
    (∀ lib masters now zone labels world call,
      run (body lib) (installed masters now zone) labels = some world → call ∈ world.calls →
      call.origin.ctx.user = "alice" → call.trace.any storesSession = true →
      (∀ event ∈ call.trace, Agrees (sampleRequest.row 0) [.dscSigner] [] event) →
      Policy (sampleRequest.row 0) "alice" [.dscSigner] []) ↔
    ¬ (Stranger (sampleRequest.row 0) "alice" [.dscSigner] ∧ Open "alice" [] ∨
      BlankList (sampleRequest.row 0) "alice" [.dscSigner] []) :=
  signer_check_policy_iff (sampleRequest.row 0) "alice" [.dscSigner] [] (by decide)

/-- Bob, a DSC Signer, creates a session for the request that expects Alice. -/
def strangerSigning : List ServerLabel :=
  [.move (.createRequest "SR-1" sampleRequest),
    .start ⟨sampleUser "bob", .initiate sampleInitiate⟩] ++
  asks 0 18 (sampleOracle "S-1" "")

theorem stranger_creates_session :
    ∃ world call,
      run (body sampleLibraries) (installed (policyMasters [.dscSigner] []) 0 0) strangerSigning =
        some world ∧
      call ∈ world.calls ∧ call.origin.ctx.user = "bob" ∧ call.trace.any storesSession = true ∧
      world.data.requests.lookup "SR-1" ≠ none ∧
      (sampleRequest.row 0).expectedSignerUser = some "alice" ∧
      requestHasPermission (sampleRequest.row 0) .write "bob" [.dscSigner] = false := by
  have ends : ((run (body sampleLibraries) (installed (policyMasters [.dscSigner] []) 0 0)
      strangerSigning).bind fun world =>
        (world.calls[0]?).map fun call =>
          call.origin.ctx.user == "bob" && call.trace.any storesSession &&
            (world.data.requests.lookup "SR-1").isSome) = some true := by
    decide +kernel
  simp only [Option.bind_eq_some_iff, Option.map_eq_some_iff, Bool.and_eq_true, beq_iff_eq,
    Option.isSome_iff_ne_none] at ends
  obtain ⟨world, reached, call, located, ⟨user, stores⟩, present⟩ := ends
  exact ⟨world, call, reached, List.mem_of_getElem? located, user, stores, present, rfl, by decide⟩

end DscSigning
