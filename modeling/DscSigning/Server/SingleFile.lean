/-
At most one signed PDF for a request.

`initiate` reads that a request is pending and stores a session for it later,
`finalize` reads the session and deletes it later, and a stale request is
recovered while its session still lives.  One file is saved where none of these
gaps is entered.
-/

import DscSigning.Server.SignedFiles

namespace DscSigning

open Interaction Program Engine

variable {lib : Libraries}

/-! ### Taking a session -/

def loadsSession : ServerEvent → Bool
  | ⟨.loadSession _, .ok (some _), _⟩ => true
  | _ => false

/-- `finalize` asks for its session twice and deletes it the second time: the
session it has been given then. -/
def Taken (trace : ServerTrace) (sessionId : String) (session : SigningSession) : Prop :=
  ∃ earlier stamp,
    (⟨.loadSession sessionId, .ok (some session), stamp⟩ : ServerEvent) :: earlier <:+ trace ∧
      earlier.any loadsSession = true

theorem Taken.mono {trace later : ServerTrace} {sessionId : String} {session : SigningSession}
    (taken : Taken trace sessionId session) (suffix : trace <:+ later) :
    Taken later sessionId session := by
  obtain ⟨earlier, stamp, within, loaded⟩ := taken
  exact ⟨earlier, stamp, within.trans suffix, loaded⟩

theorem Taken.before {event : ServerEvent} {trace : ServerTrace} {sessionId : String}
    {session : SigningSession} (taken : Taken (event :: trace) sessionId session) :
    Taken trace sessionId session ∨
    ∃ stamp, event = ⟨.loadSession sessionId, .ok (some session), stamp⟩ ∧
      trace.any loadsSession = true := by
  obtain ⟨earlier, stamp, within, loaded⟩ := taken
  rcases List.suffix_cons_iff.mp within with same | inside
  · obtain ⟨rfl, rfl⟩ := List.cons.inj same
    exact Or.inr ⟨stamp, rfl, loaded⟩
  · exact Or.inl ⟨earlier, stamp, inside, loaded⟩

/-- A `finalize` saves a file for a session that it has taken. -/
def Takes (origin : Origin) (trace : ServerTrace) : Operation → Prop
  | .insertFile _ => ∀ arguments, origin.endpoint = .finalize arguments →
      ∃ sessionId session, Taken trace sessionId session
  | _ => True

section Finalize

variable {origin : Origin}

theorem takes_free (trace : ServerTrace) (operation : Operation) (free : Free operation) :
    Takes origin trace operation := by
  rcases free with peaceful | commit
  · cases operation <;> trivial
  · rw [commit]
    trivial

theorem free_takes {Value : Type} {program : Server Value} (uses : program.Uses Free)
    {trace : ServerTrace} : program.Follows (Takes origin) (fun _ _ => True) trace :=
  (Uses.follows uses trace takes_free).weaken fun _ _ _ _ => trivial

theorem receiveSignature_loads (ctx : Context) (arguments : FinalizeArguments) :
    (receiveSignature lib ctx arguments).Follows (Takes origin)
      (fun later result => ∀ received, result = .ok received → later.any loadsSession = true)
      [] := by
  have loads : (loadSession arguments.sessionId false).Follows (Takes origin)
      (fun later result => ∀ session, result = .ok (some session) →
        later.any loadsSession = true) [] := by
    refine Follows.perform trivial (fun found stamp => ?_) fun _ _ => by simp
    cases found with
    | none => exact fun _ impossible => by cases impossible
    | some session => exact fun _ _ => rfl
  refine Follows.bind loads ?_ fun _ _ _ _ => by simp
  intro afterLoad found _ loaded
  refine Follows.ofOption (fun session taken => ?_) fun _ => by simp
  have before : afterLoad.any loadsSession = true := loaded session (by rw [taken])
  have rest (program : Server (SigningSession × Instant × Text)) (uses : program.Uses Free) :
      program.Follows (Takes origin)
        (fun later result => ∀ received, result = .ok received → later.any loadsSession = true)
        afterLoad := by
    refine (free_takes uses).weaken ?_
    intro later result suffix _ received _
    obtain ⟨event, member, loads⟩ := List.any_eq_true.mp before
    exact List.any_eq_true.mpr ⟨event, suffix.subset member, loads⟩
  apply rest
  apply Uses.bind (Uses.perform (Or.inl rfl))
  intro startTime
  apply Uses.bind (Uses.ofExcept _)
  intro presented
  apply Uses.bind (uses_free (plain_calm (logEvent_plain _ _ _ _)))
  intro _
  exact Uses.bind (uses_free (plain_calm (logEvent_plain _ _ _ _))) fun _ => trivial

theorem finalizeSignedPdf_takes (sessionId signature : String) (chain : Json)
    {trace : ServerTrace} (loaded : trace.any loadsSession = true) :
    (finalizeSignedPdf lib sessionId signature chain).Follows (Takes origin)
      (fun later result => ∀ value, result = .ok value →
        ∃ session, Taken later sessionId session) trace := by
  have taking : (loadSession sessionId true).Follows (Takes origin)
      (fun later result => ∀ session, result = .ok (some session) →
        Taken later sessionId session) trace := by
    refine Follows.perform trivial (fun found stamp => ?_) fun _ _ => by simp
    cases found with
    | none => exact fun _ impossible => by cases impossible
    | some session =>
        refine Follows.perform trivial (fun _ droppedAt => ?_) fun _ _ => by simp
        intro other same
        cases same
        exact ⟨trace, stamp, List.suffix_cons _ _, loaded⟩
  refine Follows.bind taking ?_ fun _ _ _ _ => by simp
  intro afterLoad found _ taken
  refine Follows.ofOption (fun session same => ?_) fun _ => by simp
  have held : Taken afterLoad sessionId session := taken session (by rw [same])
  refine Follows.ofExcept (fun pdf _ => ?_) fun _ _ => by simp
  refine Follows.perform trivial (fun existing stamp => ?_) fun _ _ => by simp
  exact fun _ _ => ⟨session, held.mono (List.suffix_cons _ _)⟩

theorem completeSigning_takes (ctx : Context) (arguments : FinalizeArguments) (name : String)
    (startTime : Instant) (chain : Json) {trace : ServerTrace}
    (loaded : trace.any loadsSession = true) :
    (completeSigning lib ctx arguments name startTime chain).Follows (Takes origin) (fun _ _ => True)
      trace := by
  refine Follows.bind (finalizeSignedPdf_takes _ _ _ loaded) ?_ fun _ _ _ _ => trivial
  intro afterBuild signedResult _ taken
  obtain ⟨session, held⟩ := taken signedResult rfl
  refine Follows.always fun later operation suffix => ?_
  cases operation with
  | insertFile file => exact fun _ _ => ⟨_, session, held.mono suffix⟩
  | _ => trivial

theorem finalize_takes (ctx : Context) (arguments : FinalizeArguments) :
    (finalize lib ctx arguments).Follows (Takes origin) (fun _ _ => True) [] := by
  refine Follows.bind (receiveSignature_loads ctx arguments) ?_ fun _ _ _ _ => trivial
  rintro afterReceive ⟨session, startTime, presented⟩ _ received
  have loaded := received _ rfl
  refine Follows.perform trivial (fun reqDoc reqAt => ?_) fun _ _ => trivial
  refine Follows.bind (free_takes (uses_free (expectedFingerprint_calm reqDoc))) ?_
    fun _ _ _ _ => trivial
  intro afterExpected expected suffix _
  split
  · refine Follows.perform trivial (fun _ _ => ?_) fun _ _ => trivial
    refine free_takes ?_
    apply Uses.bind (uses_free (plain_calm (logEvent_plain _ _ _ _)))
    intro _
    exact Uses.bind (Uses.perform (Or.inr rfl)) fun _ => trivial
  · refine Follows.ofExcept (fun chain parsed => ?_) fun _ _ => trivial
    have still : afterExpected.any loadsSession = true := by
      obtain ⟨event, member, loads⟩ := List.any_eq_true.mp loaded
      exact List.any_eq_true.mpr
        ⟨event, suffix.subset (List.mem_cons_of_mem _ member), loads⟩
    refine Follows.recover (completeSigning_takes ctx arguments _ _ chain still)
      (fun _ _ _ _ => trivial) ?_
    intro later exn _ _
    refine Follows.perform trivial (fun _ _ => ?_) fun _ _ => trivial
    refine free_takes ?_
    apply Uses.bind (uses_free (mirror_calm _ _ _))
    intro _
    apply Uses.bind (uses_free (plain_calm (logEvent_plain _ _ _ _)))
    intro _
    apply Uses.bind (uses_free (Uses.recover (notifyAdminsOfFailure_calm _ _)
      fun _ => calm_ask rfl))
    intro _
    exact Uses.bind (Uses.perform (Or.inr rfl)) fun _ => trivial

end Finalize

theorem body_takes (origin : Origin) :
    (body lib origin).Follows (Takes origin) (fun _ _ => True) [] := by
  obtain ⟨ctx, endpoint⟩ := origin
  cases endpoint with
  | finalize arguments =>
      exact Follows.bind (finalize_takes ctx arguments) (fun _ _ _ _ => trivial) fun _ _ _ _ => trivial
  | _ =>
      refine Follows.always fun later operation _ => ?_
      cases operation with
      | insertFile file => exact fun _ impossible => by cases impossible
      | _ => trivial

/-! ### Sessions and files of one request -/

/-- The cache still has this session, and it is one of the request. -/
def Live (world : ServerWorld) (name sessionId : String) : Prop :=
  ∃ stored, world.shared.sessions.lookup sessionId = some stored ∧
    world.shared.now < stored.2 ∧ stored.1.signingRequestName = name

/-- The call has saved the file, and the file is in the database. -/
def Delivers (world : ServerWorld) (index : Nat) (file : String) : Prop :=
  (world.data.files.lookup file).isSome = true ∧
    ∃ draft stored, SavedBy world index draft stored ∧ stored.name = file

/-- The call has taken this session of the request, and it is still running or
has saved a file. -/
def Claims (world : ServerWorld) (name : String) (index : Nat) (sessionId : String) : Prop :=
  ∃ call session, world.calls[index]? = some call ∧ Taken call.trace sessionId session ∧
    session.signingRequestName = name ∧
    ((∃ program, call.phase = .running program) ∨ ∃ file, Delivers world index file)

/-- The signed file was saved by a call that had taken a session of the request. -/
def FileOf (world : ServerWorld) (name file : String) : Prop :=
  ∃ index call sessionId session, Delivers world index file ∧ world.calls[index]? = some call ∧
    Taken call.trace sessionId session ∧ session.signingRequestName = name

/-- What a step is asked to respect: a session of the request is stored while
there is no other, and taken while no other call has taken it. -/
def OneSession (name : String) (world : ServerWorld) (label : ServerLabel) : Prop :=
  ∀ index call event, asking world label = some (index, call, event) →
    (∀ sessionId session, event.query = .storeSession sessionId session →
      session.signingRequestName = name →
      (∀ other, ¬ Live world name other) ∧ ∀ owner other, ¬ Claims world name owner other) ∧
    (∀ sessionId, event.query = .loadSession sessionId → call.trace.any loadsSession = true →
      ∀ owner, Claims world name owner sessionId → owner = index)

/-- There is one session of the request, in the cache or taken by one call. -/
structure Single (name : String) (world : ServerWorld) : Prop where
  live : ∀ one other, Live world name one → Live world name other → one = other
  taken : ∀ one owner other, Live world name one → Claims world name owner other → other = one
  claims : ∀ left right one other, Claims world name left one → Claims world name right other →
    left = right

section Step

variable {name : String} {world next : ServerWorld} {label : ServerLabel}

theorem now_step (stepped : step (body lib) world label = some next) :
    world.shared.now ≤ next.shared.now := by
  rcases step_shared (body lib) stepped with same | ⟨index, call, event, asked⟩ | ⟨move, data, _, moved⟩
  · rw [same]
  · obtain ⟨oracle, replied⟩ := asking_shared (body lib) stepped asked
    generalize next.shared = later at replied ⊢
    cases reply_changed replied <;> exact le_refl _
  · generalize next.shared = later at moved ⊢
    cases move with
    | elapse by_ =>
        cases moved
        exact Nat.le_add_right _ _
    | createRequest created request =>
        simp only [Move.apply] at moved
        split at moved
        · cases moved
        · cases moved
          exact le_refl _
    | _ =>
        cases moved
        exact le_refl _

theorem live_before (stepped : step (body lib) world label = some next) {sessionId : String}
    (live : Live next name sessionId) :
    Live world name sessionId ∨
    ∃ index call session stamp, asking world label =
        some (index, call, ⟨.storeSession sessionId session, .ok (), stamp⟩) ∧
      session.signingRequestName = name := by
  obtain ⟨stored, found, unexpired, named⟩ := live
  rcases sessions_before stepped found with before | ⟨index, call, stamp, asked⟩
  · exact Or.inl ⟨stored, before, lt_of_le_of_lt (now_step stepped) unexpired, named⟩
  · exact Or.inr ⟨index, call, stored.1, stamp, asked, named⟩

/-- A file is delivered by the call that commits it. -/
theorem delivers_before (traced : Traced lib world)
    (stepped : step (body lib) world label = some next) {index : Nat} {call : ServerCall}
    (located : world.calls[index]? = some call) (still : next.calls[index]? = some call)
    {file : String} (delivers : Delivers next index file) :
    Delivers world index file ∨ ∃ program, call.phase = .running program := by
  obtain ⟨there, draft, stored, ⟨stamp, later, laterAt, member⟩, rfl⟩ := delivers
  rw [still] at laterAt
  cases laterAt
  have saved : world.Asked index ⟨.insertFile draft, .ok stored, stamp⟩ := ⟨call, located, member⟩
  obtain ⟨row, found⟩ := Option.isSome_iff_exists.mp there
  rcases file_before stepped found with
    ⟨before, present, _⟩ | ⟨other, committer, draft', stored', committed, ⟨at_, asked⟩, same, _⟩
  · exact Or.inl ⟨by rw [present]; rfl, draft, stored, ⟨stamp, saved⟩, rfl⟩
  · obtain ⟨committerAt, running⟩ := committing_located committed
    obtain ⟨rfl, _⟩ := traced.distinct other index _ _ stored.name ⟨committer, committerAt, asked⟩
      saved (by rw [← same]; rfl) rfl
    rw [located] at committerAt
    cases committerAt
    exact Or.inr running

theorem claims_before (traced : Traced lib world)
    (stepped : step (body lib) world label = some next) {index : Nat} {sessionId : String}
    (claims : Claims next name index sessionId) :
    Claims world name index sessionId ∨
    ∃ call session stamp, asking world label =
        some (index, call, ⟨.loadSession sessionId, .ok (some session), stamp⟩) ∧
      call.trace.any loadsSession = true ∧ session.signingRequestName = name := by
  obtain ⟨later, session, located, taken, named, alive⟩ := claims
  have unchanged {call : ServerCall} {program : Server Response}
      (before : world.calls[index]? = some call) (running : call.phase = .running program)
      (same : later.trace = call.trace) : Claims world name index sessionId := by
    rw [same] at taken
    exact ⟨call, session, before, taken, named, Or.inl ⟨program, running⟩⟩
  rcases step_call (body lib) stepped located with
    old | ⟨_, _, new⟩ | ⟨call, before, ⟨oracle, query, after, reply, shared, labelled, running,
      replied, _, rfl⟩ | ⟨result, _, running, rfl⟩ | ⟨program, _, running, rfl⟩⟩
  · refine Or.inl ⟨later, session, old, taken, named, ?_⟩
    rcases alive with running | ⟨file, delivers⟩
    · exact Or.inl running
    · rcases delivers_before traced stepped old located delivers with delivered | running
      · exact Or.inr ⟨file, delivered⟩
      · exact Or.inl running
  · rw [new] at taken
    obtain ⟨earlier, stamp, within, _⟩ := taken
    cases List.suffix_nil.mp within
  · rcases taken.before with older | ⟨stamp, same, loaded⟩
    · exact Or.inl ⟨call, session, before, older, named, Or.inl ⟨_, running⟩⟩
    · refine Or.inr ⟨call, session, stamp, ?_, loaded, named⟩
      rw [labelled, ← same]
      exact asking_ask before running replied
  · exact Or.inl (unchanged before running rfl)
  · exact Or.inl (unchanged before running rfl)

/-- A session that has just been loaded is live. -/
theorem loaded_live (stepped : step (body lib) world label = some next) {index : Nat}
    {call : ServerCall} {sessionId : String} {session : SigningSession} {stamp : Instant}
    (found : asking world label =
      some (index, call, ⟨.loadSession sessionId, .ok (some session), stamp⟩))
    (named : session.signingRequestName = name) : Live world name sessionId := by
  obtain ⟨oracle, replied⟩ := asking_shared (body lib) stepped found
  replace replied := answer_of_reply replied
  simp only [answer, Option.some.injEq, Prod.mk.injEq, Except.ok.injEq,
    Option.bind_eq_some_iff] at replied
  obtain ⟨⟨stored, there, live⟩, _⟩ := replied
  split at live
  · rename_i unexpired
    cases live
    exact ⟨stored, there, unexpired, named⟩
  · cases live

theorem single_step (traced : Traced lib world) (single : Single name world)
    (orderly : OneSession name world label)
    (stepped : step (body lib) world label = some next) : Single name next := by
  constructor
  · intro one other oneLive otherLive
    rcases live_before stepped oneLive with old | ⟨index, call, session, stamp, asked, named⟩
    · rcases live_before stepped otherLive with older | ⟨index, call, session, stamp, asked, named⟩
      · exact single.live one other old older
      · exact absurd old (((orderly _ _ _ asked).1 other session rfl named).1 one)
    · rcases live_before stepped otherLive with older | ⟨_, _, _, _, again, _⟩
      · exact absurd older (((orderly _ _ _ asked).1 one session rfl named).1 other)
      · rw [asked] at again
        cases again
        rfl
  · intro one owner other live claims
    rcases live_before stepped live with old | ⟨index, call, session, stamp, asked, named⟩
    · rcases claims_before traced stepped claims with
        older | ⟨call, session, stamp, asked, _, named⟩
      · exact single.taken one owner other old older
      · exact single.live other one (loaded_live stepped asked named) old
    · rcases claims_before traced stepped claims with older | ⟨_, _, _, again, _⟩
      · exact absurd older (((orderly _ _ _ asked).1 one session rfl named).2 owner other)
      · rw [asked] at again
        cases again
  · have fresh {left right : Nat} {one other : String} (old : Claims world name left one)
        {call : ServerCall} {session : SigningSession} {stamp : Instant}
        (asked : asking world label =
          some (right, call, ⟨.loadSession other, .ok (some session), stamp⟩))
        (loaded : call.trace.any loadsSession = true)
        (named : session.signingRequestName = name) : left = right := by
      have same := single.taken other left one (loaded_live stepped asked named) old
      subst same
      exact (orderly _ _ _ asked).2 one rfl loaded left old
    intro left right one other leftClaims rightClaims
    rcases claims_before traced stepped leftClaims with
      old | ⟨call, session, stamp, asked, loaded, named⟩
    · rcases claims_before traced stepped rightClaims with
        older | ⟨call, session, stamp, asked, loaded, named⟩
      · exact single.claims left right one other old older
      · exact fresh old asked loaded named
    · rcases claims_before traced stepped rightClaims with older | ⟨_, _, _, again, _⟩
      · exact (fresh older asked loaded named).symm
      · rw [asked] at again
        cases again
        rfl

end Step

theorem single_installed (name : String) (masters : Masters) (now : Instant) (zone : Int) :
    Single name (installed masters now zone) := by
  constructor
  · rintro one other ⟨stored, found, _⟩
    cases found
  · rintro one owner other ⟨stored, found, _⟩
    cases found
  · rintro left right one other ⟨call, session, located, _⟩
    cases located

/-- A call saves one file. -/
theorem Traced.saves_once {world : ServerWorld} (traced : Traced lib world) {index : Nat}
    {one other : FileRow} {oneStored otherStored : StoredFile}
    (first : SavedBy world index one oneStored) (second : SavedBy world index other otherStored) :
    oneStored = otherStored := by
  obtain ⟨oneStamp, oneAsked⟩ := first
  obtain ⟨otherStamp, otherAsked⟩ := second
  obtain ⟨oneCall, oneEarlier, oneAt, oneSuffix, oneAllowed⟩ := traced.honours oneAsked
  obtain ⟨otherCall, otherEarlier, otherAt, otherSuffix, otherAllowed⟩ := traced.honours otherAsked
  obtain ⟨_, _, oneQuiet⟩ := oneAllowed
  obtain ⟨_, _, otherQuiet⟩ := otherAllowed
  rw [oneAt] at otherAt
  cases otherAt
  rcases List.suffix_or_suffix_of_suffix oneSuffix otherSuffix with within | within
  · rcases List.suffix_cons_iff.mp within with same | inside
    · cases same
      rfl
    · cases otherQuiet _ (inside.subset List.mem_cons_self)
  · rcases List.suffix_cons_iff.mp within with same | inside
    · cases same
      rfl
    · cases oneQuiet _ (inside.subset List.mem_cons_self)

theorem FileOf.claims {world : ServerWorld} {name file : String} (of : FileOf world name file) :
    ∃ index sessionId, Delivers world index file ∧ Claims world name index sessionId := by
  obtain ⟨index, call, sessionId, session, delivers, located, taken, named⟩ := of
  exact ⟨index, sessionId, delivers, call, session, located, taken, named, Or.inr ⟨file, delivers⟩⟩

theorem run_takes {masters : Masters} {now : Instant} {zone : Int} {labels : List ServerLabel}
    {world : ServerWorld}
    (reached : run (body lib) (installed masters now zone) labels = some world) :
    world.Disciplined Takes (fun _ _ _ => True) := by
  have start : (installed masters now zone).Disciplined Takes (fun _ _ _ => True) := by
    intro index call located
    cases located
  exact run_invariant (body lib) (fun _ _ _ disciplined _ stepped =>
    disciplined_step (body lib) body_takes disciplined stepped) start (along_always (body lib)) reached

/-- Every stored file was saved for some request. -/
theorem file_of_request {masters : Masters} {now : Instant} {zone : Int}
    {labels : List ServerLabel} {world : ServerWorld} (traced : Traced lib world)
    (reached : run (body lib) (installed masters now zone) labels = some world) {file : String}
    (there : (world.data.files.lookup file).isSome = true) : ∃ request, FileOf world request file := by
  obtain ⟨row, found⟩ := Option.isSome_iff_exists.mp there
  obtain ⟨index, draft, stored, ⟨stamp, asked⟩, named, _⟩ := traced.filed file row found
  obtain ⟨call, earlier, located, _, arguments, endpoint, _⟩ := traced.honours asked
  obtain ⟨_, again, member⟩ := asked
  rw [located] at again
  cases again
  obtain ⟨before, suffix, takes⟩ := (disciplined_running (run_takes reached) located).of_mem member
  obtain ⟨sessionId, session, taken⟩ := takes arguments endpoint
  exact ⟨session.signingRequestName, index, call, sessionId, session,
    ⟨there, draft, stored, ⟨stamp, call, located, member⟩, named⟩, located,
    taken.mono ((List.suffix_cons _ _).trans suffix), rfl⟩

/-- In such a run every signed file is one of some request, and the request has
no other. -/
theorem one_file_per_request (name : String) (masters : Masters) (now : Instant) (zone : Int)
    (labels : List ServerLabel) (world : ServerWorld)
    (orderly : Along (body lib) (OneSession name) (installed masters now zone) labels)
    (reached : run (body lib) (installed masters now zone) labels = some world) :
    (∀ file, (world.data.files.lookup file).isSome = true → ∃ request, FileOf world request file) ∧
      ∀ one other, FileOf world name one → FileOf world name other → one = other := by
  obtain ⟨traced, single⟩ := run_traced (Single name) (single_installed name masters now zone)
    (fun _ _ _ traced single orderly stepped => single_step traced single orderly stepped) orderly
    reached
  refine ⟨fun _ there => file_of_request traced reached there, ?_⟩
  intro one other first second
  obtain ⟨left, oneId, ⟨_, oneDraft, oneStored, oneSaved, rfl⟩, leftClaims⟩ := first.claims
  obtain ⟨right, otherId, ⟨_, otherDraft, otherStored, otherSaved, rfl⟩, rightClaims⟩ :=
    second.claims
  have same := single.claims left right oneId otherId leftClaims rightClaims
  subst same
  rw [traced.saves_once oneSaved otherSaved]

/-! ### One signing, and a recovery that comes too early -/

/-- A session is stored before any other, and taken before any other call loads one. -/
def firstSession (world : ServerWorld) (label : ServerLabel) : Bool :=
  match asking world label with
  | some (_, _, ⟨.storeSession _ _, _, _⟩) =>
      world.shared.sessions.entries.isEmpty && world.calls.all fun call =>
        !call.trace.any loadsSession
  | some (index, _, ⟨.loadSession _, _, _⟩) =>
      world.calls.zipIdx.all fun other => other.2 == index || !other.1.trace.any loadsSession
  | _ => true

theorem Taken.loads {trace : ServerTrace} {sessionId : String} {session : SigningSession}
    (taken : Taken trace sessionId session) : trace.any loadsSession = true := by
  obtain ⟨earlier, stamp, within, _⟩ := taken
  exact List.any_eq_true.mpr ⟨_, within.subset List.mem_cons_self, rfl⟩

theorem firstSession_orderly (name : String) (world : ServerWorld) (label : ServerLabel)
    (checked : firstSession world label = true) : OneSession name world label := by
  intro index call event asked
  obtain ⟨operation, result, stamp⟩ := event
  constructor
  · rintro sessionId session rfl _
    simp only [firstSession, asked, Bool.and_eq_true, List.isEmpty_iff, List.all_eq_true,
      Bool.not_eq_true'] at checked
    constructor
    · rintro other ⟨stored, found, _⟩
      have listed := AList.mem_lookup_iff.mp (Option.mem_def.mpr found)
      rw [checked.1] at listed
      cases listed
    · rintro owner other ⟨claimer, session, located, taken, _⟩
      have silent := checked.2 claimer (List.mem_of_getElem? located)
      rw [taken.loads] at silent
      cases silent
  · rintro sessionId rfl _ owner ⟨claimer, session, located, taken, _⟩
    simp only [firstSession, asked, List.all_eq_true] at checked
    have listed : (claimer, owner) ∈ world.calls.zipIdx :=
      List.mem_zipIdx_iff_getElem?.mpr located
    have shown := checked _ listed
    simpa [taken.loads] using shown

theorem one_file_per_request_sample :
    ∃ world, run (body sampleLibraries) sampleSite sampleSigning = some world ∧
      (world.data.files.lookup "F-1").isSome = true ∧
      (∀ file, (world.data.files.lookup file).isSome = true →
        ∃ request, FileOf world request file) ∧
      ∀ one other, FileOf world "SR-1" one → FileOf world "SR-1" other → one = other := by
  have orderly : alongCheck (body sampleLibraries) firstSession sampleSite sampleSigning = true := by
    decide +kernel
  have ends : ((run (body sampleLibraries) sampleSite sampleSigning).map fun world =>
      (world.data.files.lookup "F-1").isSome) = some true := by
    decide +kernel
  obtain ⟨world, reached, saved⟩ := Option.map_eq_some_iff.mp ends
  exact ⟨world, reached, saved, one_file_per_request "SR-1" sampleMasters 0 0 sampleSigning world
    (along_of_check (body sampleLibraries) (firstSession_orderly "SR-1")
      (along_check (body sampleLibraries) orderly)) reached⟩

/-- Alice starts a signing and waits for five minutes; the status page recovers
the request, Alice starts again, and both signings are finished. -/
def recoveredSigning : List ServerLabel :=
  .move (.createRequest "SR-1" sampleRequest) ::
    (served 0 ⟨sampleUser "alice", .initiate sampleInitiate⟩ 24 (sampleOracle "S-1" "") ++
      .move (.elapse (seconds 301)) ::
      (served 1 ⟨sampleUser "alice", .getSigningStatus "Sales Invoice" "INV-1"⟩ 3 .plain ++
        served 2 ⟨sampleUser "alice", .initiate sampleInitiate⟩ 24 (sampleOracle "S-2" "") ++
        served 3 ⟨sampleUser "alice", .finalize (sampleFinalize "S-1")⟩ 32 (sampleOracle "" "F-1") ++
        served 4 ⟨sampleUser "alice", .finalize (sampleFinalize "S-2")⟩ 32 (sampleOracle "" "F-2")))

/-- The request whose session the call has taken, and the file that it has saved. -/
def takenFor : ServerTrace → Option String
  | [] => none
  | event :: earlier =>
      match event with
      | ⟨.loadSession _, .ok (some session), _⟩ =>
          if earlier.any loadsSession then some session.signingRequestName else takenFor earlier
      | _ => takenFor earlier

def savedFile (trace : ServerTrace) : Option String :=
  trace.findSome? fun
    | ⟨.insertFile _, .ok stored, _⟩ => some stored.name
    | _ => none

theorem takenFor_taken {trace : ServerTrace} {name : String} (shown : takenFor trace = some name) :
    ∃ sessionId session, Taken trace sessionId session ∧ session.signingRequestName = name := by
  induction trace with
  | nil => cases shown
  | cons event earlier ih =>
      have older (before : takenFor earlier = some name) : ∃ sessionId session,
          Taken (event :: earlier) sessionId session ∧ session.signingRequestName = name := by
        obtain ⟨sessionId, session, taken, named⟩ := ih before
        exact ⟨sessionId, session, taken.mono (List.suffix_cons _ _), named⟩
      unfold takenFor at shown
      split at shown
      · rename_i sessionId session stamp
        split at shown
        · rename_i loaded
          exact ⟨sessionId, session, ⟨earlier, stamp, List.suffix_refl _, loaded⟩,
            Option.some.inj shown⟩
        · exact older shown
      · exact older shown

theorem savedFile_saved {world : ServerWorld} {index : Nat} {call : ServerCall} {file : String}
    (located : world.calls[index]? = some call) (shown : savedFile call.trace = some file) :
    ∃ draft stored, SavedBy world index draft stored ∧ stored.name = file := by
  obtain ⟨event, member, named⟩ := List.exists_of_findSome?_eq_some shown
  split at named
  · rename_i draft stored stamp
    exact ⟨draft, stored, ⟨stamp, call, located, member⟩, Option.some.inj named⟩
  · cases named

/-- The file of the call at this index, if it is stored and of the sample request. -/
def sampleFile (world : ServerWorld) (index : Nat) (file : String) : Bool :=
  match world.calls[index]? with
  | some call => takenFor call.trace == some "SR-1" && savedFile call.trace == some file &&
      (world.data.files.lookup file).isSome
  | none => false

theorem sampleFile_of {world : ServerWorld} {index : Nat} {file : String}
    (shown : sampleFile world index file = true) : FileOf world "SR-1" file := by
  unfold sampleFile at shown
  split at shown
  · rename_i call located
    simp only [Bool.and_eq_true, beq_iff_eq] at shown
    obtain ⟨⟨taken, saved⟩, there⟩ := shown
    obtain ⟨sessionId, session, took, named⟩ := takenFor_taken taken
    exact ⟨index, call, sessionId, session, ⟨there, savedFile_saved located saved⟩, located, took,
      named⟩
  · cases shown

/-- The two files of the one request. -/
theorem recovered_request_signed_twice :
    ∃ world, run (body sampleLibraries) sampleSite recoveredSigning = some world ∧
      FileOf world "SR-1" "F-1" ∧ FileOf world "SR-1" "F-2" := by
  have ends : ((run (body sampleLibraries) sampleSite recoveredSigning).map fun world =>
      sampleFile world 3 "F-1" && sampleFile world 4 "F-2") = some true := by
    decide +kernel
  simp only [Option.map_eq_some_iff, Bool.and_eq_true] at ends
  obtain ⟨world, reached, first, second⟩ := ends
  exact ⟨world, reached, sampleFile_of first, sampleFile_of second⟩

end DscSigning
