/-
What `finalize` records, and what it has read before: the name of the file is made
of a count of files, and the time of the signature and the duration of readings
of the clock.
-/

import DscSigning.Server.EndpointRules

namespace DscSigning

open Interaction Program

variable {lib : Libraries}

/-! ### What has been read -/

def readsClock : ServerEvent → Bool
  | ⟨.now, .ok _, _⟩ => true
  | _ => false

/-- The first reading of the clock, after a session of the request was given. -/
def Began (trace : ServerTrace) (name : String) (startTime : Instant) : Prop :=
  ∃ startedAt earlier, (⟨.now, .ok startTime, startedAt⟩ : ServerEvent) :: earlier <:+ trace ∧
    (∀ event ∈ earlier, readsClock event = false) ∧
    ∃ sessionId session, Answered earlier (.loadSession sessionId) (some session) ∧
      session.signingRequestName = name

/-- The last two questions read the clock. -/
def Finished (trace : ServerTrace) (finished signedOn : Instant) : Prop :=
  ∃ finishedAt signedAt earlier, trace = (⟨.now, .ok signedOn, signedAt⟩ : ServerEvent) ::
    ⟨.now, .ok finished, finishedAt⟩ :: earlier

/-- The name that is made of a count. -/
def signedName (docname : String) (existing : Nat) : String :=
  let version : Nat := if existing = 0 then 1 else existing + 1
  s!"{docname}_signed_v{version}.pdf"

/-- The file has the name of a count of the document's files that was told. -/
def Numbered (trace : ServerTrace) (doctype docname fileName : String) : Prop :=
  ∃ existing, Answered trace (.countSignedFiles doctype docname) existing ∧
    fileName = signedName docname existing

theorem Began.mono {trace later : ServerTrace} {name : String} {startTime : Instant}
    (began : Began trace name startTime) (suffix : trace <:+ later) : Began later name startTime := by
  obtain ⟨startedAt, earlier, within, unread, loaded⟩ := began
  exact ⟨startedAt, earlier, within.trans suffix, unread, loaded⟩

theorem Began.unique {trace : ServerTrace} {one other : String} {first second : Instant}
    (began : Began trace one first) (again : Began trace other second) : first = second := by
  obtain ⟨firstAt, before, within, unread, _⟩ := began
  obtain ⟨secondAt, earlier, inside, silent, _⟩ := again
  rcases List.suffix_or_suffix_of_suffix within inside with shorter | shorter
  · rcases List.suffix_cons_iff.mp shorter with same | deeper
    · cases same
      rfl
    · cases silent _ (deeper.subset List.mem_cons_self)
  · rcases List.suffix_cons_iff.mp shorter with same | deeper
    · cases same
      rfl
    · cases unread _ (deeper.subset List.mem_cons_self)

theorem Finished.unique {trace : ServerTrace} {one other signedOn : Instant}
    (first : Finished trace one signedOn) (second : Finished trace other signedOn) : one = other := by
  obtain ⟨_, _, _, rfl⟩ := first
  obtain ⟨_, _, _, same⟩ := second
  cases same
  rfl

theorem Numbered.mono {trace later : ServerTrace} {doctype docname fileName : String}
    (numbered : Numbered trace doctype docname fileName) (suffix : trace <:+ later) :
    Numbered later doctype docname fileName := by
  obtain ⟨existing, counted, same⟩ := numbered
  exact ⟨existing, counted.mono suffix, same⟩

/-! ### The two records -/

/-- Questions other than saving a file and signing a request. -/
def Ordinary : Operation → Prop
  | .insertFile _ => False
  | .setRequest _ (.signed _) => False
  | _ => True

theorem ordinary_free {Value : Type} {program : Server Value} (uses : program.Uses Free) :
    program.Uses Ordinary :=
  uses.weaken fun operation free => by
    cases operation with
    | insertFile file =>
        rcases free with peaceful | same
        · cases peaceful
        · cases same
    | setRequest name update =>
        rcases free with peaceful | same
        · cases peaceful
        · cases same
    | _ => trivial

theorem ordinary_plain {Value : Type} {program : Server Value} (uses : program.Uses Plain) :
    program.Uses Ordinary :=
  ordinary_free (uses_free (plain_calm uses))

theorem ordinary_basic {Value : Type} {program : Server Value} (uses : program.Uses Basic) :
    program.Uses Ordinary :=
  ordinary_plain (basic_plain uses)

theorem recovered_ordinary {program : Server Unit} (uses : program.Uses Basic) (title : String) :
    (program.recover fun _ => ask (.logError title)).Uses Ordinary :=
  Uses.recover (ordinary_basic uses) fun _ => Uses.perform trivial

/-- What a `finalize` may ask: all but the two records, and these after what they are made of. -/
structure Recording (allowed : ServerTrace → Operation → Prop) : Prop where
  ordinary : ∀ trace operation, Ordinary operation → allowed trace operation
  files : ∀ trace (signedResult : SignedResult),
    Numbered trace signedResult.doctype signedResult.docname signedResult.fileName →
      allowed trace (.insertFile signedResult.file)
  signs : ∀ trace name evidence startTime finished, Began trace name startTime →
    Finished trace finished evidence.signedOn →
    evidence.signDurationSeconds = (finished - startTime) / 1000000 →
      allowed trace (.setRequest name (.signed evidence))

section Finalize

variable {allowed : ServerTrace → Operation → Prop} (recording : Recording allowed)
  {trace : ServerTrace}

include recording

theorem ordinary_follows {Value : Type} {program : Server Value} (uses : program.Uses Ordinary) :
    program.Follows allowed (fun _ _ => True) trace :=
  (Uses.follows uses trace recording.ordinary).weaken fun _ _ _ _ => trivial

theorem receiveSignature_begins (ctx : Context) (arguments : FinalizeArguments) :
    (receiveSignature lib ctx arguments).Follows allowed
      (fun later result => ∀ received, result = .ok received →
        Began later received.1.signingRequestName received.2.1) [] := by
  have loads : (loadSession arguments.sessionId false).Follows allowed
      (fun later result => ∀ session, result = .ok (some session) → ∃ loadedAt,
        later = [⟨.loadSession arguments.sessionId, .ok (some session), loadedAt⟩]) [] := by
    refine Follows.perform (recording.ordinary _ _ trivial) (fun found stamp => ?_)
      fun _ _ => by simp
    cases found with
    | none => exact fun _ impossible => by cases impossible
    | some stored =>
        intro session same
        cases same
        exact ⟨stamp, rfl⟩
  refine Follows.bind loads ?_ fun _ _ _ _ => by simp
  intro afterLoad found _ loaded
  refine Follows.ofOption (fun session taken => ?_) fun _ => by simp
  obtain ⟨loadedAt, same⟩ := loaded session (by rw [taken])
  refine Follows.perform (recording.ordinary _ _ trivial) (fun startTime startedAt => ?_)
    fun _ _ => by simp
  have began : Began (⟨.now, .ok startTime, startedAt⟩ :: afterLoad)
      session.signingRequestName startTime := by
    refine ⟨startedAt, afterLoad, List.suffix_refl _, ?_, arguments.sessionId, session, ?_, rfl⟩
    · rw [same]
      intro event member
      rw [List.mem_singleton.mp member]
      rfl
    · rw [same]
      exact Answered.head
  refine Follows.ofExcept (fun presented _ => ?_) fun _ _ => by simp
  refine Uses.past (ordinary_plain (logEvent_plain _ _ _ _)) recording.ordinary ?_
    fun _ _ _ => by simp
  intro afterReturned _ returnedLater
  refine Uses.past (ordinary_plain (logEvent_plain _ _ _ _)) recording.ordinary ?_
    fun _ _ _ => by simp
  intro afterPresented _ presentedLater received same
  cases same
  exact began.mono (returnedLater.trans presentedLater)

theorem finalizeSignedPdf_numbers (sessionId signature : String) (chain : Json) :
    (finalizeSignedPdf lib sessionId signature chain).Follows allowed
      (fun later result => ∀ value, result = .ok value →
        Numbered later value.doctype value.docname value.fileName) trace := by
  refine Uses.past (ordinary_basic (loadSession_basic sessionId true)) recording.ordinary ?_
    fun _ _ _ => by simp
  intro afterLoad found _
  refine Follows.ofOption (fun session _ => ?_) fun _ => by simp
  refine Follows.ofExcept (fun signedPdfBytes _ => ?_) fun _ _ => by simp
  refine Follows.perform (recording.ordinary _ _ trivial) (fun existing countedAt => ?_)
    fun _ _ => by simp
  intro value same
  cases same
  exact ⟨existing, Answered.head, rfl⟩

theorem recordSigned_records (ctx : Context) (arguments : FinalizeArguments) {name : String}
    {startTime : Instant} {signedResult : SignedResult} (verification : Verification)
    (began : Began trace name startTime)
    (numbered : Numbered trace signedResult.doctype signedResult.docname signedResult.fileName) :
    (recordSigned lib ctx arguments name startTime signedResult verification).Follows allowed
      (fun _ _ => True) trace := by
  have saves : (saveSignedPdf signedResult).Follows allowed (fun _ _ => True) trace := by
    refine Follows.perform (recording.files trace signedResult numbered) (fun fileDoc _ => ?_)
      fun _ _ => trivial
    apply ordinary_follows recording
    apply Uses.bind (Uses.perform trivial)
    intro flagged
    cases flagged with
    | false => trivial
    | true => exact Uses.bind (Uses.perform trivial) fun _ => trivial
  refine Follows.bind saves ?_ fun _ _ _ _ => trivial
  intro afterSave fileDoc saveLater _
  refine Follows.perform (recording.ordinary _ _ trivial) (fun finished finishedAt => ?_)
    fun _ _ => trivial
  refine Follows.perform (recording.ordinary _ _ trivial) (fun signedOn signedAt => ?_)
    fun _ _ => trivial
  refine Follows.perform ?_ (fun _ recordedAt => ?_) fun _ _ => trivial
  · exact recording.signs _ _ _ startTime finished
      (began.mono ((saveLater.trans (List.suffix_cons _ _)).trans (List.suffix_cons _ _)))
      ⟨finishedAt, signedAt, afterSave, rfl⟩ rfl
  · apply ordinary_follows recording
    apply Uses.bind (ordinary_free (uses_free (mirror_calm _ _ _)))
    intro _
    apply Uses.bind (ordinary_plain (logEvent_plain _ _ _ _))
    intro _
    apply Uses.bind
    · apply Uses.bind (Uses.perform trivial)
      intro req
      apply Uses.bind (Uses.perform trivial)
      intro profile
      exact Uses.perform trivial
    intro _
    apply Uses.bind (recovered_ordinary (sendSignedNotification_basic _ _ _ _) _)
    intro _
    apply Uses.bind (Uses.perform trivial)
    intro _
    exact Uses.bind (ordinary_basic (runDevHooks_basic _ _)) fun _ => trivial

omit recording in
theorem checkSignedPdf_ordinary (ctx : Context) (name : String) (signedResult : SignedResult) :
    (checkSignedPdf lib ctx name signedResult).Uses Ordinary := by
  apply Uses.bind (ordinary_basic (verifySignedPdf_basic _))
  intro verification
  apply Uses.bind (ordinary_plain (logEvent_plain _ _ _ _))
  intro _
  split
  · apply Uses.bind (Uses.perform trivial)
    intro _
    exact Uses.bind (ordinary_plain (logEvent_plain _ _ _ _)) fun _ => trivial
  · trivial

theorem completeSigning_records (ctx : Context) (arguments : FinalizeArguments) {name : String}
    {startTime : Instant} (chain : Json) (began : Began trace name startTime) :
    (completeSigning lib ctx arguments name startTime chain).Follows allowed (fun _ _ => True)
      trace := by
  refine Follows.bind (finalizeSignedPdf_numbers recording _ _ _) ?_ fun _ _ _ _ => trivial
  intro afterBuild signedResult buildLater numbered
  refine Uses.past (checkSignedPdf_ordinary ctx name signedResult) recording.ordinary ?_
    fun _ _ _ => trivial
  intro afterCheck verification checkLater
  exact recordSigned_records recording ctx arguments verification
    (began.mono (buildLater.trans checkLater)) ((numbered signedResult rfl).mono checkLater)

theorem finalize_records (ctx : Context) (arguments : FinalizeArguments) :
    (finalize lib ctx arguments).Follows allowed (fun _ _ => True) [] := by
  refine Follows.bind (receiveSignature_begins recording ctx arguments) ?_ fun _ _ _ _ => trivial
  rintro afterReceive ⟨session, startTime, presented⟩ _ received
  have began := received _ rfl
  refine Follows.perform (recording.ordinary _ _ trivial) (fun reqDoc reqAt => ?_)
    fun _ _ => trivial
  refine Uses.past (ordinary_free (uses_free (expectedFingerprint_calm reqDoc)))
    recording.ordinary ?_ fun _ _ _ => trivial
  intro afterExpected expected expectedLater
  split
  · apply ordinary_follows recording
    apply Uses.bind (Uses.perform trivial)
    intro _
    apply Uses.bind (ordinary_plain (logEvent_plain _ _ _ _))
    intro _
    exact Uses.bind (Uses.perform trivial) fun _ => trivial
  · refine Follows.ofExcept (fun chain _ => ?_) fun _ _ => trivial
    refine Follows.recover (completeSigning_records recording ctx arguments chain
      (began.mono ((List.suffix_cons _ _).trans expectedLater))) (fun _ _ _ _ => trivial) ?_
    intro later exn _ _
    apply ordinary_follows recording
    apply Uses.bind (Uses.perform trivial)
    intro _
    apply Uses.bind (ordinary_free (uses_free (mirror_calm _ _ _)))
    intro _
    apply Uses.bind (ordinary_plain (logEvent_plain _ _ _ _))
    intro _
    apply Uses.bind (recovered_ordinary (notifyAdminsOfFailure_basic _ _) _)
    intro _
    exact Uses.bind (Uses.perform trivial) fun _ => trivial

end Finalize

/-- A rule for what `finalize` records is kept by every endpoint, if it binds `finalize` only. -/
theorem body_records {rule : Origin → ServerTrace → Operation → Prop}
    (recording : ∀ ctx arguments, Recording (rule ⟨ctx, .finalize arguments⟩))
    (others : ∀ origin trace operation, (∀ arguments, origin.endpoint ≠ .finalize arguments) →
      rule origin trace operation) (origin : Origin) :
    (body lib origin).Follows (rule origin) (fun _ _ => True) [] := by
  by_cases ends : ∃ arguments, origin.endpoint = .finalize arguments
  · obtain ⟨ctx, endpoint⟩ := origin
    obtain ⟨arguments, rfl⟩ := ends
    exact Follows.bind (finalize_records (recording ctx arguments) ctx arguments)
      (fun _ _ _ _ => trivial) fun _ _ _ _ => trivial
  · refine Follows.always fun later operation _ => others origin later operation ?_
    exact fun arguments same => ends ⟨arguments, same⟩

end DscSigning
