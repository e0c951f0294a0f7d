/-
Every endpoint leaves a record and its request alike where it commits, but for
a cleanup or a mismatch of fingerprints on that request.
-/

import DscSigning.Server.DocumentMirror

namespace DscSigning

open Interaction Program Engine

variable {lib : Libraries} {record : String} {origin : Origin}

variable (lib record origin) in
/-- A commit finds the record and its request alike. -/
def Mirroring (trace : ServerTrace) : Operation → Prop
  | .commit => Level lib record origin trace
  | _ => True

variable (lib record origin) in
def Mirrors {Value : Type} (trace : ServerTrace) : Except Exn Value → Prop
  | .ok _ => Level lib record origin trace
  | .error _ => True

variable (lib record origin) in
/-- What fails may have written the request and not the record. -/
def Settles {Value : Type} (name : String) (trace : ServerTrace) : Except Exn Value → Prop
  | .ok _ => Level lib record origin trace
  | .error _ => Loose lib record origin name trace

/-! ### Parts that write no status -/

theorem mirroring_still {trace : ServerTrace} {operation : Operation} (still : Still operation) :
    Mirroring lib record origin trace operation := by
  cases operation with
  | commit =>
      rcases still with simple | ⟨event, same⟩
      · cases simple
      · cases same
  | _ => trivial

theorem still_idle {Value : Type} {program : Server Value} (uses : program.Uses Idle) :
    program.Uses Still :=
  uses.weaken fun _ => Or.inl

theorem still_basic {Value : Type} {program : Server Value} (uses : program.Uses Basic) :
    program.Uses Still :=
  still_idle (basic_idle uses)

theorem logEvent_still (ctx : Context) (name eventType : String)
    (details : List (String × Json)) : (logEvent lib ctx name eventType details).Uses Still :=
  Uses.bind (Uses.perform (Or.inl rfl)) fun _ => Uses.perform (Or.inr ⟨_, rfl⟩)

theorem logPrepared_still (ctx : Context) (name : String) (settings : Settings)
    (location : Option SignerLocation) (geocoded : Option GeocodeResult)
    (result : PrepareResult) :
    (logPrepared lib ctx name settings location geocoded result).Uses Still := by
  apply Uses.bind (still_basic (logLocation_basic ctx name location geocoded))
  intro _
  exact Uses.bind (logEvent_still _ _ _ _) fun _ => logEvent_still _ _ _ _

theorem still_keeps {Value : Type} {program : Server Value} {trace : ServerTrace}
    {kept : ServerTrace → Prop} (uses : program.Uses Still)
    (silent : ∀ event earlier, Silent event → kept earlier → kept (event :: earlier))
    (start : kept trace) :
    program.Follows (Mirroring lib record origin) (fun later _ => kept later) trace :=
  uses.keeps start (fun event earlier still => silent event earlier (silent_still still))
    fun _ _ still _ => mirroring_still still

section Walk

variable {Value Result : Type} {trace : ServerTrace}
  {settles : ServerTrace → Except Exn Result → Prop}

theorem level_calls {program : Server Value} {next : Value → Server Result}
    (uses : program.Uses Still) (level : Level lib record origin trace)
    (onDone : ∀ later value, trace <:+ later → Level lib record origin later →
      (next value).Follows (Mirroring lib record origin) settles later)
    (onFail : ∀ later error, Level lib record origin later → settles later (.error error)) :
    (program.bind next).Follows (Mirroring lib record origin) settles trace :=
  (still_keeps uses (fun _ _ silent level => level.silent silent) level).bind onDone
    fun later error _ => onFail later error

theorem level_ask {operation : Operation} {next : operation.Answer → Server Result}
    (simple : idle operation = true) (level : Level lib record origin trace)
    (onDone : ∀ answer stamp, Level lib record origin (⟨operation, .ok answer, stamp⟩ :: trace) →
      (next answer).Follows (Mirroring lib record origin) settles
        (⟨operation, .ok answer, stamp⟩ :: trace))
    (onFail : ∀ later error, Level lib record origin later → settles later (.error error)) :
    ((ask operation).bind next).Follows (Mirroring lib record origin) settles trace :=
  Follows.perform (mirroring_still (Or.inl simple))
    (fun answer stamp => onDone answer stamp (level.silent (silent_still (Or.inl simple))))
    fun error _ => onFail _ error (level.silent silent_failed)

theorem statusOn_set {name : String} {update : RequestUpdate} {at_ : Instant}
    {status : RequestStatus} (gives : update.status = some status) :
    (Write.setRequest name update at_).statusOn name = some status := by
  simp only [Write.statusOn, if_pos, gives]

theorem set_follows {name : String} {update : RequestUpdate} {status : RequestStatus}
    {next : Unit → Server Result} (loose : Loose lib record origin name trace)
    (gives : update.status = some status)
    (onDone : ∀ stamp, Awaiting lib record origin name status
      (⟨.setRequest name update, .ok (), stamp⟩ :: trace) →
      (next ()).Follows (Mirroring lib record origin) settles
        (⟨.setRequest name update, .ok (), stamp⟩ :: trace))
    (onFail : ∀ later error, Loose lib record origin name later → settles later (.error error)) :
    ((ask (.setRequest name update)).bind next).Follows (Mirroring lib record origin) settles
      trace := by
  refine Follows.perform trivial (fun answer stamp => ?_)
    fun error stamp => onFail _ error (loose.silent silent_failed)
  exact onDone stamp (loose.written rfl rfl rfl (statusOn_set gives))

theorem save_follows {name : String} {loaded : SigningRequest} {edit : RequestEdit}
    {next : Unit → Server Result} (level : Level lib record origin trace)
    (onDone : ∀ stamp, Awaiting lib record origin name edit.status
      (⟨.saveRequest name loaded edit, .ok (), stamp⟩ :: trace) →
      (next ()).Follows (Mirroring lib record origin) settles
        (⟨.saveRequest name loaded edit, .ok (), stamp⟩ :: trace))
    (onFail : ∀ later error, settles later (.error error)) :
    ((ask (.saveRequest name loaded edit)).bind next).Follows (Mirroring lib record origin) settles
      trace := by
  refine Follows.perform trivial (fun answer stamp => ?_) fun error stamp => onFail _ error
  refine onDone stamp ((level.loose name).written rfl rfl rfl ?_)
  simp only [Write.statusOn, if_pos]

theorem mirror_follows {name doctype docname : String} {status : RequestStatus} {signedFile : Text}
    {next : Unit → Server Result} (awaiting : Awaiting lib record origin name status trace)
    (source : ∀ database, Base lib record origin trace database →
      For database name doctype docname)
    (onDone : ∀ later, trace <:+ later → Level lib record origin later →
      (next ()).Follows (Mirroring lib record origin) settles later)
    (onFail : ∀ later error, Loose lib record origin name later → settles later (.error error)) :
    ((mirror doctype docname ⟨.ofRequest status, signedFile⟩).bind next).Follows
      (Mirroring lib record origin) settles trace := by
  by_cases kind : doctype = documentSign
  · simp only [mirror, kind, beq_self_eq_true, if_true]
    refine Follows.perform trivial (fun answer stamp => ?_)
      fun error stamp => onFail _ error (awaiting.1.silent silent_failed)
    exact onDone _ (List.suffix_cons _ _) (awaiting.copied source kind)
  · simp only [mirror, beq_iff_eq, if_neg kind]
    refine onDone trace (List.suffix_refl _) fun database base => awaiting.1 database base ?_
    exact fun own => kind ((source database base).same own).1

end Walk

theorem Told.source {trace : ServerTrace} {name doctype docname : String}
    (told : Told trace name doctype docname) (database : Database)
    (base : Base lib record origin trace database) : For database name doctype docname :=
  base.heard.told name doctype docname told

/-! ### initiate -/

theorem loadUpload_mirrors {trace : ServerTrace} (doctype docname : String)
    (level : Level lib record origin trace) :
    (loadUpload doctype docname).Follows (Mirroring lib record origin)
      (fun later result => ∀ value, result = .ok value →
        Ahead lib record origin doctype docname .inProgress later) trace := by
  unfold loadUpload
  by_cases kind : doctype = documentSign
  · simp only [kind, beq_self_eq_true, if_true]
    refine level_ask rfl level (fun docSign stamp level => ?_) (fun _ _ _ _ same => by cases same)
    refine level_calls (still_basic (readUploadedPdf_basic _)) level (fun later content _ level => ?_)
      (fun _ _ _ _ same => by cases same)
    refine Follows.demand (fun _ => ?_) (fun _ _ same => by cases same)
    refine Follows.perform trivial (fun answer stamp value _ => ?_)
      (fun _ _ _ same => by cases same)
    exact level.ahead docname .inProgress none stamp
  · simp only [beq_iff_eq, if_neg kind]
    intro value _
    exact level.elsewhere kind docname .inProgress

theorem getOrCreateHmacSecret_mirrors {trace : ServerTrace} (level : Level lib record origin trace) :
    getOrCreateHmacSecret.Follows (Mirroring lib record origin)
      (fun later _ => Level lib record origin later) trace := by
  refine getOrCreateHmacSecret_basic.keeps level (fun event earlier asked level => ?_)
    (fun earlier query asked level => ?_)
  · rcases asked with simple | commits
    · exact level.silent (silent_still (Or.inl (idle_basic simple)))
    · obtain ⟨operation, result, stamp⟩ := event
      simp only at commits
      subst commits
      cases result with
      | error exn => exact level.silent silent_failed
      | ok value => exact level_commit stamp
  · rcases asked with simple | commits
    · exact mirroring_still (Or.inl (idle_basic simple))
    · rw [commits]
      exact level

theorem authorise_mirrors {trace : ServerTrace} (row : PendingRequest) (profile : Profile)
    (settings : Settings) (locationText : Text) (result : PrepareResult)
    (level : Level lib record origin trace) :
    (authorise lib row profile settings locationText result).Follows (Mirroring lib record origin)
      (Mirrors lib record origin) trace := by
  refine (getOrCreateHmacSecret_mirrors level).bind (fun later secret _ level => ?_)
    (fun _ _ _ _ => trivial)
  refine level_ask rfl level (fun timestamp stamp level => ?_) (fun _ _ _ => trivial)
  exact level_ask rfl level (fun nonce stamp level => level) (fun _ _ _ => trivial)

theorem initiate_mirrors (ctx : Context) (arguments : InitiateArguments) :
    (initiate lib ctx arguments).Follows (Mirroring lib record origin)
      (Mirrors lib record origin) [] := by
  refine Follows.demand (fun _ => ?_) (fun _ => trivial)
  refine level_ask rfl level_nil (fun found stamp level => ?_) (fun _ _ _ => trivial)
  refine Follows.ofOption (fun row same => ?_) (fun _ => trivial)
  subst same
  have told : Told [⟨.findPending arguments.doctype arguments.docname, .ok (some row), stamp⟩]
      row.name arguments.doctype arguments.docname :=
    ⟨_, List.mem_singleton_self _, List.mem_singleton_self _⟩
  refine level_calls (still_idle (checkSigner_idle ctx row)) level (fun _ _ first level => ?_)
    (fun _ _ _ => trivial)
  refine level_ask rfl level (fun profile stamp level => ?_) (fun _ _ _ => trivial)
  refine level_calls (still_idle (checkProfile_idle ctx profile)) level
    (fun checked _ second level => ?_) (fun _ _ _ => trivial)
  refine level_ask rfl level (fun settings stamp level => ?_) (fun _ _ _ => trivial)
  refine Follows.demand (fun _ => ?_) (fun _ => trivial)
  refine level_calls (still_basic (geocode_basic _ _)) level (fun located geocoded third level => ?_)
    (fun _ _ _ => trivial)
  refine level_calls (still_basic (loadTemplate_basic _)) level (fun templated template fourth level => ?_)
    (fun _ _ _ => trivial)
  refine (loadUpload_mirrors _ _ level).bind (fun uploaded upload fifth ahead => ?_)
    (fun _ _ _ _ => trivial)
  refine (still_keeps (still_basic (choosePrintFormat_basic _ _ _))
    (fun _ _ silent ahead => ahead.silent silent) (ahead upload rfl)).bind
    (fun chosen printFormat sixth ahead => ?_) (fun _ _ _ _ => trivial)
  refine Follows.ofExcept (fun location _ => ?_) (fun _ _ => trivial)
  have told := told.mono (((((first.trans (List.suffix_cons _ _)).trans second).trans
    (List.suffix_cons _ _)).trans third).trans ((fourth.trans fifth).trans sixth))
  refine Follows.perform trivial (fun _ stamp => ?_) (fun _ _ => trivial)
  refine level_calls (still_basic (runDevHooks_basic _ _))
    (ahead.met told.source rfl rfl rfl (statusOn_set rfl)) (fun _ _ _ level => ?_)
    (fun _ _ _ => trivial)
  refine Follows.ofExcept (fun certDer _ => ?_) (fun _ _ => trivial)
  refine Follows.demand (fun _ => ?_) (fun _ => trivial)
  refine level_calls (still_idle (preparePdfForSigning_idle _)) level (fun _ result _ level => ?_)
    (fun _ _ _ => trivial)
  refine level_ask rfl level (fun _ stamp level => ?_) (fun _ _ _ => trivial)
  refine level_calls (logPrepared_still _ _ _ _ _ _) level (fun _ _ _ level => ?_)
    (fun _ _ _ => trivial)
  exact authorise_mirrors row profile settings _ result level

/-! ### finalize -/

/-- The document of the session that the signature is written into. -/
theorem session_source {trace : ServerTrace} {sessionId : String} {one other : SigningSession}
    (first : Answered trace (.loadSession sessionId) (some one))
    (second : Answered trace (.loadSession sessionId) (some other)) (database : Database)
    (base : Base lib record origin trace database) :
    For database one.signingRequestName other.doctype other.docname := by
  rw [base.heard.sessions sessionId one other first second]
  exact (second.tells fun _ => List.mem_singleton_self _).source database base

theorem checkSignedPdf_mirrors {trace : ServerTrace} (ctx : Context) (name : String)
    (signedResult : SignedResult) (level : Level lib record origin trace) :
    (checkSignedPdf lib ctx name signedResult).Follows (Mirroring lib record origin)
      (Settles lib record origin name) trace := by
  refine level_calls (still_basic (verifySignedPdf_basic _)) level (fun _ verification _ level => ?_)
    (fun _ _ level => level.loose name)
  refine level_calls (logEvent_still _ _ _ _) level (fun _ _ _ level => ?_)
    (fun _ _ level => level.loose name)
  split
  · refine set_follows (level.loose name) rfl (fun stamp awaiting => ?_) (fun _ _ loose => loose)
    exact (still_keeps (logEvent_still _ _ _ _) (fun _ _ silent loose => loose.silent silent)
      awaiting.1).bind (fun _ _ _ loose => loose) (fun _ _ _ loose => loose)
  · exact level

theorem recovered_still {program : Server Unit} (uses : program.Uses Basic) (title : String) :
    (program.recover fun _ => ask (.logError title)).Uses Still :=
  Uses.recover (still_basic uses) fun _ => Uses.perform (Or.inl rfl)

theorem recordSigned_mirrors {trace : ServerTrace} (ctx : Context) (arguments : FinalizeArguments)
    (name : String) (startTime : Instant) (signedResult : SignedResult)
    (verification : Verification) (level : Level lib record origin trace)
    (source : ∀ later database, trace <:+ later → Base lib record origin later database →
      For database name signedResult.doctype signedResult.docname) :
    (recordSigned lib ctx arguments name startTime signedResult verification).Follows
      (Mirroring lib record origin) (Settles lib record origin name) trace := by
  have loosely (later : ServerTrace) (error : Exn) (level : Level lib record origin later) :
      Settles lib record origin name later (.error error : Except Exn FinalizeResponse) :=
    level.loose name
  refine level_calls (still_idle (saveSignedPdf_idle _)) level (fun _ fileDoc first level => ?_)
    loosely
  refine level_ask rfl level (fun finished _ level => ?_) loosely
  refine level_ask rfl level (fun signedOn _ level => ?_) loosely
  refine set_follows (level.loose name) rfl (fun _ awaiting => ?_) (fun _ _ loose => loose)
  refine mirror_follows awaiting
    (fun database => source _ database (((first.trans (List.suffix_cons _ _)).trans
      (List.suffix_cons _ _)).trans (List.suffix_cons _ _)))
    (fun _ _ level => ?_) (fun _ _ loose => loose)
  refine level_calls (logEvent_still _ _ _ _) level (fun _ _ _ level => ?_) loosely
  refine level_calls (still_idle (addTimelineEntry_idle _ _ _)) level (fun _ _ _ level => ?_) loosely
  refine level_calls (recovered_still (sendSignedNotification_basic _ _ _ _) _) level
    (fun _ _ _ level => ?_) loosely
  refine Follows.perform level (fun _ stamp => ?_)
    (fun error _ => loosely _ error (level.silent silent_failed))
  exact level_calls (still_basic (runDevHooks_basic _ _)) (level_commit stamp)
    (fun _ _ _ level => level) loosely

theorem completeSigning_mirrors {trace : ServerTrace} (ctx : Context)
    (arguments : FinalizeArguments) {session : SigningSession}
    (loaded : Answered trace (.loadSession arguments.sessionId) (some session)) (startTime : Instant)
    (chain : Json) (level : Level lib record origin trace) :
    (completeSigning lib ctx arguments session.signingRequestName startTime chain).Follows
      (Mirroring lib record origin) (Settles lib record origin session.signingRequestName)
      trace := by
  have idles : (finalizeSignedPdf lib arguments.sessionId arguments.signatureBytesB64 chain).Follows
      (Mirroring lib record origin) (fun later _ => Level lib record origin later) trace :=
    still_keeps (still_idle (finalizeSignedPdf_idle _ _ _)) (fun _ _ silent level => level.silent silent)
      level
  refine (idles.both (finalizeSignedPdf_source (fun _ _ simple => mirroring_still (Or.inl simple)) _ _
    _)).bind (fun later signedResult first finished => ?_)
    (fun _ _ _ finished => finished.1.loose session.signingRequestName)
  obtain ⟨again, loadedAgain, sameType, sameName⟩ := finished.2 signedResult rfl
  refine (checkSignedPdf_mirrors ctx _ signedResult finished.1).bind
    (fun checked verification second level => ?_) (fun _ _ _ loose => loose)
  refine recordSigned_mirrors ctx arguments _ startTime signedResult verification level
    (fun after database third base => ?_)
  rw [sameType, sameName]
  exact session_source (loaded.mono ((first.trans second).trans third))
    (loadedAgain.mono (second.trans third)) database base

theorem recordFailure_mirrors {trace : ServerTrace} (ctx : Context) (name : String)
    (reqDoc : SigningRequest) (exn : Exn) (loose : Loose lib record origin name trace)
    (told : Told trace name reqDoc.sourceDoctype reqDoc.sourceName) :
    (recordFailure lib ctx name reqDoc exn).Follows (Mirroring lib record origin)
      (Mirrors lib record origin) trace := by
  refine set_follows loose rfl (fun stamp awaiting => ?_) (fun _ _ _ => trivial)
  refine mirror_follows awaiting (told.mono (List.suffix_cons _ _)).source (fun _ _ level => ?_)
    (fun _ _ _ => trivial)
  refine level_calls (logEvent_still _ _ _ _) level (fun _ _ _ level => ?_) (fun _ _ _ => trivial)
  refine level_calls (recovered_still (notifyAdminsOfFailure_basic _ _) _) level
    (fun _ _ _ level => ?_) (fun _ _ _ => trivial)
  exact Follows.perform level (fun _ _ => trivial) (fun _ _ => trivial)

/-- The mismatch is on a request of another document. -/
theorem rejectFingerprint_mirrors {trace : ServerTrace} (ctx : Context) (name : String)
    (expected presented : Text) (level : Level lib record origin trace)
    (elsewhere : ∀ later database, trace <:+ later → Base lib record origin later database →
      ¬ For database name documentSign record) :
    (rejectFingerprint lib ctx name expected presented).Follows (Mirroring lib record origin)
      (Mirrors lib record origin) trace := by
  refine set_follows (level.loose name) rfl (fun stamp awaiting => ?_) (fun _ _ _ => trivial)
  have apart : Level lib record origin (⟨.setRequest name (.failed
      "Certificate fingerprint mismatch — token cert does not match profile"), .ok (), stamp⟩ ::
        trace) :=
    fun database base => awaiting.1 database base (elsewhere _ database (List.suffix_cons _ _) base)
  refine level_calls (logEvent_still _ _ _ _) apart (fun _ _ _ level => ?_) (fun _ _ _ => trivial)
  exact Follows.perform level (fun _ _ => trivial) (fun _ _ => trivial)

theorem expectedFingerprint_mirrors {trace : ServerTrace} (reqDoc : SigningRequest)
    (level : Level lib record origin trace) :
    (expectedFingerprint reqDoc).Follows (Mirroring lib record origin)
      (fun later result => Level lib record origin later ∧ ∀ expected, result = .ok expected →
        expected.given = true → Answered later (.profileFingerprint reqDoc.profile) expected)
      trace := by
  unfold expectedFingerprint
  split
  · refine ⟨trivial, fun reply stamp => ?_⟩
    cases reply with
    | error exn => exact ⟨level.silent silent_failed, fun _ impossible => by cases impossible⟩
    | ok told =>
        refine ⟨level.silent (silent_still (Or.inl rfl)), fun expected same _ => ?_⟩
        cases same
        exact Answered.head
  · refine ⟨level, fun expected same given => ?_⟩
    cases same
    cases given

theorem finalize_mirrors (ctx : Context) (arguments : FinalizeArguments)
    (endpoint : origin.endpoint = .finalize arguments) :
    (finalize lib ctx arguments).Follows (Mirroring lib record origin)
      (Mirrors lib record origin) [] := by
  have idles : (receiveSignature lib ctx arguments).Follows (Mirroring lib record origin)
      (fun later _ => Level lib record origin later) [] :=
    still_keeps (still_basic (receiveSignature_basic _ _)) (fun _ _ silent level => level.silent silent)
      level_nil
  refine (idles.alongside (receiveSignature_presents ctx arguments)).bind
    (fun received answers first both => ?_) (fun _ _ _ _ => trivial)
  obtain ⟨level, facts⟩ := both
  obtain ⟨session, startTime, presented⟩ := answers
  obtain ⟨loaded, decoded⟩ := facts _ rfl
  refine level_ask rfl level (fun reqDoc readAt level => ?_) (fun _ _ _ => trivial)
  have read : Answered (⟨.getRequest session.signingRequestName, .ok reqDoc, readAt⟩ :: received)
      (.getRequest session.signingRequestName) reqDoc := Answered.head
  refine (expectedFingerprint_mirrors reqDoc level).bind (fun told expected second both => ?_)
    (fun _ _ _ _ => trivial)
  obtain ⟨level, asked⟩ := both
  have read := read.mono second
  split
  · rename_i differ
    have given : expected.given = true := by
      simp only [fingerprintMismatch, Bool.and_eq_true] at differ
      exact differ.1.1
    refine rejectFingerprint_mirrors ctx _ expected presented level (fun later database third base => ?_)
    exact base.heard.mismatch arguments _ reqDoc _ expected presented endpoint (read.mono third)
      ((asked expected rfl given).mono third) decoded differ
  · refine Follows.ofExcept (fun chain _ => ?_) (fun _ _ => trivial)
    refine (completeSigning_mirrors ctx arguments (loaded.cons.mono second) startTime chain
      level).recover (fun _ _ _ level => level) (fun later exn third loose => ?_)
    exact recordFailure_mirrors ctx _ reqDoc exn loose
      ((read.mono third).tells fun _ => List.mem_singleton_self _)

/-! ### Status, retry, cancel and abort -/

theorem recoverStale_mirrors (doctype docname : String) (now : Instant)
    (rows : List ListedRequest) {trace : ServerTrace} (level : Level lib record origin trace)
    (told : ∀ row ∈ rows, Told trace row.name doctype docname) :
    (recoverStale doctype docname now rows).Follows (Mirroring lib record origin)
      (Mirrors lib record origin) trace := by
  induction rows generalizing trace with
  | nil => exact level
  | cons row rest ih =>
      have recovers : (recoverRow doctype docname now row).Follows (Mirroring lib record origin)
          (Mirrors lib record origin) trace := by
        unfold recoverRow
        split
        · refine set_follows (level.loose row.name) rfl (fun stamp awaiting => ?_)
            (fun _ _ _ => trivial)
          exact mirror_follows awaiting
            ((told row (by simp)).mono (List.suffix_cons _ _)).source
            (fun _ _ level => level) (fun _ _ _ => trivial)
        · exact level
      refine recovers.bind (fun later recovered grown level => ?_) (fun _ _ _ _ => trivial)
      refine (ih level fun other member => (told other (by simp [member])).mono grown).bind
        (fun _ _ _ level => level) (fun _ _ _ _ => trivial)

theorem getSigningStatus_mirrors (ctx : Context) (doctype docname : String) :
    (getSigningStatus ctx doctype docname).Follows (Mirroring lib record origin)
      (Mirrors lib record origin) [] := by
  refine level_ask rfl level_nil (fun rows listedAt level => ?_) (fun _ _ _ => trivial)
  split
  · exact level
  · refine level_ask rfl level (fun now readAt level => ?_) (fun _ _ _ => trivial)
    refine (recoverStale_mirrors doctype docname now rows level (fun row member => ?_)).bind
      (fun _ _ _ level => level) (fun _ _ _ _ => trivial)
    refine ⟨⟨.listRequests doctype docname, .ok rows, listedAt⟩, by simp, ?_⟩
    exact List.mem_map.mpr ⟨row, member, rfl⟩

theorem getFormActions_mirrors (ctx : Context) (doctype docname : String) :
    (getFormActions ctx doctype docname).Follows (Mirroring lib record origin)
      (Mirrors lib record origin) [] := by
  refine (getSigningStatus_mirrors ctx doctype docname).bind (fun _ _ _ level => ?_)
    (fun _ _ _ _ => trivial)
  exact level_ask rfl level (fun _ _ level => level) (fun _ _ _ => trivial)

theorem saved_mirrors {Value : Type} {trace : ServerTrace} {name : String}
    {doc : SigningRequest} {edit : RequestEdit} {rest : Server Value}
    (level : Level lib record origin trace) (read : Answered trace (.getRequest name) doc)
    (onDone : ∀ later, Level lib record origin later →
      rest.Follows (Mirroring lib record origin) (Mirrors lib record origin) later) :
    ((ask (.saveRequest name doc edit)).bind fun _ =>
      (mirror doc.sourceDoctype doc.sourceName ⟨.ofRequest edit.status, none⟩).bind fun _ =>
        rest).Follows (Mirroring lib record origin) (Mirrors lib record origin) trace := by
  refine save_follows level (fun stamp awaiting => ?_) (fun _ _ => trivial)
  have told : Told trace name doc.sourceDoctype doc.sourceName :=
    read.tells fun _ => List.mem_singleton_self _
  exact mirror_follows awaiting (told.mono (List.suffix_cons _ _)).source
    (fun later _ level => onDone later level) (fun _ _ _ => trivial)

theorem retry_mirrors (ctx : Context) (name : String) :
    (retry lib ctx name).Follows (Mirroring lib record origin) (Mirrors lib record origin) [] := by
  refine level_ask rfl level_nil (fun doc readAt level => ?_) (fun _ _ _ => trivial)
  refine Follows.demand (fun _ => ?_) (fun _ => trivial)
  refine saved_mirrors level Answered.head (fun later level => ?_)
  exact level_calls (logEvent_still _ _ _ _) level (fun _ _ _ level => level) (fun _ _ _ => trivial)

theorem cancel_mirrors (ctx : Context) (name reason : String) :
    (cancel lib ctx name reason).Follows (Mirroring lib record origin)
      (Mirrors lib record origin) [] := by
  refine level_ask rfl level_nil (fun doc readAt level => ?_) (fun _ _ _ => trivial)
  refine Follows.demand (fun _ => ?_) (fun _ => trivial)
  refine level_ask rfl level (fun now stamp level => ?_) (fun _ _ _ => trivial)
  refine saved_mirrors level Answered.head.cons (fun later level => ?_)
  refine level_calls (logEvent_still _ _ _ _) level (fun _ _ _ level => ?_) (fun _ _ _ => trivial)
  exact level_calls (still_basic (runDevHooks_basic _ _)) level (fun _ _ _ level => level)
    (fun _ _ _ => trivial)

theorem abortInProgress_mirrors (ctx : Context) (name reason : String) :
    (abortInProgress lib ctx name reason).Follows (Mirroring lib record origin)
      (Mirrors lib record origin) [] := by
  refine level_ask rfl level_nil (fun doc readAt level => ?_) (fun _ _ _ => trivial)
  split
  · exact level
  · refine saved_mirrors level Answered.head (fun later level => ?_)
    exact level_calls (logEvent_still _ _ _ _) level (fun _ _ _ level => level)
      (fun _ _ _ => trivial)

/-! ### The hourly cleanup -/

theorem Level.failed {trace : ServerTrace} {name reason : String} {stamp : Instant}
    (level : Level lib record origin trace)
    (elsewhere : ∀ database, Base lib record origin trace database →
      ¬ For database name documentSign record) :
    Level lib record origin (⟨.setRequest name (.failed reason), .ok (), stamp⟩ :: trace) :=
  fun database base => ((level.loose name).written rfl rfl rfl (statusOn_set rfl)).1 database base
    (elsewhere database base.before)

/-- The cleanup writes no copies; it is told of requests of other documents. -/
theorem expireStalePendingRequests_mirrors :
    expireStalePendingRequests.Follows (Mirroring lib record origin) (Mirrors lib record origin)
      [] := by
  refine level_ask rfl level_nil (fun settings _ level => ?_) (fun _ _ _ => trivial)
  refine level_ask rfl level (fun now _ level => ?_) (fun _ _ _ => trivial)
  refine level_ask rfl level (fun names listedAt level => ?_) (fun _ _ _ => trivial)
  refine (Follows.forEach (Level lib record origin) level (fun name member later grown level => ?_)
    (fun later _ level => level) :
      Follows (Mirroring lib record origin) (Mirrors lib record origin) _ _).bind
    (fun later _ _ level => ?_) (fun _ _ _ _ => trivial)
  · refine ⟨trivial, fun reply stamp => ?_⟩
    cases reply with
    | error exn => trivial
    | ok value =>
        refine level.failed fun database base => ?_
        exact base.heard.stale _ names name (Answered.head.mono grown) member
  · split
    · exact level
    · refine ⟨level, fun reply stamp => ?_⟩
      cases reply with
      | error exn => trivial
      | ok value => exact level_commit stamp

theorem body_mirrors (origin : Origin) :
    (body lib origin).Follows (Mirroring lib record origin) (Mirrors lib record origin) [] := by
  have wrapped {Value : Type} {program : Server Value} (wrap : Value → Response)
      (mirrors : program.Follows (Mirroring lib record origin) (Mirrors lib record origin) []) :
      (program.bind fun value => .done (wrap value)).Follows (Mirroring lib record origin)
        (Mirrors lib record origin) [] :=
    mirrors.bind (fun _ _ _ level => level) (fun _ _ _ _ => trivial)
  obtain ⟨ctx, endpoint⟩ := origin
  cases endpoint with
  | initiate arguments => exact wrapped _ (initiate_mirrors ctx arguments)
  | finalize arguments => exact wrapped _ (finalize_mirrors ctx arguments rfl)
  | getSigningStatus doctype docname => exact wrapped _ (getSigningStatus_mirrors ctx doctype docname)
  | getFormActions doctype docname => exact wrapped _ (getFormActions_mirrors ctx doctype docname)
  | retry name => exact wrapped _ (retry_mirrors ctx name)
  | cancel name reason => exact wrapped _ (cancel_mirrors ctx name reason)
  | abortInProgress name reason => exact wrapped _ (abortInProgress_mirrors ctx name reason)
  | expireStalePendingRequests => exact wrapped _ expireStalePendingRequests_mirrors

end DscSigning
