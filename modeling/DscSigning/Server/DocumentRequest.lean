/-
The request of a DSC Document Sign record: whether there is ever more than one,
and whether the record goes on naming it.

A save inserts a request for a Draft only, and no endpoint makes a record a
Draft again.  The link to the request is a field of the form like any other.
-/

import DscSigning.Server.MirrorRuns

namespace DscSigning

open Interaction Program Engine

variable {lib : Libraries} {record : String}

/-! ### The runs -/

def insertsFor (lib : Libraries) (record : String) (world : ServerWorld) (evaluation : Evaluation) :
    Bool :=
  match (evaluateRules lib world.data world.shared.now evaluation).request with
  | some (_, request) => request.sourceDoctype == documentSign && request.sourceName == record
  | none => false

/-- A save of the record submits the status that is stored, and no rule inserts a
request for it. -/
def leavesStatus (lib : Libraries) (record : String) (world : ServerWorld) : DeskLabel → Bool
  | .server _ => true
  | .saveDocument _ name _ form => name != record ||
      match world.data.docSigns.lookup record with
      | some document => form.status == some document.status
      | none => true
  | .evaluateRules evaluation => !insertsFor lib record world evaluation

def requested (database : Database) (record : String) : Bool :=
  !(database.requests.select fun row => row.belongsTo documentSign record).isEmpty

/-- Once there is a request, a save of the record submits the link that is stored. -/
def leavesLink (record : String) (world : ServerWorld) : DeskLabel → Bool
  | .saveDocument _ name _ form => name != record || !requested world.data record ||
      match world.data.docSigns.lookup record with
      | some document => form.signingRequest == document.signingRequest
      | none => true
  | _ => true

/-! ### What is kept of the record -/

/-- The record has at most one request, and is no Draft while it has one. -/
structure RequestedOnce (database : Database) (record : String) : Prop where
  once : ∀ first second, For database first documentSign record →
    For database second documentSign record → first = second
  undrafted : ∀ name, For database name documentSign record → ∃ document,
    database.docSigns.lookup record = some document ∧ document.status ≠ .draft

/-- The record names every request that is for it. -/
def NamesRequests (database : Database) (record : String) : Prop :=
  ∀ name, For database name documentSign record → ∃ document,
    database.docSigns.lookup record = some document ∧ document.signingRequest = some name

/-! ### Endpoints -/

def Undrafted : Operation → Prop
  | .setDocSign _ edit => edit.status ≠ .draft
  | _ => True

theorem undrafted_still {Value : Type} {program : Server Value} (uses : program.Uses Still) :
    program.Uses Undrafted :=
  uses.weaken fun operation still => by
    cases operation with
    | setDocSign name edit =>
        rcases still with simple | ⟨event, same⟩
        · cases simple
        · cases same
    | _ => trivial

theorem undrafted_idle {Value : Type} {program : Server Value} (uses : program.Uses Idle) :
    program.Uses Undrafted :=
  undrafted_still (still_idle uses)

theorem undrafted_basic {Value : Type} {program : Server Value} (uses : program.Uses Basic) :
    program.Uses Undrafted :=
  undrafted_still (still_basic uses)

theorem mirror_undrafted (doctype docname : String) {edit : DocSignEdit}
    (copied : edit.status ≠ .draft) : (mirror doctype docname edit).Uses Undrafted :=
  mirror_uses doctype docname copied

theorem loadUpload_undrafted (doctype docname : String) :
    (loadUpload doctype docname).Uses Undrafted :=
  loadUpload_uses doctype docname trivial (fun _ => trivial) DocumentStatus.noConfusion

theorem authorise_undrafted (row : PendingRequest) (profile : Profile) (settings : Settings)
    (locationText : Text) (result : PrepareResult) :
    (authorise lib row profile settings locationText result).Uses Undrafted :=
  authorise_uses row profile settings locationText result
    (getOrCreateHmacSecret_uses trivial trivial trivial (fun _ => trivial) trivial) trivial trivial

theorem initiate_undrafted (ctx : Context) (arguments : InitiateArguments) :
    (initiate lib ctx arguments).Uses Undrafted := by
  refine Uses.bind (Uses.demand _ _) fun _ => ?_
  refine Uses.bind (Uses.perform trivial) fun found => ?_
  refine Uses.bind (Uses.ofOption _ _) fun row => ?_
  refine Uses.bind (undrafted_idle (checkSigner_idle ctx row)) fun _ => ?_
  refine Uses.bind (Uses.perform trivial) fun profile => ?_
  refine Uses.bind (undrafted_idle (checkProfile_idle ctx profile)) fun _ => ?_
  refine Uses.bind (Uses.perform trivial) fun settings => ?_
  refine Uses.bind (Uses.demand _ _) fun _ => ?_
  refine Uses.bind (undrafted_basic (geocode_basic _ _)) fun geocoded => ?_
  refine Uses.bind (undrafted_basic (loadTemplate_basic _)) fun sigTemplate => ?_
  refine Uses.bind (loadUpload_undrafted _ _) fun upload => ?_
  refine Uses.bind (undrafted_basic (choosePrintFormat_basic _ _ _)) fun printFormat => ?_
  refine Uses.bind (Uses.ofExcept _) fun location => ?_
  refine Uses.bind (Uses.perform trivial) fun _ => ?_
  refine Uses.bind (undrafted_basic (runDevHooks_basic _ _)) fun _ => ?_
  refine Uses.bind (Uses.ofExcept _) fun certDer => ?_
  refine Uses.bind (Uses.demand _ _) fun _ => ?_
  refine Uses.bind (undrafted_idle (preparePdfForSigning_idle _)) fun result => ?_
  refine Uses.bind (Uses.perform trivial) fun _ => ?_
  refine Uses.bind (undrafted_still (logPrepared_still _ _ _ _ _ _)) fun _ => ?_
  exact authorise_undrafted _ _ _ _ _

theorem checkSignedPdf_undrafted (ctx : Context) (name : String) (signedResult : SignedResult) :
    (checkSignedPdf lib ctx name signedResult).Uses Undrafted := by
  refine Uses.bind (undrafted_basic (verifySignedPdf_basic _)) fun verification => ?_
  refine Uses.bind (undrafted_still (logEvent_still _ _ _ _)) fun _ => ?_
  split
  · refine Uses.bind (Uses.perform trivial) fun _ => ?_
    exact Uses.bind (undrafted_still (logEvent_still _ _ _ _)) fun _ => trivial
  · trivial

theorem recordSigned_undrafted (ctx : Context) (arguments : FinalizeArguments) (name : String)
    (startTime : Instant) (signedResult : SignedResult) (verification : Verification) :
    (recordSigned lib ctx arguments name startTime signedResult verification).Uses Undrafted := by
  refine Uses.bind (undrafted_idle (saveSignedPdf_idle _)) fun fileDoc => ?_
  refine Uses.bind (Uses.perform trivial) fun finished => ?_
  refine Uses.bind (Uses.perform trivial) fun signedOn => ?_
  refine Uses.bind (Uses.perform trivial) fun _ => ?_
  refine Uses.bind (mirror_undrafted _ _ DocumentStatus.noConfusion) fun _ => ?_
  refine Uses.bind (undrafted_still (logEvent_still _ _ _ _)) fun _ => ?_
  refine Uses.bind (undrafted_idle (addTimelineEntry_idle _ _ _)) fun _ => ?_
  refine Uses.bind
    (undrafted_still (recovered_still (sendSignedNotification_basic _ _ _ _) _)) fun _ => ?_
  refine Uses.bind (Uses.perform trivial) fun _ => ?_
  exact Uses.bind (undrafted_basic (runDevHooks_basic _ _)) fun _ => trivial

theorem recordFailure_undrafted (ctx : Context) (name : String) (reqDoc : SigningRequest)
    (exn : Exn) : (recordFailure lib ctx name reqDoc exn).Uses Undrafted := by
  refine Uses.bind (Uses.perform trivial) fun _ => ?_
  refine Uses.bind (mirror_undrafted _ _ DocumentStatus.noConfusion) fun _ => ?_
  refine Uses.bind (undrafted_still (logEvent_still _ _ _ _)) fun _ => ?_
  refine Uses.bind
    (undrafted_still (recovered_still (notifyAdminsOfFailure_basic _ _) _)) fun _ => ?_
  exact Uses.bind (Uses.perform trivial) fun _ => trivial

theorem finalize_undrafted (ctx : Context) (arguments : FinalizeArguments) :
    (finalize lib ctx arguments).Uses Undrafted := by
  refine Uses.bind (undrafted_basic (receiveSignature_basic _ _)) fun received => ?_
  refine Uses.bind (Uses.perform trivial) fun reqDoc => ?_
  refine Uses.bind ?_ fun expected => ?_
  · unfold expectedFingerprint
    split
    · exact Uses.perform trivial
    · trivial
  · split
    · refine Uses.bind (Uses.perform trivial) fun _ => ?_
      refine Uses.bind (undrafted_still (logEvent_still _ _ _ _)) fun _ => ?_
      exact Uses.bind (Uses.perform trivial) fun _ => trivial
    · refine Uses.bind (Uses.ofExcept _) fun chain => ?_
      refine Uses.recover ?_ fun exn => recordFailure_undrafted _ _ _ _
      refine Uses.bind (undrafted_idle (finalizeSignedPdf_idle _ _ _)) fun signedResult => ?_
      refine Uses.bind (checkSignedPdf_undrafted _ _ _) fun verification => ?_
      exact recordSigned_undrafted _ _ _ _ _ _

theorem recoverStale_undrafted (doctype docname : String) (now : Instant)
    (rows : List ListedRequest) : (recoverStale doctype docname now rows).Uses Undrafted := by
  induction rows with
  | nil => trivial
  | cons row rest ih =>
      refine Uses.bind ?_ fun recovered => Uses.bind ih fun _ => trivial
      unfold recoverRow
      split
      · refine Uses.bind (Uses.perform trivial) fun _ => ?_
        exact Uses.bind (mirror_undrafted _ _ DocumentStatus.noConfusion) fun _ => trivial
      · trivial

theorem getSigningStatus_undrafted (ctx : Context) (doctype docname : String) :
    (getSigningStatus ctx doctype docname).Uses Undrafted := by
  refine Uses.bind (Uses.perform trivial) fun rows => ?_
  split
  · trivial
  · refine Uses.bind (Uses.perform trivial) fun now => ?_
    exact Uses.bind (recoverStale_undrafted _ _ _ _) fun _ => trivial

theorem body_undrafted (origin : Origin) : (body lib origin).Uses Undrafted := by
  obtain ⟨ctx, endpoint⟩ := origin
  cases endpoint with
  | initiate arguments => exact (initiate_undrafted ctx arguments).bind fun _ => trivial
  | finalize arguments => exact (finalize_undrafted ctx arguments).bind fun _ => trivial
  | getSigningStatus doctype docname =>
      exact (getSigningStatus_undrafted ctx doctype docname).bind fun _ => trivial
  | getFormActions doctype docname =>
      refine Uses.bind ?_ fun _ => trivial
      refine Uses.bind (getSigningStatus_undrafted ctx doctype docname) fun statusInfo => ?_
      exact Uses.bind (Uses.perform trivial) fun settings => trivial
  | retry name =>
      refine Uses.bind ?_ fun _ => trivial
      refine Uses.bind (Uses.perform trivial) fun doc => ?_
      refine Uses.bind (Uses.demand _ _) fun _ => ?_
      refine Uses.bind (Uses.perform trivial) fun _ => ?_
      refine Uses.bind (mirror_undrafted _ _ DocumentStatus.noConfusion) fun _ => ?_
      exact Uses.bind (undrafted_still (logEvent_still _ _ _ _)) fun _ => trivial
  | cancel name reason =>
      refine Uses.bind ?_ fun _ => trivial
      refine Uses.bind (Uses.perform trivial) fun doc => ?_
      refine Uses.bind (Uses.demand _ _) fun _ => ?_
      refine Uses.bind (Uses.perform trivial) fun now => ?_
      refine Uses.bind (Uses.perform trivial) fun _ => ?_
      refine Uses.bind (mirror_undrafted _ _ DocumentStatus.noConfusion) fun _ => ?_
      refine Uses.bind (undrafted_still (logEvent_still _ _ _ _)) fun _ => ?_
      exact Uses.bind (undrafted_basic (runDevHooks_basic _ _)) fun _ => trivial
  | abortInProgress name reason =>
      refine Uses.bind ?_ fun _ => trivial
      refine Uses.bind (Uses.perform trivial) fun doc => ?_
      split
      · trivial
      · refine Uses.bind (Uses.perform trivial) fun _ => ?_
        refine Uses.bind (mirror_undrafted _ _ DocumentStatus.noConfusion) fun _ => ?_
        exact Uses.bind (undrafted_still (logEvent_still _ _ _ _)) fun _ => trivial
  | expireStalePendingRequests =>
      refine Uses.bind ?_ fun _ => trivial
      refine Uses.bind (Uses.perform trivial) fun settings => ?_
      refine Uses.bind (Uses.perform trivial) fun now => ?_
      refine Uses.bind (Uses.perform trivial) fun names => ?_
      refine Uses.bind (Uses.forEach fun _ _ => Uses.perform trivial) fun _ => ?_
      split
      · trivial
      · exact Uses.perform trivial

/-! ### What a step does to the record -/

/-- The record is there, and no Draft. -/
def Submitted (database : Database) (record : String) : Prop :=
  ∃ document, database.docSigns.lookup record = some document ∧ document.status ≠ .draft

def Write.undrafted : Write → Prop
  | .setDocSign _ edit => edit.status ≠ .draft
  | _ => True

theorem submitted_perform {database : Database} {write : Write} (undrafted : write.undrafted)
    (submitted : Submitted database record) : Submitted (write.perform database) record := by
  obtain ⟨document, found, status⟩ := submitted
  cases write with
  | setDocSign name edit =>
      simp only [Submitted, perform_docSigns, found, Option.map_some, Option.some.injEq,
        exists_eq_left']
      split
      · exact undrafted
      · exact status
  | _ => exact ⟨document, found, status⟩

theorem submitted_view {database : Database} {writes : List Write}
    (undrafted : ∀ write ∈ writes, write.undrafted) (submitted : Submitted database record) :
    Submitted (site.view database writes) record := by
  induction writes generalizing database with
  | nil => exact submitted
  | cons write rest ih =>
      exact ih (fun other member => undrafted other (List.mem_cons_of_mem _ member))
        (submitted_perform (undrafted write List.mem_cons_self) submitted)

theorem effects_undrafted {event : ServerEvent} (allowed : Undrafted event.query) {write : Write}
    (member : write ∈ effects event) : write.undrafted := by
  obtain ⟨operation, result, stamp⟩ := event
  cases operation with
  | setDocSign name edit =>
      cases result with
      | error _ => cases member
      | ok _ =>
          rw [List.mem_singleton.mp member]
          exact allowed
  | _ => cases result <;> simp only [effects, List.not_mem_nil, List.mem_singleton] at member <;>
      first | exact member.elim | (subst member; trivial)

/-- The writes of a call make no record a Draft. -/
theorem pending_undrafted {world : ServerWorld}
    (disciplined : world.Disciplined (fun _ _ => Undrafted) fun _ _ _ => True) {index : Nat}
    {call : ServerCall} (located : world.calls[index]? = some call) (write : Write)
    (member : write ∈ site.pending call.trace) : write.undrafted := by
  obtain ⟨event, earlier, newer, same, effect, _⟩ := mem_pending member
  have asked : event ∈ call.trace := by
    rw [same]
    simp
  obtain ⟨_, _, allowed⟩ := (disciplined_running disciplined located).of_mem asked
  exact effects_undrafted allowed effect

/-- A step leaves the record and its requests alone, or commits writes, or saves the record. -/
inductive RecordStep (record : String) (before after : Database) : DeskLabel → Prop
  | aside (label : DeskLabel)
      (requests : ∀ name, For after name documentSign record ↔ For before name documentSign record)
      (row : after.docSigns.lookup record = before.docSigns.lookup record) :
      RecordStep record before after label
  | committed (label : DeskLabel) (writes : List Write)
      (undrafted : ∀ write ∈ writes, write.undrafted) (data : after = site.view before writes) :
      RecordStep record before after label
  | rewritten (user requestName : String) (form : DocumentForm)
      (requests : ∀ name, For after name documentSign record ↔ For before name documentSign record)
      (row : after.docSigns.lookup record = some (form.row (form.status.getD .draft))) :
      RecordStep record before after (.saveDocument user record requestName form)
  | requested (user requestName : String) (form : DocumentForm) (document : DocumentSign)
      (draft : form.status.getD .draft = .draft)
      (requests : ∀ name, For after name documentSign record ↔
        For before name documentSign record ∨ name = requestName)
      (row : after.docSigns.lookup record = some document)
      (link : document.signingRequest = some requestName) (pending : document.status = .pending) :
      RecordStep record before after (.saveDocument user record requestName form)

section Step

variable {world next : ServerWorld}

theorem for_other {before after : Database} {now : Instant}
    {request : Option (String × NewRequest)}
    (requests : after.requests = (before.withRequest now request).requests)
    (absent : ∀ created row, request = some (created, row) → before.requests.lookup created = none)
    (other : ∀ created row, request = some (created, row) →
      ¬ (row.sourceDoctype = documentSign ∧ row.sourceName = record)) (name : String) :
    For after name documentSign record ↔ For before name documentSign record := by
  rcases request with _ | ⟨created, row⟩
  · simp only [For, requests, Database.withRequest]
  · refine (for_insert (absent created row rfl) requests).trans (or_iff_left ?_)
    exact fun own => other created row rfl own.2

theorem save_record {user requestName : String} {form : DocumentForm} {document : DocumentSign}
    {request : Option (String × NewRequest)} {after : Database} {now : Instant}
    (saved : saveDocument world.data user record requestName form = .ok (document, request))
    (data : after = { world.data.withRequest now request with
      docSigns := world.data.docSigns.insert record document })
    (absent : ∀ created row, request = some (created, row) →
      world.data.requests.lookup created = none) :
    RecordStep record world.data after (.saveDocument user record requestName form) := by
  have written : after.docSigns.lookup record = some document := by
    rw [data]
    exact AList.lookup_insert _
  have requests : after.requests = (world.data.withRequest now request).requests := by rw [data]
  rcases saveDocument_cases saved with ⟨rfl, shape⟩ | ⟨row, rfl, kind, own, draft, link, pending⟩
  · rw [shape] at written
    refine .rewritten user requestName form (for_other requests absent ?_) written
    exact fun _ _ impossible => by cases impossible
  · refine .requested user requestName form document draft (fun name => ?_) written link pending
    refine (for_insert (absent _ _ rfl) requests).trans (or_congr_right ?_)
    exact ⟨And.left, fun same => ⟨same, kind, own⟩⟩

theorem desk_record {label : DeskLabel}
    (disciplined : world.Disciplined (fun _ _ => Undrafted) fun _ _ _ => True)
    (leaves : leavesStatus lib record world label = true)
    (stepped : deskStep lib world label = some next) :
    RecordStep record world.data next.data label := by
  cases label with
  | server label =>
      obtain ⟨own, stepped⟩ := server_cases stepped
      rcases step_data (body lib) stepped with
        ⟨index, call, committed, after, _⟩ | ⟨_, _, same | ⟨move, _, rfl, moved⟩⟩
      · exact .committed _ _ (pending_undrafted disciplined (committing_located committed).1) after
      · rw [same]
        exact .aside _ (fun _ => Iff.rfl) rfl
      · obtain ⟨requests, docSigns⟩ := move_documents moved own
        exact .aside _ (fun name => by simp only [For, requests]) (by rw [docSigns])
  | saveDocument user name requestName form =>
      rcases save_cases stepped with rfl | ⟨document, request, saved, _, data, absent⟩
      · exact .aside _ (fun _ => Iff.rfl) rfl
      · by_cases own : name = record
        · subst own
          exact save_record saved data absent
        · refine .aside _ (for_other (by rw [data]) absent (save_elsewhere saved own)) ?_
          rw [data]
          exact AList.lookup_insert_ne (Ne.symm own)
  | evaluateRules evaluation =>
      obtain ⟨_, data, absent⟩ := evaluate_cases stepped
      refine .aside _ (for_other (by rw [data]) absent fun created row same both => ?_)
        (by rw [evaluate_docSigns stepped])
      simp only [leavesStatus, insertsFor, same, both.1, both.2, beq_self_eq_true, Bool.and_self,
        Bool.not_true, Bool.false_eq_true] at leaves

/-- What is known of the record along a run. -/
structure Requesting (record : String) (world : ServerWorld) : Prop where
  disciplined : world.Disciplined (fun _ _ => Undrafted) fun _ _ _ => True
  once : RequestedOnce world.data record

theorem undrafted_desk {label : DeskLabel}
    (disciplined : world.Disciplined (fun _ _ => Undrafted) fun _ _ _ => True)
    (stepped : deskStep lib world label = some next) :
    next.Disciplined (fun _ _ => Undrafted) fun _ _ _ => True := by
  have serving (origin : Origin) :
      (body lib origin).Follows (fun _ : ServerTrace => Undrafted) (fun _ _ => True) [] :=
    ((body_undrafted origin).follows [] fun _ _ allowed => allowed).weaken fun _ _ _ _ => trivial
  exact desk_preserves (fun _ _ _ holds stepped => disciplined_step (body lib) serving holds stepped)
    (fun _ _ holds => holds) disciplined stepped

/-- A save of a record with a request leaves its status, which is not Draft. -/
theorem status_left {user requestName : String} {form : DocumentForm} {stored : DocumentSign}
    (leaves : leavesStatus lib record world (.saveDocument user record requestName form) = true)
    (found : world.data.docSigns.lookup record = some stored) : form.status = some stored.status := by
  simpa [leavesStatus, found] using leaves

theorem unrequested {user requestName : String} {form : DocumentForm}
    (once : RequestedOnce world.data record)
    (leaves : leavesStatus lib record world (.saveDocument user record requestName form) = true)
    (draft : form.status.getD .draft = .draft) (name : String) :
    ¬ For world.data name documentSign record := by
  intro source
  obtain ⟨stored, found, status⟩ := once.undrafted name source
  rw [status_left leaves found] at draft
  exact status draft

theorem requesting_desk {label : DeskLabel} (requesting : Requesting record world)
    (leaves : leavesStatus lib record world label = true)
    (stepped : deskStep lib world label = some next) : Requesting record next := by
  refine ⟨undrafted_desk requesting.disciplined stepped, ?_⟩
  have once := requesting.once
  cases desk_record requesting.disciplined leaves stepped with
  | aside _ requests row =>
      refine ⟨fun first second left right => ?_, fun name source => ?_⟩
      · exact once.once first second ((requests first).mp left) ((requests second).mp right)
      · rw [row]
        exact once.undrafted name ((requests name).mp source)
  | committed _ writes undrafted data =>
      rw [data]
      refine ⟨fun first second left right => ?_, fun name source => ?_⟩
      · exact once.once first second (for_view.mp left) (for_view.mp right)
      · exact submitted_view undrafted (once.undrafted name (for_view.mp source))
  | rewritten user requestName form requests row =>
      refine ⟨fun first second left right => ?_, fun name source => ?_⟩
      · exact once.once first second ((requests first).mp left) ((requests second).mp right)
      · obtain ⟨stored, found, status⟩ := once.undrafted name ((requests name).mp source)
        refine ⟨_, row, ?_⟩
        rw [status_left leaves found]
        exact status
  | requested user requestName form document draft requests row link pending =>
      -- A record with a request is no Draft, so this request is the first one.
      have alone := unrequested once leaves draft
      have only (name : String) (source : For next.data name documentSign record) :
          name = requestName :=
        ((requests name).mp source).resolve_left (alone name)
      refine ⟨fun first second left right => (only first left).trans (only second right).symm,
        fun _ _ => ⟨document, row, ?_⟩⟩
      rw [pending]
      exact DocumentStatus.noConfusion

theorem requested_for {database : Database} {name : String}
    (source : For database name documentSign record) : requested database record = true := by
  obtain ⟨row, found, doctype, docname⟩ := source
  have member : (name, row) ∈
      database.requests.select fun row => row.belongsTo documentSign record := by
    refine Table.mem_select.mpr ⟨found, ?_⟩
    simp only [SigningRequest.belongsTo, doctype, docname, beq_self_eq_true, Bool.and_self]
  simp only [requested, Bool.not_eq_true', List.isEmpty_eq_false_iff]
  exact List.ne_nil_of_mem member

structure Naming (record : String) (world : ServerWorld) : Prop extends Requesting record world where
  names : NamesRequests world.data record

theorem naming_desk {label : DeskLabel} (naming : Naming record world)
    (leaves : leavesStatus lib record world label = true)
    (keeps : leavesLink record world label = true) (stepped : deskStep lib world label = some next) :
    Naming record next := by
  refine ⟨requesting_desk naming.toRequesting leaves stepped, fun name source => ?_⟩
  have names := naming.names
  cases desk_record naming.disciplined leaves stepped with
  | aside _ requests row =>
      rw [row]
      exact names name ((requests name).mp source)
  | committed _ writes undrafted data =>
      rw [data] at source ⊢
      have listed := link_iff.mp (names name (for_view.mp source))
      rw [← view_link world.data writes record] at listed
      exact link_iff.mpr listed
  | rewritten user requestName form requests row =>
      have before := (requests name).mp source
      obtain ⟨stored, found, named⟩ := names name before
      simp only [leavesLink, bne_self_eq_false, requested_for before, Bool.not_true, Bool.or_self,
        found, Bool.false_or, beq_iff_eq] at keeps
      exact ⟨_, row, keeps.trans named⟩
  | requested user requestName form document draft requests row link pending =>
      rcases (requests name).mp source with before | same
      · exact absurd before (unrequested naming.once leaves draft name)
      · exact ⟨document, row, by rw [link, same]⟩

theorem not_for_installed (masters : Masters) (now : Instant) (zone : Int) (name : String) :
    ¬ For (installed masters now zone).data name documentSign record := by
  rintro ⟨row, found, _⟩
  cases found

theorem requesting_installed (masters : Masters) (now : Instant) (zone : Int) :
    Requesting record (installed masters now zone) where
  disciplined := by
    intro index call located
    cases located
  once :=
    { once := fun first _ left _ => absurd left (not_for_installed masters now zone first)
      undrafted := fun name source => absurd source (not_for_installed masters now zone name) }

theorem naming_installed (masters : Masters) (now : Instant) (zone : Int) :
    Naming record (installed masters now zone) :=
  ⟨requesting_installed masters now zone,
    fun name source => absurd source (not_for_installed masters now zone name)⟩

end Step

/-- In a run whose saves leave the status of the record, it has at most one
request, and is no Draft from then on; where they leave its link as well, it
goes on naming that request. -/
theorem document_requested_once (masters : Masters) (now : Instant) (zone : Int)
    (record : String) (labels : List DeskLabel) (world : ServerWorld)
    (leaves : Runs.Along (deskStep lib)
      (fun world label => leavesStatus lib record world label = true)
      (installed masters now zone) labels)
    (reached : Runs.run (deskStep lib) (installed masters now zone) labels = some world) :
    RequestedOnce world.data record ∧
      (Runs.Along (deskStep lib) (fun world label => leavesLink record world label = true)
        (installed masters now zone) labels → NamesRequests world.data record) := by
  constructor
  · have requesting : Requesting record world :=
      Runs.run_invariant (fun _ _ _ requesting leaves stepped =>
        requesting_desk requesting leaves stepped) (requesting_installed masters now zone) leaves
        reached
    exact requesting.once
  · intro keeps
    have naming : Naming record world :=
      Runs.run_invariant (fun _ _ _ naming both stepped => naming_desk naming both.1 both.2 stepped)
        (naming_installed masters now zone) (Runs.along_both leaves keeps) reached
    exact naming.names

/-- The requests for the record, and the one it names. -/
def requestsFor (record : String) (world : ServerWorld) :
    List String × Option (DocumentStatus × Text) :=
  ((world.data.requests.select fun row => row.belongsTo documentSign record).map Prod.fst,
    (world.data.docSigns.lookup record).map fun document =>
      (document.status, document.signingRequest))

/-- Alice saves the signed record once more. -/
def documentKept : List DeskLabel :=
  documentSigned ++
    [.saveDocument "alice" "DS-1" "SR-2"
      { documentForm with status := some .signed, signingRequest := some "SR-1" }]

theorem document_requested_once_sample :
    ∃ world, Runs.run (deskStep sampleLibraries) documentSite documentKept = some world ∧
      requestsFor "DS-1" world = (["SR-1"], some (.signed, some "SR-1")) ∧
      RequestedOnce world.data "DS-1" ∧ NamesRequests world.data "DS-1" := by
  have ends : ((Runs.run (deskStep sampleLibraries) documentSite documentKept).map
      (requestsFor "DS-1")) = some (["SR-1"], some (.signed, some "SR-1")) := by decide +kernel
  obtain ⟨world, reached, shown⟩ := Option.map_eq_some_iff.mp ends
  have leaves : Runs.alongCheck (deskStep sampleLibraries) (leavesStatus sampleLibraries "DS-1")
      documentSite documentKept = true := by decide +kernel
  have keeps : Runs.alongCheck (deskStep sampleLibraries) (leavesLink "DS-1")
      documentSite documentKept = true := by decide +kernel
  obtain ⟨once, names⟩ := document_requested_once documentMasters 0 0 "DS-1" documentKept world
    (Runs.along_of_check (fun _ _ checked => checked) leaves) reached
  exact ⟨world, reached, shown, once,
    names (Runs.along_of_check (fun _ _ checked => checked) keeps)⟩

theorem for_of_requestsFor {world : ServerWorld} {name : String} {names : List String}
    {shown : Option (DocumentStatus × Text)} (listed : requestsFor record world = (names, shown))
    (member : name ∈ names) : For world.data name documentSign record := by
  simp only [requestsFor, Prod.mk.injEq] at listed
  rw [← listed.1] at member
  obtain ⟨entry, inside, same⟩ := List.mem_map.mp member
  rw [← same]
  exact for_select (fun _ fits => fits) inside

/-- Alice saves the Pending record with the status it has and the link cleared. -/
def documentUnlinked : List DeskLabel :=
  [.saveDocument "alice" "DS-1" "SR-1" documentForm,
    .saveDocument "alice" "DS-1" "SR-2" { documentForm with status := some .pending }]

/-- A rule for DSC Document Sign matches the record that is saved. -/
def documentRuled : List DeskLabel :=
  [.saveDocument "alice" "DS-1" "SR-1" documentForm,
    .evaluateRules
      { ctx := sampleUser "alice"
        triggerEvent := "on_change"
        document := ⟨documentSign, "DS-1", none, none⟩
        rules := [⟨"R-1", none, none, 10, "P-1", none⟩]
        conditions := fun _ => true
        pick := 0
        requestName := "SR-2" }]

/-- The link of the record is gone, and a second request is there. -/
theorem request_unnamed_or_second :
    (∃ world, Runs.run (deskStep sampleLibraries) documentSite documentUnlinked = some world ∧
      Runs.alongCheck (deskStep sampleLibraries) (leavesStatus sampleLibraries "DS-1")
        documentSite documentUnlinked = true ∧ ¬ NamesRequests world.data "DS-1") ∧
    ∃ world, Runs.run (deskStep sampleLibraries) documentSite documentRuled = some world ∧
      ¬ RequestedOnce world.data "DS-1" := by
  have unlinked : ((Runs.run (deskStep sampleLibraries) documentSite documentUnlinked).map
      (requestsFor "DS-1")) = some (["SR-1"], some (.pending, none)) := by decide +kernel
  have ruled : ((Runs.run (deskStep sampleLibraries) documentSite documentRuled).map
      (requestsFor "DS-1")) = some (["SR-2", "SR-1"], some (.pending, some "SR-1")) := by
    decide +kernel
  obtain ⟨left, unlinks, first⟩ := Option.map_eq_some_iff.mp unlinked
  obtain ⟨right, rules, second⟩ := Option.map_eq_some_iff.mp ruled
  refine ⟨⟨left, unlinks, by decide +kernel, fun names => ?_⟩, right, rules, fun once => ?_⟩
  · obtain ⟨document, found, named⟩ := names "SR-1" (for_of_requestsFor first (by decide))
    simp only [requestsFor, found, Option.map_some, named, Prod.mk.injEq, Option.some.injEq,
      reduceCtorEq, and_false] at first
  · have same := once.once "SR-2" "SR-1" (for_of_requestsFor second (by decide))
      (for_of_requestsFor second (by decide))
    revert same
    decide

end DscSigning
