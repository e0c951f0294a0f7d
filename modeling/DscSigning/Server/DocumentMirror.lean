/-
DSC Document Sign records and the requests they stand for.

The status of a request is written in one statement and copied to its record in
another.  Every transaction that writes both leaves the two alike; a cleanup
and a fingerprint mismatch write the first only.
-/

import DscSigning.Server.Sources
import DscSigning.Server.StatusWrites

namespace DscSigning

open Interaction Program Engine

variable {lib : Libraries}

/-- The status of a record that copies the one of a request. -/
def DocumentStatus.ofRequest : RequestStatus → DocumentStatus
  | .pending => .pending
  | .inProgress => .inProgress
  | .signed => .signed
  | .failed => .failed
  | .cancelled => .cancelled

/-- The record has the status of its signing request. -/
def Mirrored (database : Database) (record : String) : Prop :=
  ∀ document name row, database.docSigns.lookup record = some document →
    document.signingRequest = some name → database.requests.lookup name = some row →
    document.status = .ofRequest row.status

/-- The record names the one request that is for it. -/
structure Linked (database : Database) (record : String) : Prop where
  names : ∀ document name, database.docSigns.lookup record = some document →
    document.signingRequest = some name → For database name documentSign record
  named : ∀ name, For database name documentSign record → ∃ document,
    database.docSigns.lookup record = some document ∧ document.signingRequest = some name

/-! ### Writes -/

theorem perform_docSigns (database : Database) (write : Write) (record : String) :
    (write.perform database).docSigns.lookup record =
      (database.docSigns.lookup record).map fun document =>
        match write with
        | .setDocSign other edit => if record = other then edit.apply document else document
        | _ => document := by
  have unchanged (row : Option DocumentSign) : row = row.map fun inner => inner := by
    cases row <;> rfl
  cases write with
  | setDocSign other edit =>
      simp only [Write.perform, Table.lookup_modify]
      by_cases same : record = other
      · rw [if_pos same, same]
        simp only [if_true]
      · simp only [if_neg same]
        exact unchanged _
  | _ => exact unchanged _

theorem perform_link (database : Database) (write : Write) (record : String) :
    ((write.perform database).docSigns.lookup record).map DocumentSign.signingRequest =
      (database.docSigns.lookup record).map DocumentSign.signingRequest := by
  rw [perform_docSigns, Option.map_map]
  congr 1
  funext document
  cases write with
  | setDocSign other edit =>
      simp only [Function.comp]
      split <;> rfl
  | _ => rfl

theorem view_link (database : Database) (writes : List Write) (record : String) :
    ((site.view database writes).docSigns.lookup record).map DocumentSign.signingRequest =
      (database.docSigns.lookup record).map DocumentSign.signingRequest := by
  induction writes generalizing database with
  | nil => rfl
  | cons write rest ih =>
      change ((site.view (write.perform database) rest).docSigns.lookup record).map _ = _
      rw [ih, perform_link]

theorem link_iff {database : Database} {record name : String} :
    (∃ document, database.docSigns.lookup record = some document ∧
      document.signingRequest = some name) ↔
    (database.docSigns.lookup record).map DocumentSign.signingRequest = some (some name) := by
  simp only [Option.map_eq_some_iff]

/-- Writes leave the links between records and requests. -/
theorem linked_view {database : Database} {record : String} (writes : List Write)
    (linked : Linked database record) : Linked (site.view database writes) record := by
  have same := view_link database writes record
  constructor
  · intro document name found names
    have listed := link_iff.mp ⟨document, found, names⟩
    rw [same] at listed
    obtain ⟨before, foundBefore, namesBefore⟩ := link_iff.mpr listed
    exact for_view.mpr (linked.names before name foundBefore namesBefore)
  · intro name source
    have listed := link_iff.mp (linked.named name (for_view.mp source))
    rw [← same] at listed
    exact link_iff.mpr listed

theorem docSigns_request {write : Write} {name : String}
    (row : write.row = some (.request name)) (database : Database) (record : String) :
    (write.perform database).docSigns.lookup record = database.docSigns.lookup record := by
  rw [perform_docSigns]
  cases write with
  | setDocSign other edit => cases row
  | _ => simp only [Option.map_id']

theorem mirrored_other {database : Database} {record name : String} {write : Write}
    (linked : Linked database record) (row : write.row = some (.request name))
    (elsewhere : ¬ For database name documentSign record) (mirrored : Mirrored database record) :
    Mirrored (write.perform database) record := by
  intro document target stored found names present
  have sameDocument : database.docSigns.lookup record = some document :=
    (docSigns_request row database record).symm.trans found
  have sameRow : database.requests.lookup target = some stored := by
    rw [perform_lookup] at present
    obtain ⟨before, foundBefore, same⟩ := Option.map_eq_some_iff.mp present
    have other : write.row ≠ some (.request target) := by
      rw [row]
      intro same
      cases same
      exact elsewhere (linked.names document name sameDocument names)
    rw [onRequest_other other] at same
    rw [foundBefore, same]
  exact mirrored document target stored sameDocument names sameRow

/-- The copy for another record. -/
theorem mirrored_apart {database : Database} {record other : String} {edit : DocSignEdit}
    (apart : record ≠ other) (mirrored : Mirrored database record) :
    Mirrored ((Write.setDocSign other edit).perform database) record := by
  intro document target stored found names present
  refine mirrored document target stored ?_ names present
  rw [perform_docSigns] at found
  simpa only [if_neg apart, Option.map_id'] using found

/-- A write that touches neither a status of a request nor a record. -/
def Write.still : Write → Bool
  | .setRequest _ update _ => update.status.isNone
  | .saveRequest .. => false
  | .setDocSign .. => false
  | _ => true

theorem still_status {write : Write} (still : write.still = true) (name : String)
    (row : SigningRequest) : (write.onRequest name row).status = row.status := by
  rw [onRequest_status]
  cases write with
  | setRequest other update at_ =>
      simp only [Write.still, Option.isNone_iff_eq_none] at still
      simp only [Write.statusOn, still]
      split <;> rfl
  | saveRequest other edit at_ => cases still
  | _ => rfl

theorem still_docSigns {write : Write} (still : write.still = true) (database : Database)
    (record : String) :
    (write.perform database).docSigns.lookup record = database.docSigns.lookup record := by
  rw [perform_docSigns]
  cases write with
  | setDocSign other edit => cases still
  | _ => simp only [Option.map_id']

/-- The statuses that a list of still writes leaves. -/
theorem still_view {writes : List Write} (still : ∀ write ∈ writes, write.still = true)
    (database : Database) :
    (∀ record, (site.view database writes).docSigns.lookup record =
      database.docSigns.lookup record) ∧
    ∀ name, ((site.view database writes).requests.lookup name).map SigningRequest.status =
      (database.requests.lookup name).map SigningRequest.status := by
  induction writes generalizing database with
  | nil => exact ⟨fun _ => rfl, fun _ => rfl⟩
  | cons write rest ih =>
      obtain ⟨records, requests⟩ := ih (fun other member => still other (by simp [member]))
        (write.perform database)
      have own := still write (by simp)
      refine ⟨fun record => (records record).trans (still_docSigns own database record),
        fun name => (requests name).trans ?_⟩
      rw [perform_lookup, Option.map_map]
      congr 1
      funext row
      exact still_status own name row

theorem mirrored_alike {before after : Database} {record : String}
    (records : after.docSigns.lookup record = before.docSigns.lookup record)
    (requests : ∀ name, (after.requests.lookup name).map SigningRequest.status =
      (before.requests.lookup name).map SigningRequest.status)
    (mirrored : Mirrored before record) : Mirrored after record := by
  intro document name row found names present
  rw [records] at found
  have statuses := requests name
  rw [present, Option.map_some] at statuses
  obtain ⟨stored, there, same⟩ := Option.map_eq_some_iff.mp statuses.symm
  rw [← same]
  exact mirrored document name stored found names there

/-! ### What a transaction leaves -/

section Transactions

variable (lib : Libraries) (record : String) (origin : Origin)

/-- What the call was told is so, and it is none of the calls that write no copy
for the record: a cleanup of its request, or a mismatch of fingerprints on it. -/
structure Heard (trace : ServerTrace) (database : Database) : Prop where
  told : ∀ name doctype docname, Told trace name doctype docname → For database name doctype docname
  sessions : ∀ sessionId one other, Answered trace (.loadSession sessionId) (some one) →
    Answered trace (.loadSession sessionId) (some other) → one = other
  stale : ∀ cutoff names name, Answered trace (.staleRequests cutoff) names → name ∈ names →
    ¬ For database name documentSign record
  mismatch : ∀ arguments name row profile expected presented,
    origin.endpoint = .finalize arguments → Answered trace (.getRequest name) row →
    Answered trace (.profileFingerprint profile) expected →
    presentedFingerprint lib arguments.certDerB64 = .ok presented →
    fingerprintMismatch expected presented = true → ¬ For database name documentSign record

/-- A database the transaction can start from. -/
structure Base (trace : ServerTrace) (database : Database) : Prop where
  heard : Heard lib record origin trace database
  linked : Linked database record
  mirrored : Mirrored database record

/-- The transaction leaves the record and its request alike. -/
def Level (trace : ServerTrace) : Prop :=
  ∀ database, Base lib record origin trace database →
    Mirrored (site.view database (site.pending trace)) record

/-- It does so unless the request is the one of the record. -/
def Loose (name : String) (trace : ServerTrace) : Prop :=
  ∀ database, Base lib record origin trace database → ¬ For database name documentSign record →
    Mirrored (site.view database (site.pending trace)) record

/-- The request has been given the status, and the copy is still to come. -/
def Awaiting (name : String) (status : RequestStatus) (trace : ServerTrace) : Prop :=
  Loose lib record origin name trace ∧ ∀ database, Base lib record origin trace database →
    ∀ row, (site.view database (site.pending trace)).requests.lookup name = some row →
      row.status = status

/-- The record has been given the status, if it is the document of the call, and
the request is still to follow. -/
def Ahead (doctype docname : String) (status : RequestStatus) (trace : ServerTrace) : Prop :=
  ∀ database, Base lib record origin trace database →
    if doctype = documentSign ∧ docname = record then
      ∀ document, (site.view database (site.pending trace)).docSigns.lookup record = some document →
        document.status = .ofRequest status
    else Mirrored (site.view database (site.pending trace)) record

variable {lib record origin}

theorem Base.before {event : ServerEvent} {trace : ServerTrace} {database : Database}
    (base : Base lib record origin (event :: trace) database) :
    Base lib record origin trace database :=
  { base with
    heard :=
      { told := fun name doctype docname told =>
          base.heard.told name doctype docname (told.mono (List.suffix_cons _ _))
        sessions := fun sessionId one other first second =>
          base.heard.sessions sessionId one other first.cons second.cons
        stale := fun cutoff names name answered member =>
          base.heard.stale cutoff names name answered.cons member
        mismatch := fun arguments name row profile expected presented endpoint read told sent =>
          base.heard.mismatch arguments name row profile expected presented endpoint read.cons
            told.cons sent } }

theorem Level.loose {trace : ServerTrace} (level : Level lib record origin trace) (name : String) :
    Loose lib record origin name trace :=
  fun database base _ => level database base

theorem level_nil : Level lib record origin [] := fun _ base => base.mirrored

/-! ### Still events -/

/-- An event that writes no status and does not commit. -/
def Silent (event : ServerEvent) : Prop :=
  commits event = false ∧ ∀ write ∈ effects event, write.still = true

/-- Idle questions and audit events of every type. -/
def Still (operation : Operation) : Prop :=
  Idle operation ∨ ∃ event, operation = .insertEvent event

theorem silent_still {event : ServerEvent} (still : Still event.query) : Silent event := by
  obtain ⟨operation, result, stamp⟩ := event
  rcases still with simple | ⟨audit, same⟩
  · cases operation with
    | setRequest name update =>
        cases result with
        | error _ => exact ⟨rfl, by simp [effects]⟩
        | ok _ =>
            refine ⟨rfl, fun write member => ?_⟩
            rw [List.mem_singleton.mp member]
            exact simple
    | saveRequest name loaded edit => cases simple
    | setDocSign name edit => cases simple
    | commit => cases simple
    | _ => cases result <;> exact ⟨rfl, by simp [effects, Write.still]⟩
  · simp only at same
    subst same
    cases result <;> exact ⟨rfl, by simp [effects, Write.still]⟩

/-- A failed question writes nothing. -/
theorem silent_failed {operation : Operation} {exn : Exn} {stamp : Instant} :
    Silent ⟨operation, .error exn, stamp⟩ := by
  cases operation <;> exact ⟨rfl, by simp [effects]⟩

section Kept

variable {event : ServerEvent} {trace : ServerTrace}

theorem view_cons (uncommitted : commits event = false) (database : Database) :
    site.view database (site.pending (event :: trace)) =
      site.view (site.view database (site.pending trace)) (effects event) :=
  @view_pending face site event uncommitted database trace

theorem view_silent (silent : Silent event) (database : Database) :
    (∀ name, (site.view database (site.pending (event :: trace))).docSigns.lookup name =
      (site.view database (site.pending trace)).docSigns.lookup name) ∧
    ∀ name, ((site.view database (site.pending (event :: trace))).requests.lookup name).map
        SigningRequest.status =
      ((site.view database (site.pending trace)).requests.lookup name).map
        SigningRequest.status := by
  rw [view_cons silent.1]
  exact still_view silent.2 _

theorem Level.silent (level : Level lib record origin trace) (silent : Silent event) :
    Level lib record origin (event :: trace) := by
  intro database base
  obtain ⟨records, requests⟩ := view_silent silent database
  exact mirrored_alike (records record) requests (level database base.before)

theorem Loose.silent {name : String} (loose : Loose lib record origin name trace)
    (silent : Silent event) : Loose lib record origin name (event :: trace) := by
  intro database base elsewhere
  obtain ⟨records, requests⟩ := view_silent silent database
  exact mirrored_alike (records record) requests (loose database base.before elsewhere)

theorem Awaiting.silent {name : String} {status : RequestStatus}
    (awaiting : Awaiting lib record origin name status trace) (silent : Silent event) :
    Awaiting lib record origin name status (event :: trace) := by
  refine ⟨awaiting.1.silent silent, fun database base row found => ?_⟩
  obtain ⟨_, requests⟩ := view_silent silent database
  have statuses := requests name
  rw [found, Option.map_some] at statuses
  obtain ⟨stored, there, same⟩ := Option.map_eq_some_iff.mp statuses.symm
  rw [← same]
  exact awaiting.2 database base.before stored there

theorem Ahead.silent {doctype docname : String} {status : RequestStatus}
    (ahead : Ahead lib record origin doctype docname status trace) (silent : Silent event) :
    Ahead lib record origin doctype docname status (event :: trace) := by
  intro database base
  obtain ⟨records, requests⟩ := view_silent silent database
  have before := ahead database base.before
  split
  · rename_i own
    rw [if_pos own] at before
    intro document found
    rw [records] at found
    exact before document found
  · rename_i other
    rw [if_neg other] at before
    exact mirrored_alike (records record) requests before

/-! ### The writes of a status -/

theorem Base.linkedView {database : Database} (base : Base lib record origin trace database)
    (writes : List Write) : Linked (site.view database writes) record :=
  linked_view writes base.linked

theorem Loose.written {name : String} {status : RequestStatus} {write : Write}
    (loose : Loose lib record origin name trace) (uncommitted : commits event = false)
    (wrote : effects event = [write]) (row : write.row = some (.request name))
    (gives : write.statusOn name = some status) :
    Awaiting lib record origin name status (event :: trace) := by
  have pending (database : Database) : site.view database (site.pending (event :: trace)) =
      write.perform (site.view database (site.pending trace)) := by
    rw [view_cons uncommitted, wrote]
    rfl
  constructor
  · intro database base elsewhere
    rw [pending]
    exact mirrored_other (base.before.linkedView _) row (fun own => elsewhere (for_view.mp own))
      (loose database base.before elsewhere)
  · intro database base stored found
    rw [pending, perform_lookup] at found
    obtain ⟨before, _, same⟩ := Option.map_eq_some_iff.mp found
    rw [← same, onRequest_status, gives, Option.getD_some]

/-- The status is copied to the document of the request. -/
theorem Awaiting.copied {name doctype docname : String} {status : RequestStatus} {signedFile : Text}
    {stamp : Instant} (awaiting : Awaiting lib record origin name status trace)
    (source : ∀ database, Base lib record origin trace database →
      For database name doctype docname) (kind : doctype = documentSign) :
    Level lib record origin
      (⟨.setDocSign docname ⟨.ofRequest status, signedFile⟩, .ok (), stamp⟩ :: trace) := by
  intro database base
  have own := source database base.before
  rw [view_cons rfl]
  change Mirrored ((Write.setDocSign docname ⟨.ofRequest status, signedFile⟩).perform
    (site.view database (site.pending trace))) record
  by_cases same : record = docname
  · intro document target row found names present
    rw [perform_docSigns] at found
    obtain ⟨before, there, edited⟩ := Option.map_eq_some_iff.mp found
    simp only [if_pos same] at edited
    have linked := base.before.linkedView (site.pending trace)
    have named : For (site.view database (site.pending trace)) name documentSign record := by
      rw [same, ← kind]
      exact for_view.mpr own
    obtain ⟨again, foundAgain, namesAgain⟩ := linked.named name named
    rw [there] at foundAgain
    cases foundAgain
    have sameName : target = name := by
      rw [← edited] at names
      exact Option.some.inj (names.symm.trans namesAgain)
    have unchanged : (site.view database (site.pending trace)).requests.lookup target = some row :=
      present
    rw [sameName] at unchanged
    rw [← edited, awaiting.2 database base.before row unchanged]
    rfl
  · refine mirrored_apart same (awaiting.1 database base.before fun other => ?_)
    exact same (own.same other).2.symm

/-- The record is given the status first. -/
theorem Level.ahead (level : Level lib record origin trace) (docname : String)
    (status : RequestStatus) (signedFile : Text) (stamp : Instant) :
    Ahead lib record origin documentSign docname status
      (⟨.setDocSign docname ⟨.ofRequest status, signedFile⟩, .ok (), stamp⟩ :: trace) := by
  intro database base
  rw [view_cons rfl]
  change if documentSign = documentSign ∧ docname = record then _ else Mirrored
    ((Write.setDocSign docname ⟨.ofRequest status, signedFile⟩).perform
      (site.view database (site.pending trace))) record
  split
  · rename_i own
    intro document found
    change ((Write.setDocSign docname ⟨.ofRequest status, signedFile⟩).perform
      (site.view database (site.pending trace))).docSigns.lookup record = some document at found
    rw [perform_docSigns] at found
    obtain ⟨before, _, edited⟩ := Option.map_eq_some_iff.mp found
    simp only [if_pos own.2.symm] at edited
    rw [← edited]
    rfl
  · rename_i other
    exact mirrored_apart (fun same => other ⟨rfl, same.symm⟩) (level database base.before)

/-- Other documents have no record to copy to. -/
theorem Level.elsewhere (level : Level lib record origin trace) {doctype : String}
    (other : doctype ≠ documentSign) (docname : String) (status : RequestStatus) :
    Ahead lib record origin doctype docname status trace := by
  intro database base
  rw [if_neg fun own => other own.1]
  exact level database base

/-- The request follows its record. -/
theorem Ahead.met {name doctype docname : String} {status : RequestStatus} {write : Write}
    (ahead : Ahead lib record origin doctype docname status trace)
    (source : ∀ database, Base lib record origin trace database →
      For database name doctype docname)
    (uncommitted : commits event = false) (wrote : effects event = [write])
    (row : write.row = some (.request name)) (gives : write.statusOn name = some status) :
    Level lib record origin (event :: trace) := by
  intro database base
  have before := ahead database base.before
  have seen : For (site.view database (site.pending trace)) name doctype docname :=
    for_view.mpr (source database base.before)
  have linked := base.before.linkedView (site.pending trace)
  rw [view_cons uncommitted, wrote]
  change Mirrored (write.perform (site.view database (site.pending trace))) record
  by_cases own : doctype = documentSign ∧ docname = record
  · rw [if_pos own] at before
    rw [own.1, own.2] at seen
    intro document target stored found names present
    rw [docSigns_request row] at found
    obtain ⟨again, foundAgain, namesAgain⟩ := linked.named name seen
    rw [found] at foundAgain
    cases foundAgain
    rw [names] at namesAgain
    cases namesAgain
    rw [perform_lookup] at present
    obtain ⟨earlier, _, same⟩ := Option.map_eq_some_iff.mp present
    rw [before document found, ← same, onRequest_status, gives, Option.getD_some]
  · rw [if_neg own] at before
    refine mirrored_other linked row (fun other => own ?_) before
    exact seen.same other

theorem level_commit (stamp : Instant) :
    Level lib record origin (⟨.commit, .ok (), stamp⟩ :: trace) :=
  fun _ base => base.mirrored

end Kept

end Transactions

end DscSigning
