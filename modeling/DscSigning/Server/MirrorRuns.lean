/-
Runs of the site and the desk in which a DSC Document Sign record keeps the
status of its request, and a run in which it does not.
-/

import DscSigning.Server.MirrorRules

namespace DscSigning

open Interaction Engine

variable {lib : Libraries}

/-! ### What the steps of a run respect -/

/-- The call has found the certificate of the profile and the one presented apart. -/
def mismatched (lib : Libraries) (origin : Origin) (trace : ServerTrace) : Bool :=
  match origin.endpoint with
  | .finalize arguments =>
      match presentedFingerprint lib arguments.certDerB64 with
      | .ok presented => trace.any fun
          | ⟨.profileFingerprint _, .ok expected, _⟩ => fingerprintMismatch expected presented
          | _ => false
      | .error _ => false
  | _ => false

/-- The call has read a request of the record. -/
def readsRequestOf (record : String) (trace : ServerTrace) : Bool :=
  trace.any fun
    | ⟨.getRequest _, .ok row, _⟩ => row.belongsTo documentSign record
    | _ => false

/-- The request is for the record. -/
def requestOf (database : Database) (record name : String) : Bool :=
  match database.requests.lookup name with
  | some row => row.belongsTo documentSign record
  | none => false

def staleRequestOf (database : Database) (record : String) : ServerEvent → Bool
  | ⟨.staleRequests _, .ok names, _⟩ => names.any (requestOf database record)
  | _ => false

/-- No cleanup finds a request of the record stale, and no finalize of one
finds another certificate. -/
def sparesRecord (lib : Libraries) (record : String) (world : ServerWorld) (label : ServerLabel) :
    Bool :=
  match asking world label with
  | some (_, call, event) => !staleRequestOf world.data record event &&
      !(mismatched lib call.origin (event :: call.trace) && readsRequestOf record (event :: call.trace))
  | none => true

/-- The form of a record submits the link that is stored, and the status where
there is a link. -/
def submitsStored (database : Database) (record : String) (form : DocumentForm) : Bool :=
  match database.docSigns.lookup record with
  | some document => form.signingRequest == document.signingRequest &&
      (document.signingRequest.isNone || form.status == some document.status)
  | none => form.signingRequest.isNone

def mirrorsRecord (lib : Libraries) (record : String) (world : ServerWorld) : DeskLabel → Bool
  | .server label => sparesRecord lib record world label
  | .saveDocument _ name _ form => name != record || submitsStored world.data record form
  | .evaluateRules evaluation =>
      match (evaluateRules lib world.data world.shared.now evaluation).request with
      | some (_, request) => !(request.sourceDoctype == documentSign && request.sourceName == record)
      | none => true

/-! ### The invariant -/

/-- The request is there, and for another document. -/
def Elsewhere (database : Database) (record name : String) : Prop :=
  ∃ doctype docname, For database name doctype docname ∧
    ¬ (doctype = documentSign ∧ docname = record)

theorem Elsewhere.not_for {database : Database} {record name : String}
    (elsewhere : Elsewhere database record name) : ¬ For database name documentSign record := by
  obtain ⟨doctype, docname, source, other⟩ := elsewhere
  exact fun own => other (source.same own)

theorem requestOf_false {database : Database} {record name : String} {row : SigningRequest}
    (found : database.requests.lookup name = some row)
    (other : requestOf database record name = false) : Elsewhere database record name := by
  refine ⟨row.sourceDoctype, row.sourceName, ⟨row, found, rfl, rfl⟩, fun own => ?_⟩
  simp [requestOf, found, SigningRequest.belongsTo, own.1, own.2] at other

/-- What is kept of a record along a run. -/
structure Reflects (lib : Libraries) (record : String) (world : ServerWorld) : Prop where
  sound : Sound lib world
  disciplined : world.Disciplined (Mirroring lib record) fun origin => Mirrors lib record origin
  linked : Linked world.data record
  mirrored : Mirrored world.data record
  stale : ∀ index cutoff names stamp name,
    world.Asked index ⟨.staleRequests cutoff, .ok names, stamp⟩ → name ∈ names →
      Elsewhere world.data record name
  matched : ∀ (index : Nat) (call : ServerCall), world.calls[index]? = some call →
    (mismatched lib call.origin call.trace && readsRequestOf record call.trace) = false

section Step

variable {record : String} {world next : ServerWorld} {label : ServerLabel}

theorem Reflects.heard (reflects : Reflects lib record world) {index : Nat} {call : ServerCall}
    (located : world.calls[index]? = some call) :
    Heard lib record call.origin call.trace world.data where
  told := by
    rintro name doctype docname ⟨event, member, tells⟩
    exact reflects.sound.sourced index event name doctype docname ⟨call, located, member⟩ tells
  sessions := fun _ _ _ first second => reflects.sound.loads_once located first second
  stale := by
    rintro cutoff names name ⟨stamp, asked⟩ member
    exact (reflects.stale index cutoff names stamp name ⟨call, located, asked⟩ member).not_for
  mismatch := by
    rintro arguments name row profile expected presented endpoint ⟨readAt, read⟩ ⟨toldAt, told⟩
      decoded differ own
    have source := reflects.sound.sourced index _ name row.sourceDoctype row.sourceName
      ⟨call, located, read⟩ (List.mem_singleton_self _)
    have found : mismatched lib call.origin call.trace = true := by
      simp only [mismatched, endpoint, decoded]
      exact List.any_eq_true.mpr ⟨_, told, differ⟩
    have reads : readsRequestOf record call.trace = true := by
      refine List.any_eq_true.mpr ⟨_, read, ?_⟩
      simp only [SigningRequest.belongsTo, (source.same own).1, (source.same own).2, beq_self_eq_true,
        Bool.and_self]
    have spared := reflects.matched index call located
    rw [found, reads] at spared
    cases spared

theorem committing_level (reflects : Reflects lib record world) {index : Nat} {call : ServerCall}
    (committed : committing world label = some (index, call)) :
    Level lib record call.origin call.trace := by
  rcases disciplined_committing reflects.disciplined committed with
    ⟨⟨operation, result, stamp⟩, commits, allowed⟩ | ⟨value, level⟩
  · cases operation with
    | commit => exact allowed
    | _ => cases result <;> cases commits
  · exact level

/-- The moves that no save and no rule stands behind. -/
theorem move_documents {move : Move} {database after : Database} {shared later : Shared}
    (moved : move.apply database shared = some (after, later))
    (own : assumed (.move move) = false) :
    after.requests = database.requests ∧ after.docSigns = database.docSigns := by
  cases move with
  | createRequest created request => cases own
  | saveDocSign name row => cases own
  | _ =>
      cases moved
      exact ⟨rfl, rfl⟩

theorem linked_same {before after : Database} (requests : after.requests = before.requests)
    (docSigns : after.docSigns.lookup record = before.docSigns.lookup record)
    (linked : Linked before record) : Linked after record where
  names := by
    intro document name found named
    rw [docSigns] at found
    simpa only [For, requests] using linked.names document name found named
  named := by
    intro name source
    rw [docSigns]
    exact linked.named name (by simpa only [For, requests] using source)

theorem mirrored_same {before after : Database} (requests : after.requests = before.requests)
    (docSigns : after.docSigns.lookup record = before.docSigns.lookup record)
    (mirrored : Mirrored before record) : Mirrored after record := by
  intro document name row found named present
  rw [docSigns] at found
  rw [requests] at present
  exact mirrored document name row found named present

theorem stale_present {oracle : Oracle} {view : Database} {shared later : Shared} {cutoff : Int}
    {names : List String}
    (replied : reply oracle view shared (.staleRequests cutoff) = some (.ok names, later))
    {name : String} (member : name ∈ names) : ∃ row, view.requests.lookup name = some row := by
  replace replied := answer_of_reply replied
  simp only [answer, Option.some.injEq, Prod.mk.injEq, Except.ok.injEq] at replied
  rw [← replied.1] at member
  obtain ⟨entry, selected, same⟩ := List.mem_map.mp member
  rw [← same]
  exact ⟨entry.2, (Table.mem_select.mp selected).1⟩

theorem stale_step (reflects : Reflects lib record world)
    (spares : sparesRecord lib record world label = true)
    (stepped : step (body lib) world label = some next) :
    ∀ index cutoff names stamp name,
      next.Asked index ⟨.staleRequests cutoff, .ok names, stamp⟩ → name ∈ names →
        Elsewhere next.data record name := by
  intro index cutoff names stamp name asked member
  have before : Elsewhere world.data record name := by
    rcases asked_step (body lib) stepped asked with old | ⟨call, found⟩
    · exact reflects.stale index cutoff names stamp name old member
    · obtain ⟨oracle, replied⟩ := asking_shared (body lib) stepped found
      obtain ⟨row, seen⟩ := stale_present replied member
      rw [view_lookup] at seen
      obtain ⟨stored, present, _⟩ := Option.map_eq_some_iff.mp seen
      simp only [sparesRecord, found, Bool.and_eq_true, Bool.not_eq_true', staleRequestOf] at spares
      have other := List.any_eq_false.mp spares.1 name member
      exact requestOf_false present (by simpa using other)
  obtain ⟨doctype, docname, source, other⟩ := before
  exact ⟨doctype, docname, for_step stepped source, other⟩

theorem matched_step (reflects : Reflects lib record world)
    (spares : sparesRecord lib record world label = true)
    (stepped : step (body lib) world label = some next) :
    ∀ (index : Nat) (call : ServerCall), next.calls[index]? = some call →
      (mismatched lib call.origin call.trace && readsRequestOf record call.trace) = false := by
  refine @untainted_step _ _ _ _ (body lib)
    (fun origin trace => mismatched lib origin trace && readsRequestOf record trace)
    (fun _ => Bool.and_false _) _ _ _ reflects.matched (fun index call event found => ?_) stepped
  simp only [sparesRecord, found, Bool.and_eq_true, Bool.not_eq_true'] at spares
  exact spares.2

theorem reflects_step (reflects : Reflects lib record world) (own : assumed label = false)
    (spares : sparesRecord lib record world label = true)
    (stepped : step (body lib) world label = some next) : Reflects lib record next := by
  have data : Linked next.data record ∧ Mirrored next.data record := by
    rcases step_data (body lib) stepped with
      ⟨index, call, committed, after, _⟩ | ⟨_, _, same | ⟨move, _, rfl, moved⟩⟩
    · rw [after]
      refine ⟨linked_view _ reflects.linked, ?_⟩
      exact committing_level reflects committed world.data
        { heard := reflects.heard (committing_located committed).1
          linked := reflects.linked
          mirrored := reflects.mirrored }
    · rw [same]
      exact ⟨reflects.linked, reflects.mirrored⟩
    · obtain ⟨requests, docSigns⟩ := move_documents moved own
      have record_same := congrArg (fun table => table.lookup record) docSigns
      exact ⟨linked_same requests record_same reflects.linked,
        mirrored_same requests record_same reflects.mirrored⟩
  exact
    { sound := sound_step reflects.sound stepped
      disciplined := disciplined_step (body lib) body_mirrors reflects.disciplined stepped
      linked := data.1
      mirrored := data.2
      stale := stale_step reflects spares stepped
      matched := matched_step reflects spares stepped }

end Step

/-! ### Saves and rules -/

section Desk

variable {record : String} {world next : ServerWorld}

theorem for_insert {before after : Database} {created : String} {row : SigningRequest}
    (absent : before.requests.lookup created = none)
    (requests : after.requests = before.requests.insert created row) {name doctype docname : String} :
    For after name doctype docname ↔ For before name doctype docname ∨
      name = created ∧ row.sourceDoctype = doctype ∧ row.sourceName = docname := by
  simp only [For, requests]
  by_cases same : name = created
  · subst same
    simp only [AList.lookup_insert, Option.some.injEq, absent, reduceCtorEq, false_and, exists_false,
      true_and, false_or, exists_eq_left']
  · simp only [AList.lookup_insert_ne same, same, false_and, or_false]

theorem linked_insert {before after : Database} {created : String} {row : SigningRequest}
    (absent : before.requests.lookup created = none)
    (requests : after.requests = before.requests.insert created row)
    (docSigns : after.docSigns.lookup record = before.docSigns.lookup record)
    (other : ¬ (row.sourceDoctype = documentSign ∧ row.sourceName = record))
    (linked : Linked before record) : Linked after record where
  names := by
    intro document name found named
    rw [docSigns] at found
    exact (for_insert absent requests).mpr (Or.inl (linked.names document name found named))
  named := by
    intro name source
    rw [docSigns]
    rcases (for_insert absent requests).mp source with old | ⟨_, own⟩
    · exact linked.named name old
    · exact absurd own other

theorem mirrored_insert {before after : Database} {created : String} {row : SigningRequest}
    (absent : before.requests.lookup created = none)
    (requests : after.requests = before.requests.insert created row)
    (docSigns : after.docSigns.lookup record = before.docSigns.lookup record)
    (linked : Linked before record) (mirrored : Mirrored before record) : Mirrored after record := by
  intro document name stored found named present
  rw [docSigns] at found
  obtain ⟨old, there, _⟩ := linked.names document name found named
  have different : name ≠ created := by
    intro same
    rw [same, absent] at there
    cases there
  rw [requests, AList.lookup_insert_ne different] at present
  exact mirrored document name stored found named present

/-- The record is written with no link. -/
theorem unlinked {before after : Database} {document : DocumentSign}
    (requests : after.requests = before.requests)
    (stored : after.docSigns.lookup record = some document) (blank : document.signingRequest = none)
    (alone : ∀ name, ¬ For before name documentSign record) :
    Linked after record ∧ Mirrored after record := by
  refine ⟨⟨fun other name found named => ?_, fun name source => ?_⟩,
    fun other name row found named _ => ?_⟩
  · rw [stored] at found
    cases found
    rw [blank] at named
    cases named
  · exact absurd (by simpa only [For, requests] using source) (alone name)
  · rw [stored] at found
    cases found
    rw [blank] at named
    cases named

/-- The record is written with the one request that is for it. -/
theorem first_request {before after : Database} {document : DocumentSign} {created : String}
    {request : NewRequest} {at_ : Instant} (absent : before.requests.lookup created = none)
    (requests : after.requests = before.requests.insert created (request.row at_))
    (stored : after.docSigns.lookup record = some document)
    (link : document.signingRequest = some created) (pending : document.status = .pending)
    (kind : request.sourceDoctype = documentSign) (own : request.sourceName = record)
    (alone : ∀ name, ¬ For before name documentSign record) :
    Linked after record ∧ Mirrored after record := by
  refine ⟨⟨fun other name found named => ?_, fun name source => ?_⟩,
    fun other name row found named present => ?_⟩
  · rw [stored] at found
    cases found
    rw [link] at named
    cases named
    exact (for_insert absent requests).mpr (Or.inr ⟨rfl, kind, own⟩)
  · rcases (for_insert absent requests).mp source with old | ⟨same, _⟩
    · exact absurd old (alone name)
    · exact ⟨document, stored, link.trans (congrArg some same.symm)⟩
  · rw [stored] at found
    cases found
    rw [link] at named
    cases named
    rw [requests, AList.lookup_insert] at present
    cases present
    exact pending

/-- The record keeps its link and its status. -/
theorem same_record {before after : Database} {old document : DocumentSign}
    (requests : after.requests = before.requests)
    (was : before.docSigns.lookup record = some old)
    (stored : after.docSigns.lookup record = some document)
    (link : document.signingRequest = old.signingRequest) (status : document.status = old.status)
    (linked : Linked before record) (mirrored : Mirrored before record) :
    Linked after record ∧ Mirrored after record := by
  refine ⟨⟨fun other name found named => ?_, fun name source => ?_⟩,
    fun other name row found named present => ?_⟩
  · rw [stored] at found
    cases found
    have kept := linked.names old name was (link.symm.trans named)
    simpa only [For, requests] using kept
  · obtain ⟨again, found, named⟩ := linked.named name (by simpa only [For, requests] using source)
    rw [was] at found
    cases found
    exact ⟨document, stored, link.trans named⟩
  · rw [stored] at found
    cases found
    rw [requests] at present
    rw [status]
    exact mirrored old name row was (link.symm.trans named) present

theorem Linked.alone {database : Database}
    (linked : Linked database record)
    (unlinked : ∀ document, database.docSigns.lookup record = some document →
      document.signingRequest = none) (name : String) : ¬ For database name documentSign record := by
  intro source
  obtain ⟨document, found, named⟩ := linked.named name source
  rw [unlinked document found] at named
  cases named

theorem validate_status {masters : Masters} {form : DocumentForm} {status : DocumentStatus}
    (valid : form.validate masters = .ok status) : status = form.status.getD .draft := by
  simp only [DocumentForm.validate] at valid
  split at valid
  · split at valid
    · split at valid
      · exact (Except.ok.inj valid).symm
      · cases valid
    · exact (Except.ok.inj valid).symm
  · exact (Except.ok.inj valid).symm

/-- What a save makes of the record and inserts. -/
theorem saveDocument_cases {database : Database} {user name requestName : String}
    {form : DocumentForm} {document : DocumentSign} {request : Option (String × NewRequest)}
    (saved : saveDocument database user name requestName form = .ok (document, request)) :
    (request = none ∧ document = form.row (form.status.getD .draft)) ∨
    ∃ row : NewRequest, request = some (requestName, row) ∧ row.sourceDoctype = documentSign ∧
      row.sourceName = name ∧ form.status.getD .draft = .draft ∧
      document.signingRequest = some requestName ∧ document.status = .pending := by
  cases valid : form.validate database.masters with
  | error exn =>
      rw [saveDocument, valid] at saved
      cases saved
  | ok status =>
      have given := validate_status valid
      rw [saveDocument, valid] at saved
      simp only [Except.map] at saved
      split at saved
      · rename_i ready
        split at saved
        · rename_i row there
          cases saved
          simp only [DocumentForm.request] at there
          split at there
          · cases there
            simp only [DocumentForm.ready, Bool.and_eq_true, beq_iff_eq] at ready
            exact Or.inr ⟨_, rfl, rfl, rfl, given.symm.trans ready.1.1.1.1, rfl, rfl⟩
          · cases there
        · cases saved
          exact Or.inl ⟨rfl, by rw [given]⟩
      · cases saved
        exact Or.inl ⟨rfl, by rw [given]⟩

/-- A save of another record inserts no request for this one. -/
theorem save_elsewhere {database : Database} {user name requestName : String}
    {form : DocumentForm} {document : DocumentSign} {request : Option (String × NewRequest)}
    (saved : saveDocument database user name requestName form = .ok (document, request))
    (other : name ≠ record) (created : String) (row : NewRequest)
    (inserted : request = some (created, row)) :
    ¬ (row.sourceDoctype = documentSign ∧ row.sourceName = record) := by
  rcases saveDocument_cases saved with ⟨rfl, _⟩ | ⟨row', rfl, _, source, _⟩
  · cases inserted
  · cases inserted
    exact fun both => other (source.symm.trans both.2)

theorem save_mirrors {user requestName : String} {form : DocumentForm}
    {document : DocumentSign} {request : Option (String × NewRequest)} {after : Database}
    {now : Instant} (reflects : Reflects lib record world)
    (stored : submitsStored world.data record form = true)
    (saved : saveDocument world.data user record requestName form = .ok (document, request))
    (data : after = { world.data.withRequest now request with
      docSigns := world.data.docSigns.insert record document })
    (absent : ∀ created row, request = some (created, row) →
      world.data.requests.lookup created = none) :
    Linked after record ∧ Mirrored after record := by
  have written : after.docSigns.lookup record = some document := by
    rw [data]
    exact AList.lookup_insert _
  rcases saveDocument_cases saved with ⟨rfl, shape⟩ | ⟨row, rfl, kind, own, draft, link, pending⟩
  · have requests : after.requests = world.data.requests := by rw [data]; rfl
    cases there : world.data.docSigns.lookup record with
    | none =>
        simp only [submitsStored, there, Option.isNone_iff_eq_none] at stored
        refine unlinked requests written (by rw [shape]; exact stored) (reflects.linked.alone ?_)
        intro other found
        rw [there] at found
        cases found
    | some before =>
        simp only [submitsStored, there, Bool.and_eq_true, Bool.or_eq_true, beq_iff_eq,
          Option.isNone_iff_eq_none] at stored
        obtain ⟨sameLink, blank | sameStatus⟩ := stored
        · refine unlinked requests written (by rw [shape]; exact sameLink.trans blank)
            (reflects.linked.alone ?_)
          intro other found
          rw [there] at found
          cases found
          exact blank
        · refine same_record requests there written (by rw [shape]; exact sameLink) ?_
            reflects.linked reflects.mirrored
          rw [shape, sameStatus]
          rfl
  · have requests : after.requests = world.data.requests.insert requestName (row.row now) := by
      rw [data]
      rfl
    refine first_request (absent _ _ rfl) requests written link pending kind own
      (reflects.linked.alone fun before there => ?_)
    simp only [submitsStored, there, Bool.and_eq_true, Bool.or_eq_true, beq_iff_eq,
      Option.isNone_iff_eq_none] at stored
    obtain ⟨sameLink, blank | sameStatus⟩ := stored
    · exact blank
    · -- A linked record is no Draft, so its save inserts nothing.
      cases linked : before.signingRequest with
      | none => rfl
      | some name =>
          obtain ⟨requestRow, present, _⟩ := reflects.linked.names before name there linked
          have status := reflects.mirrored before name requestRow there linked present
          rw [sameStatus, Option.getD_some] at draft
          rw [draft] at status
          cases states : requestRow.status <;> rw [states] at status <;> cases status

theorem elsewhere_mono {before after : Database} {name : String}
    (keeps : ∀ name doctype docname, For before name doctype docname →
      For after name doctype docname)
    (elsewhere : Elsewhere before record name) : Elsewhere after record name := by
  obtain ⟨doctype, docname, source, other⟩ := elsewhere
  exact ⟨doctype, docname, keeps name doctype docname source, other⟩

theorem for_withRequest {database after : Database} {now : Instant}
    {request : Option (String × NewRequest)}
    (requests : after.requests = (database.withRequest now request).requests)
    (absent : ∀ created row, request = some (created, row) →
      database.requests.lookup created = none)
    (name doctype docname : String) (source : For database name doctype docname) :
    For after name doctype docname := by
  rcases request with _ | ⟨created, row⟩
  · simpa only [For, requests, Database.withRequest] using source
  · exact (for_insert (absent created row rfl) requests).mpr (Or.inl source)

/-- A save of another record, or a rule for another document. -/
theorem other_mirrors {after : Database} {now : Instant}
    {request : Option (String × NewRequest)} (reflects : Reflects lib record world)
    (requests : after.requests = (world.data.withRequest now request).requests)
    (docSigns : after.docSigns.lookup record = world.data.docSigns.lookup record)
    (other : ∀ created row, request = some (created, row) →
      ¬ (row.sourceDoctype = documentSign ∧ row.sourceName = record))
    (absent : ∀ created row, request = some (created, row) →
      world.data.requests.lookup created = none) :
    Linked after record ∧ Mirrored after record := by
  rcases request with _ | ⟨created, row⟩
  · exact ⟨linked_same requests docSigns reflects.linked,
      mirrored_same requests docSigns reflects.mirrored⟩
  · have fresh := absent created row rfl
    exact ⟨linked_insert fresh requests docSigns (other created row rfl) reflects.linked,
      mirrored_insert fresh requests docSigns reflects.linked reflects.mirrored⟩

theorem reflects_desk {label : DeskLabel} (reflects : Reflects lib record world)
    (mirrors : mirrorsRecord lib record world label = true)
    (stepped : deskStep lib world label = some next) : Reflects lib record next := by
  have serving (before : ServerWorld) (label : ServerLabel) (after : ServerWorld)
      (holds : before.Disciplined (Mirroring lib record) fun origin => Mirrors lib record origin)
      (stepped : step (body lib) before label = some after) :
      after.Disciplined (Mirroring lib record) fun origin => Mirrors lib record origin :=
    disciplined_step (body lib) body_mirrors holds stepped
  have disciplined := desk_preserves serving (fun _ _ holds => holds) reflects.disciplined stepped
  have kept (calls : next.calls = world.calls)
      (keeps : ∀ name doctype docname, For world.data name doctype docname →
        For next.data name doctype docname)
      (both : Linked next.data record ∧ Mirrored next.data record) : Reflects lib record next :=
    { sound := sound_desk reflects.sound stepped
      disciplined := disciplined
      linked := both.1
      mirrored := both.2
      stale := by
        intro index cutoff names stamp name asked member
        simp only [World.Asked, calls] at asked
        exact elsewhere_mono keeps (reflects.stale index cutoff names stamp name asked member)
      matched := by
        intro index call located
        rw [calls] at located
        exact reflects.matched index call located }
  cases label with
  | server label =>
      obtain ⟨own, stepped⟩ := server_cases stepped
      exact reflects_step reflects own mirrors stepped
  | saveDocument user name requestName form =>
      rcases save_cases stepped with rfl | ⟨document, request, saved, calls, data, absent⟩
      · exact reflects
      · have requests : next.data.requests =
            (world.data.withRequest world.shared.now request).requests := by rw [data]
        refine kept calls (for_withRequest requests absent) ?_
        by_cases own : name = record
        · subst own
          exact save_mirrors reflects (by simpa [mirrorsRecord] using mirrors) saved data absent
        · refine other_mirrors reflects requests ?_ (save_elsewhere saved own) absent
          rw [data]
          exact AList.lookup_insert_ne (Ne.symm own)
  | evaluateRules evaluation =>
      obtain ⟨calls, data, absent⟩ := evaluate_cases stepped
      have requests : next.data.requests = (world.data.withRequest world.shared.now
          (evaluateRules lib world.data world.shared.now evaluation).request).requests := by rw [data]
      refine kept calls (for_withRequest requests absent)
        (other_mirrors reflects requests (by rw [evaluate_docSigns stepped]) (fun created row same both => ?_) absent)
      simp only [mirrorsRecord, same, both.1, both.2, beq_self_eq_true, Bool.and_self, Bool.not_true,
        Bool.false_eq_true] at mirrors

theorem reflects_installed (masters : Masters) (now : Instant) (zone : Int) :
    Reflects lib record (installed masters now zone) where
  sound := sound_installed masters now zone
  disciplined := by
    intro index call located
    cases located
  linked :=
    { names := fun _ _ found => by cases found
      named := by
        rintro name ⟨row, found, _⟩
        cases found }
  mirrored := fun _ _ _ found => by cases found
  stale := fun _ _ _ _ _ asked => absurd asked not_asked_installed
  matched := fun _ _ located => by cases located

end Desk

/-- In a run that respects a DSC Document Sign record, it has the status of its
request in every state that is reached. -/
theorem document_mirrors_request (masters : Masters) (now : Instant) (zone : Int)
    (record : String) (labels : List DeskLabel) (world : ServerWorld)
    (mirrors : Runs.Along (deskStep lib) (fun world label => mirrorsRecord lib record world label = true)
      (installed masters now zone) labels)
    (reached : Runs.run (deskStep lib) (installed masters now zone) labels = some world) :
    Mirrored world.data record :=
  (Runs.run_invariant (fun _ _ _ reflects mirrors stepped => reflects_desk reflects mirrors stepped)
    (reflects_installed masters now zone) mirrors reached).mirrored

/-! ### A record of the sample site -/

/-- The upload of a DSC Document Sign record, and a profile with a registered certificate. -/
def documentMasters : Masters :=
  { sampleMasters with
    profile := fun name => (sampleMasters.profile name).map fun profile =>
      { profile with certificateFingerprint := some "010203" }
    upload := fun _ => some (utf8 "%PDF") }

def documentSite : ServerWorld := installed documentMasters 0 0

def documentForm : DocumentForm :=
  { uploadedPdf := some "/private/files/letter.pdf"
    profile := "P-1"
    signatureTemplate := none
    sigPage := 1
    sigX := 10
    sigY := 10
    sigWidth := 120
    sigHeight := 40
    status := none
    signingRequest := none
    signedFile := none }

/-- The status of a record and of a request, where both are there. -/
def statusesOf (record name : String) (world : ServerWorld) : Option (DocumentStatus × RequestStatus) :=
  match world.data.docSigns.lookup record, world.data.requests.lookup name with
  | some document, some row =>
      if document.signingRequest = some name then some (document.status, row.status) else none
  | _, _ => none

theorem not_mirrored {world : ServerWorld} {record name : String} {document : DocumentStatus}
    {request : RequestStatus} (shown : statusesOf record name world = some (document, request))
    (differ : document ≠ .ofRequest request) : ¬ Mirrored world.data record := by
  intro mirrored
  unfold statusesOf at shown
  split at shown
  · rename_i stored row found present
    split at shown
    · rename_i named
      cases shown
      exact differ (mirrored stored name row found named present)
    · cases shown
  · cases shown

/-- Alice saves a record and initiates its signing. -/
def documentInitiated : List DeskLabel :=
  .saveDocument "alice" "DS-1" "SR-1" documentForm ::
    (served 0 ⟨sampleUser "alice",
      .initiate { sampleInitiate with doctype := documentSign, docname := "DS-1" }⟩ 25
      (sampleOracle "S-1" "")).map .server

def documentSigned : List DeskLabel :=
  documentInitiated ++
    (served 1 ⟨sampleUser "alice", .finalize (sampleFinalize "S-1")⟩ 33
      (sampleOracle "" "F-1")).map .server

theorem document_mirrors_request_sample :
    ∃ world, Runs.run (deskStep sampleLibraries) documentSite documentSigned = some world ∧
      statusesOf "DS-1" "SR-1" world = some (.signed, .signed) ∧ Mirrored world.data "DS-1" := by
  have ends : ((Runs.run (deskStep sampleLibraries) documentSite documentSigned).map
      (statusesOf "DS-1" "SR-1")) = some (some (.signed, .signed)) := by decide +kernel
  obtain ⟨world, reached, shown⟩ := Option.map_eq_some_iff.mp ends
  have mirrors : Runs.alongCheck (deskStep sampleLibraries) (mirrorsRecord sampleLibraries "DS-1")
      documentSite documentSigned = true := by decide +kernel
  exact ⟨world, reached, shown, document_mirrors_request documentMasters 0 0 "DS-1" documentSigned
    world (Runs.along_of_check (fun _ _ checked => checked) mirrors) reached⟩

/-- An initiate that is left alone until the hourly cleanup. -/
def documentExpired : List DeskLabel :=
  documentInitiated ++
    (.move (.elapse (seconds 200)) ::
      served 1 ⟨sampleUser "Administrator", .expireStalePendingRequests⟩ 5 .plain).map .server

/-- A finalize with another certificate than the registered one. -/
def documentRejected : List DeskLabel :=
  documentInitiated ++
    (served 1 ⟨sampleUser "alice",
      .finalize { sampleFinalize "S-1" with certDerB64 := some "BAUG" }⟩ 12
      (sampleOracle "" "F-1")).map .server

/-- A cleanup and a mismatch leave the record In Progress with a Failed request. -/
theorem failed_request_unmirrored :
    (∃ world, Runs.run (deskStep sampleLibraries) documentSite documentExpired = some world ∧
      statusesOf "DS-1" "SR-1" world = some (.inProgress, .failed) ∧
      ¬ Mirrored world.data "DS-1") ∧
    ∃ world, Runs.run (deskStep sampleLibraries) documentSite documentRejected = some world ∧
      statusesOf "DS-1" "SR-1" world = some (.inProgress, .failed) ∧
      ¬ Mirrored world.data "DS-1" := by
  have expired : ((Runs.run (deskStep sampleLibraries) documentSite documentExpired).map
      (statusesOf "DS-1" "SR-1")) = some (some (.inProgress, .failed)) := by decide +kernel
  have rejected : ((Runs.run (deskStep sampleLibraries) documentSite documentRejected).map
      (statusesOf "DS-1" "SR-1")) = some (some (.inProgress, .failed)) := by decide +kernel
  obtain ⟨left, expires, first⟩ := Option.map_eq_some_iff.mp expired
  obtain ⟨right, rejects, second⟩ := Option.map_eq_some_iff.mp rejected
  exact ⟨⟨left, expires, first, not_mirrored first (by decide)⟩,
    right, rejects, second, not_mirrored second (by decide)⟩

end DscSigning
