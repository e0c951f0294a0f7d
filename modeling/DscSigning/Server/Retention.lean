/-
The gates and the daily purge of old requests.

Both gates look for a Signed request in the table as it is.  The purge deletes
Signed requests among the others, and leaves the signed files where they are.
-/

import DscSigning.Server.GateScope
import DscSigning.Server.SignedFiles
import DscSigning.Server.Sources

namespace DscSigning

open Interaction Engine RuleEngine

/-! ### The purge -/

/-- The statuses that `purge_old_requests` lists. -/
def RequestStatus.purgeable : RequestStatus → Bool
  | .signed => true
  | .failed => true
  | .cancelled => true
  | _ => false

/-- `frappe.get_all` takes a missing date for the first of all dates. -/
def SigningRequest.createdBefore (cutoff : Instant) (row : SigningRequest) : Bool :=
  decide (row.createdOn.getD 0 < cutoff)

/-- `frappe.utils.add_years` -/
abbrev AddYears : Type := Instant → Int → Instant

/-- What `purge_old_requests` finds for its setting. -/
def oldRequests (addYears : AddYears) (now : Instant) (retentionYearsForRequests : Int)
    (requests : Table String SigningRequest) : List String :=
  let retentionYears := if retentionYearsForRequests = 0 then 7 else retentionYearsForRequests
  let cutoff := addYears now (-retentionYears)
  (requests.select fun row => row.status.purgeable && row.createdBefore cutoff).map Prod.fst

/-- The site with the lists that the purges so far have made. -/
structure RetentionWorld where
  desk : ServerWorld
  listed : List (List String)

inductive RetentionLabel where
  | desk (label : DeskLabel)
  /-- A purge reads its setting and lists the old requests. -/
  | listOld (retentionYearsForRequests : Int)
  /-- It deletes the requests of the list at this index, and commits. -/
  | purge (index : Nat)

/-- No running call holds an uncommitted write on one of the requests. -/
def unlocked (world : ServerWorld) (names : List String) : Bool :=
  world.calls.all fun call => call.held.all fun write =>
    names.all fun name => write.row != some (.request name)

def purged (world : ServerWorld) (names : List String) : ServerWorld :=
  { world with data := { world.data with requests := world.data.requests.eraseAll names } }

def retentionStep (lib : DscSigning.Libraries) (addYears : AddYears) (world : RetentionWorld) :
    RetentionLabel → Option RetentionWorld
  | .desk label => (deskStep lib world.desk label).map fun desk => { world with desk := desk }
  | .listOld retentionYearsForRequests =>
      let found := oldRequests addYears world.desk.shared.now retentionYearsForRequests
        world.desk.data.requests
      some { world with listed := world.listed ++ [found] }
  | .purge index =>
      match world.listed[index]? with
      | none => none
      | some names =>
          if unlocked world.desk names then
            some { world with desk := purged world.desk names }
          else none

def RetentionWorld.installed (masters : Masters) (now : Instant) (zone : Int) : RetentionWorld :=
  ⟨DscSigning.installed masters now zone, []⟩

/-! ### The condition on a run -/

/-- Every document with a Signed request among these has another one. -/
def sparesSigned (requests : Table String SigningRequest) (names : List String) : Bool :=
  names.all fun name =>
    match requests.lookup name with
    | none => true
    | some row => row.status != .signed ||
        (requests.select (SigningRequest.signedFor row.sourceDoctype row.sourceName)).any
          fun other => !names.contains other.1

/-- No call disturbs a Signed request, and no purge deletes the last one of a document. -/
def keepsGates (world : RetentionWorld) : RetentionLabel → Bool
  | .desk (.server label) => undisturbed RequestStatus.isSigned world.desk label
  | .desk _ => true
  | .listOld _ => true
  | .purge index =>
      match world.listed[index]? with
      | some names => sparesSigned world.desk.data.requests names
      | none => true

/-! ### The invariant -/

structure Secured (lib : DscSigning.Libraries) (world : ServerWorld) : Prop where
  ordered : Ordered RequestStatus.isSigned lib world
  traced : Traced lib world

/-- The document has a Signed request. -/
def SignedIn (database : Database) (doctype docname : String) : Prop :=
  ∃ name row, database.requests.lookup name = some row ∧ row.signedFor doctype docname = true

structure Opened (lib : DscSigning.Libraries) (doctype docname : String) (world : ServerWorld) :
    Prop where
  secured : Secured lib world
  signed : SignedIn world.data doctype docname

variable {lib : DscSigning.Libraries} {world next : ServerWorld}

theorem signedFor_iff {row : SigningRequest} {doctype docname : String} :
    row.signedFor doctype docname = true ↔
      row.status = .signed ∧ row.sourceDoctype = doctype ∧ row.sourceName = docname := by
  unfold SigningRequest.signedFor SigningRequest.belongsTo
  simp only [Bool.and_eq_true, beq_iff_eq]
  constructor
  · rintro ⟨source, signed⟩
    exact ⟨signed, source⟩
  · rintro ⟨signed, source⟩
    exact ⟨source, signed⟩

theorem secured_step {label : ServerLabel} (secured : Secured lib world)
    (calm : undisturbed RequestStatus.isSigned world label = true)
    (stepped : step (body lib) world label = some next) : Secured lib next :=
  { ordered := ordered_step isSigned_closed secured.ordered calm stepped
    traced := traced_step secured.traced stepped }

theorem signedIn_step {label : ServerLabel} (secured : Secured lib world)
    (stepped : step (body lib) world label = some next) {doctype docname : String}
    (signed : SignedIn world.data doctype docname) : SignedIn next.data doctype docname := by
  obtain ⟨name, row, found, signed⟩ := signed
  obtain ⟨status, source⟩ := signedFor_iff.mp signed
  obtain ⟨later, there, kept⟩ :=
    absorbs_step isSigned_closed secured.ordered stepped name row found (isSigned_iff.mpr status)
  obtain ⟨same, again, about⟩ := for_step stepped (⟨row, found, source⟩ : For _ _ doctype docname)
  rw [there] at again
  cases again
  exact ⟨name, later, there, signedFor_iff.mpr ⟨kept.trans status, about⟩⟩

theorem secured_events (events : List AuditEvent) (secured : Secured lib world) :
    Secured lib (withEvents events world) :=
  { ordered :=
      { disciplined := secured.ordered.disciplined
        exclusive := secured.ordered.exclusive
        spent := secured.ordered.spent
        saves := secured.ordered.saves }
    traced := traced_events events secured.traced }

/-! ### A purge -/

theorem purged_lookup {names : List String} {name : String} {row : SigningRequest}
    (found : (purged world names).data.requests.lookup name = some row) :
    name ∉ names ∧ world.data.requests.lookup name = some row := by
  change (world.data.requests.eraseAll names).lookup name = some row at found
  rw [Table.lookup_eraseAll] at found
  split at found
  · cases found
  · rename_i kept
    exact ⟨kept, found⟩

theorem purged_kept {names : List String} {name : String} (kept : name ∉ names) :
    (purged world names).data.requests.lookup name = world.data.requests.lookup name := by
  change (world.data.requests.eraseAll names).lookup name = _
  rw [Table.lookup_eraseAll, if_neg kept]

/-- A row with an uncommitted write is not deleted. -/
theorem unlocked_kept {names : List String} (free : unlocked world names = true) {index : Nat}
    {call : ServerCall} (located : world.calls[index]? = some call) {write : Write}
    (held : write ∈ call.held) {name : String} (locks : write.row = some (.request name)) :
    name ∉ names := by
  intro deleted
  have apart := List.all_eq_true.mp
    (List.all_eq_true.mp (List.all_eq_true.mp free call (List.mem_of_getElem? located)) write held)
    name deleted
  simp only [locks, bne_self_eq_false] at apart
  cases apart

theorem secured_purge {names : List String} (free : unlocked world names = true)
    (secured : Secured lib world) : Secured lib (purged world names) :=
  { ordered :=
      { disciplined := secured.ordered.disciplined
        exclusive := secured.ordered.exclusive
        spent := by
          intro index call program located running name target settled
          refine secured.ordered.spent index call program located running name target ?_
          unfold settledIn at settled ⊢
          cases found : (purged world names).data.requests.lookup name with
          | none =>
              rw [found] at settled
              cases settled
          | some row =>
              rw [found] at settled
              rw [(purged_lookup found).2]
              exact settled
        saves := by
          intro index call program located running name edit at_ pending
          obtain ⟨row, found, fits⟩ :=
            secured.ordered.saves index call program located running name edit at_ pending
          have held : Write.saveRequest name edit at_ ∈ call.held := by
            simpa only [Call.held, running] using pending
          refine ⟨row, ?_, fits⟩
          rw [purged_kept (unlocked_kept free located held rfl)]
          exact found }
    traced :=
      { disciplined := secured.traced.disciplined
        issued := secured.traced.issued
        distinct := secured.traced.distinct
        named := secured.traced.named
        cached := secured.traced.cached
        loaded := secured.traced.loaded
        filed := secured.traced.filed
        signed := fun name row found signed =>
          secured.traced.signed name row (purged_lookup found).2 signed } }

theorem signedIn_purge {names : List String} (spares : sparesSigned world.data.requests names = true)
    {doctype docname : String} (signed : SignedIn world.data doctype docname) :
    SignedIn (purged world names).data doctype docname := by
  obtain ⟨name, row, found, signed⟩ := signed
  by_cases deleted : name ∈ names
  · obtain ⟨status, source, about⟩ := signedFor_iff.mp signed
    have spared := List.all_eq_true.mp spares name deleted
    simp only [found, status, bne_self_eq_false, Bool.false_or, List.any_eq_true,
      Bool.not_eq_true', List.contains_eq_mem, decide_eq_false_iff_not] at spared
    obtain ⟨⟨kept, other⟩, member, stays⟩ := spared
    obtain ⟨there, again⟩ := Table.mem_select.mp member
    rw [source, about] at again
    exact ⟨kept, other, by rw [purged_kept stays]; exact there, again⟩
  · exact ⟨name, row, by rw [purged_kept deleted]; exact found, signed⟩

/-! ### A run -/

section Run

variable {addYears : AddYears} {before after : RetentionWorld} {label : RetentionLabel}

/-- What undisturbed steps, audit events and the purge at hand keep. -/
theorem retention_keeps (invariant : ServerWorld → Prop)
    (steps : ∀ world label next, invariant world →
      undisturbed RequestStatus.isSigned world label = true →
      step (body lib) world label = some next → invariant next)
    (events : ∀ world events, invariant world → invariant (withEvents events world))
    (purges : ∀ index names, label = .purge index → before.listed[index]? = some names →
      unlocked before.desk names = true → invariant before.desk →
      invariant (purged before.desk names))
    (holds : invariant before.desk) (keeps : keepsGates before label = true)
    (stepped : retentionStep lib addYears before label = some after) : invariant after.desk := by
  cases label with
  | desk deskLabel =>
      obtain ⟨desk, moved, same⟩ := Option.map_eq_some_iff.mp stepped
      rw [← same]
      refine desk_preserves_under
        (fun world label => undisturbed RequestStatus.isSigned world label = true)
        (fun _ _ => rfl) steps events holds ?_ moved
      intro served same
      rw [same] at keeps
      exact keeps
  | listOld retentionYearsForRequests =>
      cases stepped
      exact holds
  | purge index =>
      simp only [retentionStep] at stepped
      split at stepped
      · cases stepped
      · rename_i names listed
        split at stepped
        · rename_i free
          cases stepped
          exact purges index names rfl listed free holds
        · cases stepped

theorem secured_retention (secured : Secured lib before.desk) (keeps : keepsGates before label = true)
    (stepped : retentionStep lib addYears before label = some after) : Secured lib after.desk :=
  retention_keeps (Secured lib) (fun _ _ _ => secured_step)
    (fun _ events => secured_events events) (fun _ _ _ _ free => secured_purge free) secured keeps
    stepped

theorem opened_retention {doctype docname : String} (opened : Opened lib doctype docname before.desk)
    (keeps : keepsGates before label = true)
    (stepped : retentionStep lib addYears before label = some after) :
    Opened lib doctype docname after.desk := by
  refine retention_keeps (Opened lib doctype docname) ?_ ?_ ?_ opened keeps stepped
  · exact fun _ _ _ opened calm stepped =>
      ⟨secured_step opened.secured calm stepped, signedIn_step opened.secured stepped opened.signed⟩
  · exact fun _ events opened => ⟨secured_events events opened.secured, opened.signed⟩
  · intro index names purges listed free opened
    rw [purges] at keeps
    simp only [keepsGates, listed] at keeps
    exact ⟨secured_purge free opened.secured, signedIn_purge keeps opened.signed⟩

end Run

/-- No gate refuses a document with a Signed request as unsigned. -/
theorem opened_passes {doc : Document} (opened : Opened lib doc.doctype doc.name world)
    {site : GateSite} (table : site.requests = world.data.requests) (honest : site.Honest doc)
    (arguments : PrintArguments) (rulePick requestPick : Nat) :
    downloadPdf site.printSite doc.doctype doc.name arguments rulePick requestPick ≠
        .error (signatureRequired doc.doctype) ∧
      checkEmailAllowed site.emailSite doc.doctype doc.name rulePick requestPick = .ok () := by
  obtain ⟨name, row, found, signed⟩ := opened.signed
  rw [← table] at found
  constructor
  · intro refused
    rcases ((print_refuses_iff honest arguments).mp ⟨rulePick, requestPick, refused⟩).unsigned with
      nothing | ⟨key, other, there, about, blank⟩
    · rw [nothing name row found] at signed
      cases signed
    · rw [table] at there
      rw [opened.secured.traced.signed_given there (signedFor_iff.mp about).1] at blank
      cases blank
  · by_contra refused
    have blocked := email_refuses_iff.mp ⟨rulePick, requestPick, refused⟩
    rw [blocked.unsigned name row found] at signed
    cases signed

/-- In a run that leaves every document with a Signed request one, no gate
refuses a document as unsigned once a request of it has been Signed. -/
theorem signing_opens_gates (addYears : AddYears) (masters : Masters) (now : Instant) (zone : Int)
    (labels later : List RetentionLabel) (before after : RetentionWorld)
    (keeps : Runs.Along (retentionStep lib addYears)
      (fun world label => keepsGates world label = true) (RetentionWorld.installed masters now zone) (labels ++ later))
    (reached : Runs.run (retentionStep lib addYears)
      (RetentionWorld.installed masters now zone) labels = some before)
    (continued : Runs.run (retentionStep lib addYears) before later = some after)
    (name : String) (row : SigningRequest)
    (found : before.desk.data.requests.lookup name = some row) (signed : row.status = .signed)
    (site : GateSite) (table : site.requests = after.desk.data.requests) (doc : Document)
    (about : row.sourceDoctype = doc.doctype ∧ row.sourceName = doc.name)
    (honest : site.Honest doc) (arguments : PrintArguments) (rulePick requestPick : Nat) :
    downloadPdf site.printSite doc.doctype doc.name arguments rulePick requestPick ≠
        .error (signatureRequired doc.doctype) ∧
      checkEmailAllowed site.emailSite doc.doctype doc.name rulePick requestPick = .ok () := by
  obtain ⟨early, late⟩ := Runs.along_append keeps
  have start : Secured lib (RetentionWorld.installed masters now zone).desk :=
    ⟨ordered_installed masters now zone, traced_installed masters now zone⟩
  have secured : Secured lib before.desk :=
    Runs.run_invariant (fun _ _ _ holds met stepped => secured_retention holds met stepped) start
      early reached
  have opened : Opened lib doc.doctype doc.name before.desk :=
    ⟨secured, name, row, found, signedFor_iff.mpr ⟨signed, about⟩⟩
  have still : Opened lib doc.doctype doc.name after.desk :=
    Runs.run_invariant (fun _ _ _ holds met stepped => opened_retention holds met stepped) opened
      (late before reached) continued
  exact opened_passes still table honest arguments rulePick requestPick

/-! ### A purge after eight years -/

/-- A rule for an invoice, which gets the request of this name. -/
def invoiceEvaluation (docname requestName : String) : Evaluation :=
  { ctx := sampleUser "alice"
    triggerEvent := "on_submit"
    document := ⟨"Sales Invoice", docname, none, none⟩
    rules := [⟨"R-1", none, none, 10, "P-1", none⟩]
    conditions := fun _ => true
    pick := 0
    requestName := requestName }

def invoiceSigned (first : Nat) : List DeskLabel :=
  .evaluateRules (invoiceEvaluation "INV-1" "SR-1") ::
    (served first ⟨sampleUser "alice", .initiate sampleInitiate⟩ 24 (sampleOracle "S-1" "") ++
      served (first + 1) ⟨sampleUser "alice", .finalize (sampleFinalize "S-1")⟩ 32
        (sampleOracle "" "F-1")).map .server

def eightYears : DeskLabel := .server (.move (.elapse (seconds 252460800)))

/-- Years of 365.25 days. -/
def sampleYears : AddYears := fun now years => ((now : Int) + years * seconds 31557600).toNat

/-- A request that was cancelled eight years before the signing. -/
def invoiceSignedLater : List DeskLabel :=
  .evaluateRules (invoiceEvaluation "INV-2" "SR-2") ::
    ((served 0 ⟨sampleUser "bob", .cancel "SR-2" ""⟩ 6 (sampleOracle "" "")).map .server ++
      eightYears :: invoiceSigned 1)

def gateSiteOf (world : RetentionWorld) : GateSite :=
  { companySite with requests := world.desk.data.requests }

def statusIn (world : RetentionWorld) (name : String) : Option RequestStatus :=
  (world.desk.data.requests.lookup name).map SigningRequest.status

/-- The purge deletes the Cancelled request of the other invoice. -/
theorem signing_opens_gates_sample :
    ∃ before after, Runs.run (retentionStep sampleLibraries sampleYears)
        (RetentionWorld.installed sampleMasters 0 0) (invoiceSignedLater.map .desk) = some before ∧
      Runs.run (retentionStep sampleLibraries sampleYears) before [.listOld 7, .purge 0] =
        some after ∧
      statusIn before "SR-2" = some .cancelled ∧ statusIn after "SR-2" = none ∧
      downloadPdf (gateSiteOf after).printSite "Sales Invoice" "INV-1" printView 0 0 ≠
        .error (signatureRequired "Sales Invoice") ∧
      checkEmailAllowed (gateSiteOf after).emailSite "Sales Invoice" "INV-1" 0 0 = .ok () := by
  have keeps : Runs.alongCheck (retentionStep sampleLibraries sampleYears) keepsGates
      (RetentionWorld.installed sampleMasters 0 0)
      (invoiceSignedLater.map .desk ++ [.listOld 7, .purge 0]) = true := by decide +kernel
  have ends : ((Runs.run (retentionStep sampleLibraries sampleYears)
      (RetentionWorld.installed sampleMasters 0 0) (invoiceSignedLater.map .desk)).bind
        fun before => (before.desk.data.requests.lookup "SR-1").bind fun row =>
          (Runs.run (retentionStep sampleLibraries sampleYears) before
            [.listOld 7, .purge 0]).map fun after =>
              row.status == .signed && row.sourceDoctype == "Sales Invoice" &&
                row.sourceName == "INV-1" && statusIn before "SR-2" == some .cancelled &&
                statusIn after "SR-2" == none) = some true := by
    decide +kernel
  simp only [Option.bind_eq_some_iff, Option.map_eq_some_iff, Bool.and_eq_true, beq_iff_eq] at ends
  obtain ⟨before, reached, row, found, after, continued,
    ⟨⟨⟨signed, doctype⟩, docname⟩, cancelled⟩, deleted⟩ := ends
  have passes := signing_opens_gates sampleYears sampleMasters 0 0 (invoiceSignedLater.map .desk)
    [.listOld 7, .purge 0] before after
    (Runs.along_of_check (fun _ _ keeps => keeps) keeps) reached continued "SR-1" row found signed
    (gateSiteOf after) rfl (invoiceOf "A") ⟨doctype, docname⟩
    ⟨fun impossible => (by cases impossible), fun _ impossible => (by cases impossible)⟩ printView
    0 0
  exact ⟨before, after, reached, continued, cancelled, deleted, passes.1, passes.2⟩

/-- Eight years after the signing the purge deletes the Signed request, and both
gates refuse the invoice. -/
theorem purge_closes_gates :
    ∃ before after row, Runs.run (retentionStep sampleLibraries sampleYears)
        (RetentionWorld.installed sampleMasters 0 0) ((invoiceSigned 0).map .desk) = some before ∧
      before.desk.data.requests.lookup "SR-1" = some row ∧ row.status = .signed ∧
      row.sourceDoctype = "Sales Invoice" ∧ row.sourceName = "INV-1" ∧
      Runs.run (retentionStep sampleLibraries sampleYears) before
        [.desk eightYears, .listOld 7, .purge 0] = some after ∧
      downloadPdf (gateSiteOf after).printSite "Sales Invoice" "INV-1" printView 0 0 =
        .error (signatureRequired "Sales Invoice") ∧
      checkEmailAllowed (gateSiteOf after).emailSite "Sales Invoice" "INV-1" 0 0 ≠ .ok () := by
  have ends : ((Runs.run (retentionStep sampleLibraries sampleYears)
      (RetentionWorld.installed sampleMasters 0 0) ((invoiceSigned 0).map .desk)).bind
        fun before => (before.desk.data.requests.lookup "SR-1").bind fun row =>
          (Runs.run (retentionStep sampleLibraries sampleYears) before
            [.desk eightYears, .listOld 7, .purge 0]).map fun after =>
              row.status == .signed && row.sourceDoctype == "Sales Invoice" &&
                row.sourceName == "INV-1" && after.desk.data.requests.keys == []) = some true := by
    decide +kernel
  simp only [Option.bind_eq_some_iff, Option.map_eq_some_iff, Bool.and_eq_true, beq_iff_eq] at ends
  obtain ⟨before, reached, row, found, after, continued,
    ⟨⟨⟨signed, doctype⟩, docname⟩, empty⟩⟩ := ends
  have nothing : (gateSiteOf after).requests = ∅ := AList.ext (List.map_eq_nil_iff.mp empty)
  refine ⟨before, after, row, reached, found, signed, doctype, docname, continued, ?_⟩
  have closed : gateSiteOf after = { companySite with requests := ∅ } := by
    rw [← nothing]
    rfl
  rw [closed]
  exact ⟨rfl, fun impossible => by cases impossible⟩

end DscSigning
