/-
Who gets to see a signing request: the list filter, the status endpoints and
the evidence pack, beside the `has_permission` hook.

The status endpoints list the requests of a document with `frappe.get_all`, for
whoever asks.
-/

import DscSigning.Server.CanSign
import DscSigning.Server.EvidencePack

namespace DscSigning

open Interaction Engine

/-! ### The list filter -/

/-- The columns that the filter names. -/
inductive SignerColumn where
  | expectedSignerUser
  | actualSignerUser
deriving DecidableEq

def SignerColumn.value (row : SigningRequest) : SignerColumn → Text
  | .expectedSignerUser => row.expectedSignerUser
  | .actualSignerUser => row.actualSignerUser

/-- A fragment of a WHERE clause; `all` is the empty one. -/
inductive QueryCondition where
  | all
  | equals (column : SignerColumn) (value : String)
  | either (left right : QueryCondition)
deriving DecidableEq

/-- The truth value in SQL, where nothing is equal to NULL and nothing different. -/
def QueryCondition.truth (row : SigningRequest) : QueryCondition → Option Bool
  | .all => some true
  | .equals column value => (column.value row).map fun stored => stored == value
  | .either left right =>
      match left.truth row, right.truth row with
      | some true, _ => some true
      | _, some true => some true
      | some false, some false => some false
      | _, _ => none

def QueryCondition.shows (condition : QueryCondition) (row : SigningRequest) : Bool :=
  condition.truth row == some true

/-- The roles for which no request is filtered out. -/
def overseer (roles : List Role) : Bool :=
  roles.contains .dscAdministrator || roles.contains .systemManager || roles.contains .dscAuditor

/-- `request_query_conditions`, in the session of a user. -/
def requestQueryConditions (roles : String → List Role) (session : String) (user : Text) :
    QueryCondition :=
  let user := user.orValue session
  if overseer (roles user) then .all
  else .either (.equals .expectedSignerUser user) (.equals .actualSignerUser user)

/-- The list view of the user, for the requests of a table. -/
def listView (data : Database) (user : String) : List (String × SigningRequest) :=
  data.requests.select (requestQueryConditions data.masters.roles user (some user)).shows

/-! ### The four read paths -/

/-- The requests that the answer of an endpoint lists. -/
def Response.lists (name : String) : Response → Bool
  | .status response => response.signingRequests.any fun row => row.name == name
  | .formActions response =>
      response.statusInfo.signingRequests.any fun row => row.name == name
  | _ => false

/-- By the hook the user may read the request. -/
def MayRead (data : Database) (user : String) (row : SigningRequest) : Prop :=
  requestHasPermission row .read user (data.masters.roles user) = true

/-- Whatever the answers of the surroundings, the endpoint lists readable requests only. -/
def ListsReadable (lib : Libraries) (ctx : Context) (data : Database) (shared : Shared)
    (endpoint : Endpoint) : Prop :=
  @Ensures face site Response (fun _ => True)
    (fun result _ _ _ => ∀ response name row, result = .ok response →
      response.lists name = true → data.requests.lookup name = some row →
      MayRead data ctx.user row)
    (body lib ⟨ctx, endpoint⟩) data shared []

/-- The evidence as an export reads it, with these requests and roles. -/
def EvidenceSite.of (pack : EvidenceSite) (data : Database) : EvidenceSite :=
  { pack with
    requests := data.requests
    roles := data.masters.roles }

/-- What the user gets to see of the requests is what the hook lets the user read. -/
structure Uniform (lib : Libraries) (evidence : EvidenceLibraries) (ctx : Context)
    (data : Database) (shared : Shared) (pack : EvidenceSite) : Prop where
  list : ∀ name row, (name, row) ∈ listView data ctx.user ↔
    data.requests.lookup name = some row ∧ MayRead data ctx.user row
  status : ∀ doctype docname,
    ListsReadable lib ctx data shared (.getSigningStatus doctype docname)
  formActions : ∀ doctype docname,
    ListsReadable lib ctx data shared (.getFormActions doctype docname)
  pack : ∀ name exported row,
    exportEvidencePack evidence (pack.of data) ctx.user name = .ok exported →
    data.requests.lookup name = some row → MayRead data ctx.user row

variable {lib : Libraries} {evidence : EvidenceLibraries} {ctx : Context} {data : Database}
  {shared : Shared} {pack : EvidenceSite}

theorem mayRead_iff {user : String} {row : SigningRequest} :
    MayRead data user row ↔ overseer (data.masters.roles user) = true ∨
      row.expectedSignerUser = some user ∨ row.actualSignerUser = some user := by
  unfold MayRead requestHasPermission overseer
  simp only [Bool.or_eq_true, beq_iff_eq]
  tauto

theorem either_shows {left right : QueryCondition} {row : SigningRequest} :
    (QueryCondition.either left right).shows row = (left.shows row || right.shows row) := by
  unfold QueryCondition.shows
  rw [QueryCondition.truth]
  rcases left.truth row with _ | _ | _ <;> rcases right.truth row with _ | _ | _ <;> rfl

theorem equals_shows {column : SignerColumn} {value : String} {row : SigningRequest} :
    (QueryCondition.equals column value).shows row = true ↔ column.value row = some value := by
  unfold QueryCondition.shows
  rw [QueryCondition.truth, beq_iff_eq, Option.map_eq_some_iff]
  constructor
  · rintro ⟨stored, found, same⟩
    rw [found, beq_iff_eq.mp same]
  · intro found
    exact ⟨value, found, beq_self_eq_true value⟩

theorem conditions_show {user : String} {row : SigningRequest} :
    (requestQueryConditions data.masters.roles user (some user)).shows row = true ↔
      MayRead data user row := by
  have self : Text.orValue (some user) user = user := by
    unfold Text.orValue
    split <;> rfl
  rw [mayRead_iff]
  unfold requestQueryConditions
  simp only [self]
  cases overseer (data.masters.roles user) with
  | true => exact iff_of_true rfl (Or.inl rfl)
  | false =>
      simp only [Bool.false_eq_true, if_false, either_shows, Bool.or_eq_true, equals_shows,
        false_or]
      rfl

theorem mem_listView {user name : String} {row : SigningRequest} :
    (name, row) ∈ listView data user ↔
      data.requests.lookup name = some row ∧ MayRead data user row := by
  rw [listView, Table.mem_select, conditions_show]

theorem status_lists (lib : Libraries) (ctx : Context) (doctype docname : String)
    (data : Database) (shared : Shared) :
    @Ensures face site Response (MayRaise False)
      (fun result _ _ _ => ∃ response, result = .ok response ∧
        ∀ entry ∈ listed data doctype docname, response.lists entry.name = true)
      (body lib ⟨ctx, .getSigningStatus doctype docname⟩) data shared [] := by
  have calm (oracle : Oracle) (may : MayRaise False oracle) : oracle.fault = none :=
    may.resolve_left id
  have unchanged : Reopened (fun _ => false) data data := ⟨rfl, fun name => by simp⟩
  refine ensures_status ?_ ?_
  · intro trace _ none_listed
    refine ⟨_, rfl, fun entry member => ?_⟩
    rw [none_listed] at member
    cases member
  · intro trace pending
    have start : Reopened (fun _ => false) data (site.view data (site.pending trace)) := by
      rw [pending]
      exact unchanged
    refine (recoverStale_ensures calm shared.now (listed data doctype docname) start).bind ?_ ?_
    · rintro value after later grown ⟨same, rfl, rfl, -⟩
      cases same
      refine ⟨_, rfl, fun entry member => ?_⟩
      refine List.any_eq_true.mpr ⟨_, List.mem_map_of_mem member, ?_⟩
      split <;> exact beq_self_eq_true entry.name
    · rintro error after later grown ⟨impossible, -⟩
      cases impossible

theorem export_readable {name : String} {exported : EvidencePack} {row : SigningRequest}
    (exports : exportEvidencePack evidence (pack.of data) ctx.user name = .ok exported)
    (found : data.requests.lookup name = some row) : MayRead data ctx.user row := by
  obtain ⟨req, loaded, rest⟩ := bind_ok exports
  have same : req = row := by
    change orMissing "DSC Signing Request" name (data.requests.lookup name) = .ok req at loaded
    rw [found] at loaded
    cases loaded
    rfl
  subst same
  simp only at rest
  split at rest
  · cases rest
  · rename_i allowed
    simp only [Bool.not_eq_true', Bool.not_eq_false, Bool.and_eq_true] at allowed
    exact allowed.2

/-- The read paths agree with the hook exactly where the user is an overseer or
a signer of every request. -/
theorem visibility_uniform_iff (lib : Libraries) (evidence : EvidenceLibraries) (ctx : Context)
    (data : Database) (shared : Shared) (pack : EvidenceSite) :
    Uniform lib evidence ctx data shared pack ↔
      overseer (data.masters.roles ctx.user) = true ∨
        ∀ name row, data.requests.lookup name = some row →
          row.expectedSignerUser = some ctx.user ∨ row.actualSignerUser = some ctx.user := by
  constructor
  · intro uniform
    by_contra neither
    obtain ⟨plain, unsigned⟩ := not_or.mp neither
    refine unsigned fun name row found => ?_
    have all := status_lists lib ctx row.sourceDoctype row.sourceName data shared
    have readable : @Ensures face site Response (MayRaise False) _ _ data shared [] :=
      (uniform.status row.sourceDoctype row.sourceName).restrict fun _ _ => trivial
    obtain ⟨result, _, _, _, ⟨response, same, lists⟩, permitted⟩ :=
      (all.both readable).met calm_answers
    have member : ListedRequest.ofRow (name, row) ∈
        listed data row.sourceDoctype row.sourceName :=
      mem_listed.mpr ⟨name, row, found, by simp [SigningRequest.belongsTo], rfl⟩
    exact (mayRead_iff.mp (permitted response name row same (lists _ member) found)).resolve_left
      plain
  · intro condition
    have readable (name : String) (row : SigningRequest)
        (found : data.requests.lookup name = some row) : MayRead data ctx.user row :=
      mayRead_iff.mpr (condition.imp_right fun signs => signs name row found)
    have lists (endpoint : Endpoint) : ListsReadable lib ctx data shared endpoint := by
      refine Ensures.always fun result _ _ _ response name row _ _ found => ?_
      exact readable name row found
    exact
      { list := fun _ _ => mem_listView
        status := fun _ _ => lists _
        formActions := fun _ _ => lists _
        pack := fun _ _ _ => export_readable }

/-! ### A user without roles -/

/-- Bob asks for the status of an invoice that alice is to sign. -/
def bobAsks : List ServerLabel :=
  .move (.createRequest "SR-1" sampleRequest) ::
    served 0 ⟨sampleUser "bob", .getSigningStatus "Sales Invoice" "INV-1"⟩ 2 .plain

/-- The answer lists the request, which the hook and the list filter hide. -/
theorem status_lists_hidden :
    ∃ world call shown row, run (body sampleLibraries) sampleSite bobAsks = some world ∧
      world.calls[0]? = some call ∧ response call = some shown ∧ shown.lists "SR-1" = true ∧
      world.data.requests.lookup "SR-1" = some row ∧
      requestHasPermission row .read "bob" (world.data.masters.roles "bob") = false ∧
      listView world.data "bob" = [] := by
  have ends : ((run (body sampleLibraries) sampleSite bobAsks).bind fun world =>
      (world.calls[0]?).bind fun call => (response call).bind fun shown =>
        (world.data.requests.lookup "SR-1").map fun row =>
          shown.lists "SR-1" &&
            !requestHasPermission row .read "bob" (world.data.masters.roles "bob") &&
            (listView world.data "bob").isEmpty) = some true := by
    decide +kernel
  simp only [Option.bind_eq_some_iff, Option.map_eq_some_iff, Bool.and_eq_true, Bool.not_eq_true',
    List.isEmpty_iff] at ends
  obtain ⟨world, reached, call, located, shown, answered, row, found, ⟨lists, hidden⟩, empty⟩ := ends
  exact ⟨world, call, shown, row, reached, located, answered, lists, found, hidden, empty⟩

end DscSigning
