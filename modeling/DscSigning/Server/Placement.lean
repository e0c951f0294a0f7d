/-
What is placed on a DSC Document Sign record, and what is signed.

The request stores neither the file nor the signature box.  `initiate` reads
both from the record, which can be saved again while the request is open; the
page locks the box in the browser only.
-/

import DscSigning.Server.Lifecycle
import DscSigning.Server.MirrorRuns

namespace DscSigning

open Interaction Program Engine

/-! ### What a record holds -/

/-- The uploaded PDF and the signature box. -/
structure Placed where
  uploadedPdf : Text
  page : Int
  x : ℚ
  y : ℚ
  width : ℚ
  height : ℚ
deriving DecidableEq

def DocumentSign.placed (row : DocumentSign) : Placed :=
  ⟨row.uploadedPdf, row.sigPage, row.sigX, row.sigY, row.sigWidth, row.sigHeight⟩

def DocumentForm.placed (form : DocumentForm) : Placed :=
  ⟨form.uploadedPdf, form.sigPage, form.sigX, form.sigY, form.sigWidth, form.sigHeight⟩

/-- The digest is of the uploaded file, with the box where it was placed. -/
structure Placed.Signed (placed : Placed) (trace : ServerTrace) (spec : SignatureSpec)
    (pdf : Bytes) : Prop where
  file : Answered trace (.fileContent placed.uploadedPdf.show) pdf
  page : spec.onPage = max ((if placed.page = 0 then 1 else placed.page) - 1) 0
  box : spec.box =
    some ⟨placed.x, placed.y, placed.x + placed.width, placed.y + placed.height⟩

theorem Placed.Signed.mono {placed : Placed} {trace later : ServerTrace} {spec : SignatureSpec}
    {pdf : Bytes} (signed : placed.Signed trace spec pdf) (suffix : trace <:+ later) :
    placed.Signed later spec pdf :=
  { signed with file := signed.file.mono suffix }

/-! ### What initiate reads before it signs -/

/-- The record as it was read after a request of it was found. -/
def ReadAfter (trace : ServerTrace) (doctype docname : String) (row : PendingRequest)
    (document : DocumentSign) : Prop :=
  ∃ earlier stamp, (⟨.getDocSign docname, .ok document, stamp⟩ : ServerEvent) :: earlier <:+ trace ∧
    Answered earlier (.findPending doctype docname) (some row)

theorem ReadAfter.mono {trace later : ServerTrace} {doctype docname : String} {row : PendingRequest}
    {document : DocumentSign} (read : ReadAfter trace doctype docname row document)
    (suffix : trace <:+ later) : ReadAfter later doctype docname row document := by
  obtain ⟨earlier, stamp, within, found⟩ := read
  exact ⟨earlier, stamp, within.trans suffix, found⟩

def digests : Operation → Bool
  | .digestForSigning .. => true
  | _ => false

/-- Questions other than for a pending request, a template or a digest. -/
def routine : Operation → Bool
  | .findPending .. => false
  | .getTemplate _ => false
  | .digestForSigning .. => false
  | _ => true

def Routine (operation : Operation) : Prop := routine operation = true

section Parts

variable {lib : Libraries} {Value : Type}

theorem routine_ask {operation : Operation} (silent : routine operation = true) :
    (ask operation).Uses Routine := Uses.perform silent

theorem checkSigner_routine (ctx : Context) (row : PendingRequest) :
    (checkSigner ctx row).Uses Routine :=
  checkSigner_uses ctx row rfl

theorem checkProfile_routine (ctx : Context) (profile : Profile) :
    (checkProfile lib ctx profile).Uses Routine :=
  checkProfile_uses ctx profile rfl

theorem geocode_routine (lat lng : Option FormValue) : (geocode lat lng).Uses Routine :=
  geocode_uses lat lng fun _ _ => rfl

theorem choosePrintFormat_routine (doctype : String) (row : PendingRequest) (uploaded : Bool) :
    (choosePrintFormat doctype row uploaded).Uses Routine :=
  choosePrintFormat_uses doctype row uploaded rfl

theorem logEvent_routine (ctx : Context) (name eventType : String)
    (details : List (String × Json)) :
    (logEvent lib ctx name eventType details).Uses Routine :=
  Uses.bind (routine_ask rfl) fun _ =>
    routine_ask rfl

theorem runDevHooks_routine (hookName : String) (arguments : List (String × Text)) :
    (runDevHooks hookName arguments).Uses Routine :=
  runDevHooks_uses hookName arguments rfl (fun _ => rfl) fun _ => rfl

theorem buildStampText_routine (sigTemplate : SignatureTemplate) (profile : Profile)
    (text : String) : (buildStampText sigTemplate profile text).Uses Routine :=
  buildStampText_uses sigTemplate profile text rfl

theorem sourcePdf_routine (arguments : PrepareArguments) :
    (sourcePdf arguments).Uses Routine :=
  sourcePdf_uses arguments rfl

theorem logPrepared_routine (ctx : Context) (name : String) (settings : Settings)
    (location : Option SignerLocation) (geocoded : Option GeocodeResult) (result : PrepareResult) :
    (logPrepared lib ctx name settings location geocoded result).Uses Routine := by
  apply Uses.bind
  · unfold logLocation
    split
    · exact logEvent_routine _ _ _ _
    · trivial
  · intro _
    exact Uses.bind (logEvent_routine _ _ _ _) fun _ => logEvent_routine _ _ _ _

theorem authorise_routine (row : PendingRequest) (profile : Profile) (settings : Settings)
    (locationText : Text) (result : PrepareResult) :
    (authorise lib row profile settings locationText result).Uses Routine :=
  authorise_uses row profile settings locationText result
    (getOrCreateHmacSecret_uses rfl rfl rfl (fun _ => rfl) rfl) rfl rfl

end Parts

/-! ### What keeps a placement -/

def HoldsPlaced (record : String) (placed : Placed) (database : Database) : Prop :=
  ∃ document, database.docSigns.lookup record = some document ∧ document.placed = placed

section Runs

variable {lib : Libraries} {record : String} {placed : Placed} {world next : ServerWorld}

theorem holds_perform {database : Database} (write : Write)
    (holds : HoldsPlaced record placed database) :
    HoldsPlaced record placed (write.perform database) := by
  obtain ⟨document, found, same⟩ := holds
  cases write with
  | setDocSign name edit =>
      by_cases own : record = name
      · subst own
        refine ⟨edit.apply document, ?_, same⟩
        simp only [Write.perform, Table.lookup_modify, if_true, found, Option.map_some]
      · refine ⟨document, ?_, same⟩
        simp only [Write.perform, Table.lookup_modify, if_neg own, found]
  | _ => exact ⟨document, found, same⟩

theorem holds_view {database : Database} (writes : List Write)
    (holds : HoldsPlaced record placed database) :
    HoldsPlaced record placed (site.view database writes) := by
  induction writes generalizing database with
  | nil => exact holds
  | cons write rest ih => exact ih (holds_perform write holds)

theorem holds_step {label : ServerLabel} (holds : HoldsPlaced record placed world.data)
    (own : assumed label = false) (stepped : step (body lib) world label = some next) :
    HoldsPlaced record placed next.data := by
  rcases step_data (body lib) stepped with ⟨_, _, _, after, _⟩ | ⟨_, _, same | ⟨move, _, rfl, moved⟩⟩
  · rw [after]
    exact holds_view _ holds
  · rw [same]
    exact holds
  · rw [HoldsPlaced, (move_documents moved own).2]
    exact holds

end Runs

theorem run_sound {lib : Libraries} {masters : Masters} {now : Instant} {zone : Int}
    {labels : List DeskLabel} {world : ServerWorld}
    (reached : Runs.run (deskStep lib) (installed masters now zone) labels = some world) :
    Sound lib world :=
  Runs.run_invariant (fun _ _ _ sound _ stepped => sound_desk sound stepped)
    (sound_installed masters now zone)
    (Runs.along_members (fun _ _ _ => trivial : ∀ label ∈ labels, ∀ _, True) _) reached

end DscSigning
