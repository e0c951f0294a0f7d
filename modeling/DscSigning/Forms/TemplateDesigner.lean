/-
The designer of a signature template: its rectangles, as the mouse moves them,
and the rows that it saves.

Points and pixels are exact; a mouse is anywhere.
-/

import Mathlib.Algebra.Order.Round
import Mathlib.Data.Rat.Floor
import Mathlib.Tactic.Linarith
import DscSigning.Server.Records

namespace DscSigning.TemplateDesigner

/-- `DESIGNER_WIDTH_PX / PAGE_WIDTH_PT` -/
def scale : ℚ := 600 / 612

structure Mouse where
  clientX : ℚ
  clientY : ℚ
deriving DecidableEq

/-- `value || other` -/
def orElse (value other : ℚ) : ℚ := if value = 0 then other else value

/-- One mouse move of `beginDrag`; PDF y grows upward, CSS y downward. -/
def dragMove (origin : SignatureField) (start now : Mouse) (field : SignatureField) :
    SignatureField :=
  let dxPt := (now.clientX - start.clientX) / scale
  let dyPt := (now.clientY - start.clientY) / scale
  { field with
    x := max 0 (round (origin.x + dxPt))
    y := max 0 (round (origin.y - dyPt)) }

/-- One mouse move of `beginResize`. -/
def resizeMove (origin : SignatureField) (start now : Mouse) (field : SignatureField) :
    SignatureField :=
  let dxPt := (now.clientX - start.clientX) / scale
  let dyPt := (now.clientY - start.clientY) / scale
  { field with
    width := max 20 (round (orElse origin.width 200 + dxPt))
    height := max 20 (round (orElse origin.height 80 + dyPt))
    y := max 0 (round (origin.y - dyPt)) }

def states (move : Mouse → SignatureField → SignatureField) :
    SignatureField → List Mouse → List SignatureField
  | _, [] => []
  | field, now :: rest => move now field :: states move (move now field) rest

/-- The field when the mouse is released. -/
def gesture (move : Mouse → SignatureField → SignatureField) (field : SignatureField)
    (path : List Mouse) : SignatureField :=
  path.foldl (fun field now => move now field) field

/-! ### The dialog -/

structure Designer where
  fields : List SignatureField
  page : Int

/-- `deepCloneFields` -/
def cloned (row : SignatureField) : SignatureField where
  pageNumber := if row.pageNumber = 0 then 1 else row.pageNumber
  x := row.x
  y := row.y
  width := orElse row.width 200
  height := orElse row.height 80

def opened (rows : List SignatureField) : Designer := ⟨rows.map cloned, 1⟩

inductive Event where
  | addField
  | drag (index : Nat) (start : Mouse) (path : List Mouse)
  | resize (index : Nat) (start : Mouse) (path : List Mouse)
  | delete (index : Nat)
  /-- The page number that was typed, where there is one. -/
  | turn (typed : Option Int)

/-- Only the rectangles of the page that is shown can be held. -/
def Designer.held (designer : Designer) (index : Nat)
    (change : SignatureField → SignatureField) : Designer :=
  { designer with
    fields := designer.fields.modify index fun field =>
      if field.pageNumber = designer.page then change field else field }

def Designer.step (designer : Designer) : Event → Designer
  | .addField =>
      { designer with fields := designer.fields ++ [⟨designer.page, 100, 100, 200, 80⟩] }
  | .drag index start path =>
      designer.held index fun field => gesture (dragMove field start) field path
  | .resize index start path =>
      designer.held index fun field => gesture (resizeMove field start) field path
  | .delete index => { designer with fields := designer.fields.eraseIdx index }
  | .turn typed => { designer with page := if typed.getD 0 = 0 then 1 else typed.getD 0 }

/-- `persistFields`, after the dialog was used. -/
def saved (rows : List SignatureField) (events : List Event) : List SignatureField :=
  (events.foldl Designer.step (opened rows)).fields

/-! ### Resizing -/

/-- x stays, the top edge stays up to the rounding, and the bounds hold. -/
structure KeepsCorner (origin field : SignatureField) : Prop where
  x : field.x = origin.x
  top : |(field.y + field.height) - (origin.y + origin.height)| ≤ 1
  height : 20 ≤ field.height
  y : 0 ≤ field.y

/-- The offset neither shrinks the height much below 20 nor lowers y much below 0. -/
structure WithinReach (origin : SignatureField) (start now : Mouse) : Prop where
  top : 19 ≤ origin.y + origin.height
  shrinks : 37 / 2 - origin.height < (now.clientY - start.clientY) / scale
  lowers : (now.clientY - start.clientY) / scale < origin.y + 3 / 2

variable {origin : SignatureField} {start : Mouse}

/-- The first field holds the state before the moves, of which `move` keeps what it does not set. -/
theorem states_forall {move : Mouse → SignatureField → SignatureField}
    {frame good : SignatureField → Prop} {fits : Mouse → Prop}
    (stays : ∀ now field, frame field → frame (move now field))
    (one : ∀ now field, frame field → (good (move now field) ↔ fits now))
    {field : SignatureField} (framed : frame field) (path : List Mouse) :
    (∀ next ∈ states move field path, good next) ↔ ∀ now ∈ path, fits now := by
  induction path generalizing field with
  | nil => simp [states]
  | cons now rest ih =>
      rw [states, List.forall_mem_cons, List.forall_mem_cons, one now field framed,
        ih (stays now field framed)]

/-- Half a point up, half a point down, or none at all. -/
theorem round_neg_add (offset : ℚ) :
    0 ≤ round offset + round (-offset) ∧ round offset + round (-offset) ≤ 1 := by
  have up := round_le_add_half offset
  have down := round_le_add_half (-offset)
  have above := sub_half_lt_round offset
  have below := sub_half_lt_round (-offset)
  have least : ((-1 : ℤ) : ℚ) < ((round offset + round (-offset) : ℤ) : ℚ) := by
    push_cast
    linarith
  have most : ((round offset + round (-offset) : ℤ) : ℚ) ≤ ((1 : ℤ) : ℚ) := by
    push_cast
    linarith
  have least_int := Int.cast_lt.mp least
  have most_int := Int.cast_le.mp most
  omega

theorem round_le_iff_lt (number : ℚ) (bound : ℤ) :
    round number ≤ bound ↔ number < bound + 1 / 2 := by
  rw [round_eq, ← Int.lt_add_one_iff, Int.floor_lt, Int.cast_add, Int.cast_one]
  constructor
  · intro below
    linarith
  · intro below
    linarith

/-- The height and y are clamped separately; their sum stays where neither clamp takes more
than the rounding leaves. -/
theorem clamped_sum (y height : ℕ) (offset : ℚ) :
    max 20 (height + round offset) + max 0 (y + round (-offset)) ≤ (y : ℤ) + height + 1 ↔
      19 ≤ (y : ℚ) + height ∧ 37 / 2 - (height : ℚ) < offset ∧ offset < y + 3 / 2 := by
  have rounded := round_neg_add offset
  have lowered : round (-offset) ≤ (height : ℤ) - 19 ↔ 37 / 2 - (height : ℚ) < offset := by
    rw [round_le_iff_lt]
    push_cast
    constructor
    · intro bound
      linarith
    · intro bound
      linarith
  have raised : round offset ≤ (y : ℤ) + 1 ↔ offset < y + 3 / 2 := by
    rw [round_le_iff_lt]
    push_cast
    constructor
    · intro bound
      linarith
    · intro bound
      linarith
  have tall : (19 : ℚ) ≤ y + height ↔ (19 : ℤ) ≤ y + height := by norm_cast
  rw [tall, ← lowered, ← raised]
  omega

theorem resizeMove_keeps {page : ℤ} {x y width height : ℕ} (positive : 0 < height)
    (start now : Mouse) {field : SignatureField} (framed : field.x = x) :
    KeepsCorner ⟨page, x, y, width, height⟩
        (resizeMove ⟨page, x, y, width, height⟩ start now field) ↔
      WithinReach ⟨page, x, y, width, height⟩ start now := by
  have kept : orElse (height : ℚ) 80 = height := by
    have nonzero : (height : ℚ) ≠ 0 := by
      rw [Nat.cast_ne_zero]
      omega
    exact if_neg nonzero
  have rounded := round_neg_add ((now.clientY - start.clientY) / scale)
  have sum := clamped_sum y height ((now.clientY - start.clientY) / scale)
  generalize offset : (now.clientY - start.clientY) / scale = d at rounded sum
  have newHeight : (resizeMove ⟨page, x, y, width, height⟩ start now field).height =
      ((max 20 (height + round d) : ℤ) : ℚ) := by
    simp only [resizeMove, offset, kept]
    rw [round_natCast_add]
    push_cast
    rfl
  have newY : (resizeMove ⟨page, x, y, width, height⟩ start now field).y =
      ((max 0 (y + round (-d)) : ℤ) : ℚ) := by
    simp only [resizeMove, offset]
    rw [sub_eq_add_neg, round_natCast_add]
    push_cast
    rfl
  have corner : |((resizeMove ⟨page, x, y, width, height⟩ start now field).y +
      (resizeMove ⟨page, x, y, width, height⟩ start now field).height) - ((y : ℚ) + height)| ≤ 1 ↔
      max 20 (height + round d) + max 0 (y + round (-d)) ≤ (y : ℤ) + height + 1 := by
    have whole : ((max 0 (y + round (-d)) : ℤ) : ℚ) + ((max 20 (height + round d) : ℤ) : ℚ) -
        ((y : ℚ) + height) =
          ((max 0 (y + round (-d)) + max 20 (height + round d) - (y + height) : ℤ) : ℚ) := by
      push_cast
      rfl
    rw [newHeight, newY, whole, ← Int.cast_abs, ← Int.cast_one, Int.cast_le, abs_le]
    omega
  have bounds : 20 ≤ max 20 ((height : ℤ) + round d) ∧ 0 ≤ max 0 ((y : ℤ) + round (-d)) :=
    ⟨le_max_left _ _, le_max_left _ _⟩
  constructor
  · intro keeps
    obtain ⟨top, shrinks, lowers⟩ := sum.mp (corner.mp keeps.top)
    exact { top := top, shrinks := offset ▸ shrinks, lowers := offset ▸ lowers }
  · rintro ⟨top, shrinks, lowers⟩
    exact
      { x := framed
        top := corner.mpr (sum.mpr ⟨top, offset ▸ shrinks, offset ▸ lowers⟩)
        height := by
          rw [newHeight]
          exact_mod_cast bounds.1
        y := by
          rw [newY]
          exact_mod_cast bounds.2 }

/-- After each move of a resize the top-left corner is where it was, exactly where no offset on the
way reaches a clamp by more than the rounding. -/
theorem resize_keeps_corner_iff (page : ℤ) (x y width height : ℕ) (positive : 0 < height)
    (start : Mouse) (path : List Mouse) :
    (∀ field ∈ states (resizeMove ⟨page, x, y, width, height⟩ start) ⟨page, x, y, width, height⟩ path,
        KeepsCorner ⟨page, x, y, width, height⟩ field) ↔
      ∀ now ∈ path, WithinReach ⟨page, x, y, width, height⟩ start now := by
  refine @states_forall _ (fun field => field.x = x) _ _ ?_ ?_ _ ?_ path
  · intro now field framed
    exact framed
  · intro now field framed
    exact resizeMove_keeps positive start now framed
  · rfl

theorem resize_keeps_corner_sample :
    (∀ field ∈ states (resizeMove ⟨1, 100, 100, 200, 80⟩ ⟨0, 0⟩) ⟨1, 100, 100, 200, 80⟩ [⟨0, 50⟩],
        KeepsCorner ⟨1, 100, 100, 200, 80⟩ field) ↔
      ∀ now ∈ [(⟨0, 50⟩ : Mouse)], WithinReach ⟨1, 100, 100, 200, 80⟩ ⟨0, 0⟩ now := by
  have sample := resize_keeps_corner_iff 1 100 100 200 80 (by decide) ⟨0, 0⟩ [⟨0, 50⟩]
  exact_mod_cast sample

/-- Shrunk by 100 px, a field of 80 pt stops at 20 while its lower edge goes on. -/
theorem resize_moves_corner :
    ¬ ∀ field ∈ states (resizeMove ⟨1, 100, 100, 200, 80⟩ ⟨0, 0⟩) ⟨1, 100, 100, 200, 80⟩ [⟨0, -100⟩],
        KeepsCorner ⟨1, 100, 100, 200, 80⟩ field := by
  intro keeps
  have moved : resizeMove ⟨1, 100, 100, 200, 80⟩ ⟨0, 0⟩ ⟨0, -100⟩ ⟨1, 100, 100, 200, 80⟩ =
      ⟨1, 100, 202, 200, 20⟩ := by
    decide +kernel
  have top := (keeps _ (List.mem_singleton.mpr rfl)).top
  rw [moved] at top
  revert top
  norm_num

/-! ### What is saved -/

/-- A rectangle on a page, not below or to the left of its corner. -/
structure Savable (row : SignatureField) : Prop where
  page : 1 ≤ row.pageNumber
  x : 0 ≤ row.x
  y : 0 ≤ row.y
  width : 0 < row.width
  height : 0 < row.height

theorem cloned_savable {row : SignatureField} (savable : Savable row) : cloned row = row := by
  have page : row.pageNumber ≠ 0 := by
    have positive := savable.page
    omega
  simp only [cloned, orElse, if_neg page, if_neg savable.width.ne', if_neg savable.height.ne']

theorem dragMove_savable (origin : SignatureField) (start now : Mouse) {field : SignatureField}
    (savable : Savable field) : Savable (dragMove origin start now field) :=
  { savable with
    x := le_max_left _ _
    y := le_max_left _ _ }

theorem resizeMove_savable (origin : SignatureField) (start now : Mouse) {field : SignatureField}
    (savable : Savable field) : Savable (resizeMove origin start now field) :=
  { savable with
    y := le_max_left _ _
    width := lt_of_lt_of_le (by norm_num) (le_max_left 20 _)
    height := lt_of_lt_of_le (by norm_num) (le_max_left 20 _) }

theorem gesture_savable {move : Mouse → SignatureField → SignatureField}
    (keeps : ∀ now field, Savable field → Savable (move now field)) {field : SignatureField}
    (savable : Savable field) (path : List Mouse) : Savable (gesture move field path) := by
  induction path generalizing field with
  | nil => exact savable
  | cons now rest ih => exact ih (keeps now field savable)

/-- The rectangles of the dialog can be saved, and new ones come on a page of the document. -/
structure Ready (designer : Designer) : Prop where
  fields : ∀ field ∈ designer.fields, Savable field
  page : 1 ≤ designer.page

theorem held_ready {designer : Designer} (ready : Ready designer) (index : Nat)
    {change : SignatureField → SignatureField}
    (keeps : ∀ field, Savable field → Savable (change field)) :
    Ready (designer.held index change) := by
  refine { ready with fields := ?_ }
  intro field member
  obtain ⟨position, within, same⟩ := List.getElem_of_mem member
  rw [← same]
  simp only [Designer.held, List.getElem_modify]
  have inside : position < designer.fields.length := by
    simpa [Designer.held] using within
  have before : Savable designer.fields[position] := ready.fields _ (List.getElem_mem inside)
  split
  · split
    · exact keeps _ before
    · exact before
  · exact before

/-- The number field takes no page below 1. -/
def Event.Allowed : Event → Prop
  | .turn typed => 0 ≤ typed.getD 0
  | _ => True

theorem step_ready {designer : Designer} (ready : Ready designer) {event : Event}
    (allowed : event.Allowed) : Ready (designer.step event) := by
  cases event with
  | addField =>
      refine { ready with fields := ?_ }
      intro field member
      rcases List.mem_append.mp member with old | new
      · exact ready.fields field old
      · rw [List.mem_singleton.mp new]
        exact ⟨ready.page, by norm_num, by norm_num, by norm_num, by norm_num⟩
  | drag index start path =>
      exact held_ready ready index fun field savable =>
        gesture_savable (fun now _ => dragMove_savable field start now) savable path
  | resize index start path =>
      exact held_ready ready index fun field savable =>
        gesture_savable (fun now _ => resizeMove_savable field start now) savable path
  | delete index =>
      refine { ready with fields := ?_ }
      intro field member
      exact ready.fields field (List.mem_of_mem_eraseIdx member)
  | turn typed =>
      refine { ready with page := ?_ }
      change 0 ≤ typed.getD 0 at allowed
      simp only [Designer.step]
      split
      · exact le_refl 1
      · omega

/-- Whatever is done in the dialog, the rows that it saves stay rectangles of the page. -/
theorem saved_savable {rows : List SignatureField} (savable : ∀ row ∈ rows, Savable row)
    {events : List Event} (allowed : ∀ event ∈ events, event.Allowed) :
    ∀ row ∈ saved rows events, Savable row := by
  have begins : Ready (opened rows) := by
    refine ⟨?_, le_refl 1⟩
    intro field member
    obtain ⟨row, listed, rfl⟩ := List.mem_map.mp member
    rw [cloned_savable (savable row listed)]
    exact savable row listed
  suffices ends : Ready (events.foldl Designer.step (opened rows)) from ends.fields
  generalize opened rows = designer at begins
  induction events generalizing designer with
  | nil => exact begins
  | cons event rest ih =>
      exact ih (fun later member => allowed later (List.mem_cons_of_mem _ member)) _
        (step_ready begins (allowed event List.mem_cons_self))

end DscSigning.TemplateDesigner
