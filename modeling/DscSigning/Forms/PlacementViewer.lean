/-
The viewer in which a signer places the signature on an uploaded PDF.

The box is held in pixels of the canvas, and committed in points with two
decimals.  Lengths are exact, and a mouse is anywhere.
-/

import DscSigning.Library.Hundredths
import DscSigning.Library.Runs
import Mathlib.Algebra.Order.Ring.Star
import Mathlib.Data.List.Induction
import Mathlib.Data.Rat.Star
import Mathlib.Tactic.FieldSimp
import Mathlib.Tactic.Ring

namespace DscSigning.PlacementViewer

open Hundredths Interaction

/-- A page of the PDF, in points. -/
structure PageSize where
  width : ℚ
  height : ℚ
  width_pos : 0 < width
  height_pos : 0 < height

/-- The pages are numbered from 1. -/
structure Pdf where
  numPages : Nat
  page : Nat → PageSize
  nonempty : 1 ≤ numPages

/-- The `sig_*` fields of a DSC Document Sign record. -/
structure Form where
  sigPage : Nat
  sigX : ℚ
  sigY : ℚ
  sigWidth : ℚ
  sigHeight : ℚ
deriving DecidableEq

/-- The CSS of the signature box, in pixels from the upper left corner. -/
structure CssBox where
  left : ℚ
  top : ℚ
  width : ℚ
  height : ℚ
deriving DecidableEq

structure Viewer where
  doc : Form
  pageNum : Nat
  scale : ℚ
  box : CssBox
deriving DecidableEq

structure Offset where
  dx : ℚ
  dy : ℚ

/-- `value || other` -/
def orElse (value other : ℚ) : ℚ := if value = 0 then other else value

variable (pdf : Pdf)

def Viewer.page (viewer : Viewer) : PageSize := pdf.page viewer.pageNum

/-- `viewport.width` -/
def Viewer.viewWidth (viewer : Viewer) : ℚ := (viewer.page pdf).width * viewer.scale

def Viewer.viewHeight (viewer : Viewer) : ℚ := (viewer.page pdf).height * viewer.scale

/-- The width for the page in a form field of this width, 0 if it has none. -/
def avail (hostWidth : ℚ) : ℚ := max (orElse hostWidth 640 - 6) 280

def fitScale (page : PageSize) (hostWidth : ℚ) : ℚ := min (avail hostWidth / page.width) (3 / 2)

/-- `positionBoxFromDoc` -/
def Viewer.positionBoxFromDoc (viewer : Viewer) : Viewer :=
  let s := viewer.scale
  let doc := viewer.doc
  let w := orElse doc.sigWidth 200 * s
  let h := orElse doc.sigHeight 80 * s
  -- The stored placement, if it is one of this page; else the lower right corner.
  let stored := doc.sigWidth ≠ 0 ∧ doc.sigPage = viewer.pageNum
  let left := if stored then doc.sigX * s else viewer.viewWidth pdf - w - 24
  let top := if stored then viewer.viewHeight pdf - doc.sigY * s - h
    else viewer.viewHeight pdf - h - 24
  { viewer with
    box :=
      { left := clamp (viewer.viewWidth pdf - w) left
        top := clamp (viewer.viewHeight pdf - h) top
        width := w
        height := h } }

def Viewer.renderPage (viewer : Viewer) (hostWidth : ℚ) : Viewer :=
  { viewer with scale := fitScale (viewer.page pdf) hostWidth }.positionBoxFromDoc pdf

/-- `init_viewer`, with the page of the form among those of the PDF. -/
def initViewer (doc : Form) (hostWidth : ℚ) : Viewer :=
  let pageNum := min (max (if doc.sigPage = 0 then 1 else doc.sigPage) 1) pdf.numPages
  Viewer.renderPage pdf ⟨doc, pageNum, 1, ⟨0, 0, 0, 0⟩⟩ hostWidth

def Viewer.commitBox (viewer : Viewer) : Viewer :=
  let s := viewer.scale
  { viewer with
    doc :=
      { sigPage := viewer.pageNum
        sigX := round2 (viewer.box.left / s)
        sigY := round2 ((viewer.viewHeight pdf - viewer.box.top - viewer.box.height) / s)
        sigWidth := round2 (viewer.box.width / s)
        sigHeight := round2 (viewer.box.height / s) } }

/-! ### The mouse and the buttons -/

/-- One mouse move while the box is dragged, from where it was taken. -/
def Viewer.moveBox (viewer : Viewer) (orig : CssBox) (offset : Offset) : Viewer :=
  { viewer with
    box := { viewer.box with
      left := clamp (viewer.viewWidth pdf - orig.width) (orig.left + offset.dx)
      top := clamp (viewer.viewHeight pdf - orig.height) (orig.top + offset.dy) } }

def Viewer.resizeBox (viewer : Viewer) (orig : CssBox) (offset : Offset) : Viewer :=
  { viewer with
    box := { viewer.box with
      width := max 40 (min (orig.width + offset.dx) (viewer.viewWidth pdf - orig.left))
      height := max 20 (min (orig.height + offset.dy) (viewer.viewHeight pdf - orig.top)) } }

inductive Mode where
  | move
  | resize
deriving DecidableEq

def Viewer.mouseMove (viewer : Viewer) (mode : Mode) (orig : CssBox) (offset : Offset) : Viewer :=
  match mode with
  | .move => viewer.moveBox pdf orig offset
  | .resize => viewer.resizeBox pdf orig offset

/-- From `mousedown` to `mouseup`. -/
def Viewer.gesture (viewer : Viewer) (mode : Mode) (path : List Offset) : Viewer :=
  (path.foldl (fun now offset => now.mouseMove pdf mode viewer.box offset) viewer).commitBox pdf

/-- The page that a button leads to, if there is one. -/
def Viewer.turned (viewer : Viewer) (next : Bool) : Option Nat :=
  if next then if viewer.pageNum < pdf.numPages then some (viewer.pageNum + 1) else none
  else if 1 < viewer.pageNum then some (viewer.pageNum - 1) else none

inductive Label where
  /-- The form is shown again. -/
  | refresh (hostWidth : ℚ)
  | turn (next : Bool) (hostWidth : ℚ)
  | gesture (mode : Mode) (path : List Offset)

def Viewer.step (viewer : Viewer) : Label → Viewer
  | .refresh hostWidth => initViewer pdf viewer.doc hostWidth
  | .turn next hostWidth =>
      match viewer.turned pdf next with
      | some pageNum => ({ viewer with pageNum := pageNum }.renderPage pdf hostWidth).commitBox pdf
      | none => viewer
  | .gesture mode path => viewer.gesture pdf mode path

def viewerStep (viewer : Viewer) (label : Label) : Option Viewer := some (viewer.step pdf label)

/-- A new record, opened. -/
def blank : Form := ⟨1, 0, 0, 0, 0⟩

/-! ### Placements on the page -/

/-- The rectangle lies on its page, up to the rounding. -/
structure OnPage (doc : Form) : Prop where
  x : 0 ≤ doc.sigX
  y : 0 ≤ doc.sigY
  right : doc.sigX + doc.sigWidth ≤ (pdf.page doc.sigPage).width + 1 / 50
  upper : doc.sigY + doc.sigHeight ≤ (pdf.page doc.sigPage).height + 1 / 50

structure Near (one other : Form) : Prop where
  page : other.sigPage = one.sigPage
  x : |other.sigX - one.sigX| ≤ 1 / 100
  y : |other.sigY - one.sigY| ≤ 1 / 100
  width : |other.sigWidth - one.sigWidth| ≤ 1 / 100
  height : |other.sigHeight - one.sigHeight| ≤ 1 / 100

/-- Shown again at any scale and clicked on, the placement stays. -/
def Steady (viewer : Viewer) : Prop :=
  ∀ hostWidth, Near viewer.doc ((viewer.step pdf (.refresh hostWidth)).gesture pdf .move []).doc

def Viewer.commits (viewer : Viewer) : Label → Bool
  | .refresh _ => false
  | .turn next _ => (viewer.turned pdf next).isSome
  | .gesture _ _ => true

/-- What a step commits lies on its page, and stays when the page is shown at another scale. -/
def Places (viewer : Viewer) (label : Label) : Prop :=
  viewer.commits pdf label = true →
    OnPage pdf (viewer.step pdf label).doc ∧ Steady pdf (viewer.step pdf label)

/-- A size in points is at most that of the page and the slack. -/
structure Fits (slack : ℚ) (page : PageSize) (width height : ℚ) : Prop where
  width : width ≤ page.width + slack
  height : height ≤ page.height + slack

/-- The page has room for the box, and where it is resized for the smallest one at its corner. -/
def Room (slack : ℚ) (viewer : Viewer) : Label → Prop
  | .refresh _ => True
  | .turn next _ => ∀ pageNum, viewer.turned pdf next = some pageNum →
      Fits slack (pdf.page pageNum) (orElse viewer.doc.sigWidth 200)
        (orElse viewer.doc.sigHeight 80)
  | .gesture .resize (_ :: _) =>
      Fits slack (viewer.page pdf) ((viewer.box.left + 40) / viewer.scale)
        ((viewer.box.top + 20) / viewer.scale)
  | .gesture _ _ =>
      Fits slack (viewer.page pdf) (viewer.box.width / viewer.scale)
        (viewer.box.height / viewer.scale)

variable {pdf}

/-! ### In points -/

section Points

variable {page : PageSize} {left top width height : ℚ}

theorem rounded_on_page (fromLeft : 0 ≤ left) (fromTop : 0 ≤ top)
    (right : left + width ≤ page.width + 1 / 200) (lower : top + height ≤ page.height + 1 / 200) :
    0 ≤ round2 left ∧ 0 ≤ round2 (page.height - top - height) ∧
      round2 left + round2 width ≤ page.width + 3 / 200 ∧
      round2 (page.height - top - height) + round2 height ≤ page.height + 1 / 100 := by
  have leftUp := round2_le left
  have widthUp := round2_le width
  have belowUp := round2_le (page.height - top - height)
  have heightUp := round2_le height
  refine ⟨round2_nonneg (by linarith), round2_nonneg (by linarith), by linarith, by linarith⟩

theorem round2_near {number : ℚ} (count : ℤ) (most : number ≤ (count : ℚ) / 100)
    (least : (count : ℚ) / 100 - 3 / 200 ≤ number) :
    |round2 number - (count : ℚ) / 100| ≤ 1 / 100 := by
  have above := round2_mono most
  rw [round2_hundredths] at above
  have reached : ((count - 1 : ℤ) : ℚ) / 100 - 1 / 200 ≤ number := by
    push_cast
    linarith
  have below := hundredths_le_round2 (count - 1) reached
  push_cast at below
  rw [abs_le]
  constructor
  · linarith
  · linarith

/-- A corner with two decimals is kept by a clamp that is at most 3/200 too narrow. -/
theorem clamped_corner {room : ℚ} (count : ℤ) (nonneg : 0 ≤ (count : ℚ) / 100)
    (wide : (count : ℚ) / 100 ≤ room + 3 / 200) :
    |round2 (clamp room ((count : ℚ) / 100)) - (count : ℚ) / 100| ≤ 1 / 100 := by
  refine round2_near count (max_le nonneg (min_le_left _ _)) ?_
  refine le_max_of_le_right (le_min ?_ ?_)
  · linarith
  · linarith

theorem clamped_lower_corner {whole size : ℚ} (count : ℤ) (nonneg : 0 ≤ (count : ℚ) / 100)
    (high : (count : ℚ) / 100 + size ≤ whole + 1 / 100) :
    |round2 (whole - clamp (whole - size) (whole - (count : ℚ) / 100 - size) - size) -
      (count : ℚ) / 100| ≤ 1 / 100 := by
  have inside : min (whole - (count : ℚ) / 100 - size) (whole - size) =
      whole - (count : ℚ) / 100 - size := min_eq_left (by linarith)
  rw [clamp, inside]
  rcases le_total 0 (whole - (count : ℚ) / 100 - size) with fits | beyond
  · rw [max_eq_right fits]
    have same : whole - (whole - (count : ℚ) / 100 - size) - size = (count : ℚ) / 100 := by ring
    rw [same, round2_hundredths, sub_self, abs_zero]
    norm_num
  · rw [max_eq_left beyond, sub_zero]
    exact round2_near count (by linarith) (by linarith)

end Points

/-! ### The box on the screen -/

theorem fitScale_pos (page : PageSize) (hostWidth : ℚ) : 0 < fitScale page hostWidth := by
  have room : 0 < avail hostWidth := lt_of_lt_of_le (by norm_num) (le_max_right _ 280)
  exact lt_min (div_pos room page.width_pos) (by norm_num)

theorem fitScale_le (page : PageSize) (hostWidth : ℚ) : fitScale page hostWidth ≤ 3 / 2 :=
  min_le_right _ _

/-- Nothing is placed, or a rectangle of a point at least. -/
def Sized (doc : Form) : Prop :=
  doc.sigWidth = 0 ∧ doc.sigHeight = 0 ∨ 1 ≤ doc.sigWidth ∧ 1 ≤ doc.sigHeight

theorem Sized.least {doc : Form} (sized : Sized doc) :
    1 ≤ orElse doc.sigWidth 200 ∧ 1 ≤ orElse doc.sigHeight 80 := by
  rcases sized with ⟨noWidth, noHeight⟩ | ⟨wide, high⟩
  · rw [orElse, orElse, if_pos noWidth, if_pos noHeight]
    norm_num
  · rw [orElse, orElse, if_neg (by linarith), if_neg (by linarith)]
    exact ⟨wide, high⟩

variable (pdf) in
/-- The box starts on the page, and ends there unless it has been pushed to the edge. -/
structure Shown (viewer : Viewer) : Prop where
  scale_pos : 0 < viewer.scale
  scale_le : viewer.scale ≤ 3 / 2
  left : 0 ≤ viewer.box.left
  top : 0 ≤ viewer.box.top
  right : viewer.box.left = 0 ∨
    viewer.box.left + viewer.box.width ≤ ((viewer.page pdf).width + 1 / 200) * viewer.scale
  lower : viewer.box.top = 0 ∨
    viewer.box.top + viewer.box.height ≤ ((viewer.page pdf).height + 1 / 200) * viewer.scale
  wide : viewer.scale ≤ viewer.box.width
  high : viewer.scale ≤ viewer.box.height

variable (pdf) in
/-- The whole box is on the page, up to the rounding. -/
structure Inside (viewer : Viewer) : Prop extends Shown pdf viewer where
  right_in : viewer.box.left + viewer.box.width ≤
    ((viewer.page pdf).width + 1 / 200) * viewer.scale
  lower_in : viewer.box.top + viewer.box.height ≤
    ((viewer.page pdf).height + 1 / 200) * viewer.scale

/-- A clamped start leaves the end on the page, or is at the edge. -/
theorem clamp_ends {whole size value scale : ℚ} (positive : 0 < scale) :
    clamp (whole * scale - size) value = 0 ∨
      clamp (whole * scale - size) value + size ≤ (whole + 1 / 200) * scale := by
  rcases clamp_within (whole * scale - size) value with edge | inside
  · exact Or.inl edge
  · refine Or.inr ?_
    linarith

theorem renderPage_shown {viewer : Viewer} (sized : Sized viewer.doc) (hostWidth : ℚ) :
    Shown pdf (viewer.renderPage pdf hostWidth) := by
  have positive := fitScale_pos (viewer.page pdf) hostWidth
  obtain ⟨wide, high⟩ := sized.least
  exact
    { scale_pos := positive
      scale_le := fitScale_le _ _
      left := clamp_nonneg _ _
      top := clamp_nonneg _ _
      right := clamp_ends positive
      lower := clamp_ends positive
      wide := le_mul_of_one_le_left positive.le wide
      high := le_mul_of_one_le_left positive.le high }

theorem renderPage_size (viewer : Viewer) (hostWidth : ℚ) :
    (viewer.renderPage pdf hostWidth).box.width / (viewer.renderPage pdf hostWidth).scale =
        orElse viewer.doc.sigWidth 200 ∧
      (viewer.renderPage pdf hostWidth).box.height / (viewer.renderPage pdf hostWidth).scale =
        orElse viewer.doc.sigHeight 80 := by
  have positive := fitScale_pos (viewer.page pdf) hostWidth
  exact ⟨mul_div_cancel_right₀ _ positive.ne', mul_div_cancel_right₀ _ positive.ne'⟩

theorem Shown.inside {viewer : Viewer} (shown : Shown pdf viewer)
    (fits : Fits (1 / 200) (viewer.page pdf) (viewer.box.width / viewer.scale)
      (viewer.box.height / viewer.scale)) : Inside pdf viewer := by
  have width := (div_le_iff₀ shown.scale_pos).mp fits.width
  have height := (div_le_iff₀ shown.scale_pos).mp fits.height
  refine { shown with right_in := ?_, lower_in := ?_ }
  · rcases shown.right with edge | inside
    · rw [edge, zero_add]
      exact width
    · exact inside
  · rcases shown.lower with edge | inside
    · rw [edge, zero_add]
      exact height
    · exact inside

/-! ### Commits -/

theorem commitBox_doc {viewer : Viewer} (positive : 0 < viewer.scale) :
    (viewer.commitBox pdf).doc =
      { sigPage := viewer.pageNum
        sigX := round2 (viewer.box.left / viewer.scale)
        sigY := round2 ((viewer.page pdf).height - viewer.box.top / viewer.scale -
          viewer.box.height / viewer.scale)
        sigWidth := round2 (viewer.box.width / viewer.scale)
        sigHeight := round2 (viewer.box.height / viewer.scale) } := by
  have upward : (viewer.viewHeight pdf - viewer.box.top - viewer.box.height) / viewer.scale =
      (viewer.page pdf).height - viewer.box.top / viewer.scale -
        viewer.box.height / viewer.scale := by
    rw [Viewer.viewHeight, sub_div, sub_div, mul_div_cancel_right₀ _ positive.ne']
  simp only [Viewer.commitBox, upward]

theorem shown_again {doc : Form} (wide : 1 ≤ doc.sigWidth) (high : 1 ≤ doc.sigHeight)
    (first : 1 ≤ doc.sigPage) (last : doc.sigPage ≤ pdf.numPages) (hostWidth : ℚ) :
    ((initViewer pdf doc hostWidth).gesture pdf .move []).doc =
      { sigPage := doc.sigPage
        sigX := round2 (clamp ((pdf.page doc.sigPage).width - doc.sigWidth) doc.sigX)
        sigY := round2 ((pdf.page doc.sigPage).height -
          clamp ((pdf.page doc.sigPage).height - doc.sigHeight)
            ((pdf.page doc.sigPage).height - doc.sigY - doc.sigHeight) - doc.sigHeight)
        sigWidth := round2 doc.sigWidth
        sigHeight := round2 doc.sigHeight } := by
  have pageNum : min (max (if doc.sigPage = 0 then 1 else doc.sigPage) 1) pdf.numPages =
      doc.sigPage := by
    rw [if_neg (by omega)]
    omega
  have positive := fitScale_pos (pdf.page doc.sigPage) hostWidth
  have placed : doc.sigWidth ≠ 0 := by linarith
  have width : orElse doc.sigWidth 200 = doc.sigWidth := if_neg (by linarith)
  have height : orElse doc.sigHeight 80 = doc.sigHeight := if_neg (by linarith)
  have shown : (initViewer pdf doc hostWidth) =
      { doc := doc
        pageNum := doc.sigPage
        scale := fitScale (pdf.page doc.sigPage) hostWidth
        box :=
          { left := clamp ((pdf.page doc.sigPage).width - doc.sigWidth) doc.sigX *
              fitScale (pdf.page doc.sigPage) hostWidth
            top := clamp ((pdf.page doc.sigPage).height - doc.sigHeight)
              ((pdf.page doc.sigPage).height - doc.sigY - doc.sigHeight) *
                fitScale (pdf.page doc.sigPage) hostWidth
            width := doc.sigWidth * fitScale (pdf.page doc.sigPage) hostWidth
            height := doc.sigHeight * fitScale (pdf.page doc.sigPage) hostWidth } } := by
    simp only [initViewer, pageNum, Viewer.renderPage, Viewer.positionBoxFromDoc, Viewer.page,
      Viewer.viewWidth, Viewer.viewHeight, width, height, placed, ne_eq, not_false_eq_true, and_self,
      if_true, ← sub_mul, clamp_mul _ _ positive.le]
  rw [Viewer.gesture, List.foldl_nil, shown, commitBox_doc positive]
  simp only [mul_div_cancel_right₀ _ positive.ne', Viewer.page]

variable (pdf) in
structure Held (viewer : Viewer) : Prop where
  shown : Shown pdf viewer
  first : 1 ≤ viewer.pageNum
  last : viewer.pageNum ≤ pdf.numPages
  page : viewer.doc.sigPage = viewer.pageNum
  sized : Sized viewer.doc

theorem commitBox_places {viewer : Viewer} (inside : Inside pdf viewer) (first : 1 ≤ viewer.pageNum)
    (last : viewer.pageNum ≤ pdf.numPages) :
    OnPage pdf (viewer.commitBox pdf).doc ∧ Steady pdf (viewer.commitBox pdf) ∧
      Held pdf (viewer.commitBox pdf) := by
  have positive := inside.scale_pos
  have left : 0 ≤ viewer.box.left / viewer.scale := div_nonneg inside.left positive.le
  have top : 0 ≤ viewer.box.top / viewer.scale := div_nonneg inside.top positive.le
  have right := (div_le_iff₀ positive).mpr inside.right_in
  have lower := (div_le_iff₀ positive).mpr inside.lower_in
  rw [add_div] at right lower
  obtain ⟨x, y, across, upward⟩ := rounded_on_page left top right lower
  have wide : 1 ≤ round2 (viewer.box.width / viewer.scale) := by
    have least := round2_mono ((one_le_div positive).mpr inside.wide)
    rwa [show round2 1 = 1 from by decide +kernel] at least
  have high : 1 ≤ round2 (viewer.box.height / viewer.scale) := by
    have least := round2_mono ((one_le_div positive).mpr inside.high)
    rwa [show round2 1 = 1 from by decide +kernel] at least
  have doc := @commitBox_doc pdf viewer positive
  refine ⟨?_, ?_, ?_⟩
  · have rightEdge : (viewer.page pdf).width + 3 / 200 ≤ (viewer.page pdf).width + 1 / 50 := by
      linarith
    have upperEdge : (viewer.page pdf).height + 1 / 100 ≤ (viewer.page pdf).height + 1 / 50 := by
      linarith
    rw [doc]
    exact ⟨x, y, across.trans rightEdge, upward.trans upperEdge⟩
  · intro hostWidth
    have sizes (size : ℚ) : |round2 (round2 size) - round2 size| ≤ 1 / 100 := by
      rw [round2_round2, sub_self, abs_zero]
      norm_num
    have again := @shown_again pdf (viewer.commitBox pdf).doc (by rw [doc]; exact wide)
      (by rw [doc]; exact high) (by rw [doc]; exact first) (by rw [doc]; exact last) hostWidth
    rw [doc] at again
    rw [Viewer.step, doc, again]
    refine ⟨rfl, ?_, ?_, ?_, ?_⟩
    · have within : round2 (viewer.box.left / viewer.scale) ≤
          (viewer.page pdf).width - round2 (viewer.box.width / viewer.scale) + 3 / 200 := by linarith
      exact clamped_corner _ x within
    · exact clamped_lower_corner _ y upward
    · exact sizes _
    · exact sizes _
  · exact
      { shown := { inside.toShown with }
        first := first
        last := last
        page := rfl
        sized := Or.inr (by rw [doc]; exact ⟨wide, high⟩) }

/-! ### Steps -/

/-- Every mouse move starts over from the box that was taken. -/
theorem mouseMoves (viewer : Viewer) (mode : Mode) (path : List Offset) :
    path = [] ∨ ∃ offset,
      path.foldl (fun now offset => now.mouseMove pdf mode viewer.box offset) viewer =
        viewer.mouseMove pdf mode viewer.box offset := by
  induction path using List.reverseRecOn with
  | nil => exact Or.inl rfl
  | append_singleton path last ih =>
      refine Or.inr ⟨last, ?_⟩
      rw [List.foldl_append, List.foldl_cons, List.foldl_nil]
      rcases ih with rfl | ⟨earlier, same⟩
      · rfl
      · rw [same]
        cases mode <;> rfl

theorem moveBox_inside {viewer : Viewer} (inside : Inside pdf viewer) (offset : Offset) :
    Inside pdf (viewer.moveBox pdf viewer.box offset) := by
  have width : viewer.box.width ≤ ((viewer.page pdf).width + 1 / 200) * viewer.scale := by
    linarith [inside.left, inside.right_in]
  have height : viewer.box.height ≤ ((viewer.page pdf).height + 1 / 200) * viewer.scale := by
    linarith [inside.top, inside.lower_in]
  have shown : Shown pdf (viewer.moveBox pdf viewer.box offset) :=
    { inside.toShown with
      left := clamp_nonneg _ _
      top := clamp_nonneg _ _
      right := clamp_ends inside.scale_pos
      lower := clamp_ends inside.scale_pos }
  exact shown.inside
    { width := (div_le_iff₀ inside.scale_pos).mpr width
      height := (div_le_iff₀ inside.scale_pos).mpr height }

/-- The smallest box is taken only where the page has room for it. -/
theorem resizeBox_inside {viewer : Viewer} (shown : Shown pdf viewer)
    (fits : Fits (1 / 200) (viewer.page pdf) ((viewer.box.left + 40) / viewer.scale)
      ((viewer.box.top + 20) / viewer.scale)) (offset : Offset) :
    Inside pdf (viewer.resizeBox pdf viewer.box offset) := by
  have positive := shown.scale_pos
  have smallWidth := (div_le_iff₀ positive).mp fits.width
  have smallHeight := (div_le_iff₀ positive).mp fits.height
  have right : viewer.box.left + max 40 (min (viewer.box.width + offset.dx)
      (viewer.viewWidth pdf - viewer.box.left)) ≤
        ((viewer.page pdf).width + 1 / 200) * viewer.scale := by
    rw [← le_sub_iff_add_le']
    refine max_le (by linarith) ((min_le_right _ _).trans ?_)
    unfold Viewer.viewWidth
    linarith
  have lower : viewer.box.top + max 20 (min (viewer.box.height + offset.dy)
      (viewer.viewHeight pdf - viewer.box.top)) ≤
        ((viewer.page pdf).height + 1 / 200) * viewer.scale := by
    rw [← le_sub_iff_add_le']
    refine max_le (by linarith) ((min_le_right _ _).trans ?_)
    unfold Viewer.viewHeight
    linarith
  exact
    { scale_pos := positive
      scale_le := shown.scale_le
      left := shown.left
      top := shown.top
      right := Or.inr right
      lower := Or.inr lower
      wide := le_max_of_le_left (shown.scale_le.trans (by norm_num))
      high := le_max_of_le_left (shown.scale_le.trans (by norm_num))
      right_in := right
      lower_in := lower }

theorem gesture_inside {viewer : Viewer} (shown : Shown pdf viewer) (mode : Mode)
    (path : List Offset) (room : Room pdf (1 / 200) viewer (.gesture mode path)) :
    Inside pdf (path.foldl (fun now offset => now.mouseMove pdf mode viewer.box offset) viewer) := by
  rcases @mouseMoves pdf viewer mode path with rfl | ⟨offset, same⟩
  · cases mode <;> exact shown.inside room
  · cases mode with
    | move =>
        rw [same]
        exact moveBox_inside (shown.inside room) offset
    | resize =>
        cases path with
        | nil => exact shown.inside room
        | cons first rest =>
            rw [same]
            exact resizeBox_inside shown room offset

theorem turned_within {viewer : Viewer} (first : 1 ≤ viewer.pageNum)
    (last : viewer.pageNum ≤ pdf.numPages) {next : Bool} {pageNum : Nat}
    (turned : viewer.turned pdf next = some pageNum) : 1 ≤ pageNum ∧ pageNum ≤ pdf.numPages := by
  unfold Viewer.turned at turned
  split at turned
  · split at turned
    · cases turned
      omega
    · cases turned
  · split at turned
    · cases turned
      omega
    · cases turned

theorem initViewer_held {viewer : Viewer} (held : Held pdf viewer) (hostWidth : ℚ) :
    Held pdf (initViewer pdf viewer.doc hostWidth) := by
  have first := held.first
  have last := held.last
  have pageNum : min (max (if viewer.doc.sigPage = 0 then 1 else viewer.doc.sigPage) 1)
      pdf.numPages = viewer.pageNum := by
    rw [held.page, if_neg (by omega)]
    omega
  have shown := @renderPage_shown pdf ⟨viewer.doc, viewer.pageNum, 1, ⟨0, 0, 0, 0⟩⟩ held.sized hostWidth
  rw [initViewer, pageNum]
  exact ⟨shown, first, last, held.page, held.sized⟩

theorem step_places {viewer : Viewer} (held : Held pdf viewer) {label : Label}
    (room : Room pdf (1 / 200) viewer label) :
    Places pdf viewer label ∧ Held pdf (viewer.step pdf label) := by
  cases label with
  | refresh hostWidth =>
      refine ⟨fun committed => ?_, initViewer_held held hostWidth⟩
      cases committed
  | turn next hostWidth =>
      cases turned : viewer.turned pdf next with
      | none =>
          refine ⟨fun committed => ?_, ?_⟩
          · simp only [Viewer.commits, turned] at committed
            cases committed
          · simp only [Viewer.step, turned]
            exact held
      | some pageNum =>
          obtain ⟨first, last⟩ := turned_within held.first held.last turned
          have shown := @renderPage_shown pdf { viewer with pageNum := pageNum } held.sized hostWidth
          have fits := room pageNum turned
          have inside : Inside pdf ({ viewer with pageNum := pageNum }.renderPage pdf hostWidth) := by
            obtain ⟨width, height⟩ :=
              @renderPage_size pdf { viewer with pageNum := pageNum } hostWidth
            refine shown.inside ?_
            rw [width, height]
            exact fits
          have placed := commitBox_places inside first last
          simp only [Places, Viewer.step, turned]
          exact ⟨fun _ => ⟨placed.1, placed.2.1⟩, placed.2.2⟩
  | gesture mode path =>
      have inside := gesture_inside held.shown mode path room
      have frame : (path.foldl (fun now offset => now.mouseMove pdf mode viewer.box offset)
          viewer).pageNum = viewer.pageNum := by
        rcases @mouseMoves pdf viewer mode path with rfl | ⟨offset, same⟩
        · rfl
        · rw [same]
          cases mode <;> rfl
      have placed := commitBox_places inside (by rw [frame]; exact held.first)
        (by rw [frame]; exact held.last)
      exact ⟨fun _ => ⟨placed.1, placed.2.1⟩, placed.2.2⟩

/-! ### Boxes that do not fit -/

/-- What holds of a viewer whatever the sizes of its pages are. -/
structure Edged (viewer : Viewer) : Prop where
  scale_pos : 0 < viewer.scale
  left : 0 ≤ viewer.box.left
  top : 0 ≤ viewer.box.top

theorem renderPage_edged (viewer : Viewer) (hostWidth : ℚ) :
    Edged (viewer.renderPage pdf hostWidth) :=
  ⟨fitScale_pos _ _, clamp_nonneg _ _, clamp_nonneg _ _⟩

theorem mouseMove_edged {viewer : Viewer} (edged : Edged viewer) (mode : Mode) (offset : Offset) :
    Edged (viewer.mouseMove pdf mode viewer.box offset) := by
  cases mode with
  | move => exact ⟨edged.scale_pos, clamp_nonneg _ _, clamp_nonneg _ _⟩
  | resize => exact ⟨edged.scale_pos, edged.left, edged.top⟩

theorem moves_edged {viewer : Viewer} (edged : Edged viewer) (mode : Mode) (path : List Offset) :
    Edged (path.foldl (fun now offset => now.mouseMove pdf mode viewer.box offset) viewer) := by
  rcases @mouseMoves pdf viewer mode path with rfl | ⟨offset, same⟩
  · exact edged
  · rw [same]
    exact mouseMove_edged edged mode offset

theorem step_edged {viewer : Viewer} (edged : Edged viewer) (label : Label) :
    Edged (viewer.step pdf label) := by
  cases label with
  | refresh hostWidth => exact renderPage_edged _ hostWidth
  | turn next hostWidth =>
      simp only [Viewer.step]
      split
      · obtain ⟨scale_pos, left, top⟩ := renderPage_edged _ hostWidth
        exact ⟨scale_pos, left, top⟩
      · exact edged
  | gesture mode path =>
      obtain ⟨scale_pos, left, top⟩ := @moves_edged pdf _ edged mode path
      exact ⟨scale_pos, left, top⟩

/-- What is committed on the page was there, up to the rounding. -/
theorem fits_of_onPage {viewer : Viewer} (edged : Edged viewer)
    (onPage : OnPage pdf (viewer.commitBox pdf).doc) :
    Fits (3 / 100) (viewer.page pdf) ((viewer.box.left + viewer.box.width) / viewer.scale)
      ((viewer.box.top + viewer.box.height) / viewer.scale) := by
  obtain ⟨-, y, right, -⟩ := onPage
  rw [commitBox_doc edged.scale_pos] at y right
  have leftUp := round2_gt (viewer.box.left / viewer.scale)
  have widthUp := round2_gt (viewer.box.width / viewer.scale)
  have lower := le_of_round2_nonneg y
  have rightIn : round2 (viewer.box.left / viewer.scale) + round2 (viewer.box.width / viewer.scale) ≤
      (viewer.page pdf).width + 1 / 50 := right
  refine ⟨?_, ?_⟩
  · rw [add_div]
    linarith
  · rw [add_div]
    linarith

theorem size_of_onPage {viewer : Viewer} (edged : Edged viewer)
    (onPage : OnPage pdf (viewer.commitBox pdf).doc) :
    Fits (3 / 100) (viewer.page pdf) (viewer.box.width / viewer.scale)
      (viewer.box.height / viewer.scale) := by
  obtain ⟨width, height⟩ := fits_of_onPage edged onPage
  have left := div_nonneg edged.left edged.scale_pos.le
  have top := div_nonneg edged.top edged.scale_pos.le
  rw [add_div] at width height
  exact ⟨by linarith, by linarith⟩

theorem room_of_places {viewer : Viewer} (edged : Edged viewer) {label : Label}
    (places : Places pdf viewer label) : Room pdf (3 / 100) viewer label := by
  cases label with
  | refresh hostWidth => trivial
  | turn next hostWidth =>
      intro pageNum turned
      have committed : viewer.commits pdf (.turn next hostWidth) = true := by
        simp only [Viewer.commits, turned, Option.isSome_some]
      have onPage := (places committed).1
      simp only [Viewer.step, turned] at onPage
      have size := size_of_onPage (renderPage_edged _ hostWidth) onPage
      obtain ⟨width, height⟩ := @renderPage_size pdf { viewer with pageNum := pageNum } hostWidth
      rw [width, height] at size
      exact size
  | gesture mode path =>
      have onPage := (places rfl).1
      have moved := @moves_edged pdf _ edged mode path
      cases path with
      | nil =>
          have size := size_of_onPage moved onPage
          cases mode <;> exact size
      | cons first rest =>
          rcases @mouseMoves pdf viewer mode (first :: rest) with impossible | ⟨offset, same⟩
          · cases impossible
          · rw [Viewer.step, Viewer.gesture] at onPage
            rw [same] at moved onPage
            cases mode with
            | move =>
                have size := size_of_onPage moved onPage
                exact size
            | resize =>
                obtain ⟨width, height⟩ := fits_of_onPage moved onPage
                have positive := edged.scale_pos.le
                -- The box is at least as large as the smallest one.
                have smallWidth : (viewer.box.left + 40) / viewer.scale ≤
                    (viewer.box.left + (viewer.resizeBox pdf viewer.box offset).box.width) /
                      viewer.scale :=
                  div_le_div_of_nonneg_right (add_le_add_right (le_max_left _ _) _) positive
                have smallHeight : (viewer.box.top + 20) / viewer.scale ≤
                    (viewer.box.top + (viewer.resizeBox pdf viewer.box offset).box.height) /
                      viewer.scale :=
                  div_le_div_of_nonneg_right (add_le_add_right (le_max_left _ _) _) positive
                exact ⟨smallWidth.trans width, smallHeight.trans height⟩

/-! ### Runs -/

theorem opened_held (hostWidth : ℚ) : Held pdf (initViewer pdf blank hostWidth) := by
  have nonempty := pdf.nonempty
  have pageNum : min (max (if blank.sigPage = 0 then 1 else blank.sigPage) 1) pdf.numPages = 1 := by
    rw [if_neg (by decide)]
    exact min_eq_left nonempty
  have sized : Sized blank := Or.inl ⟨rfl, rfl⟩
  have shown := @renderPage_shown pdf ⟨blank, 1, 1, ⟨0, 0, 0, 0⟩⟩ sized hostWidth
  rw [initViewer, pageNum]
  exact ⟨shown, le_rfl, nonempty, rfl, sized⟩

/-- A new record, viewed and edited: every placement that is committed is on its page, and stays
when it is shown at another scale, in the runs in which the page has room for the box. -/
theorem placements_stay (pdf : Pdf) (hostWidth : ℚ) (labels : List Label) :
    (Runs.Along (viewerStep pdf) (Room pdf (1 / 200)) (initViewer pdf blank hostWidth) labels →
      Runs.Along (viewerStep pdf) (Places pdf) (initViewer pdf blank hostWidth) labels) ∧
    (Runs.Along (viewerStep pdf) (Places pdf) (initViewer pdf blank hostWidth) labels →
      Runs.Along (viewerStep pdf) (Room pdf (3 / 100)) (initViewer pdf blank hostWidth) labels) := by
  have held := @opened_held pdf hostWidth
  constructor
  · intro room
    refine Runs.along_implies ?_ (fun viewer label held room => (step_places held room).1) held room
    intro viewer label next held room stepped
    cases stepped
    exact (step_places held room).2
  · intro places
    have edged : Edged (initViewer pdf blank hostWidth) :=
      ⟨held.shown.scale_pos, held.shown.left, held.shown.top⟩
    refine Runs.along_implies ?_ (fun viewer label edged places => room_of_places edged places)
      edged places
    intro viewer label next edged _ stepped
    cases stepped
    exact step_edged edged label

/-! ### A letter and a label -/

def onePage (width height : ℚ) (wide : 0 < width) (high : 0 < height) : Pdf where
  numPages := 1
  page := fun _ => ⟨width, height, wide, high⟩
  nonempty := le_rfl

def fitsCheck (slack : ℚ) (page : PageSize) (width height : ℚ) : Bool :=
  decide (width ≤ page.width + slack) && decide (height ≤ page.height + slack)

theorem fitsCheck_sound {slack : ℚ} {page : PageSize} {width height : ℚ}
    (checked : fitsCheck slack page width height = true) : Fits slack page width height := by
  simp only [fitsCheck, Bool.and_eq_true, decide_eq_true_eq] at checked
  exact ⟨checked.1, checked.2⟩

def roomCheck (pdf : Pdf) (slack : ℚ) (viewer : Viewer) : Label → Bool
  | .refresh _ => true
  | .turn next _ => (viewer.turned pdf next).all fun pageNum =>
      fitsCheck slack (pdf.page pageNum) (orElse viewer.doc.sigWidth 200)
        (orElse viewer.doc.sigHeight 80)
  | .gesture mode path =>
      if mode == .resize && !path.isEmpty then
        fitsCheck slack (viewer.page pdf) ((viewer.box.left + 40) / viewer.scale)
          ((viewer.box.top + 20) / viewer.scale)
      else
        fitsCheck slack (viewer.page pdf) (viewer.box.width / viewer.scale)
          (viewer.box.height / viewer.scale)

theorem roomCheck_sound {slack : ℚ} (viewer : Viewer) (label : Label)
    (checked : roomCheck pdf slack viewer label = true) : Room pdf slack viewer label := by
  cases label with
  | refresh hostWidth => trivial
  | turn next hostWidth =>
      intro pageNum turned
      rw [roomCheck, turned, Option.all_some] at checked
      exact fitsCheck_sound checked
  | gesture mode path =>
      cases mode with
      | move => exact fitsCheck_sound checked
      | resize =>
          cases path with
          | nil => exact fitsCheck_sound checked
          | cons first rest => exact fitsCheck_sound checked

/-- A letter page: the box is moved, shown smaller, resized and clicked on. -/
def letterSession : List Label :=
  [.gesture .move [⟨-100, -50⟩, ⟨-300, -2000⟩], .refresh 320, .gesture .resize [⟨30, 15⟩],
    .gesture .move []]

theorem placements_stay_sample :
    Runs.Along (viewerStep (onePage 612 792 (by norm_num) (by norm_num)))
      (Places (onePage 612 792 (by norm_num) (by norm_num)))
      (initViewer (onePage 612 792 (by norm_num) (by norm_num)) blank 640) letterSession :=
  (placements_stay (onePage 612 792 (by norm_num) (by norm_num)) 640 letterSession).1
    (Runs.along_of_check roomCheck_sound (by decide +kernel))

/-- A label of 150 by 100 points: the first box is 200 points wide. -/
theorem placement_off_label :
    ¬ Runs.Along (viewerStep (onePage 150 100 (by norm_num) (by norm_num)))
      (Places (onePage 150 100 (by norm_num) (by norm_num)))
      (initViewer (onePage 150 100 (by norm_num) (by norm_num)) blank 640)
      [.gesture .move [⟨10, 9⟩]] := by
  intro places
  have right := (places.1 rfl).1.right
  have committed : (((initViewer (onePage 150 100 (by norm_num) (by norm_num)) blank 640).step
      (onePage 150 100 (by norm_num) (by norm_num)) (.gesture .move [⟨10, 9⟩])).doc) =
        ⟨1, 0, 10, 200, 80⟩ := by decide +kernel
  rw [committed] at right
  revert right
  norm_num [onePage]

end DscSigning.PlacementViewer
