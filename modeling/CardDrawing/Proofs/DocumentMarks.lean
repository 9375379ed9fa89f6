import CardDrawing.Picture.Canvas
import CardDrawing.Proofs.ExactArithmetic
import CardDrawing.Proofs.Outcomes
import CardDrawing.Svg.Reader

/-!
# Marks of vector documents

Drawn in exact ratios, every shape of a document leaves its mark. The bounds of a rectangle end one
pixel before its far corner, so that they are in order only if it reaches at least one pixel of the
target in both directions; a canvas refuses the others.
-/

namespace CardDrawing

namespace Svg

variable {α : Type}

lemma Bounds.fault?_eq_none {b : Bounds ℚ} :
    b.fault? = none ↔ b.left ≤ b.right ∧ b.top ≤ b.bottom := by
  unfold fault?
  constructor
  · intro h
    split_ifs at h with hright hbottom
    exact ⟨not_lt.mp hright, not_lt.mp hbottom⟩
  · rintro ⟨hright, hbottom⟩
    rw [if_neg (not_lt.mpr hright), if_neg (not_lt.mpr hbottom)]

/-- The bounds of the marks that are rectangles. -/
def Mark.rectangle? : Mark α → Option (Bounds α)
  | .rectangle b _ _ _ => some b
  | _ => none

/-- The width and the height of the shapes that are rectangles. -/
def Shape.sides? : Shape α → Option (α × α)
  | .rect _ _ width height _ => some (width, height)
  | _ => none

/-- The mark that a shape leaves. -/
def Projection.markOf [Coordinate α] (p : Projection α) (s : Shape α) : Option (Mark α) :=
  (p.strokeWidth s.style).toOption.bind fun width => s.mark? p width

end Svg

namespace Proofs
open Svg

/-! ## All marks -/

lemma exists_strokeWidth (p : Projection ℚ) (style : Style ℚ) :
    ∃ width, p.strokeWidth style = .ok width := by
  unfold Projection.strokeWidth
  split
  · exact ⟨0, rfl⟩
  · exact ⟨_, rfl⟩

lemma run_shape (p : Projection ℚ) (s : Shape ℚ) :
    Additive (s.draw p) ∧ (s.draw p).run = (.ok (), (p.markOf s).toList) := by
  obtain ⟨width, hwidth⟩ := exists_strokeWidth p s.style
  have hmark : p.markOf s = s.mark? p width := by
    rw [Projection.markOf, hwidth]
    rfl
  have hpure : (Trace.lift (.ok width) : Trace (Mark ℚ) ℤ) = pure width := rfl
  rw [Shape.draw, hwidth, hpure, pure_bind, hmark]
  cases s.mark? p width with
  | some mark => exact run_record mark
  | none => exact run_lift (.ok ())

/-- All shapes leave their marks in order. -/
lemma run_shapes (p : Projection ℚ) (shapes : List (Shape ℚ)) :
    Additive (shapes.forM (Shape.draw p)) ∧
      (shapes.forM (Shape.draw p)).run = (.ok (), shapes.filterMap p.markOf) := by
  induction shapes with
  | nil => exact run_lift (.ok ())
  | cons s rest ih =>
    obtain ⟨hs, hmark⟩ := run_shape p s
    obtain ⟨hadd, hrun⟩ := run_bind_ok (f := fun _ => rest.forM (Shape.draw p)) hs
      (congrArg Prod.fst hmark) ih.1
    refine ⟨hadd, hrun.trans ?_⟩
    rw [hmark, ih.2, List.filterMap_cons]
    cases p.markOf s <;> rfl

lemma run_draw (d : Document ℚ) (width height : ℤ) : (d.draw width height).run =
    (.ok (), d.shapes.filterMap (Projection.onto d.viewBox width height).markOf) :=
  (run_shapes _ _).2

/-! ## Rectangles -/

/-- A rectangle leaves a rectangle, and no other shape does. -/
lemma rectangle_markOf (p : Projection ℚ) (s : Shape ℚ) :
    (p.markOf s).bind Mark.rectangle? =
      match s with
      | .rect x y w h _ => some (p.bounds x y (x + w) (y + h)).inner
      | _ => none := by
  obtain ⟨width, hwidth⟩ := exists_strokeWidth p s.style
  rw [Projection.markOf, hwidth]
  cases s with
  | rect x y w h style => rfl
  | ellipse cx cy rx ry style => rfl
  | line x1 y1 x2 y2 style => cases style with | mk _ stroke _ => cases stroke <;> rfl
  | polygon points closed style =>
    cases style with | mk _ stroke _ => cases closed <;> cases stroke <;> rfl

/-- What becomes of a rectangle with the given sides. -/
structure RectangleJudged (viewBox : ViewBox ℚ) (width height : ℤ) (b : Bounds ℚ) (sides : ℚ × ℚ) :
    Prop where
  wide : b.right - b.left = sides.1 * width / viewBox.width - 1
  high : b.bottom - b.top = sides.2 * height / viewBox.height - 1
  ordered : b.left ≤ b.right ∧ b.top ≤ b.bottom ↔
    viewBox.width ≤ sides.1 * width ∧ viewBox.height ≤ sides.2 * height
  taken : b.fault? = none ↔ b.left ≤ b.right ∧ b.top ≤ b.bottom

/-- Between the edges of a side, the origin of the view box does not count. -/
lemma scaled_side {extent : ℚ} (hextent : extent ≠ 0) (start side origin : ℚ) (target : ℤ) :
    ((start + side - origin) * ratio target extent - 1) - (start - origin) * ratio target extent =
      side * target / extent - 1 := by
  rw [ratio_exact hextent]
  ring

lemma edges_ordered_iff {start stop side extent : ℚ} {target : ℤ} (hextent : 0 < extent)
    (h : stop - start = side * target / extent - 1) : start ≤ stop ↔ extent ≤ side * target := by
  rw [← sub_nonneg, h, sub_nonneg, one_le_div hextent]

lemma judged_rectangle {viewBox : ViewBox ℚ} (hw : 0 < viewBox.width) (hh : 0 < viewBox.height)
    (width height : ℤ) (x y w h : ℚ) : RectangleJudged viewBox width height
      ((Projection.onto viewBox width height).bounds x y (x + w) (y + h)).inner (w, h) := by
  have hwide := scaled_side hw.ne' x w viewBox.x width
  have hhigh := scaled_side hh.ne' y h viewBox.y height
  exact {
    wide := hwide
    high := hhigh
    ordered := and_congr (edges_ordered_iff hw hwide) (edges_ordered_iff hh hhigh)
    taken := Bounds.fault?_eq_none }

/-- Every rectangle of a document is drawn, and its bounds are in order exactly if it is at least
one pixel of the target wide and high. -/
theorem rectangles_judged {d : Document ℚ} (hw : 0 < d.viewBox.width) (hh : 0 < d.viewBox.height)
    (width height : ℤ) : ∃ marks, (d.draw width height).run = (.ok (), marks) ∧
      List.Forall₂ (RectangleJudged d.viewBox width height) (marks.filterMap Mark.rectangle?)
        (d.shapes.filterMap Shape.sides?) := by
  refine ⟨_, run_draw d width height, ?_⟩
  rw [List.filterMap_filterMap]
  refine List.rel_filterMap ?_ (List.forall₂_same.mpr fun _ _ => rfl)
  rintro s _ rfl
  dsimp only
  rw [rectangle_markOf]
  cases s with
  | rect x y w h style => exact .some (judged_rectangle hw hh width height x y w h)
  | _ => exact .none

/-- A background with a dot on it. -/
def dotted : Document ℚ where
  width := 20
  height := 10
  viewBox := { x := 0, y := 0, width := 20, height := 10 }
  shapes := [.rect 0 0 20 10 ⟨some .black, none, 0⟩, .rect 4 4 1 1 ⟨some .black, none, 0⟩]

/-- At half its size the background is drawn and the dot is not. -/
theorem dotted_judged : (0 < dotted.viewBox.width ∧ 0 < dotted.viewBox.height) ∧
    ∃ marks background dot, (dotted.draw 10 5).run = (.ok (), marks) ∧
      marks.filterMap Mark.rectangle? = [background, dot] ∧
      background.fault? = none ∧ dot.fault? ≠ none := by
  have hw : 0 < dotted.viewBox.width := by norm_num [dotted]
  have hh : 0 < dotted.viewBox.height := by norm_num [dotted]
  obtain ⟨marks, hrun, hall⟩ := rectangles_judged hw hh 10 5
  obtain ⟨background, dots, hbackground, hdots, hmarks⟩ := List.forall₂_cons_right_iff.mp hall
  obtain ⟨dot, _, hdot, hnone, rfl⟩ := List.forall₂_cons_right_iff.mp hdots
  obtain rfl := List.forall₂_nil_right_iff.mp hnone
  refine ⟨⟨hw, hh⟩, marks, background, dot, hrun, hmarks, ?_, ?_⟩
  · rw [hbackground.taken, hbackground.ordered]
    norm_num [dotted]
  · rw [Ne, hdot.taken, hdot.ordered]
    norm_num [dotted]

/-- A document with a rectangle of half its size. -/
def fleck : Document ℚ where
  width := 2
  height := 2
  viewBox := { x := 0, y := 0, width := 2, height := 2 }
  shapes := [.rect 0 0 1 1 ⟨some .black, none, 0⟩]

/-- The same document as it is read. -/
def fleckElement : Xml.Element :=
  .node ⟨"", "svg"⟩ [(⟨"", "viewBox"⟩, "0 0 2 2")]
    [.node ⟨"", "rect"⟩ [(⟨"", "width"⟩, "1"), (⟨"", "height"⟩, "1")] []]

/-- On a single pixel the rectangle is less than a pixel wide, and is refused. -/
theorem fleck_refused :
    (0 < fleck.viewBox.width ∧ 0 < fleck.viewBox.height ∧
      fleck.shapes.filterMap Shape.sides? = [(1, 1)]) ∧
    (fleck.draw 1 1).run = (.ok (), [.rectangle ⟨0, 0, -1 / 2, -1 / 2⟩ (some .black) none 0]) ∧
    ¬ (0 : ℚ) ≤ -1 / 2 ∧
    (Document.ofElement fleckElement).bind (·.rasterize 1 1) = .error .rectangleRight := by
  refine ⟨⟨by norm_num [fleck], by norm_num [fleck], rfl⟩, ?_, by norm_num, ?_⟩
  · rw [run_draw]
    with_unfolding_all rfl
  · with_unfolding_all rfl

end Proofs

end CardDrawing
