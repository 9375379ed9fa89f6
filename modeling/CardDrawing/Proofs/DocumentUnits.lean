import CardDrawing.Proofs.DocumentMarks

/-!
# Units of vector documents

A document can be written in other units, with its origin in another place. In exact ratios this
does not show in what is drawn: every point is seen from the corner of the view box, and every
length is drawn as a share of it.
-/

namespace CardDrawing

namespace Svg

/-- Other units: lengths are multiplied, and places are moved besides. -/
structure Units where
  factor : ℚ
  shiftX : ℚ
  shiftY : ℚ

namespace Units

variable (u : Units)

def length (a : ℚ) : ℚ := u.factor * a

def across (x : ℚ) : ℚ := u.factor * x + u.shiftX

def down (y : ℚ) : ℚ := u.factor * y + u.shiftY

def style (s : Style ℚ) : Style ℚ := { s with strokeWidth := u.length s.strokeWidth }

def shape : Shape ℚ → Shape ℚ
  | .rect x y width height s =>
    .rect (u.across x) (u.down y) (u.length width) (u.length height) (u.style s)
  | .ellipse cx cy rx ry s =>
    .ellipse (u.across cx) (u.down cy) (u.length rx) (u.length ry) (u.style s)
  | .line x1 y1 x2 y2 s => .line (u.across x1) (u.down y1) (u.across x2) (u.down y2) (u.style s)
  | .polygon points closed s =>
    .polygon (points.map fun q => (u.across q.1, u.down q.2)) closed (u.style s)

def viewBox (b : ViewBox ℚ) : ViewBox ℚ where
  x := u.across b.x
  y := u.down b.y
  width := u.length b.width
  height := u.length b.height

/-- A document in other units. -/
def document (d : Document ℚ) : Document ℚ where
  width := u.length d.width
  height := u.length d.height
  viewBox := u.viewBox d.viewBox
  shapes := d.shapes.map u.shape

lemma across_add (x a : ℚ) : u.across x + u.length a = u.across (x + a) := by
  unfold across length
  ring

lemma across_sub (x a : ℚ) : u.across x - u.length a = u.across (x - a) := by
  unfold across length
  ring

lemma down_add (y a : ℚ) : u.down y + u.length a = u.down (y + a) := by
  unfold down length
  ring

lemma down_sub (y a : ℚ) : u.down y - u.length a = u.down (y - a) := by
  unfold down length
  ring

lemma style_shape (s : Shape ℚ) : (u.shape s).style = u.style s.style := by
  cases s <;> rfl

end Units

end Svg

namespace Proofs
open Svg

section

variable {u : Units} {b : ViewBox ℚ} {side : ℚ} {width height : ℤ}

/-- Units that are larger make the target smaller. -/
lemma ratio_length (hk : u.factor ≠ 0) (hside : side ≠ 0) (target : ℤ) :
    ratio target (u.length side) = ratio target side / u.factor := by
  unfold Units.length
  rw [ratio_exact (mul_ne_zero hk hside), ratio_exact hside, div_div, mul_comm u.factor]

variable (hk : 0 < u.factor) (hw : b.width ≠ 0) (hh : b.height ≠ 0)
include hk hw hh

lemma point_inUnits (x y : ℚ) :
    (Projection.onto (u.viewBox b) width height).point (u.across x) (u.down y) =
      (Projection.onto b width height).point x y := by
  have hx := ratio_length hk.ne' hw width
  have hy := ratio_length hk.ne' hh height
  have hplace (q origin shift scale : ℚ) :
      (u.factor * q + shift - (u.factor * origin + shift)) * (scale / u.factor) =
        (q - origin) * scale := by
    field_simp [hk.ne']
    ring
  refine Prod.ext ?_ ?_
  · exact (congrArg _ hx).trans (hplace x b.x u.shiftX _)
  · exact (congrArg _ hy).trans (hplace y b.y u.shiftY _)

lemma bounds_inUnits (left top right bottom : ℚ) :
    (Projection.onto (u.viewBox b) width height).bounds (u.across left) (u.down top)
        (u.across right) (u.down bottom) =
      (Projection.onto b width height).bounds left top right bottom := by
  unfold Projection.bounds
  rw [point_inUnits hk hw hh, point_inUnits hk hw hh]

lemma strokeWidth_inUnits (s : Style ℚ) :
    (Projection.onto (u.viewBox b) width height).strokeWidth (u.style s) =
      (Projection.onto b width height).strokeWidth s := by
  have hscale (target : ℤ) {side : ℚ} (hside : side ≠ 0) :
      |ratio target (u.length side)| = |ratio target side| / u.factor := by
    rw [ratio_length hk.ne' hside, abs_div, abs_of_pos hk]
  have hwidth : u.length s.strokeWidth *
      ((|ratio width (u.length b.width)| + |ratio height (u.length b.height)|) / 2) =
        s.strokeWidth * ((|ratio width b.width| + |ratio height b.height|) / 2) := by
    rw [hscale width hw, hscale height hh, Units.length]
    field_simp [hk.ne']
  cases s with
  | mk fill stroke strokeWidth =>
    cases stroke with
    | none => rfl
    | some color => exact congrArg (fun a => (Coordinate.round a).map (max 1)) hwidth

lemma mark?_inUnits (pixels : ℤ) (s : Shape ℚ) :
    (u.shape s).mark? (Projection.onto (u.viewBox b) width height) pixels =
      s.mark? (Projection.onto b width height) pixels := by
  cases s with
  | rect x y w h style =>
    simp only [Units.shape, Shape.mark?, Units.across_add, Units.down_add,
      bounds_inUnits hk hw hh, Units.style]
  | ellipse cx cy rx ry style =>
    simp only [Units.shape, Shape.mark?, Units.across_add, Units.down_add, Units.across_sub,
      Units.down_sub, bounds_inUnits hk hw hh, Units.style]
  | line x1 y1 x2 y2 style =>
    simp only [Units.shape, Shape.mark?, point_inUnits hk hw hh, Units.style]
  | polygon points closed style =>
    cases closed <;> simp only [Units.shape, Shape.mark?, List.map_map, Function.comp_def,
      point_inUnits hk hw hh, Units.style]

lemma draw_inUnits (s : Shape ℚ) :
    (u.shape s).draw (Projection.onto (u.viewBox b) width height) =
      s.draw (Projection.onto b width height) := by
  unfold Shape.draw
  rw [Units.style_shape, strokeWidth_inUnits hk hw hh]
  simp only [mark?_inUnits hk hw hh]

end

/-- In whatever units a document is written, it is drawn with the same marks. -/
theorem drawing_unit_free {d : Document ℚ} (hw : d.viewBox.width ≠ 0) (hh : d.viewBox.height ≠ 0)
    {u : Units} (hk : 0 < u.factor) (width height : ℤ) :
    (u.document d).draw width height = d.draw width height ∧
      ∃ marks, (d.draw width height).run = (.ok (), marks) := by
  refine ⟨?_, _, run_draw d width height⟩
  unfold Document.draw
  change (d.shapes.map u.shape).forM (Shape.draw (.onto (u.viewBox d.viewBox) width height)) = _
  rw [List.forM_eq_forM, List.forM_map]
  simp only [draw_inUnits hk hw hh]

/-- One shape of each kind, around a place that is not the origin. -/
def pennant : Document ℚ where
  width := 4
  height := 4
  viewBox := { x := 1, y := 2, width := 4, height := 4 }
  shapes := [
    .rect 1 2 2 2 ⟨some .black, none, 0⟩,
    .ellipse 3 4 1 2 ⟨none, some .black, 1⟩,
    .line 1 2 5 6 ⟨none, some .black, 1⟩,
    .polygon [(1, 2), (5, 2), (3, 6)] true ⟨some .black, none, 1⟩]

theorem pennant_in_thirds :
    (pennant.viewBox.width ≠ 0 ∧ pennant.viewBox.height ≠ 0) ∧ (0 : ℚ) < 3 ∧
    ((Units.document ⟨3, 5, -2⟩ pennant).draw 8 8).run = (.ok (), [
      .rectangle ⟨0, 0, 3, 3⟩ (some .black) none 0,
      .ellipse ⟨2, 0, 6, 8⟩ none (some .black) 2,
      .line [(0, 0), (8, 8)] .black 2,
      .polygon [(0, 0), (8, 0), (4, 8)] (some .black) none 0]) := by
  have hw : pennant.viewBox.width ≠ 0 := by norm_num [pennant]
  have hh : pennant.viewBox.height ≠ 0 := by norm_num [pennant]
  have hk : (0 : ℚ) < (⟨3, 5, -2⟩ : Units).factor := by norm_num
  refine ⟨⟨hw, hh⟩, by norm_num, ?_⟩
  rw [(drawing_unit_free hw hh hk 8 8).1, run_draw]
  with_unfolding_all rfl

end Proofs

end CardDrawing
