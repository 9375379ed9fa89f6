import CardDrawing.Paint.Plan
import CardDrawing.Proofs.ExactNumbers
import CardDrawing.Proofs.SurfaceClipping
import CardDrawing.Proofs.ThinLines

/-!
# Masks of strokes

In exact ratios, the mask of a line has room for its whole stroke. Its corners are cut toward zero,
which moves negative ones inward by less than a pixel; they are moved outward by one pixel more than
the stroke is wide.
-/

namespace CardDrawing

/-- The ends and the width of a line are finite. -/
structure LinePrimitive.IsFinite (p : LinePrimitive) : Prop where
  startX : p.startX.IsFinite
  startY : p.startY.IsFinite
  endX : p.endX.IsFinite
  endY : p.endY.IsFinite
  width : p.width.IsFinite

namespace Stroke

variable (s : Stroke)

/-- Where the mask lies on the surface. -/
def corner : ℚ × ℚ := (s.left, s.top)

/-- A point of the mask is farther from its left and top edges, and from its last column and row,
than the stroke is wide. -/
structure Clears (p : ℚ × ℚ) : Prop where
  left : s.width < p.1
  top : s.width < p.2
  right : s.width < s.columns - 1 - p.1
  bottom : s.width < s.rows - 1 - p.2

/-- A point lies between the edges of the mask and its last column and row. -/
structure Holds (p : ℚ × ℚ) : Prop where
  left : 0 < p.1
  top : 0 < p.2
  right : p.1 < s.columns - 1
  bottom : p.2 < s.rows - 1

/-- A pixel is one of the mask. -/
structure HasPixel (p : Canvas.Point) : Prop where
  left : 0 ≤ p.1
  top : 0 ≤ p.2
  right : p.1 < s.columns
  bottom : p.2 < s.rows

/-- The points that a stroke of some thickness covers: those that are at most half of it away from
the segment between its ends. -/
def ink (first last : ℚ × ℚ) (thickness : ℚ) : Set (ℚ × ℚ) :=
  {p | ∃ c ∈ segment ℚ first last, (p.1 - c.1) ^ 2 + (p.2 - c.2) ^ 2 ≤ (thickness / 2) ^ 2}

variable {s}

/-- What is no farther from a point than the width lies in a mask that clears the point. -/
lemma Clears.holds {c p : ℚ × ℚ} (hc : s.Clears c) (hx : |p.1 - c.1| ≤ s.width)
    (hy : |p.2 - c.2| ≤ s.width) : s.Holds p := by
  obtain ⟨hleft, htop, hright, hbottom⟩ := hc
  obtain ⟨hx, hx'⟩ := abs_le.mp hx
  obtain ⟨hy, hy'⟩ := abs_le.mp hy
  constructor <;> linarith

end Stroke

namespace Proofs
open Stroke

/-! ## The sides of a mask -/

/-- A side of a mask leaves more than a width free beyond all that lies between two ends. -/
lemma side_clears {a b c : ℚ} (hc : c ∈ Set.uIcc a b) (width : ℤ) :
    ((wholePart (min a b) - (width + 1) : ℤ) : ℚ) + width < c ∧
      c + width < (wholePart (max a b) + (width + 1) : ℤ) := by
  obtain ⟨hmin, hmax⟩ := hc
  -- only an inward cut matters, and it is less than the pixel that the width is exceeded by
  obtain ⟨-, hup⟩ := wholePart_bounds (min a b)
  obtain ⟨hdown, -⟩ := wholePart_bounds (max a b)
  push_cast
  constructor <;> linarith

/-- The edges of a mask are cut from the least and greatest coordinates of two points. -/
structure CutFrom (start stop : ℚ × ℚ) (s : Stroke) : Prop where
  left : s.left = wholePart (min start.1 stop.1) - (s.width + 1)
  top : s.top = wholePart (min start.2 stop.2) - (s.width + 1)
  right : s.right = wholePart (max start.1 stop.1) + (s.width + 1)
  bottom : s.bottom = wholePart (max start.2 stop.2) + (s.width + 1)

lemma least_eq_min (a b : ℚ) : Scalar.least a b = min a b := by
  rw [min_comm, min_def_lt]
  simp [Scalar.least, Scalar.lt]

lemma greatest_eq_max (a b : ℚ) : Scalar.greatest a b = max a b := by
  rw [max_def_lt]
  simp [Scalar.greatest, Scalar.lt]

lemma exists_cover (start stop : ℚ × ℚ) (width : ℚ) : ∃ n s, RoundsTo width n ∧
    Stroke.cover start.1 start.2 stop.1 stop.2 width = .ok s ∧ s.width = max 1 n ∧
    CutFrom start stop s := by
  refine ⟨_, _, roundsTo_roundRatio width, rfl, rfl, ?_⟩
  simp only [least_eq_min, greatest_eq_max]
  exact ⟨rfl, rfl, rfl, rfl⟩

section

variable {s : Stroke} {start stop first last p q : ℚ × ℚ}

/-! ## Points of a mask -/

lemma width_nonneg (hwidth : 1 ≤ s.width) : (0 : ℚ) ≤ s.width := by
  have hwidth' : 0 ≤ s.width := by omega
  exact_mod_cast hwidth'

/-- The corner of a mask is what its points are seen from. -/
lemma inside_exact : s.inside p.1 p.2 = .ok q ↔ s.corner + q = p := by
  have hinside : s.inside p.1 p.2 = .ok (p - s.corner) := rfl
  rw [hinside, Except.ok.injEq, sub_eq_iff_eq_add', eq_comm]

/-- Over a pixel of the surface lies the pixel of the mask that it is seen as. -/
lemma liesOver_iff_inside {mask : Raster UInt8} {i j : ℕ} {cell : UInt8} :
    LiesOver mask s.left s.top i j cell ↔ ∃ column row : ℕ,
      s.inside (i : ℚ) (j : ℚ) = .ok ((column : ℚ), (row : ℚ)) ∧
        mask.get? column row = some cell := by
  have hseen (column row : ℕ) : s.inside (i : ℚ) (j : ℚ) = .ok ((column : ℚ), (row : ℚ)) ↔
      (i : ℤ) = s.left + column ∧ (j : ℤ) = s.top + row := by
    rw [inside_exact (p := ((i : ℚ), (j : ℚ))), Stroke.corner, Prod.mk_add_mk, Prod.mk.injEq,
      eq_comm, eq_comm (b := (j : ℚ))]
    exact_mod_cast Iff.rfl
  simp only [LiesOver, hseen, and_assoc]

lemma last_column (s : Stroke) : (s.columns : ℚ) - 1 = s.right - s.left := by
  rw [Stroke.columns]
  push_cast
  ring

lemma last_row (s : Stroke) : (s.rows : ℚ) - 1 = s.bottom - s.top := by
  rw [Stroke.rows]
  push_cast
  ring

/-- Cut from the ends of a segment, a mask leaves more than the width free around it. -/
lemma CutFrom.clears (hs : CutFrom (s.corner + first) (s.corner + last) s)
    (hp : p ∈ segment ℚ first last) : s.Clears p := by
  rw [← mem_segment_translate ℚ s.corner] at hp
  obtain ⟨hx, hy⟩ := Prod.segment_subset _ _ hp
  rw [segment_eq_uIcc] at hx hy
  obtain ⟨hleft, hright⟩ := side_clears hx s.width
  obtain ⟨htop, hbottom⟩ := side_clears hy s.width
  rw [← hs.left, Prod.fst_add, Stroke.corner] at hleft
  rw [← hs.right, Prod.fst_add, Stroke.corner] at hright
  rw [← hs.top, Prod.snd_add, Stroke.corner] at htop
  rw [← hs.bottom, Prod.snd_add, Stroke.corner] at hbottom
  refine ⟨by linarith, by linarith, ?_, ?_⟩
  · rw [last_column]
    linarith
  · rw [last_row]
    linarith

/-- The ink of a stroke is at most half its width away from the segment in both directions. -/
lemma exists_near_of_mem_ink {width : ℚ} (hwidth : 0 ≤ width)
    (hp : p ∈ Stroke.ink first last width) :
    ∃ c ∈ segment ℚ first last, |p.1 - c.1| ≤ width / 2 ∧ |p.2 - c.2| ≤ width / 2 := by
  obtain ⟨c, hc, hdistance⟩ := hp
  have hhalf : 0 ≤ width / 2 := by positivity
  refine ⟨c, hc, ?_, ?_⟩
  · refine abs_le_of_sq_le_sq ?_ hhalf
    linarith [sq_nonneg (p.2 - c.2)]
  · refine abs_le_of_sq_le_sq ?_ hhalf
    linarith [sq_nonneg (p.1 - c.1)]

lemma CutFrom.holds (hs : CutFrom (s.corner + first) (s.corner + last) s) (hwidth : 1 ≤ s.width)
    (hp : p ∈ Stroke.ink first last s.width) : s.Holds p := by
  have hnonneg := width_nonneg hwidth
  obtain ⟨c, hc, hx, hy⟩ := exists_near_of_mem_ink hnonneg hp
  exact (hs.clears hc).holds (by linarith) (by linarith)

/-! ## Pixels of a mask -/

/-- The pixel that a point of a mask is cut to. -/
def pixelOf (p : ℚ × ℚ) : Canvas.Point := (wholePart p.1, wholePart p.2)

lemma hasPixel_of_holds (hp : s.Holds p) : s.HasPixel (pixelOf p) := by
  obtain ⟨hleft, htop, hright, hbottom⟩ := hp
  obtain ⟨hx, hx'⟩ := wholePart_bounds p.1
  obtain ⟨hy, hy'⟩ := wholePart_bounds p.2
  have hleft' : (-1 : ℚ) < wholePart p.1 := by linarith
  have htop' : (-1 : ℚ) < wholePart p.2 := by linarith
  have hright' : (wholePart p.1 : ℚ) < s.columns := by linarith
  have hbottom' : (wholePart p.2 : ℚ) < s.rows := by linarith
  exact ⟨by exact_mod_cast hleft', by exact_mod_cast htop', by exact_mod_cast hright',
    by exact_mod_cast hbottom'⟩

lemma hasPixel_of_inBox {a b p : Canvas.Point} (ha : s.HasPixel a) (hb : s.HasPixel b)
    (hp : Canvas.InBox a b p) : s.HasPixel p := by
  obtain ⟨hx, hy⟩ := hp
  rw [Set.mem_uIcc] at hx hy
  obtain ⟨hleft, htop, hright, hbottom⟩ := ha
  obtain ⟨hleft', htop', hright', hbottom'⟩ := hb
  constructor <;> omega

/-! ## Masks that enclose strokes -/

/-- A mask encloses a stroke between two of its points: it clears both ends, and nothing of the
stroke lies beyond its edges, whether it is drawn as an area or as a thin line. -/
structure Encloses (s : Stroke) (first last : ℚ × ℚ) : Prop where
  ends : s.Clears first ∧ s.Clears last
  ink : ∀ p ∈ Stroke.ink first last s.width, s.Holds p
  pixels : ∀ p ∈ Canvas.thinPath [pixelOf first, pixelOf last], s.HasPixel p

lemma CutFrom.encloses (hs : CutFrom (s.corner + first) (s.corner + last) s)
    (hwidth : 1 ≤ s.width) : Encloses s first last := by
  have hfirst := hs.clears (left_mem_segment ℚ first last)
  have hlast := hs.clears (right_mem_segment ℚ first last)
  have hzero (c : ℚ) : |c - c| ≤ s.width := by
    rw [sub_self, abs_zero]
    exact width_nonneg hwidth
  have hpixel := hasPixel_of_holds (hfirst.holds (hzero _) (hzero _))
  have hpixel' := hasPixel_of_holds (hlast.holds (hzero _) (hzero _))
  exact {
    ends := ⟨hfirst, hlast⟩
    ink := fun p hp => hs.holds hwidth hp
    pixels := fun p hp => hasPixel_of_inBox hpixel hpixel' (inBox_of_mem_thinPath hp) }

/-- The mask of a line from `start` to `stop`. -/
structure Unclipped (start stop : ℚ × ℚ) (width : ℚ) (s : Stroke) : Prop where
  width : ∃ n, RoundsTo width n ∧ s.width = max 1 n
  size : 0 < s.columns ∧ 0 < s.rows
  placed : ∀ p q : ℚ × ℚ, s.inside p.1 p.2 = .ok q ↔ s.corner + q = p
  laid : ∀ (mask : Raster UInt8) (i j : ℕ) (cell : UInt8),
    LiesOver mask s.left s.top i j cell ↔ ∃ column row : ℕ,
      s.inside (i : ℚ) (j : ℚ) = .ok ((column : ℚ), (row : ℚ)) ∧ mask.get? column row = some cell
  enclosed : ∃ first last, s.inside start.1 start.2 = .ok first ∧
    s.inside stop.1 stop.2 = .ok last ∧ Encloses s first last

lemma exists_unclipped (start stop : ℚ × ℚ) (width : ℚ) : ∃ s,
    Stroke.cover start.1 start.2 stop.1 stop.2 width = .ok s ∧ Unclipped start stop width s := by
  obtain ⟨n, s, hn, hs, hwidth, hcut⟩ := exists_cover start stop width
  obtain ⟨first, rfl⟩ : ∃ first, s.corner + first = start := ⟨_, add_sub_cancel _ _⟩
  obtain ⟨last, rfl⟩ : ∃ last, s.corner + last = stop := ⟨_, add_sub_cancel _ _⟩
  have hone : 1 ≤ s.width := hwidth ▸ le_max_left 1 n
  have hencloses := hcut.encloses hone
  refine ⟨s, hs, ⟨n, hn, hwidth⟩, ?_, fun _ _ => inside_exact, fun _ _ _ _ => liesOver_iff_inside,
    first, last, inside_exact.mpr rfl, inside_exact.mpr rfl, hencloses⟩
  obtain ⟨hleft, htop, hright, hbottom⟩ := hencloses.ends.1
  have hnonneg := width_nonneg hone
  have hcolumns : (0 : ℚ) < s.columns := by linarith
  have hrows : (0 : ℚ) < s.rows := by linarith
  exact ⟨by exact_mod_cast hcolumns, by exact_mod_cast hrows⟩

end

/-! ## Lines that are painted -/

section

variable {p : LinePrimitive} {start stop : ℚ × ℚ} {width : ℚ} {s : Stroke}

/-- The exact values of the numbers that the mask of a line depends on. -/
structure LineReads (p : LinePrimitive) (start stop : ℚ × ℚ) (width : ℚ) : Prop where
  startX : exactValue? p.startX = some start.1
  startY : exactValue? p.startY = some start.2
  endX : exactValue? p.endX = some stop.1
  endY : exactValue? p.endY = some stop.2
  width : exactValue? p.width = some width

lemma exists_lineReads (hp : p.IsFinite) : ∃ start stop width, LineReads p start stop width := by
  obtain ⟨hstartX, hstartY, hendX, hendY, hwidth⟩ := hp
  obtain ⟨startX, hstartX⟩ := exists_exactValue? hstartX
  obtain ⟨startY, hstartY⟩ := exists_exactValue? hstartY
  obtain ⟨endX, hendX⟩ := exists_exactValue? hendX
  obtain ⟨endY, hendY⟩ := exists_exactValue? hendY
  obtain ⟨width, hwidth⟩ := exists_exactValue? hwidth
  exact ⟨(startX, startY), (endX, endY), width, hstartX, hstartY, hendX, hendY, hwidth⟩

/-- The mask of a line is cut without any error, although its numbers may be floating. -/
lemma LineReads.cover (h : LineReads p start stop width) :
    Stroke.cover p.startX p.startY p.endX p.endY p.width =
      Stroke.cover start.1 start.2 stop.1 stop.2 width := by
  unfold Stroke.cover
  rw [round_exact h.width, truncate_exact (least_exact h.startX h.endX),
    truncate_exact (least_exact h.startY h.endY), truncate_exact (greatest_exact h.startX h.endX),
    truncate_exact (greatest_exact h.startY h.endY)]

/-- A call that paints a line works with its mask. -/
def Serves (p : LinePrimitive) (s : Stroke) : Call → Prop
  | .openMask columns rows => columns = s.columns ∧ rows = s.rows
  | .maskLine first last width => s.inside p.startX p.startY = .ok first ∧
    s.inside p.endX p.endY = .ok last ∧ width = s.width
  | .blendMask columns rows x y _ =>
    columns = s.columns ∧ rows = s.rows ∧ x = s.left ∧ y = s.top
  | _ => False

/-- A line is planned with a mask: it is opened first, and all else is done with it. -/
structure Planned (p : LinePrimitive) (s : Stroke) : Prop where
  opened : (Plan.line p).run.2.head? = some (.openMask s.columns s.rows)
  calls : ∀ call ∈ (Plan.line p).run.2, Serves p s call

lemma leaves_line (h : Stroke.cover p.startX p.startY p.endX p.endY p.width = .ok s) :
    Leaves (Serves p s) (Plan.line p) := by
  refine .lift fun s' hs' => ?_
  obtain rfl := Except.ok.inj (h.symm.trans hs')
  refine .bind (.record ⟨rfl, rfl⟩) fun _ _ => .lift fun first hfirst => .lift fun last hlast => ?_
  refine .bind (.record ⟨hfirst, hlast, rfl⟩) fun _ _ => ?_
  exact .lift fun color _ => .record ⟨rfl, rfl, rfl, rfl⟩

/-- A record that is made first stays first. -/
lemma head?_record {κ β : Type} {event : κ} {f : Unit → Trace κ β} (hf : Additive (f ())) :
    (Trace.record event >>= f).run.2.head? = some event := by
  obtain ⟨hadd, hrun⟩ := run_record event
  rw [(run_bind_ok hadd (congrArg Prod.fst hrun) hf).2, hrun]
  rfl

lemma opened_line (h : Stroke.cover p.startX p.startY p.endX p.endY p.width = .ok s) :
    (Plan.line p).run.2.head? = some (.openMask s.columns s.rows) := by
  have hpure : (Trace.lift (.ok s) : Plan Stroke) = pure s := rfl
  rw [Plan.line, h, hpure, pure_bind]
  refine head?_record (Leaves.additive (P := fun _ => True) ?_)
  refine .lift fun first _ => .lift fun last _ => .bind (.record trivial) fun _ _ => ?_
  exact .lift fun color _ => .record trivial

end

/-- The mask of a line never clips its stroke. In exact ratios it has columns and rows, clears both
ends by more than the width, holds all of the stroke, and gives every point back when it is laid at
its corner. A line of finite numbers has the mask that its exact values have: it is opened first,
drawn on and laid at its corner. -/
theorem strokes_unclipped :
    (∀ (start stop : ℚ × ℚ) (width : ℚ), ∃ s,
      Stroke.cover start.1 start.2 stop.1 stop.2 width = .ok s ∧ Unclipped start stop width s) ∧
    ∀ p : LinePrimitive, p.IsFinite → ∃ start stop width s, LineReads p start stop width ∧
      Stroke.cover p.startX p.startY p.endX p.endY p.width = .ok s ∧
      Unclipped start stop width s ∧ Planned p s := by
  refine ⟨exists_unclipped, fun p hp => ?_⟩
  obtain ⟨start, stop, width, hreads⟩ := exists_lineReads hp
  obtain ⟨s, hs, hunclipped⟩ := exists_unclipped start stop width
  have hcover := hreads.cover.trans hs
  exact ⟨start, stop, width, s, hreads, hcover, hunclipped, opened_line hcover,
    (leaves_line hcover).records⟩

/-- A line that begins on the left of the surface and ends above it. -/
def slanted : LinePrimitive where
  startX := .real (-0.5)
  startY := .int 7
  endX := .real 2.25
  endY := .real (-3.75)
  width := .real 2.5
  color := .text "black"

/-- Its left edge is cut from -0.5 to 0 and its top edge from -3.75 to -3, both inward, and each is
moved outward by three pixels. -/
theorem slanted_unclipped : slanted.IsFinite ∧ Planned slanted ⟨2, -3, -6, 5, 10⟩ ∧
    Encloses ⟨2, -3, -6, 5, 10⟩ (5 / 2, 13) (21 / 4, 9 / 4) := by
  have hfinite : slanted.IsFinite := by
    constructor <;> decide +kernel
  obtain ⟨-, hplanned⟩ := strokes_unclipped
  obtain ⟨⟨startX, startY⟩, ⟨endX, endY⟩, width, s, hreads, hs, hunclipped, hplan⟩ :=
    hplanned slanted hfinite
  rw [hreads.cover] at hs
  obtain ⟨hstartX, hstartY, hendX, hendY, hwidth⟩ := hreads
  have hstartX' : exactValue? slanted.startX = some (-1 / 2) := by decide +kernel
  have hstartY' : exactValue? slanted.startY = some 7 := rfl
  have hendX' : exactValue? slanted.endX = some (9 / 4) := by decide +kernel
  have hendY' : exactValue? slanted.endY = some (-15 / 4) := by decide +kernel
  have hwidth' : exactValue? slanted.width = some (5 / 2) := by decide +kernel
  obtain rfl := Option.some.inj (hstartX'.symm.trans hstartX)
  obtain rfl := Option.some.inj (hstartY'.symm.trans hstartY)
  obtain rfl := Option.some.inj (hendX'.symm.trans hendX)
  obtain rfl := Option.some.inj (hendY'.symm.trans hendY)
  obtain rfl := Option.some.inj (hwidth'.symm.trans hwidth)
  have hmask : Stroke.cover (-1 / 2 : ℚ) 7 (9 / 4) (-15 / 4) (5 / 2) =
      .ok ⟨2, -3, -6, 5, 10⟩ := by
    with_unfolding_all rfl
  obtain rfl := Except.ok.inj (hmask.symm.trans hs)
  obtain ⟨first, last, hfirst, hlast, hencloses⟩ := hunclipped.enclosed
  have hfirst' : first = (5 / 2, 13) := by
    rw [hunclipped.placed, ← eq_sub_iff_add_eq'] at hfirst
    rw [hfirst]
    norm_num [Stroke.corner]
  have hlast' : last = (21 / 4, 9 / 4) := by
    rw [hunclipped.placed, ← eq_sub_iff_add_eq'] at hlast
    rw [hlast]
    norm_num [Stroke.corner]
  rw [hfirst', hlast'] at hencloses
  exact ⟨hfinite, hplan, hencloses⟩

end Proofs

end CardDrawing
