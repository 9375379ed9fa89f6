import CardDrawing.Paint.Crop
import CardDrawing.Proofs.ExactArithmetic

/-!
# The geometry of crops

The part of a picture that covers a target, in exact ratios. With `min` in place of the two cases
for wide and for tall pictures it has one form, from which its laws follow.
-/

namespace CardDrawing

namespace Crop

variable (c : Crop ℚ)

def width : ℚ := c.right - c.left

def height : ℚ := c.bottom - c.top

/-- The same part of a picture that is `k` times as large. -/
def times (k : ℚ) : Crop ℚ := ⟨k * c.left, k * c.top, k * c.right, k * c.bottom⟩

def moved (x y : ℚ) : Crop ℚ := ⟨c.left + x, c.top + y, c.right + x, c.bottom + y⟩

/-- The edges lie within a picture. -/
structure Within (imageW imageH : ℚ) : Prop where
  left : 0 ≤ c.left
  right : c.right ≤ imageW
  top : 0 ≤ c.top
  bottom : c.bottom ≤ imageH

/-- The edges have something between them. -/
def Nonempty : Prop := c.left < c.right ∧ c.top < c.bottom

/-- The shape of a target. -/
def HasShape (targetW targetH : ℚ) : Prop := c.width * targetH = c.height * targetW

end Crop

namespace Proofs
open Crop

/-! ## The steps of a crop -/

section

variable {W H r : ℚ} {zoom pan : Option ℚ}

lemma given?_cases (adjustment : Option ℚ) :
    (given? adjustment = none ∧ adjustment.getD 0 = 0) ∨
      given? adjustment = some (adjustment.getD 0) := by
  cases adjustment with
  | none => exact .inl ⟨rfl, rfl⟩
  | some q =>
    by_cases hq : q = 0
    · exact .inl ⟨by simp [given?, hq], hq⟩
    · exact .inr (by simp [given?, hq])

/-- The largest centered part of a picture whose width is `r` times its height. -/
def middle (W H r : ℚ) : Window ℚ where
  x := (W - min W (r * H)) / 2
  y := (H - min W (r * H) / r) / 2
  width := min W (r * H)
  height := min W (r * H) / r

lemma centered_exact (hH : 0 < H) (hr : 0 < r) : centered W H r = .ok (middle W H r) := by
  have htwo : (2 : ℚ) ≠ 0 := two_ne_zero
  unfold centered middle
  by_cases h : W / H ≤ r
  · have hmin : min W (r * H) = W := min_eq_left ((div_le_iff₀ hH).mp h)
    simp [bind, Except.bind, pure, Except.pure, hH.ne', hr.ne', h, hmin]
  · have hlt : r * H < W := (lt_div_iff₀ hH).mp (not_le.mp h)
    have hmin : min W (r * H) = r * H := min_eq_right hlt.le
    simp [bind, Except.bind, pure, Except.pure, hH.ne', hr.ne', h, hmin]

/-- A window with a percentage of its width taken off its height. -/
def shrunk (r zoom : ℚ) (w : Window ℚ) : Window ℚ :=
  { w with
    width := r * (w.height - zoom * w.width / 100)
    height := w.height - zoom * w.width / 100 }

lemma zoomed_exact {w : Window ℚ} (hw : w.width = r * w.height) :
    zoomed r zoom w = .ok (shrunk r (zoom.getD 0) w) := by
  unfold zoomed
  rcases given?_cases zoom with ⟨hnone, hzero⟩ | hsome
  · have hsame : shrunk r 0 w = w := by
      obtain ⟨x, y, width, height⟩ := w
      simp only [shrunk, zero_mul, zero_div, sub_zero] at hw ⊢
      rw [hw]
    rw [hnone, hzero, hsame]
  · rw [hsome]
    simp [bind, Except.bind, pure, Except.pure, shrunk]

lemma panned_exact (start extent : ℚ) :
    panned start extent pan = .ok (start + pan.getD 0 * extent / 300) := by
  unfold panned
  rcases given?_cases pan with ⟨hnone, hzero⟩ | hsome
  · rw [hnone, hzero, zero_mul, zero_div, add_zero]
  · rw [hsome]
    simp [bind, Except.bind]

end

/-! ## The whole crop -/

/-- The part of a picture that a window shows. -/
def shownBy (w : Window ℚ) : Crop ℚ := ⟨w.x, w.y, w.x + w.width, w.y + w.height⟩

/-- The part of a picture that covers a target whose width is `r` times its height. -/
def coverBox (W H r zoom panX panY : ℚ) : Crop ℚ :=
  let w := shrunk r zoom (middle W H r)
  (shownBy w).moved (panX * w.width / 300) (panY * w.height / 300)

lemma cover_exact_eq {W H tw th : ℚ} (hH : 0 < H) (htw : 0 < tw) (hth : 0 < th)
    (zoom panX panY : Option ℚ) : Crop.cover W H tw th zoom panX panY =
      .ok (coverBox W H (tw / th) (zoom.getD 0) (panX.getD 0) (panY.getD 0)) := by
  have hr : 0 < tw / th := div_pos htw hth
  have hw : (middle W H (tw / th)).width = tw / th * (middle W H (tw / th)).height :=
    (mul_div_cancel₀ _ hr.ne').symm
  unfold Crop.cover
  rw [div_exact _ hth.ne']
  simp only [bind, Except.bind, pure, Except.pure]
  rw [centered_exact hH hr]
  simp only [zoomed_exact hw, panned_exact, add_exact]
  simp only [coverBox, shownBy, moved, add_right_comm]

section

variable {W H r z : ℚ}

/-! ## Laws of the crop -/

lemma width_coverBox (W H r z px py : ℚ) :
    (coverBox W H r z px py).width = r * (coverBox W H r z px py).height := by
  simp only [coverBox, shownBy, moved, shrunk, Crop.width, Crop.height]
  ring

/-- A crop that is moved is the one that is not, moved by three-hundredths of its extent. -/
lemma coverBox_panned (W H r z px py : ℚ) : coverBox W H r z px py =
    (coverBox W H r z 0 0).moved (px * (coverBox W H r z 0 0).width / 300)
      (py * (coverBox W H r z 0 0).height / 300) := by
  simp only [coverBox, shownBy, moved, Crop.width, Crop.height, zero_mul, zero_div, add_zero,
    add_sub_cancel_left]

lemma size_moved (c : Crop ℚ) (x y : ℚ) :
    (c.moved x y).width = c.width ∧ (c.moved x y).height = c.height :=
  ⟨add_sub_add_right_eq_sub _ _ _, add_sub_add_right_eq_sub _ _ _⟩

lemma coverBox_times {k : ℚ} (hk : 0 < k) (W H r z px py : ℚ) :
    coverBox (k * W) (k * H) r z px py = (coverBox W H r z px py).times k := by
  have hmin : min (k * W) (r * (k * H)) = k * min W (r * H) := by
    rw [mul_left_comm, ← mul_min_of_nonneg _ _ hk.le]
  simp only [coverBox, shownBy, moved, shrunk, middle, times, hmin, Crop.mk.injEq]
  refine ⟨?_, ?_, ?_, ?_⟩ <;> ring

/-! ## Crops that are not moved -/

/-- What a zoom leaves of a crop on each side. -/
def shareLeft (r z : ℚ) : ℚ := 1 - z * r / 100

lemma coverBox_still (hr : 0 < r) (W H z : ℚ) : coverBox W H r z 0 0 = {
    left := (W - min W (r * H)) / 2
    top := (H - min W (r * H) / r) / 2
    right := (W - min W (r * H)) / 2 + shareLeft r z * min W (r * H)
    bottom := (H - min W (r * H) / r) / 2 + shareLeft r z * (min W (r * H) / r) } := by
  have hheight : min W (r * H) / r - z * min W (r * H) / 100 =
      shareLeft r z * (min W (r * H) / r) := by
    rw [shareLeft]
    field_simp
  have hwidth : r * (shareLeft r z * (min W (r * H) / r)) = shareLeft r z * min W (r * H) := by
    field_simp
  simp only [coverBox, shownBy, moved, shrunk, middle, hheight, hwidth, zero_mul, zero_div,
    add_zero]

/-- Whatever the zoom, the crop begins where the largest part of the picture does. -/
lemma corner_still (W H r z : ℚ) : (coverBox W H r z 0 0).left = (middle W H r).x ∧
    (coverBox W H r z 0 0).top = (middle W H r).y := by
  simp only [coverBox, shownBy, moved, shrunk, zero_mul, zero_div, add_zero, and_self]

lemma size_still (hr : 0 < r) (W H z : ℚ) :
    (coverBox W H r z 0 0).width = shareLeft r z * min W (r * H) ∧
      (coverBox W H r z 0 0).height = shareLeft r z * (min W (r * H) / r) := by
  rw [coverBox_still hr]
  exact ⟨add_sub_cancel_left _ _, add_sub_cancel_left _ _⟩

lemma shareLeft_zero (r : ℚ) : shareLeft r 0 = 1 := by
  rw [shareLeft, zero_mul, zero_div, sub_zero]

variable (hW : 0 < W) (hH : 0 < H) (hr : 0 < r)

include hW hH hr

lemma extent_pos : 0 < min W (r * H) ∧ 0 < min W (r * H) / r := by
  have hpos : 0 < min W (r * H) := lt_min hW (mul_pos hr hH)
  exact ⟨hpos, div_pos hpos hr⟩

omit hW hH in
lemma extent_le (W H : ℚ) : min W (r * H) ≤ W ∧ min W (r * H) / r ≤ H :=
  ⟨min_le_left _ _, (div_le_iff₀' hr).mpr (min_le_right _ _)⟩

/-- A crop that is not moved lies within the picture unless it is zoomed out of. -/
lemma within_still (hz : 0 ≤ z) : (coverBox W H r z 0 0).Within W H := by
  obtain ⟨hwidth, hheight⟩ := extent_pos hW hH hr
  obtain ⟨hwidth', hheight'⟩ := extent_le hr W H
  have hshare : shareLeft r z ≤ 1 := by
    have hzoom : 0 ≤ z * r := mul_nonneg hz hr.le
    rw [shareLeft]
    linarith
  have hright := mul_le_of_le_one_left hwidth.le hshare
  have hbottom := mul_le_of_le_one_left hheight.le hshare
  rw [coverBox_still hr]
  constructor <;> dsimp only <;> linarith

/-- A crop has something in it as long as the zoom leaves a share of it. -/
lemma nonempty_still : (coverBox W H r z 0 0).Nonempty ↔ z * r < 100 := by
  obtain ⟨hwidth, hheight⟩ := extent_pos hW hH hr
  have hshare : 0 < shareLeft r z ↔ z * r < 100 := by
    rw [shareLeft, sub_pos, div_lt_one (by norm_num)]
  rw [coverBox_still hr, Crop.Nonempty, lt_add_iff_pos_right, lt_add_iff_pos_right,
    mul_pos_iff_of_pos_right hwidth, mul_pos_iff_of_pos_right hheight, and_self, hshare]

omit hW hH in
/-- A crop that is neither moved nor zoomed is the largest of its shape. -/
lemma le_still {c : Crop ℚ} (hc : c.Within W H) (hshape : c.width = r * c.height) :
    c.width ≤ (coverBox W H r 0 0 0).width ∧ c.height ≤ (coverBox W H r 0 0 0).height := by
  have hbox := width_coverBox W H r 0 0 0
  have hwidth : c.width ≤ (coverBox W H r 0 0 0).width := by
    have hcW : c.width ≤ W := by
      have hleft := hc.left
      have hright := hc.right
      rw [Crop.width]
      linarith
    have hcH : c.width ≤ r * H := by
      have htop := hc.top
      have hbottom := hc.bottom
      rw [hshape]
      refine mul_le_mul_of_nonneg_left ?_ hr.le
      rw [Crop.height]
      linarith
    rw [(size_still hr W H 0).1, shareLeft_zero, one_mul]
    exact le_min hcW hcH
  refine ⟨hwidth, ?_⟩
  rw [hshape, hbox] at hwidth
  exact le_of_mul_le_mul_left hwidth hr

omit hW hH in
/-- A crop that is neither moved nor zoomed is centered, and as wide or as high as the picture. -/
lemma centered_still (W H : ℚ) : (coverBox W H r 0 0 0).left = W - (coverBox W H r 0 0 0).right ∧
    (coverBox W H r 0 0 0).top = H - (coverBox W H r 0 0 0).bottom ∧
    ((coverBox W H r 0 0 0).width = W ∨ (coverBox W H r 0 0 0).height = H) := by
  obtain ⟨hwidth, hheight⟩ := size_still hr W H 0
  refine ⟨?_, ?_, ?_⟩
  · rw [coverBox_still hr, shareLeft_zero]
    ring
  · rw [coverBox_still hr, shareLeft_zero]
    ring
  · rw [hwidth, hheight, shareLeft_zero, one_mul, one_mul]
    rcases le_total W (r * H) with h | h
    · exact .inl (min_eq_left h)
    · exact .inr (by rw [min_eq_right h, mul_div_cancel_left₀ _ hr.ne'])

end

/-! ## The laws together -/

/-- The largest part of a picture that has the shape of a target. -/
structure Largest (imageW imageH targetW targetH : ℚ) (box : Crop ℚ) : Prop where
  within : box.Within imageW imageH
  centered : box.left = imageW - box.right ∧ box.top = imageH - box.bottom
  spans : box.width = imageW ∨ box.height = imageH
  largest : ∀ c : Crop ℚ, c.Within imageW imageH → c.HasShape targetW targetH →
    c.width ≤ box.width ∧ c.height ≤ box.height

/-- How the crop for a target depends on the picture, the target, the zoom and the pan. A zoom or a
pan of zero is as good as none. -/
structure CoverLaws (imageW imageH targetW targetH : ℚ) (zoom panX panY : Option ℚ)
    (box : Crop ℚ) : Prop where
  shape : box.HasShape targetW targetH
  ofRatio : ∀ w h, 0 < w → 0 < h → w / h = targetW / targetH →
    Crop.cover imageW imageH w h zoom panX panY = .ok box
  scaled : ∀ k, 0 < k →
    Crop.cover (k * imageW) (k * imageH) targetW targetH zoom panX panY = .ok (box.times k)
  panned : ∃ still, Crop.cover imageW imageH targetW targetH zoom none none = .ok still ∧
    box = still.moved (panX.getD 0 * still.width / 300) (panY.getD 0 * still.height / 300) ∧
    box.width = still.width ∧ box.height = still.height
  unzoomed : zoom.getD 0 = 0 → panX.getD 0 = 0 → panY.getD 0 = 0 →
    Largest imageW imageH targetW targetH box
  zoomed : 0 ≤ zoom.getD 0 → zoom.getD 0 * targetW < 100 * targetH → panX.getD 0 = 0 →
    panY.getD 0 = 0 → box.Nonempty ∧ box.Within imageW imageH ∧
      ∃ whole, Crop.cover imageW imageH targetW targetH none none none = .ok whole ∧
        box.left = whole.left ∧ box.top = whole.top

/-- A crop has the shape of its target and depends on nothing else of it, grows with the picture,
and is moved by the pan without changing its size. Without zoom and pan it is the largest part of the
picture with that shape; zoomed into, it keeps its corner and stays within the picture. -/
theorem cover_geometry {imageW imageH targetW targetH : ℚ} (hW : 0 < imageW) (hH : 0 < imageH)
    (htw : 0 < targetW) (hth : 0 < targetH) (zoom panX panY : Option ℚ) :
    ∃ box, Crop.cover imageW imageH targetW targetH zoom panX panY = .ok box ∧
      CoverLaws imageW imageH targetW targetH zoom panX panY box := by
  have hr : 0 < targetW / targetH := div_pos htw hth
  have hshape (c : Crop ℚ) :
      c.HasShape targetW targetH ↔ c.width = targetW / targetH * c.height := by
    rw [HasShape, div_mul_eq_mul_div, eq_div_iff hth.ne', mul_comm targetW]
  refine ⟨_, cover_exact_eq hH htw hth zoom panX panY, {
    shape := (hshape _).mpr (width_coverBox _ _ _ _ _ _)
    ofRatio := fun w h hw hh hratio => ?_
    scaled := fun k hk => ?_
    panned := ⟨_, cover_exact_eq hH htw hth zoom none none, coverBox_panned _ _ _ _ _ _, ?_⟩
    unzoomed := fun hzoom hpanX hpanY => ?_
    zoomed := fun hzoom hlt hpanX hpanY => ?_ }⟩
  · rw [cover_exact_eq hH hw hh, hratio]
  · rw [cover_exact_eq (mul_pos hk hH) htw hth, coverBox_times hk]
  · rw [coverBox_panned]
    exact size_moved _ _ _
  · rw [hzoom, hpanX, hpanY]
    obtain ⟨hleft, htop, hspans⟩ := centered_still hr imageW imageH
    exact ⟨within_still hW hH hr le_rfl, ⟨hleft, htop⟩, hspans,
      fun c hc hcshape => le_still hr hc ((hshape c).mp hcshape)⟩
  · rw [hpanX, hpanY]
    have hlt' : zoom.getD 0 * (targetW / targetH) < 100 := by
      rwa [mul_div_assoc', div_lt_iff₀ hth]
    refine ⟨(nonempty_still hW hH hr).mpr hlt', within_still hW hH hr hzoom,
      _, cover_exact_eq hH htw hth none none none, ?_⟩
    obtain ⟨hleft, htop⟩ := corner_still imageW imageH (targetW / targetH) (zoom.getD 0)
    obtain ⟨hleft₀, htop₀⟩ := corner_still imageW imageH (targetW / targetH) 0
    exact ⟨hleft.trans hleft₀.symm, htop.trans htop₀.symm⟩

/-- A square cut out of a landscape: as high as the picture, and then with a tenth taken off and
moved to the right. -/
theorem landscape_cover :
    Largest 200 100 50 50 ⟨50, 0, 150, 100⟩ ∧
    CoverLaws 200 100 50 50 (some 10) (some 30) none ⟨59, 0, 149, 90⟩ := by
  have hcover (zoom panX panY : Option ℚ) := cover_geometry (by norm_num : (0 : ℚ) < 200)
    (by norm_num : (0 : ℚ) < 100) (by norm_num : (0 : ℚ) < 50) (by norm_num : (0 : ℚ) < 50)
    zoom panX panY
  obtain ⟨box, hbox, hlaws⟩ := hcover none none none
  obtain ⟨box', hbox', hlaws'⟩ := hcover (some 10) (some 30) none
  have hwhole : Crop.cover (200 : ℚ) 100 50 50 none none none = .ok ⟨50, 0, 150, 100⟩ := by
    with_unfolding_all rfl
  have hmoved : Crop.cover (200 : ℚ) 100 50 50 (some 10) (some 30) none =
      .ok ⟨59, 0, 149, 90⟩ := by
    with_unfolding_all rfl
  obtain rfl := Except.ok.inj (hwhole.symm.trans hbox)
  obtain rfl := Except.ok.inj (hmoved.symm.trans hbox')
  exact ⟨hlaws.unzoomed rfl rfl rfl, hlaws'⟩

end Proofs

end CardDrawing
