import CardDrawing.Paint.Plan
import CardDrawing.Picture.Scale
import CardDrawing.Proofs.CropGeometry
import CardDrawing.Proofs.Outcomes

/-!
# Crops that can be taken

A picture is painted from the part of it that covers its target. The part lies within the picture
and has something in it unless the zoom uses it up or the pan moves it over an edge.
-/

namespace CardDrawing

namespace Crop

variable (c : Crop ℚ) (imageW imageH x y : ℚ)

/-- A part that can be taken out of a picture: `0 ≤ left < right` up to the width of the picture,
and likewise from top to bottom. -/
structure Legal : Prop where
  nonempty : c.Nonempty
  within : c.Within imageW imageH

/-- A crop can be moved so far before it leaves the picture. -/
structure HasRoom : Prop where
  left : -c.left ≤ x
  right : x ≤ imageW - c.right
  top : -c.top ≤ y
  bottom : y ≤ imageH - c.bottom

variable {c imageW imageH x y}

lemma within_moved_iff : (c.moved x y).Within imageW imageH ↔ c.HasRoom imageW imageH x y := by
  constructor
  · intro h
    obtain ⟨hleft, hright, htop, hbottom⟩ := h
    exact ⟨neg_le_iff_add_nonneg'.mpr hleft, le_sub_iff_add_le'.mpr hright,
      neg_le_iff_add_nonneg'.mpr htop, le_sub_iff_add_le'.mpr hbottom⟩
  · intro h
    obtain ⟨hleft, hright, htop, hbottom⟩ := h
    exact ⟨neg_le_iff_add_nonneg'.mp hleft, le_sub_iff_add_le'.mp hright,
      neg_le_iff_add_nonneg'.mp htop, le_sub_iff_add_le'.mp hbottom⟩

lemma moved_zero (c : Crop ℚ) : c.moved 0 0 = c := by
  obtain ⟨left, top, right, bottom⟩ := c
  simp only [moved, add_zero]

lemma legal_iff : c.Legal imageW imageH ↔ c.Nonempty ∧ c.Within imageW imageH :=
  ⟨fun h => ⟨h.nonempty, h.within⟩, fun h => ⟨h.1, h.2⟩⟩

lemma nonempty_iff : c.Nonempty ↔ 0 < c.width ∧ 0 < c.height :=
  and_congr sub_pos.symm sub_pos.symm

/-- A box is not refused if it lies within the picture, even if nothing is in it. -/
lemma fault?_eq_none : c.fault? imageW imageH = none ↔
    c.Within imageW imageH ∧ 0 ≤ c.width ∧ 0 ≤ c.height := by
  unfold fault?
  simp only [Bool.or_eq_true, decide_eq_true_eq]
  constructor
  · intro h
    split_ifs at h with hstart hstop hsize
    rw [not_or, not_lt, not_lt] at hstart hstop hsize
    exact ⟨⟨hstart.1, hstop.1, hstart.2, hstop.2⟩, hsize⟩
  · rintro ⟨⟨hleft, hright, htop, hbottom⟩, hsize⟩
    rw [if_neg (not_or.mpr ⟨not_lt.mpr hleft, not_lt.mpr htop⟩),
      if_neg (not_or.mpr ⟨not_lt.mpr hright, not_lt.mpr hbottom⟩)]
    exact if_neg (not_or.mpr ⟨not_lt.mpr hsize.1, not_lt.mpr hsize.2⟩)

end Crop

namespace Proofs
open Crop

section

variable {W H r z : ℚ}

/-! ## Crops of a picture -/

/-- A crop is not turned over as long as the zoom does not take more than all of it. -/
lemma size_still_nonneg (hW : 0 < W) (hH : 0 < H) (hr : 0 < r) :
    0 ≤ (coverBox W H r z 0 0).width ∧ 0 ≤ (coverBox W H r z 0 0).height ↔ z * r ≤ 100 := by
  obtain ⟨hwidth, hheight⟩ := extent_pos hW hH hr
  have hshare : 0 ≤ shareLeft r z ↔ z * r ≤ 100 := by
    rw [shareLeft, sub_nonneg, div_le_one (by norm_num)]
  rw [(size_still hr W H z).1, (size_still hr W H z).2, mul_nonneg_iff_of_pos_right hwidth,
    mul_nonneg_iff_of_pos_right hheight, and_self, hshare]

/-- What becomes of the part of a picture that covers a target. -/
structure Judged (imageW imageH targetW targetH : ℚ) (zoom panX panY : Option ℚ)
    (still box : Crop ℚ) : Prop where
  within : still.Within imageW imageH
  panned : box =
    still.moved (panX.getD 0 * still.width / 300) (panY.getD 0 * still.height / 300)
  legal : box.Legal imageW imageH ↔ zoom.getD 0 * targetW < 100 * targetH ∧
    still.HasRoom imageW imageH (panX.getD 0 * still.width / 300) (panY.getD 0 * still.height / 300)
  taken : box.fault? imageW imageH = none ↔ zoom.getD 0 * targetW ≤ 100 * targetH ∧
    still.HasRoom imageW imageH (panX.getD 0 * still.width / 300) (panY.getD 0 * still.height / 300)
  unmoved : panX.getD 0 = 0 → panY.getD 0 = 0 → targetW ≤ targetH → zoom.getD 0 < 100 →
    box.Legal imageW imageH

lemma judged_cover {imageW imageH targetW targetH : ℚ} (hW : 0 < imageW) (hH : 0 < imageH)
    (htw : 0 < targetW) (hth : 0 < targetH) {zoom : Option ℚ} (hz : 0 ≤ zoom.getD 0)
    (panX panY : Option ℚ) : ∃ still box,
      Crop.cover imageW imageH targetW targetH zoom none none = .ok still ∧
      Crop.cover imageW imageH targetW targetH zoom panX panY = .ok box ∧
      Judged imageW imageH targetW targetH zoom panX panY still box := by
  have hr : 0 < targetW / targetH := div_pos htw hth
  have hlt : zoom.getD 0 * (targetW / targetH) < 100 ↔ zoom.getD 0 * targetW < 100 * targetH := by
    rw [mul_div_assoc', div_lt_iff₀ hth]
  have hle : zoom.getD 0 * (targetW / targetH) ≤ 100 ↔ zoom.getD 0 * targetW ≤ 100 * targetH := by
    rw [mul_div_assoc', div_le_iff₀ hth]
  refine ⟨_, _, cover_exact_eq hH htw hth zoom none none, cover_exact_eq hH htw hth zoom panX panY,
    ?_⟩
  rw [Option.getD_none]
  have hsize := size_moved (coverBox imageW imageH (targetW / targetH) (zoom.getD 0) 0 0)
  have hwithin := within_still hW hH hr hz
  have hnonempty := (nonempty_still (z := zoom.getD 0) hW hH hr).trans hlt
  have hnonneg := (size_still_nonneg (z := zoom.getD 0) hW hH hr).trans hle
  rw [coverBox_panned imageW imageH (targetW / targetH) (zoom.getD 0) (panX.getD 0) (panY.getD 0)]
  generalize coverBox imageW imageH (targetW / targetH) (zoom.getD 0) 0 0 = still at *
  have hlegal (x y : ℚ) : (still.moved x y).Legal imageW imageH ↔
      zoom.getD 0 * targetW < 100 * targetH ∧ still.HasRoom imageW imageH x y := by
    rw [legal_iff, nonempty_iff, (hsize x y).1, (hsize x y).2, ← nonempty_iff, hnonempty,
      within_moved_iff]
  exact {
    within := hwithin
    panned := rfl
    legal := hlegal _ _
    taken := by
      rw [fault?_eq_none, (hsize _ _).1, (hsize _ _).2, hnonneg, within_moved_iff, and_comm]
    unmoved := by
      intro hpanX hpanY htarget hzoom
      have hshare : zoom.getD 0 * targetW < 100 * targetH :=
        (mul_le_mul_of_nonneg_left htarget hz).trans_lt (mul_lt_mul_of_pos_right hzoom hth)
      rw [hpanX, hpanY, zero_mul, zero_mul, zero_div, hlegal, ← within_moved_iff, moved_zero]
      exact ⟨hshare, hwithin⟩ }

end

/-! ## Crops that are planned -/

section

variable {p : ImagePrimitive} {width height : Nat}

/-- The part of a picture of some size that covers the target of a primitive. -/
structure CropOf (p : ImagePrimitive) (width height columns rows : Nat) (box : Crop Number) :
    Prop where
  columns : p.width.round = .ok columns ∧ 1 ≤ columns
  rows : p.height.round = .ok rows ∧ 1 ≤ rows
  cover : ∃ turned targetW targetH, (Plan.rotate p.rotate width height).run.1 = .ok turned ∧
    p.width.toFloat = .ok targetW ∧ p.height.toFloat = .ok targetH ∧
    Crop.cover (.int turned.1) (.int turned.2) (.real targetW) (.real targetH) p.zoomLevel p.panX
      p.panY = .ok box

/-- What a call takes out of the picture is the part that covers the target. -/
def TakesCrop (p : ImagePrimitive) (width height : Nat) : Call → Prop
  | .scale columns rows box? => ∃ box, box? = some box ∧ CropOf p width height columns rows box
  | _ => True

lemma target?_eq_some {b : Box} {columns rows : Nat}
    (h : (Plan.target? b).run.1 = .ok (some (columns, rows))) :
    (b.width.round = .ok (columns : ℤ) ∧ 1 ≤ columns) ∧
      (b.height.round = .ok (rows : ℤ) ∧ 1 ≤ rows) := by
  unfold Plan.target? at h
  cases hw : b.width.round with
  | error why =>
    rw [hw] at h
    cases h
  | ok w =>
    cases hh : b.height.round with
    | error why =>
      rw [hw, hh] at h
      cases h
    | ok v =>
      rw [hw, hh] at h
      have hsize : (if w ≤ 0 || v ≤ 0 then none else some (w.toNat, v.toNat)) =
          some (columns, rows) := Except.ok.inj h
      split_ifs at hsize with hpos
      rw [Bool.or_eq_true, decide_eq_true_eq, decide_eq_true_eq, not_or] at hpos
      obtain ⟨rfl, rfl⟩ := Prod.mk.inj (Option.some.inj hsize)
      have hcolumns : (w.toNat : ℤ) = w := Int.toNat_of_nonneg (by omega)
      have hrows : (v.toNat : ℤ) = v := Int.toNat_of_nonneg (by omega)
      rw [hcolumns, hrows]
      exact ⟨⟨rfl, by omega⟩, rfl, by omega⟩

lemma leaves_target? (P : Call → Prop) (b : Box) : Leaves P (Plan.target? b) :=
  .lift fun _ _ => .lift fun _ _ => .pure _

lemma leaves_place (b : Box) (columns rows : Nat) :
    Leaves (TakesCrop p width height) (Plan.place b columns rows) :=
  .lift fun _ _ => .lift fun _ _ => .record trivial

lemma leaves_rotate (rotation : Option Number) (w h : Nat) :
    Leaves (TakesCrop p width height) (Plan.rotate rotation w h) := by
  unfold Plan.rotate
  split
  · exact .pure _
  · exact .lift fun degrees _ => .lift fun size _ => .bind (.record trivial) fun _ _ => .pure _

/-- Planning a picture asks for no part of it but the one that covers the target. -/
lemma leaves_picture (p : ImagePrimitive) (width height : Nat) :
    Leaves (TakesCrop p width height) (Plan.picture p width height) := by
  refine .bind (leaves_target? _ _) fun target htarget => ?_
  split
  · exact .pure ()
  · obtain ⟨hcolumns, hrows⟩ := target?_eq_some htarget
    refine .bind (.record trivial) fun _ _ => .bind (leaves_rotate _ _ _) fun turned hturned => ?_
    dsimp only
    refine .recordIf trivial (.recordIf trivial ?_)
    refine .lift fun targetW htargetW => .lift fun targetH htargetH => .lift fun box hbox => ?_
    refine .bind (.record ?_) fun _ _ => leaves_place _ _ _
    exact ⟨box, rfl, hcolumns, hrows, turned, targetW, targetH, hturned, htargetW, htargetH, hbox⟩

/-! ## Both together -/

/-- The exact values of the numbers that the crop of a picture depends on. -/
structure ReadsExactly (p : ImagePrimitive) (targetW targetH : ℚ) (zoom panX panY : Option ℚ) :
    Prop where
  width : exactValue? p.width = some targetW
  height : exactValue? p.height = some targetH
  zoom : p.zoomLevel.map exactValue? = zoom.map some
  panX : p.panX.map exactValue? = panX.map some
  panY : p.panY.map exactValue? = panY.map some

/-- Nothing is taken out of a picture but the part that covers the target. In exact ratios that part
can be taken if the zoom leaves something of it and it has room for the pan, whatever the size of
the picture. -/
theorem picture_crop_judged {columns rows : ℤ} {targetW targetH : ℚ} {zoom panX panY : Option ℚ}
    (hcolumns : p.width.round = .ok columns) (hrows : p.height.round = .ok rows)
    (hc : 1 ≤ columns) (hr : 1 ≤ rows) (hp : ReadsExactly p targetW targetH zoom panX panY)
    (hz : 0 ≤ zoom.getD 0) :
    (∀ width height, ∀ call ∈ (Plan.picture p width height).run.2, TakesCrop p width height call) ∧
    ∀ imageW imageH : Nat, 0 < imageW → 0 < imageH → ∃ still box,
      Crop.cover (imageW : ℚ) imageH targetW targetH zoom none none = .ok still ∧
      Crop.cover (imageW : ℚ) imageH targetW targetH zoom panX panY = .ok box ∧
      Judged imageW imageH targetW targetH zoom panX panY still box := by
  have htw : 0 < targetW := pos_of_round hp.width hcolumns hc
  have hth : 0 < targetH := pos_of_round hp.height hrows hr
  refine ⟨fun width height => (leaves_picture p width height).records, ?_⟩
  intro imageW imageH hW hH
  exact judged_cover (Nat.cast_pos.mpr hW) (Nat.cast_pos.mpr hH) htw hth hz panX panY

end

/-- A picture in the corner of the surface. -/
def inset (width height : Int) (zoom panX : Option Int) : ImagePrimitive where
  id := "photo"
  x := .int 0
  y := .int 0
  width := .int width
  height := .int height
  zoomLevel := zoom.map .int
  panX := panX.map .int

/-- A landscape in a square, with a tenth taken off and moved to the right. -/
theorem landscape_judged : ∃ box : Crop ℚ,
    Crop.cover (200 : ℚ) 100 50 50 (some 10) (some 30) none = .ok box ∧ box.Legal 200 100 ∧
      box.fault? 200 100 = none := by
  have hreads : ReadsExactly (inset 50 50 (some 10) (some 30)) 50 50 (some 10) (some 30) none := by
    constructor <;> with_unfolding_all rfl
  obtain ⟨-, hjudged⟩ := picture_crop_judged rfl rfl (by decide) (by decide) hreads (by norm_num)
  obtain ⟨still, box, hstill, hbox, h⟩ := hjudged 200 100 (by decide) (by decide)
  rw [Nat.cast_ofNat, Nat.cast_ofNat] at hstill hbox h
  have hwhole : Crop.cover (200 : ℚ) 100 50 50 (some 10) none none = .ok ⟨50, 0, 140, 90⟩ := by
    with_unfolding_all rfl
  obtain rfl := Except.ok.inj (hwhole.symm.trans hstill)
  have hroom : (⟨50, 0, 140, 90⟩ : Crop ℚ).HasRoom 200 100 (30 * (140 - 50) / 300)
      (0 * (90 - 0) / 300) := by
    constructor <;> norm_num
  exact ⟨box, hbox, h.legal.mpr ⟨by norm_num, hroom⟩, h.taken.mpr ⟨by norm_num, hroom⟩⟩

/-- Of these pictures no part can be taken: a pan moves it over the edge of a picture that it is as
wide as, and half of the width of a wide part is more than its height. -/
theorem crop_beyond_picture :
    ((inset 2 2 none (some 30)).width.round = .ok 2 ∧
      (inset 2 2 none (some 30)).height.round = .ok 2 ∧
      ReadsExactly (inset 2 2 none (some 30)) 2 2 none (some 30) none ∧
      Crop.cover (2 : ℚ) 2 2 2 none (some 30) none = .ok ⟨1 / 5, 0, 11 / 5, 2⟩ ∧
      ¬ (⟨1 / 5, 0, 11 / 5, 2⟩ : Crop ℚ).Legal 2 2 ∧
      (⟨1 / 5, 0, 11 / 5, 2⟩ : Crop ℚ).fault? 2 2 = some .boxBeyondImage) ∧
    ((inset 4 1 (some 50) none).width.round = .ok 4 ∧
      (inset 4 1 (some 50) none).height.round = .ok 1 ∧
      ReadsExactly (inset 4 1 (some 50) none) 4 1 (some 50) none none ∧
      Crop.cover (4 : ℚ) 4 4 1 (some 50) none none = .ok ⟨0, 3 / 2, -4, 1 / 2⟩ ∧
      ¬ (⟨0, 3 / 2, -4, 1 / 2⟩ : Crop ℚ).Legal 4 4 ∧
      (⟨0, 3 / 2, -4, 1 / 2⟩ : Crop ℚ).fault? 4 4 = some .boxEmpty) := by
  constructor
  · refine ⟨rfl, rfl, ?_, by with_unfolding_all rfl, ?_, by with_unfolding_all rfl⟩
    · constructor <;> with_unfolding_all rfl
    · intro h
      exact absurd h.within.right (by norm_num)
  · refine ⟨rfl, rfl, ?_, by with_unfolding_all rfl, ?_, by with_unfolding_all rfl⟩
    · constructor <;> with_unfolding_all rfl
    · intro h
      exact absurd h.nonempty.1 (by norm_num)

end Proofs

end CardDrawing
