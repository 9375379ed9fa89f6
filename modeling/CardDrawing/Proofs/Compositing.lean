import CardDrawing.Paint.Bench
import CardDrawing.Proofs.ExactArithmetic
import CardDrawing.Proofs.SurfaceClipping

/-!
# Compositing

What a pixel becomes when another one is laid over it, with exact ratios for the shares of both, and
what follows for whatever is painted: a surface without transparent pixels never gets any.
-/

namespace CardDrawing.Proofs
open Tone

/-! ## Weighted means of bytes -/

/-- A byte from one of two others to the other one, in either order. -/
def LiesBetween (m n k : UInt8) : Prop := m ≤ k ∧ k ≤ n ∨ n ≤ k ∧ k ≤ m

section

variable {a b : ℚ} (ha : 0 ≤ a) (hb : 0 ≤ b) (hab : 0 < a + b)

include ha hb hab

lemma le_mean {m n k : ℚ} (hm : k ≤ m) (hn : k ≤ n) : k ≤ (m * a + n * b) / (a + b) := by
  rw [le_div_iff₀ hab, mul_add]
  exact add_le_add (mul_le_mul_of_nonneg_right hm ha) (mul_le_mul_of_nonneg_right hn hb)

lemma mean_le {m n k : ℚ} (hm : m ≤ k) (hn : n ≤ k) : (m * a + n * b) / (a + b) ≤ k := by
  rw [div_le_iff₀ hab, mul_add]
  exact add_le_add (mul_le_mul_of_nonneg_right hm ha) (mul_le_mul_of_nonneg_right hn hb)

lemma mean_liesBetween (m n : UInt8) :
    LiesBetween m n (toByte ((m.toNat * a + n.toNat * b) / (a + b))) := by
  rcases UInt8.le_total m n with hle | hle
  · have hle' : (m.toNat : ℚ) ≤ n.toNat := by exact_mod_cast UInt8.le_iff_toNat_le.mp hle
    exact .inl ⟨le_toByte (le_mean ha hb hab le_rfl hle'),
      toByte_le (mean_le ha hb hab hle' le_rfl)⟩
  · have hle' : (n.toNat : ℚ) ≤ m.toNat := by exact_mod_cast UInt8.le_iff_toNat_le.mp hle
    exact .inr ⟨le_toByte (le_mean ha hb hab hle' le_rfl),
      toByte_le (mean_le ha hb hab le_rfl hle')⟩

end

/-! ## Opacities -/

section

variable (p source under : Pixel)

lemma opacity_exact : opacity ℚ p = p.a.toNat / 255 := by
  unfold opacity
  rw [ofByte_exact]
  rfl

lemma opacity_mul : opacity ℚ p * 255 = p.a.toNat := by
  rw [opacity_exact, div_mul_cancel₀ _ (by norm_num)]

lemma opacity_nonneg : 0 ≤ opacity ℚ p := by
  rw [opacity_exact]
  positivity

lemma opacity_le_one : opacity ℚ p ≤ 1 := by
  have hlt := p.a.toNat_lt
  have hle : (p.a.toNat : ℚ) ≤ 255 := by exact_mod_cast (by omega : p.a.toNat ≤ 255)
  rw [opacity_exact, div_le_one (by norm_num)]
  exact hle

variable {p} in
/-- The least opacity that shows is far above what would be too small to divide by. -/
lemma notable_of_ne (hp : p.a ≠ 0) : 1 / 1000000 < opacity ℚ p := by
  have hpos : p.a.toNat ≠ 0 := fun h => hp (UInt8.toNat_inj.mp h)
  have hle : (1 : ℚ) ≤ p.a.toNat := by exact_mod_cast Nat.one_le_iff_ne_zero.mpr hpos
  rw [opacity_exact]
  linarith

/-- What a pixel leaves of the opacity of the one under it. -/
def shareUnder : ℚ := opacity ℚ under * (1 - opacity ℚ source)

lemma shareUnder_nonneg : 0 ≤ shareUnder source under :=
  mul_nonneg (opacity_nonneg under) (sub_nonneg.mpr (opacity_le_one source))

lemma union_exact : union ℚ source under = opacity ℚ source + shareUnder source under := rfl

lemma source_le_union : opacity ℚ source ≤ union ℚ source under := by
  rw [union_exact]
  exact le_add_of_nonneg_right (shareUnder_nonneg source under)

lemma under_le_union : opacity ℚ under ≤ union ℚ source under := by
  have hsource := opacity_nonneg source
  have hunder := opacity_le_one under
  rw [union_exact, shareUnder]
  nlinarith

lemma union_le_one : union ℚ source under ≤ 1 := by
  have hsource := opacity_le_one source
  have hunder := opacity_le_one under
  rw [union_exact, shareUnder]
  nlinarith

variable {source under}

/-- Two pixels that are both transparent have no opacity together. -/
lemma union_eq_zero (hsource : source.a = 0) (hunder : under.a = 0) :
    union ℚ source under = 0 := by
  rw [union_exact, shareUnder, opacity_exact, opacity_exact, hsource, hunder]
  simp

lemma notable_union (h : source.a ≠ 0 ∨ under.a ≠ 0) :
    1 / 1000000 < union ℚ source under := by
  rcases h with h | h
  · exact (notable_of_ne h).trans_le (source_le_union source under)
  · exact (notable_of_ne h).trans_le (under_le_union source under)

/-- Colors are divided by the opacity of both pixels wherever there is any. -/
lemma divisor_exact (h : source.a ≠ 0 ∨ under.a ≠ 0) :
    divisor ℚ source under = union ℚ source under :=
  if_pos (decide_eq_true (notable_union h))

lemma divisor_of_clear (hsource : source.a = 0) (hunder : under.a = 0) :
    divisor ℚ source under = 1 := by
  have hnot : ¬ (1 / 1000000 : ℚ) < union ℚ source under := by
    rw [union_eq_zero hsource hunder]
    norm_num
  exact if_neg (mt of_decide_eq_true hnot)

variable (source under) in
lemma divisor_ne_zero : divisor ℚ source under ≠ 0 := by
  by_cases h : source.a ≠ 0 ∨ under.a ≠ 0
  · have hnotable := notable_union h
    rw [divisor_exact h]
    linarith
  · obtain ⟨hsource, hunder⟩ := not_or.mp h
    rw [divisor_of_clear (not_not.mp hsource) (not_not.mp hunder)]
    exact one_ne_zero

end

/-! ## Pixels over pixels -/

/-- The color of a pixel, as colors are written. -/
def colorOf (p : Pixel) : Rgba := ⟨p.r.toNat, p.g.toNat, p.b.toNat, p.a.toNat⟩

/-- What has become of a pixel that another one is laid over. -/
structure Composited (source under out : Pixel) : Prop where
  alpha : under.a ≤ out.a ∧ source.a ≤ out.a
  colors : 0 < out.a → LiesBetween source.r under.r out.r ∧ LiesBetween source.g under.g out.g ∧
    LiesBetween source.b under.b out.b
  clear : source.a = 0 → 0 < under.a → out = under
  full : source.a = 255 → out = source

section

variable {source under : Pixel}

/-- A channel of a pixel that another one is laid over. -/
def covered (source under : Pixel) (m n : UInt8) : UInt8 :=
  toByte ((m.toNat * opacity ℚ source + n.toNat * shareUnder source under) /
    (opacity ℚ source + shareUnder source under))

lemma cover_exact (h : source.a ≠ 0 ∨ under.a ≠ 0) :
    cover ℚ source under = {
      r := covered source under source.r under.r
      g := covered source under source.g under.g
      b := covered source under source.b under.b
      a := toByte (union ℚ source under * 255) } := by
  unfold cover
  rw [divisor_exact h]
  simp only [ofByte_exact, mul_assoc]
  rfl

lemma alpha_cover (source under : Pixel) :
    (cover ℚ source under).a = toByte (union ℚ source under * 255) := rfl

lemma opacity_of_clear (h : source.a = 0) : opacity ℚ source = 0 := by
  rw [opacity_exact, h]
  simp

lemma opacity_of_full (h : source.a = 255) : opacity ℚ source = 1 := by
  have hfull : (255 : UInt8).toNat = 255 := rfl
  rw [opacity_exact, h, hfull]
  norm_num

/-- Nothing over a pixel of some opacity. -/
lemma cover_of_clear (hsource : source.a = 0) (hunder : under.a ≠ 0) :
    cover ℚ source under = under := by
  have hopacity := opacity_of_clear hsource
  have hshare : shareUnder source under = opacity ℚ under := by
    rw [shareUnder, hopacity, sub_zero, mul_one]
  have hpos := (notable_of_ne hunder).trans' (by norm_num : (0 : ℚ) < 1 / 1000000)
  have hchannel (m n : UInt8) : covered source under m n = n := by
    rw [covered, hshare, hopacity, mul_zero, zero_add, zero_add, mul_div_cancel_right₀ _ hpos.ne',
      toByte_natCast]
  have halpha : toByte (union ℚ source under * 255) = under.a := by
    rw [union_exact, hshare, hopacity, zero_add, opacity_mul, toByte_natCast]
  rw [cover_exact (.inr hunder), halpha]
  simp only [hchannel]

/-- A pixel of full opacity over another one. -/
lemma cover_of_full (hsource : source.a = 255) : cover ℚ source under = source := by
  have hopacity := opacity_of_full hsource
  have hshare : shareUnder source under = 0 := by rw [shareUnder, hopacity, sub_self, mul_zero]
  have hchannel (m n : UInt8) : covered source under m n = m := by
    rw [covered, hshare, hopacity, mul_zero, add_zero, add_zero, div_one, mul_one, toByte_natCast]
  have halpha : toByte (union ℚ source under * 255) = source.a := by
    rw [union_exact, hshare, add_zero, opacity_mul, toByte_natCast]
  rw [cover_exact (.inl (by rw [hsource]; decide)), halpha]
  simp only [hchannel]

lemma cover_composited (source under : Pixel) :
    Composited source under (cover ℚ source under) where
  alpha := by
    have hunder := mul_le_mul_of_nonneg_right (under_le_union source under)
      (by norm_num : (0 : ℚ) ≤ 255)
    have hsource := mul_le_mul_of_nonneg_right (source_le_union source under)
      (by norm_num : (0 : ℚ) ≤ 255)
    rw [opacity_mul] at hunder hsource
    exact ⟨le_toByte hunder, le_toByte hsource⟩
  colors := by
    intro hout
    by_cases h : source.a ≠ 0 ∨ under.a ≠ 0
    · have hpos := (notable_union h).trans' (by norm_num : (0 : ℚ) < 1 / 1000000)
      have hchannel :=
        mean_liesBetween (opacity_nonneg source) (shareUnder_nonneg source under) hpos
      rw [cover_exact h]
      exact ⟨hchannel _ _, hchannel _ _, hchannel _ _⟩
    · -- two transparent pixels come to a transparent one
      obtain ⟨hsource, hunder⟩ := not_or.mp h
      rw [alpha_cover, union_eq_zero (not_not.mp hsource) (not_not.mp hunder), zero_mul] at hout
      exact absurd hout (by decide)
  clear := fun hsource hunder =>
    cover_of_clear hsource (by rintro h; rw [h] at hunder; cases hunder)
  full := cover_of_full

/-- A channel of a pixel that a color is laid over. -/
def tinted (source : Pixel) (m n : UInt8) : UInt8 :=
  toByte (m.toNat * opacity ℚ source + n.toNat * (1 - opacity ℚ source))

lemma tint_exact (source under : Pixel) :
    tint ℚ (colorOf source) under = {
      r := tinted source source.r under.r
      g := tinted source source.g under.g
      b := tinted source source.b under.b
      a := 255 } := by
  unfold tint
  simp only [ofByte_exact]
  unfold tinted
  simp only [opacity_exact]
  rfl

/-- A color that is not transparent, with channels that fit into bytes, over a pixel. -/
lemma tint_composited (hsource : source.a ≠ 0) (under : Pixel) :
    Composited source under (tint ℚ (colorOf source) under) where
  alpha := by
    rw [tint_exact]
    have hle (m : UInt8) : m ≤ 255 := UInt8.le_iff_toNat_le.mpr (Nat.le_of_lt_succ m.toNat_lt)
    exact ⟨hle _, hle _⟩
  colors := by
    intro _
    have hchannel (m n : UInt8) : LiesBetween m n (tinted source m n) := by
      have hmean := mean_liesBetween (opacity_nonneg source)
        (sub_nonneg.mpr (opacity_le_one source)) (by simp) m n
      rwa [add_sub_cancel, div_one] at hmean
    rw [tint_exact]
    exact ⟨hchannel _ _, hchannel _ _, hchannel _ _⟩
  clear := fun h _ => absurd h hsource
  full := by
    intro h
    have hchannel (m n : UInt8) : tinted source m n = m := by
      rw [tinted, opacity_of_full h, sub_self, mul_zero, add_zero, mul_one, toByte_natCast]
    rw [tint_exact, ← h]
    simp only [hchannel]

end

/-! ## Surfaces without transparent pixels -/

/-- Whatever steps come to, if they come to a result at all. -/
def Yields {β : Type} (P : β → Prop) (steps : Except Error β) : Prop :=
  ∀ result, steps = .ok result → P result

namespace Yields

variable {β γ : Type} {P : β → Prop} {Q : γ → Prop}

lemma ok {result : β} (h : P result) : Yields P (.ok result) := by
  rintro _ ⟨⟩
  exact h

lemma bind {steps : Except Error β} {f : β → Except Error γ}
    (h : ∀ result, steps = .ok result → Yields Q (f result)) : Yields Q (steps >>= f) := by
  intro last hlast
  obtain ⟨result, hresult, hf⟩ := bind_eq_ok.mp hlast
  exact h result hresult last hf

end Yields

/-- No pixel of the surface lets anything through. -/
def Solid (s : Surface) : Prop := ∀ p ∈ s.pixels.cells, p.a = 255

/-- Whatever is laid over a pixel of full opacity, the pixel keeps it. -/
def KeepsSolid (α : Type) [Tone α] : Prop :=
  ∀ source under : Pixel, under.a = 255 → (cover α source under).a = 255

lemma keepsSolid_exact : KeepsSolid ℚ := by
  intro source under hunder
  have hle : (255 : UInt8) ≤ (cover ℚ source under).a :=
    hunder ▸ (cover_composited source under).alpha.1
  exact UInt8.le_antisymm (UInt8.le_iff_toNat_le.mpr (Nat.le_of_lt_succ (UInt8.toNat_lt _))) hle

section

variable {β : Type} {r cells : Raster β} {R : β → β → Prop} {b : Raster.Bounds}

/-- Where a part of a raster is replaced by one whose cells are related to those of the part, every
cell is kept or related to the cell before. -/
lemma paste_related
    (hcells : ∀ k l c', cells.get? k l = some c' → ∃ c, (r.slice b).get? k l = some c ∧ R c c')
    {c' : β} (h : c' ∈ (r.paste b cells).cells) : ∃ c ∈ r.cells, c' = c ∨ R c c' := by
  obtain ⟨i, j, hc'⟩ := (Raster.mem_cells _ _).mp h
  rw [Raster.paste, Raster.get?_mapAt] at hc'
  obtain ⟨c, hc, hc'⟩ := Option.map_eq_some_iff.mp hc'
  refine ⟨c, (Raster.mem_cells _ _).mpr ⟨i, j, hc⟩, ?_⟩
  split at hc'
  · rename_i hinside
    obtain ⟨hleft, -, htop, -⟩ := hinside
    cases hnew : cells.get? (i - Raster.cut r.width b.left) (j - Raster.cut r.height b.top) with
    | none =>
      rw [hnew] at hc'
      exact .inl hc'.symm
    | some c'' =>
      rw [hnew] at hc'
      obtain ⟨c₀, hc₀, hrelated⟩ := hcells _ _ _ hnew
      rw [Raster.slice, Raster.get?_part] at hc₀
      split at hc₀
      · -- the cell of the part is the one that stood at the place
        have hcolumn : Raster.cut r.width b.left + (i - Raster.cut r.width b.left) = i := by omega
        have hrow : Raster.cut r.height b.top + (j - Raster.cut r.height b.top) = j := by omega
        rw [hcolumn, hrow, hc] at hc₀
        obtain rfl := Option.some.inj hc₀
        exact .inr (hc' ▸ hrelated)
      · cases hc₀
  · exact .inl hc'.symm

end

section

variable {α : Type} [Tone α] {s : Surface} {x y w h : Int}

/-- Every pixel of a surface that a patch is laid over is kept or covered. -/
lemma blit_pixel {patch : Picture} {p' : Pixel} (hp' : p' ∈ (s.blit patch x y α).pixels.cells) :
    ∃ p ∈ s.pixels.cells, p' = p ∨ ∃ source, p' = cover α source p := by
  unfold Surface.blit at hp'
  split at hp'
  · rename_i bounds _
    dsimp only at hp'
    split at hp'
    · exact ⟨p', hp', .inl rfl⟩
    · let R (p p' : Pixel) : Prop := p' = p ∨ ∃ source, p' = cover α source p
      have hover : ∀ k l p', ((s.pixels.slice bounds).overlaid (cover α)
          (patch.slice (bounds.seenFrom x y))).get? k l = some p' →
          ∃ p, (s.pixels.slice bounds).get? k l = some p ∧ R p p' := by
        intro k l p' hp'
        rw [Raster.overlaid, Raster.get?_mapAt] at hp'
        obtain ⟨p, hp, hp'⟩ := Option.map_eq_some_iff.mp hp'
        refine ⟨p, hp, ?_⟩
        cases hsource : (patch.slice (bounds.seenFrom x y)).get? k l with
        | none =>
          rw [hsource] at hp'
          exact .inl hp'.symm
        | some source =>
          rw [hsource] at hp'
          exact .inr ⟨source, hp'.symm⟩
      obtain ⟨p, hp, h | h⟩ := paste_related hover hp'
      · exact ⟨p, hp, .inl h⟩
      · exact ⟨p, hp, h⟩
  · exact ⟨p', hp', .inl rfl⟩

/-- Every pixel of a surface that a color is laid over is kept or tinted. -/
lemma blendRect_pixel {color : Rgba} {p' : Pixel}
    (hp' : p' ∈ (s.blendRect x y w h color α).pixels.cells) :
    ∃ p ∈ s.pixels.cells, p' = p ∨ p' = tint α color p := by
  unfold Surface.blendRect at hp'
  split at hp'
  · split at hp'
    · exact ⟨p', hp', .inl rfl⟩
    · refine paste_related (R := fun p p' => p' = tint α color p) (fun k l p' hp' => ?_) hp'
      rw [Raster.get?_map] at hp'
      obtain ⟨p, hp, hp'⟩ := Option.map_eq_some_iff.mp hp'
      exact ⟨p, hp, hp'.symm⟩
  · exact ⟨p', hp', .inl rfl⟩

lemma solid_blendRect (hs : Solid s) (color : Rgba) : Solid (s.blendRect x y w h color α) := by
  intro p' hp'
  obtain ⟨p, hp, rfl | rfl⟩ := blendRect_pixel hp'
  · exact hs _ hp
  · rfl

variable (hα : KeepsSolid α)

include hα

lemma solid_blit (hs : Solid s) (patch : Picture) : Solid (s.blit patch x y α) := by
  intro p' hp'
  obtain ⟨p, hp, rfl | ⟨source, rfl⟩⟩ := blit_pixel hp'
  · exact hs _ hp
  · exact hα source p (hs _ hp)

lemma solid_blendMask (hs : Solid s) (mask : Raster UInt8) (color : Rgba) :
    Yields Solid (s.blendMask mask x y color α) := by
  intro s' h
  obtain ⟨patch, -, rfl⟩ := map_eq_ok.mp h
  exact solid_blit hα hs patch

variable (typeface : Typeface)

/-- One call leaves the surface as it is, or lays a color, a mask or a picture over it. -/
lemma solid_perform {b : Bench} (hb : Solid b.surface) (call : Call) :
    Yields (fun b' => Solid b'.surface) (b.perform typeface call α) := by
  cases call with
  | blendRect x y w h color => exact .ok (solid_blendRect hb color)
  | blendMask columns rows x y color =>
    exact .bind fun s' hs' => .ok (solid_blendMask hα hb b.mask color s' hs')
  | blit w h x y => exact .ok (solid_blit hα hb b.picture)
  | maskLine start stop width =>
    exact .bind fun _ _ => .bind fun _ _ => .bind fun _ _ => .ok hb
  | loadFont font => exact .bind fun _ _ => .ok hb
  | mark m => exact .bind fun _ _ => .ok hb
  | turn degrees w h => exact .bind fun _ _ => .ok hb
  | scale w h box =>
    cases box with
    | none => exact .bind fun _ _ => .bind fun _ _ => .ok hb
    | some box => exact .bind fun _ _ => .bind fun _ _ => .ok hb
  | _ => exact .ok hb

lemma solid_performAll (calls : List Call) {b : Bench} (hb : Solid b.surface) :
    Solid (b.performAll typeface calls α).2.surface := by
  induction calls generalizing b with
  | nil => exact hb
  | cons call rest ih =>
    unfold Bench.performAll
    split
    · exact ih (solid_perform hα typeface hb call _ ‹_›)
    · exact hb

lemma solid_paint (subject : Subject) (hs : Solid s) : Solid (subject.paint typeface s α).2 :=
  solid_performAll hα typeface _ (b := .setUp s subject.resource.pixels) hs

lemma solid_paintAll (subjects : List Subject) (hs : Solid s) :
    Solid (Subject.paintAll typeface s subjects α).2 := by
  induction subjects generalizing s with
  | nil => exact hs
  | cons subject rest ih =>
    have hsubject := solid_paint hα typeface subject hs
    unfold Subject.paintAll
    split
    · rename_i next h
      rw [h] at hsubject
      exact ih hsubject
    · rename_i why next h
      rw [h] at hsubject
      exact hsubject

/-- A surface after several lists of primitives, each of them painted up to the first primitive that
fails. -/
def afterPaints (α : Type) [Tone α] (typeface : Typeface) (s : Surface)
    (runs : List (List Primitive)) : Surface :=
  runs.foldl (fun s ps => (Primitive.paintAll typeface s ps α).2) s

lemma solid_afterPaints (runs : List (List Primitive)) (hs : Solid s) :
    Solid (afterPaints α typeface s runs) := by
  induction runs generalizing s with
  | nil => exact hs
  | cons ps rest ih => exact ih (solid_paintAll hα typeface _ hs)

end

/-! ## New surfaces -/

section

variable {s s' : Surface} {color : Rgba}

/-- When all channels can be written, the last one is written to a surface that the others have been
written to. -/
lemma fillChannels_concat {set : Pixel → UInt8 → Pixel} {value : Rgba → Int}
    (before : List ((Pixel → UInt8 → Pixel) × (Rgba → Int)))
    (h : Surface.fillChannels color (before ++ [(set, value)]) s = (.ok (), s')) :
    ∃ s₀, Surface.fillChannel set (value color) s₀ = .ok s' := by
  induction before generalizing s with
  | nil =>
    rw [List.nil_append, Surface.fillChannels] at h
    split at h
    · rename_i next hnext
      obtain ⟨-, rfl⟩ := Prod.mk.inj h
      exact ⟨s, hnext⟩
    · cases h
  | cons first before ih =>
    rw [List.cons_append, Surface.fillChannels] at h
    split at h
    · exact ih h
    · cases h

lemma solid_fillChannels (hcolor : color.a = 255)
    (h : Surface.fillChannels color Surface.channels s = (.ok (), s')) : Solid s' := by
  -- the channel of opacities is the last one
  obtain ⟨s₀, hs'⟩ := fillChannels_concat Surface.channels.dropLast h
  rw [Surface.fillChannel] at hs'
  split at hs'
  · cases hs'
  · obtain rfl := Except.ok.inj hs'
    intro p hp
    obtain ⟨p₀, -, rfl⟩ := Array.mem_map.mp hp
    rw [hcolor]
    rfl

lemma solid_create {width height : Int} {background : String}
    (hs : Surface.create width height background = .ok s)
    (hread : Color.read (.text background) = .ok color) (hcolor : color.a = 255) : Solid s := by
  rw [Surface.create] at hs
  split at hs
  · cases hs
  · have hempty : "".isEmpty = true := rfl
    rw [Surface.clear, if_pos hempty, hread] at hs
    dsimp only at hs
    split at hs
    · rename_i s' hfilled
      obtain rfl := Except.ok.inj hs
      exact solid_fillChannels hcolor hfilled
    · cases hs

end

/-- A pixel over another one, blended exactly: it is at least as opaque as both, its colors lie
between theirs, and nothing is divided by zero; the same goes for a color that is laid over a pixel,
unless the color is transparent and nothing is painted. A new surface whose background is opaque
stays without transparent pixels, whatever is painted on it and however often. -/
theorem compositing_laws :
    (∀ source under : Pixel,
      divisor ℚ source under ≠ 0 ∧ 0 ≤ union ℚ source under ∧ union ℚ source under ≤ 1 ∧
      Composited source under (cover ℚ source under)) ∧
    (∀ (source under : Pixel), source.a ≠ 0 →
      Composited source under (tint ℚ (colorOf source) under)) ∧
    (∀ (s : Surface) (x y w h : Int) (color : Rgba), color.a ≤ 0 →
      s.blendRect x y w h color ℚ = s) ∧
    ∀ (width height : Int) (background : String) (s : Surface) (color : Rgba),
      Surface.create width height background = .ok s →
      Color.read (.text background) = .ok color → color.a = 255 →
      Solid s ∧ ∀ typeface runs, Solid (afterPaints ℚ typeface s runs) := by
  refine ⟨fun source under => ?_, fun source under hsource => tint_composited hsource under,
    fun s x y w h color hcolor => ?_, fun width height background s color hs hread hcolor => ?_⟩
  · have hnonneg := (opacity_nonneg source).trans (source_le_union source under)
    exact ⟨divisor_ne_zero source under, hnonneg, union_le_one source under,
      cover_composited source under⟩
  · unfold Surface.blendRect
    split
    · exact if_pos hcolor
    · rfl
  · have hsolid := solid_create hs hread hcolor
    exact ⟨hsolid, fun typeface runs => solid_afterPaints keepsSolid_exact typeface runs hsolid⟩

/-- Half of red over blue, and a surface the color of slate. -/
theorem slate_solid :
    Composited ⟨255, 0, 0, 128⟩ ⟨0, 0, 255, 255⟩
      (tint ℚ (colorOf ⟨255, 0, 0, 128⟩) ⟨0, 0, 255, 255⟩) ∧
    ∃ s, Surface.create 3 2 "#369" = .ok s ∧
      ∀ typeface runs, Solid (afterPaints ℚ typeface s runs) := by
  obtain ⟨-, htint, -, hsolid⟩ := compositing_laws
  have hread : Color.read (.text "#369") = .ok ⟨51, 102, 153, 255⟩ := by
    with_unfolding_all rfl
  have hcreate : ∃ s, Surface.create 3 2 "#369" = .ok s := by
    have hempty : "".isEmpty = true := rfl
    rw [Surface.create, if_neg (by decide), Surface.clear, if_pos hempty, hread]
    exact ⟨_, rfl⟩
  obtain ⟨s, hs⟩ := hcreate
  exact ⟨htint _ _ (by decide), s, hs, (hsolid 3 2 "#369" s _ hs hread rfl).2⟩

end CardDrawing.Proofs
