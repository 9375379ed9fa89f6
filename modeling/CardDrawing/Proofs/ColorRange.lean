import CardDrawing.Proofs.ColorOpacity
import CardDrawing.Proofs.Compositing

/-!
# Ranges of colors

Names, hexadecimal digits and the defaults come to colors whose channels fit into bytes, and a color
that fits is painted as it is. The numbers of a call are taken as they are written: a color that
does not fit is refused when a surface is filled with it or a mask is laid over one.
-/

namespace CardDrawing

namespace Color

/-- The names of calls that stand for colors. -/
def callNames : List String := ["rgb", "rgba", "hsl", "hsv", "hsb"]

/-- Whether a text begins with a call that stands for a color. -/
def IsCall (cs : List Char) : Prop :=
  ∃ name ∈ callNames, (name ++ "(").toList.isPrefixOf cs = true

/-- The characters of a text that a color is looked for in. -/
def spelled (s : String) : List Char := (Text.lower (Text.strip s)).toList

end Color

namespace Proofs
open Color

/-! ## Colors that fit -/

lemma fits_iff {c : Rgba} : c.fits = true ↔ (0 ≤ c.r ∧ c.r ≤ 255) ∧ (0 ≤ c.g ∧ c.g ≤ 255) ∧
    (0 ≤ c.b ∧ c.b ≤ 255) ∧ (0 ≤ c.a ∧ c.a ≤ 255) := by
  simp only [Rgba.fits, List.all_cons, List.all_nil, Bool.and_eq_true, decide_eq_true_eq, and_true]

/-- A color fits if it is the color of a pixel. -/
lemma exists_colorOf {c : Rgba} (h : c.fits = true) : ∃ p, colorOf p = c := by
  obtain ⟨hr, hg, hb, ha⟩ := fits_iff.mp h
  have hbyte {v : ℤ} (hv : 0 ≤ v ∧ v ≤ 255) : ((UInt8.ofNat v.toNat).toNat : ℤ) = v := by
    rw [UInt8.toNat_ofNat']
    omega
  refine ⟨⟨.ofNat c.r.toNat, .ofNat c.g.toNat, .ofNat c.b.toNat, .ofNat c.a.toNat⟩, ?_⟩
  unfold colorOf
  rw [hbyte hr, hbyte hg, hbyte hb, hbyte ha]

/-! ## Names and digits -/

lemma fits_named {name : String} {c : Rgba} (h : named? name = some c) : c.fits = true := by
  have htable : (colorNames.all fun entry => entry.2 < 0x1000000) = true := by decide +kernel
  obtain ⟨n, hn, rfl⟩ := Option.map_eq_some_iff.mp h
  have hlt : n < 0x1000000 := of_decide_eq_true (check_of_lookup htable hn)
  rw [fits_iff]
  dsimp only
  omega

/-- A hexadecimal digit that stands for two of them. -/
lemma single_inRange {d : Char} {v : ℤ}
    (h : ((Text.hexValue? d >>= fun n => pure (n : ℤ)).map fun n => 17 * n) = some v) :
    0 ≤ v ∧ v ≤ 255 := by
  obtain ⟨digit, hdigit, rfl⟩ := Option.map_eq_some_iff.mp h
  obtain ⟨n, hn, hdigit⟩ := Option.bind_eq_some_iff.mp hdigit
  obtain rfl := Option.some.inj hdigit
  have hlt := hexValue?_lt hn
  omega

lemma double_inRange {d e : Char} {v : ℤ} (h : (Text.hexNumber? [d, e]).map Int.ofNat = some v) :
    0 ≤ v ∧ v ≤ 255 := by
  obtain ⟨n, hn, rfl⟩ := Option.map_eq_some_iff.mp h
  have hlt := hexNumber?_lt hn
  rw [Int.ofNat_eq_natCast]
  omega

lemma opaque_inRange {v : ℤ} (h : some 255 = some v) : 0 ≤ v ∧ v ≤ 255 := by
  cases h
  decide

/-- A color fits if each of its channels does. -/
lemma fits_of_channels {r? g? b? a? : Option ℤ} {c : Rgba}
    (hr : ∀ {v}, r? = some v → 0 ≤ v ∧ v ≤ 255) (hg : ∀ {v}, g? = some v → 0 ≤ v ∧ v ≤ 255)
    (hb : ∀ {v}, b? = some v → 0 ≤ v ∧ v ≤ 255) (ha : ∀ {v}, a? = some v → 0 ≤ v ∧ v ≤ 255)
    (h : (do return ⟨← r?, ← g?, ← b?, ← a?⟩) = some c) : c.fits = true := by
  obtain ⟨r, hr', h⟩ := Option.bind_eq_some_iff.mp h
  obtain ⟨g, hg', h⟩ := Option.bind_eq_some_iff.mp h
  obtain ⟨b, hb', h⟩ := Option.bind_eq_some_iff.mp h
  obtain ⟨a, ha', h⟩ := Option.bind_eq_some_iff.mp h
  obtain rfl := Option.some.inj h
  exact fits_iff.mpr ⟨hr hr', hg hg', hb hb', ha ha'⟩

lemma fits_hexadecimal {digits : List Char} {c : Rgba} (h : hexadecimal? digits = some c) :
    c.fits = true := by
  unfold hexadecimal? at h
  dsimp only at h
  split at h
  · exact fits_of_channels single_inRange single_inRange single_inRange opaque_inRange h
  · exact fits_of_channels single_inRange single_inRange single_inRange single_inRange h
  · exact fits_of_channels double_inRange double_inRange double_inRange opaque_inRange h
  · exact fits_of_channels double_inRange double_inRange double_inRange double_inRange h
  · cases h

/-! ## Calls -/

section

variable {α : Type} {cs : List Char} {name : String}

lemma isCall_of_call? {reads : List (Reading α)} {xs : List α} (hname : name ∈ callNames)
    (h : call? name reads cs = some xs) : IsCall cs := by
  unfold call? at h
  dsimp only at h
  split_ifs at h with hopening
  exact ⟨name, hname, hopening⟩

lemma call?_of_not_isCall (h : ¬ IsCall cs) (hname : name ∈ callNames) (reads : List (Reading α)) :
    call? name reads cs = none :=
  if_neg fun hopening => h ⟨name, hname, hopening⟩

lemma called?_of_not_isCall (h : ¬ IsCall cs) : called? cs = none := by
  unfold called?
  rw [call?_of_not_isCall h (by decide), call?_of_not_isCall h (by decide),
    call?_of_not_isCall h (by decide), call?_of_not_isCall h (by decide),
    call?_of_not_isCall h (by decide), call?_of_not_isCall h (by decide)]
  rfl

/-- A call is no name. -/
lemma named?_of_isCall {s : String} (h : IsCall s.toList) : named? s = none := by
  have htable : (colorNames.all fun entry => '(' ∉ entry.1.toList) = true := by decide +kernel
  cases hn : colorNames.lookup s with
  | none =>
    unfold named?
    rw [hn]
    rfl
  | some n =>
    have hplain : '(' ∉ s.toList := of_decide_eq_true (check_of_lookup htable hn)
    obtain ⟨name, -, hopening⟩ := h
    have hstart := List.isPrefixOf_iff_prefix.mp hopening
    exact absurd (hstart.subset (by simp)) hplain

lemma ofText?_of_isCall {s : String} {c : Rgba} (hcall : IsCall (Text.lower s).toList)
    (h : ofText? s = some c) : called? (Text.lower s).toList = some c := by
  unfold ofText? at h
  split_ifs at h
  dsimp only at h
  split at h
  · next digits hdigits =>
    rw [hdigits] at hcall
    obtain ⟨name, hname, hopening⟩ := hcall
    fin_cases hname <;> cases hopening
  · rwa [named?_of_isCall hcall] at h

/-- A text that is no call stands for a color that fits. -/
lemma fits_ofText? {s : String} {c : Rgba} (hcall : ¬ IsCall (Text.lower s).toList)
    (h : ofText? s = some c) : c.fits = true := by
  unfold ofText? at h
  split_ifs at h
  dsimp only at h
  split at h
  · exact fits_hexadecimal h
  · cases hnamed : named? (Text.lower s) with
    | some named =>
      rw [hnamed] at h
      obtain rfl := Option.some.inj h
      exact fits_named hnamed
    | none =>
      rw [hnamed, called?_of_not_isCall hcall] at h
      cases h

/-- A text without a color in it is no call. -/
lemma read_text {s : String} {default c : Rgba} (h : Color.read (.text s) default = .ok c) :
    c = Rgba.transparent ∧ ¬ IsCall (spelled s) ∨ ofText? (Text.strip s) = some c := by
  unfold Color.read at h
  dsimp only at h
  split at h
  · next hblank =>
    left
    refine ⟨(Except.ok.inj h).symm, ?_⟩
    unfold spelled
    rcases Bool.or_eq_true_iff.mp hblank with hempty | hnone
    · rw [String.isEmpty_iff.mp hempty]
      rintro ⟨name, hname, hopening⟩
      fin_cases hname <;> cases hopening
    · rw [of_decide_eq_true hnone]
      have hword : (Text.lower "none").toList = ['n', 'o', 'n', 'e'] := by decide +kernel
      rw [hword]
      rintro ⟨name, hname, hopening⟩
      fin_cases hname <;> cases hopening
  · right
    split at h
    · next color hcolor => rw [hcolor, Except.ok.inj h]
    · cases h

lemma read_of_isCall {s : String} {default c : Rgba} (hcall : IsCall (spelled s))
    (h : Color.read (.text s) default = .ok c) : called? (spelled s) = some c := by
  rcases read_text h with ⟨-, hplain⟩ | hcolor
  · exact absurd hcall hplain
  · exact ofText?_of_isCall hcall hcolor

lemma fits_read {raw : Value} {default c : Rgba} (hdefault : default.fits = true)
    (hcall : ∀ s, raw = .text s → ¬ IsCall (spelled s)) (h : Color.read raw default = .ok c) :
    c.fits = true := by
  cases raw with
  | null =>
    obtain rfl := Except.ok.inj h
    exact hdefault
  | text s =>
    rcases read_text h with ⟨rfl, -⟩ | hcolor
    · decide
    · exact fits_ofText? (hcall s rfl) hcolor
  | _ => cases h

/-! ## Numbers of calls -/

lemma called?_whole {r g b : ℕ} (h : call? "rgb" [whole, whole, whole] cs = some [r, g, b]) :
    called? cs = some ⟨r, g, b, 255⟩ := by
  unfold called?
  rw [h]

/-- The name of a call is told from a longer one by its parenthesis. -/
lemma call?_rgb_of_rgba {reads : List (Reading α)} {others : List (Reading ℕ)} {xs : List ℕ}
    (h : call? "rgba" others cs = some xs) : call? "rgb" reads cs = none := by
  refine if_neg fun hshort => ?_
  unfold call? at h
  dsimp only at h
  split_ifs at h with hlong
  obtain ⟨rest, rfl⟩ := List.isPrefixOf_iff_prefix.mp hlong
  cases hshort

lemma called?_opacity {r g b a : ℕ}
    (h : call? "rgba" [whole, whole, whole, whole] cs = some [r, g, b, a]) :
    called? cs = some ⟨r, g, b, a⟩ := by
  unfold called?
  rw [call?_rgb_of_rgba h, call?_rgb_of_rgba h, h]

lemma spaced_whole_of_percent {x : ℕ × List Char} (h : spaced (percent whole) cs = some x) :
    ∃ n after, spaced whole cs = some (n, '%' :: after) := by
  obtain ⟨⟨n, after⟩, hpercent, -⟩ := Option.bind_eq_some_iff.mp h
  unfold percent at hpercent
  split at hpercent
  · next n' after' hread =>
    refine ⟨n', after', ?_⟩
    unfold spaced
    rw [hread]
    rfl
  · cases hpercent

/-- A number before a percent sign is no argument of its own. -/
lemma arguments?_whole {read read' : Reading ℕ} {others others' : List (Reading ℕ)} {xs : List ℕ}
    (h : arguments? (percent whole :: read :: others) cs = some xs) :
    arguments? (whole :: read' :: others') cs = none := by
  rw [arguments?] at h ⊢
  · split at h
    · next x rest hspaced =>
      obtain ⟨n, after, hwhole⟩ := spaced_whole_of_percent hspaced
      rw [hwhole]
      rfl
    · cases h
  · simp
  · simp

lemma called?_percents {r g b : ℕ}
    (h : call? "rgb" [percent whole, percent whole, percent whole] cs = some [r, g, b]) :
    called? cs =
      do return ⟨← percentChannel r, ← percentChannel g, ← percentChannel b, 255⟩ := by
  have hwhole : call? "rgb" [whole, whole, whole] cs = none := by
    unfold call? at h ⊢
    dsimp only at h ⊢
    split_ifs at h with hopening
    rw [if_pos hopening]
    exact arguments?_whole h
  unfold called?
  rw [hwhole, h]

/-- A share of a hundred fits. -/
lemma percentChannel_inRange {n : ℕ} (hn : n ≤ 100) {v : ℤ} (h : percentChannel n = some v) :
    0 ≤ v ∧ v ≤ 255 := by
  have hshares : ((List.range 101).all fun n =>
      (percentChannel n).all fun v => 0 ≤ v && v ≤ 255) = true := by decide +kernel
  have hshare := List.all_eq_true.mp hshares n (List.mem_range.mpr (Nat.lt_succ_of_le hn))
  rw [h] at hshare
  simpa using hshare

end

/-! ## Painting -/

/-- A color is painted as a pixel has it: it fills surfaces, and neither mixing it with what is
under it nor scaling its opacity by a mask leaves the range of bytes. -/
structure PaintedAs (c : Rgba) (p : Pixel) : Prop where
  color : colorOf p = c
  filled : ∀ s : Surface, Surface.fillChannels c Surface.channels s =
    (.ok (), { s with pixels := s.pixels.map fun _ => p })
  tinted : p.a ≠ 0 → ∀ under, Composited p under (Tone.tint ℚ c under)
  stencilled : ∀ (α : Type) [Tone α] (mask : Raster UInt8), Surface.stencil mask c α =
    .ok (mask.map fun m => { p with a := Tone.coverage α m c.a })
  covered : ∀ m, (Tone.coverage ℚ m c.a).toNat = m.toNat * p.a.toNat / 255

lemma fillChannel_byte (set : Pixel → UInt8 → Pixel) (v : UInt8) (s : Surface) :
    Surface.fillChannel set v.toNat s =
      .ok { s with pixels := s.pixels.map fun p => set p v } := by
  have hlt := v.toNat_lt
  have hfits : ¬ (decide (255 < (v.toNat : ℤ)) || decide ((v.toNat : ℤ) < -255)) = true := by
    simp only [Bool.or_eq_true, decide_eq_true_eq]
    omega
  have hbyte : ((v.toNat : ℤ) % 256).toNat = v.toNat := by omega
  unfold Surface.fillChannel
  rw [if_neg hfits, hbyte, UInt8.ofNat_toNat]

lemma fillChannels_colorOf (p : Pixel) (s : Surface) :
    Surface.fillChannels (colorOf p) Surface.channels s =
      (.ok (), { s with pixels := s.pixels.map fun _ => p }) := by
  simp only [Surface.channels, Surface.fillChannels, colorOf, fillChannel_byte, Raster.map,
    Array.map_map, Function.comp_def]

lemma byteChannel_toNat (v : UInt8) : Surface.byteChannel v.toNat = .ok v := by
  have hlt := v.toNat_lt
  have hexists : ∃ b : UInt8, Surface.byteChannel v.toNat = .ok b ∧ (b.toNat : ℤ) = v.toNat :=
    exists_byteChannel (by omega)
  obtain ⟨b, hb, hvalue⟩ := hexists
  rw [hb, UInt8.toNat_inj.mp (Int.ofNat_inj.mp hvalue)]

lemma stencil_colorOf (p : Pixel) (α : Type) [Tone α] (mask : Raster UInt8) :
    Surface.stencil mask (colorOf p) α =
      .ok (mask.map fun m => { p with a := Tone.coverage α m p.a.toNat }) := by
  unfold Surface.stencil colorOf
  dsimp only
  rw [byteChannel_toNat, byteChannel_toNat, byteChannel_toNat]
  rfl

/-- Exactly, the opacity under a mask is a byte before it is cut to one. -/
lemma coverage_toNat (m a : UInt8) :
    (Tone.coverage ℚ m a.toNat).toNat = m.toNat * a.toNat / 255 := by
  have hm := m.toNat_lt
  have ha := a.toNat_lt
  have hproduct : m.toNat * a.toNat ≤ 255 * 255 := Nat.mul_le_mul (by omega) (by omega)
  have hexact : Tone.ofByte ℚ m * (Tone.shares (a.toNat : ℤ) : ℚ × ℚ).1 =
      ((m.toNat * a.toNat : ℕ) : ℚ) / (255 : ℕ) := by
    rw [ofByte_exact]
    change (m.toNat : ℚ) * (((a.toNat : ℤ) : ℚ) / 255) = _
    push_cast
    ring
  have hfloor : ⌊((m.toNat * a.toNat : ℕ) : ℚ) / (255 : ℕ)⌋ = (m.toNat * a.toNat / 255 : ℕ) :=
    Rat.floor_natCast_div_natCast ..
  unfold Tone.coverage
  rw [hexact]
  change (UInt8.ofNat (⌊_⌋ % 256).toNat).toNat = _
  rw [hfloor, UInt8.toNat_ofNat']
  omega

lemma paintedAs_colorOf (p : Pixel) : PaintedAs (colorOf p) p where
  color := rfl
  filled := fillChannels_colorOf p
  tinted hp under := tint_composited hp under
  stencilled α _ mask := stencil_colorOf p α mask
  covered m := coverage_toNat m p.a

/-- A channel that is too large stops the filling of a surface. -/
lemma fillChannels_overflow {c : Rgba} {channels : List ((Pixel → UInt8 → Pixel) × (Rgba → ℤ))}
    (h : ∃ channel ∈ channels, 255 < channel.2 c) (s : Surface) :
    (Surface.fillChannels c channels s).1 = .error .channelOverflow := by
  induction channels generalizing s with
  | nil =>
    obtain ⟨channel, hmem, -⟩ := h
    cases hmem
  | cons first rest ih =>
    unfold Surface.fillChannels
    by_cases hfirst : (255 < first.2 c || first.2 c < -255) = true
    · have hfill : Surface.fillChannel first.1 (first.2 c) s = .error .channelOverflow :=
        if_pos hfirst
      rw [hfill]
    · have hrest : ∃ channel ∈ rest, 255 < channel.2 c := by
        obtain ⟨channel, hmem, hlarge⟩ := h
        rcases List.mem_cons.mp hmem with rfl | hmem
        · exact absurd (Bool.or_eq_true_iff.mpr (.inl (decide_eq_true hlarge))) hfirst
        · exact ⟨channel, hmem, hlarge⟩
      unfold Surface.fillChannel
      rw [if_neg hfirst]
      exact ih hrest _

/-! ## Colors that are read -/

/-- What comes of reading a color. -/
structure ColorJudged (raw : Value) (c : Rgba) : Prop where
  plain : (∀ s, raw = .text s → ¬ IsCall (spelled s)) → c.fits = true
  numbers : ∀ s r g b, raw = .text s →
    call? "rgb" [whole, whole, whole] (spelled s) = some [r, g, b] → c = ⟨r, g, b, 255⟩
  numbersWithOpacity : ∀ s r g b a, raw = .text s →
    call? "rgba" [whole, whole, whole, whole] (spelled s) = some [r, g, b, a] → c = ⟨r, g, b, a⟩
  percents : ∀ s r g b, raw = .text s →
    call? "rgb" [percent whole, percent whole, percent whole] (spelled s) = some [r, g, b] →
      r ≤ 100 → g ≤ 100 → b ≤ 100 → c.fits = true
  painted : c.fits = true → ∃ p, PaintedAs c p
  unfilled : (∃ v ∈ [c.r, c.g, c.b, c.a], 255 < v) → ∀ s : Surface,
    (Surface.fillChannels c Surface.channels s).1 = .error .channelOverflow
  unstencilled : ¬ ByteChannels c → ∀ mask, ∃ why, Surface.stencil mask c = .error why

/-- A color fits into bytes unless it is written as a call, whose whole numbers are taken as they
are. One that fits is painted as a pixel has it, and one that does not is refused. -/
theorem color_range_judged (raw : Value) (default c : Rgba) (hdefault : default.fits = true)
    (h : Color.read raw default = .ok c) : ColorJudged raw c where
  plain hcall := fits_read hdefault hcall h
  numbers s r g b hraw hcall := by
    rw [hraw] at h
    have hread := read_of_isCall (isCall_of_call? (by decide) hcall) h
    rw [called?_whole hcall] at hread
    exact (Option.some.inj hread).symm
  numbersWithOpacity s r g b a hraw hcall := by
    rw [hraw] at h
    have hread := read_of_isCall (isCall_of_call? (by decide) hcall) h
    rw [called?_opacity hcall] at hread
    exact (Option.some.inj hread).symm
  percents s r g b hraw hcall hr hg hb := by
    rw [hraw] at h
    have hread := read_of_isCall (isCall_of_call? (by decide) hcall) h
    rw [called?_percents hcall] at hread
    exact fits_of_channels (percentChannel_inRange hr) (percentChannel_inRange hg)
      (percentChannel_inRange hb) opaque_inRange hread
  painted hfits := by
    obtain ⟨p, rfl⟩ := exists_colorOf hfits
    exact ⟨p, paintedAs_colorOf p⟩
  unfilled hlarge s := by
    refine fillChannels_overflow ?_ s
    simpa [Surface.channels] using hlarge
  unstencilled hbytes mask := by
    refine exists_error_iff.mpr ?_
    rintro ⟨patch, hpatch⟩
    exact hbytes (byteChannels_of_stencil hpatch)

theorem orange_judged : Rgba.black.fits = true ∧
    Color.read (.text " RGB(100%, 50%, 0%)") = .ok ⟨255, 128, 0, 255⟩ ∧
    ∃ p, PaintedAs ⟨255, 128, 0, 255⟩ p := by
  have hread : Color.read (.text " RGB(100%, 50%, 0%)") = .ok ⟨255, 128, 0, 255⟩ :=
    eq_ok_of_toOption (by decide +kernel)
  have hjudged := color_range_judged (.text " RGB(100%, 50%, 0%)") Rgba.black _ (by decide) hread
  exact ⟨by decide, hread, hjudged.painted (by decide)⟩

/-- A color that is accepted, does not fit, and cannot be the background of a surface. -/
theorem bright_red_exceeds : Color.read (.text "rgb(300,0,0)") = .ok ⟨300, 0, 0, 255⟩ ∧
    (⟨300, 0, 0, 255⟩ : Rgba).fits = false ∧
    ∀ width height, 0 < width → 0 < height →
      Surface.create width height "rgb(300,0,0)" = .error .channelOverflow := by
  have hread : Color.read (.text "rgb(300,0,0)") = .ok ⟨300, 0, 0, 255⟩ :=
    eq_ok_of_toOption (by decide +kernel)
  refine ⟨hread, by decide, fun width height hwidth hheight => ?_⟩
  have hextent : ¬ (decide (width ≤ 0) || decide (height ≤ 0)) = true := by
    simp only [Bool.or_eq_true, decide_eq_true_eq]
    omega
  unfold Surface.create
  rw [if_neg hextent]
  unfold Surface.clear
  have hempty : "".isEmpty = true := rfl
  rw [if_pos hempty, hread]
  rfl

end Proofs

end CardDrawing
