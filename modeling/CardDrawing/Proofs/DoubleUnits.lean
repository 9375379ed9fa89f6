import CardDrawing.Proofs.NearestDoubles

/-!
# Doubles in units of the smallest one

Every finite double is a whole number of times the smallest one. Doubles are compared by their sign,
their exponent and their mantissa in turn, and that comes to comparing these whole numbers.
-/

namespace CardDrawing.Proofs
open Float.Model (UnpackedFloat)

/-- The mantissa and the exponent of a finite double: all digits are used unless the exponent is the
lowest one. -/
structure IsCanonical (mantissa : ℕ) (exponent : ℤ) : Prop where
  lowest : -1074 ≤ exponent
  short : mantissa < 2 ^ 53
  leading : exponent = -1074 ∨ 2 ^ 52 ≤ mantissa

/-- How many of the smallest double a magnitude is. -/
def units (mantissa : ℕ) (exponent : ℤ) : ℤ := mantissa * 2 ^ (exponent + 1074).toNat

/-- A finite double is a whole number of times the smallest one. -/
inductive HasUnits : UnpackedFloat → ℤ → Prop
  | zero (sign : UnpackedFloat.Sign) : HasUnits (.zero sign) 0
  | finite (sign : UnpackedFloat.Sign) (m : ℕ) (e : ℤ) (hm : 0 < m) (h : IsCanonical m e) :
    HasUnits (.finite sign m e hm) (sign.apply (units m e))

section

variable {m m' : ℕ} {e e' : ℤ}

lemma units_strictMono (e : ℤ) : StrictMono fun m => units m e :=
  fun _ _ hm => mul_lt_mul_of_pos_right (Int.ofNat_lt.mpr hm) (by positivity)

lemma units_pos (hm : 0 < m) (e : ℤ) : 0 < units m e :=
  mul_pos (Int.natCast_pos.mpr hm) (by positivity)

/-- A larger exponent outweighs every mantissa. -/
lemma units_lt_of_exponent (h : IsCanonical m e) (h' : IsCanonical m' e') (he : e < e') :
    units m e < units m' e' := by
  have hlowest := h.lowest
  have hleading : 2 ^ 52 ≤ m' := h'.leading.resolve_left (by omega)
  have hplaces : (e + 1074).toNat + 1 ≤ (e' + 1074).toNat := by omega
  calc units m e < units (2 ^ 53) e := units_strictMono e h.short
    _ = (2 ^ 52 : ℕ) * 2 ^ ((e + 1074).toNat + 1) := by
        rw [units]
        push_cast
        ring
    _ ≤ (2 ^ 52 : ℕ) * 2 ^ (e' + 1074).toNat := by gcongr; exact one_le_two
    _ ≤ units m' e' := (units_strictMono e').monotone hleading

/-- Magnitudes are compared by their exponents first. -/
lemma compare_units (h : IsCanonical m e) (h' : IsCanonical m' e') :
    compare (units m e) (units m' e') = (compare e e').then (compare m m') := by
  rcases lt_trichotomy e e' with he | rfl | he
  · rw [compare_lt_iff_lt.mpr he, compare_lt_iff_lt.mpr (units_lt_of_exponent h h' he)]
    rfl
  · rw [compare_eq_iff_eq.mpr rfl, ← cmp_eq_compare, (units_strictMono e).cmp_map_eq,
      cmp_eq_compare]
    rfl
  · rw [compare_gt_iff_gt.mpr he, compare_gt_iff_gt.mpr (units_lt_of_exponent h' h he)]
    rfl

lemma compare_neg (n k : ℤ) : compare (-n) (-k) = (compare n k).swap := by
  have hanti : StrictAnti fun n : ℤ => -n := fun _ _ hn => neg_lt_neg hn
  rw [← cmp_eq_compare, hanti.cmp_map_eq, cmp_eq_compare, Int.compare_swap]

end

/-- Doubles are compared as their numbers of units. -/
lemma compare_of_hasUnits {a b : UnpackedFloat} {n k : ℤ} (ha : HasUnits a n) (hb : HasUnits b k) :
    a.compare b = some (compare n k) := by
  cases ha with
  | zero sign =>
    cases hb with
    | zero sign' => rfl
    | finite sign' m' e' hm' h' =>
      have hpos := units_pos hm' e'
      cases sign' with
      | negative => exact congrArg some (compare_gt_iff_gt.mpr (neg_neg_of_pos hpos)).symm
      | positive => exact congrArg some (compare_lt_iff_lt.mpr hpos).symm
  | finite sign m e hm h =>
    have hpos := units_pos hm e
    cases hb with
    | zero sign' =>
      cases sign with
      | negative => exact congrArg some (compare_lt_iff_lt.mpr (neg_neg_of_pos hpos)).symm
      | positive => exact congrArg some (compare_gt_iff_gt.mpr hpos).symm
    | finite sign' m' e' hm' h' =>
      have hpos' := units_pos hm' e'
      have hunits := compare_units h h'
      cases sign with
      | negative =>
        cases sign' with
        | negative => exact congrArg some ((compare_neg _ _).trans (congrArg _ hunits)).symm
        | positive =>
          exact congrArg some (compare_lt_iff_lt.mpr ((neg_neg_of_pos hpos).trans hpos')).symm
      | positive =>
        cases sign' with
        | negative =>
          exact congrArg some (compare_gt_iff_gt.mpr ((neg_neg_of_pos hpos').trans hpos)).symm
        | positive => exact congrArg some hunits.symm

/-! ## Doubles by their bits -/

section

variable {bits : ℕ}

/-- An exponent of zero stands for the lowest one, and leaves the first digit of a mantissa out. -/
lemma ofBits_low (h : bits / 2 ^ 52 % 2048 = 0) :
    Decimal.Magnitude.ofBits bits = ⟨bits % 2 ^ 52, -1074⟩ := if_pos h

lemma ofBits_high (h : bits / 2 ^ 52 % 2048 ≠ 0) :
    Decimal.Magnitude.ofBits bits = ⟨2 ^ 52 + bits % 2 ^ 52, (bits / 2 ^ 52 % 2048 : ℕ) - 1075⟩ :=
  if_neg h

lemma canonical_ofBits (bits : ℕ) : IsCanonical (Decimal.Magnitude.ofBits bits).mantissa
    (Decimal.Magnitude.ofBits bits).exponent := by
  have hfraction : bits % 2 ^ 52 < 2 ^ 52 := Nat.mod_lt _ (Nat.two_pow_pos _)
  by_cases h : bits / 2 ^ 52 % 2048 = 0
  · rw [ofBits_low h]
    exact ⟨le_rfl, by dsimp only; omega, .inl rfl⟩
  · rw [ofBits_high h]
    exact ⟨by dsimp only; omega, by dsimp only; omega, .inr (Nat.le_add_right _ _)⟩

end

/-- The highest bit is the sign. -/
lemma apply_unpackSign (b : BitVec 64) (n : ℤ) :
    (UnpackedFloat.Sign.ofBitVec (@UnpackedFloat.unpackSign .binary64 b)).apply n =
      if 2 ^ 63 ≤ b.toNat then -n else n := by
  have hsign : (@UnpackedFloat.unpackSign .binary64 b).toNat = b.toNat / 2 ^ 63 % 2 := by
    rw [UnpackedFloat.unpackSign_def, BitVec.extractLsb'_toNat, Nat.shiftRight_eq_div_pow]
    rfl
  have hlt : b.toNat < 2 ^ 64 := b.isLt
  rw [UnpackedFloat.Sign.ofBitVec]
  split_ifs with hzero hbits hbits
  · rw [hzero, BitVec.toNat_ofNat] at hsign
    omega
  · rfl
  · rfl
  · refine (hzero (BitVec.eq_of_toNat_eq ?_)).elim
    rw [hsign, BitVec.toNat_ofNat]
    omega

/-- The bits of a finite double stand for its units. -/
lemma hasUnits_unpack {b : BitVec 64} (h : (UnpackedFloat.unpack .binary64 b).isFinite) :
    HasUnits (UnpackedFloat.unpack .binary64 b)
      ((UnpackedFloat.Sign.ofBitVec (@UnpackedFloat.unpackSign .binary64 b)).apply
        (units (Decimal.Magnitude.ofBits b.toNat).mantissa
          (Decimal.Magnitude.ofBits b.toNat).exponent)) := by
  have hexponent : (@UnpackedFloat.unpackExponent .binary64 b).toNat = b.toNat / 2 ^ 52 % 2048 := by
    rw [UnpackedFloat.unpackExponent_def, BitVec.extractLsb'_toNat, Nat.shiftRight_eq_div_pow]
    rfl
  have hmantissa : (@UnpackedFloat.unpackMantissa .binary64 b).toNat = b.toNat % 2 ^ 52 := by
    rw [UnpackedFloat.unpackMantissa_def, BitVec.extractLsb'_toNat, Nat.shiftRight_zero]
  have hcanonical := canonical_ofBits b.toNat
  unfold UnpackedFloat.unpack at h ⊢
  dsimp only at h ⊢
  generalize UnpackedFloat.Sign.ofBitVec (@UnpackedFloat.unpackSign .binary64 b) = sign at h ⊢
  have hfinite {m : ℕ} {e : ℤ} (hm : 0 < m) (hmag : Decimal.Magnitude.ofBits b.toNat = ⟨m, e⟩) :
      HasUnits (.finite sign m e hm)
        (sign.apply (units (Decimal.Magnitude.ofBits b.toNat).mantissa
          (Decimal.Magnitude.ofBits b.toNat).exponent)) := by
    rw [hmag] at hcanonical ⊢
    exact .finite sign m e hm hcanonical
  -- infinity, no number, zero, and numbers without and with a digit that is left out
  split_ifs at h ⊢ with hlast hrest hlow hzero
  · cases h
  · cases h
  · rw [hlow] at hexponent
    rw [hzero] at hmantissa
    rw [ofBits_low hexponent.symm, ← hmantissa]
    cases sign with
    | negative => exact .zero .negative
    | positive => exact .zero .positive
  · rw [hlow] at hexponent
    refine hfinite _ ?_
    rw [ofBits_low hexponent.symm, hmantissa, hlow]
    rfl
  · have hhigh : b.toNat / 2 ^ 52 % 2048 ≠ 0 := by
      rw [← hexponent]
      exact fun h0 => hlow (BitVec.eq_of_toNat_eq h0)
    have happend : (1#1).toNat <<< 52 ||| b.toNat % 2 ^ 52 = 2 ^ 52 + b.toNat % 2 ^ 52 :=
      (Nat.shiftLeft_add_eq_or_of_lt (Nat.mod_lt _ (Nat.two_pow_pos _)) _).symm
    refine hfinite _ ?_
    rw [ofBits_high hhigh, BitVec.toNat_append, hmantissa, hexponent, happend]
    rfl

/-! ## Finite doubles -/

/-- The mantissa of a double with its sign. -/
def signedMantissa (x : Float) : ℤ :=
  if (Number.parts x).1 then -(Number.parts x).2.1 else (Number.parts x).2.1

def exponentOf (x : Float) : ℤ := (Number.parts x).2.2

section

variable {x y : Float}

lemma lowest_le_exponent (x : Float) : -1074 ≤ exponentOf x :=
  (canonical_ofBits x.toBits.toNat).lowest

lemma scaled_eq (x : Float) :
    Number.scaled x = signedMantissa x * 2 ^ (exponentOf x + 1074).toNat := by
  unfold Number.scaled signedMantissa exponentOf
  obtain ⟨negative, mantissa, exponent⟩ := Number.parts x
  cases negative with
  | false => push_cast; rfl
  | true => simp

lemma hasUnits_scaled (hx : x.isFinite) : HasUnits x.toModel.unpack (Number.scaled x) := by
  have hunits := hasUnits_unpack hx
  rw [apply_unpackSign] at hunits
  have hscaled : Number.scaled x = if 2 ^ 63 ≤ x.toBits.toNat then
      -units (Number.parts x).2.1 (exponentOf x)
      else units (Number.parts x).2.1 (exponentOf x) := by
    simp [Number.scaled, Number.parts, units, exponentOf]
  rw [hscaled]
  exact hunits

theorem lt_iff_scaled (hx : x.isFinite) (hy : y.isFinite) :
    x < y ↔ Number.scaled x < Number.scaled y := by
  have hcompare := compare_of_hasUnits (hasUnits_scaled hx) (hasUnits_scaled hy)
  rw [lt_iff_unpack, UnpackedFloat.lt, hcompare, beq_iff_eq, Option.some_inj, compare_lt_iff_lt]

lemma isNaN_or_isInf (x : Float) : (x.isNaN || x.isInf) = !x.isFinite := by
  change (x.toModel.unpack.isNaN || x.toModel.unpack.isInf) = !x.toModel.unpack.isFinite
  cases x.toModel.unpack <;> rfl

lemma kind_of_isFinite (hx : x.isFinite) : x.isNaN = false ∧ x.isInf = false := by
  rw [← Bool.or_eq_false_iff, isNaN_or_isInf, hx, Bool.not_true]

end

end CardDrawing.Proofs
