import CardDrawing.Scalar
import CardDrawing.Surface.Blend
import CardDrawing.Svg.Drawing
import Mathlib

/-!
# Exact arithmetic

Geometry, blending and vector documents are written over classes of arithmetic. For exact ratios
nothing is rounded before it is cut to a whole number or to a byte, and a step of geometry comes to
a result unless it divides by zero.
-/

namespace CardDrawing.Proofs

/-! ## Geometry -/

/-- Geometry over exact ratios. -/
instance exactScalar : Scalar ℚ where
  literal n := n
  ofInt n := n
  add a b := .ok (a + b)
  sub a b := .ok (a - b)
  mul a b := .ok (a * b)
  div a b := if b = 0 then .error .floatDivisionByZero else .ok (a / b)
  le a b := a ≤ b
  lt a b := a < b
  isZero a := a = 0
  round a := .ok (Number.roundRatio a.num a.den)
  truncate a := .ok (a.num.tdiv a.den)

section

variable (a b : ℚ) (n : Nat)

@[simp] lemma literal_exact : (Scalar.literal n : ℚ) = n := rfl

@[simp] lemma add_exact : Scalar.add a b = .ok (a + b) := rfl

@[simp] lemma sub_exact : Scalar.sub a b = .ok (a - b) := rfl

@[simp] lemma mul_exact : Scalar.mul a b = .ok (a * b) := rfl

@[simp] lemma div_exact {b : ℚ} (hb : b ≠ 0) : Scalar.div a b = .ok (a / b) := if_neg hb

@[simp] lemma le_exact : Scalar.le a b = decide (a ≤ b) := rfl

@[simp] lemma isZero_exact : Scalar.isZero a = decide (a = 0) := rfl

end

/-- The exact value of a number, unless it is infinite or no number at all. -/
def exactValue? : Number → Option ℚ
  | .int n => some n
  | .real x =>
    if x.isNaN || x.isInf then none
    else
      let (negative, mantissa, exponent) := Number.parts x
      let n : ℤ := if negative then -mantissa else mantissa
      some (n * 2 ^ exponent)

lemma pos_of_roundRatio {n d : ℤ} (hd : 0 < d) (h : 1 ≤ Number.roundRatio n d) : 0 < n := by
  by_contra hn
  have hq : n.fdiv d = n / d := Int.fdiv_eq_ediv_of_nonneg n hd.le
  have hle : n / d ≤ 0 := Int.ediv_nonpos_of_nonpos_of_neg (not_lt.mp hn) hd
  unfold Number.roundRatio at h
  rw [hq] at h
  -- a quotient of zero leaves no rest here
  have hzero : n / d = 0 → 2 * (n - n / d * d) < d := by
    intro h0
    rw [h0]
    omega
  dsimp only at h
  split_ifs at h <;> omega

/-- A number that is rounded to one or more is positive. -/
lemma pos_of_round {n : Number} {m : ℤ} {q : ℚ} (hq : exactValue? n = some q) (hm : n.round = .ok m)
    (h : 1 ≤ m) : 0 < q := by
  cases n with
  | int k =>
    obtain rfl := Option.some.inj hq
    obtain rfl := Except.ok.inj hm
    exact_mod_cast (by omega : 0 < k)
  | real x =>
    simp only [exactValue?] at hq
    simp only [Number.round, Number.wholeWith] at hm
    generalize Number.parts x = parts at hq hm
    obtain ⟨negative, mantissa, exponent⟩ := parts
    -- whatever the exponent, the number has the sign of its mantissa
    suffices hn : 0 < if negative then -(mantissa : ℤ) else mantissa by
      split at hq
      · cases hq
      · obtain rfl := Option.some.inj hq
        exact mul_pos (by exact_mod_cast hn) (by positivity)
    generalize (if negative then -(mantissa : ℤ) else mantissa) = n at hm ⊢
    split_ifs at hm
    · obtain rfl := Except.ok.inj hm
      by_contra hn
      exact absurd h (not_le.mpr (Int.lt_add_one_of_le (mul_nonpos_of_nonpos_of_nonneg
        (not_lt.mp hn) (Int.natCast_nonneg _))))
    · have hd : (0 : ℤ) < Nat.pow 2 (-exponent).toNat :=
        Int.natCast_pos.mpr (Nat.pow_pos Nat.two_pos)
      exact pos_of_roundRatio hd (Except.ok.inj hm ▸ h)

/-! ## Vector documents -/

/-- Vector documents over exact ratios. -/
instance exactCoordinate : Svg.Coordinate ℚ where
  ofInt n := n
  magnitude a := |a|
  isZero a := a = 0
  round a := .ok (Number.roundRatio a.num a.den)

/-- A side is not scaled only if it is zero. -/
lemma ratio_exact {side : ℚ} (hside : side ≠ 0) (target : ℤ) :
    Svg.ratio target side = target / side := by
  have hzero : Svg.Coordinate.isZero side = false := decide_eq_false hside
  rw [Svg.ratio, hzero]
  rfl

/-! ## Blending -/

/-- Blending over exact ratios. -/
instance exactTone : Tone ℚ where
  ofInt n := n
  toByte x := UInt8.ofNat (min 255 ⌊x⌋.toNat)
  cutByte x := UInt8.ofNat (⌊x⌋ % 256).toNat
  shares a := (a / 255, 1 - a / 255)
  isNotable x := 1 / 1000000 < x

section

variable {x : ℚ} {m : UInt8}

lemma toNat_toByte (x : ℚ) : (Tone.toByte x).toNat = min 255 ⌊x⌋.toNat := by
  have hlt : min 255 ⌊x⌋.toNat < 2 ^ 8 := by omega
  exact UInt8.toNat_ofNat_of_lt' hlt

/-- A byte that is not larger than a ratio is not larger than the ratio cut to a byte. -/
lemma le_toByte (h : (m.toNat : ℚ) ≤ x) : m ≤ Tone.toByte x := by
  have hm := m.toNat_lt
  have hfloor : (m.toNat : ℤ) ≤ ⌊x⌋ := Int.le_floor.mpr (by exact_mod_cast h)
  rw [UInt8.le_iff_toNat_le, toNat_toByte]
  omega

lemma toByte_le (h : x ≤ m.toNat) : Tone.toByte x ≤ m := by
  have hfloor : ⌊x⌋ ≤ (m.toNat : ℤ) := by
    have hle : (⌊x⌋ : ℚ) ≤ m.toNat := (Int.floor_le x).trans h
    exact_mod_cast hle
  rw [UInt8.le_iff_toNat_le, toNat_toByte]
  omega

/-- Bytes are not changed when they are cut to bytes. -/
lemma toByte_natCast (m : UInt8) : Tone.toByte (m.toNat : ℚ) = m :=
  UInt8.le_antisymm (toByte_le le_rfl) (le_toByte le_rfl)

lemma ofByte_exact (m : UInt8) : Tone.ofByte ℚ m = m.toNat := Int.cast_natCast m.toNat

end

end CardDrawing.Proofs
