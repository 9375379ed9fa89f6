import CardDrawing.Number
import Mathlib

/-!
# Nearest doubles

Rounding to the nearest double never gives a result that is no number, and gives infinity just from
halfway between the largest double and the next power of two on.
-/

namespace CardDrawing.Proofs
open Decimal
open Float.Model (UnpackedFloat)

/-! ## Whole numbers that are too large -/

lemma roundHalfEven_le (n d : ℕ) : roundHalfEven n d ≤ n / d + 1 := by
  unfold roundHalfEven
  dsimp only
  split_ifs <;> omega

lemma le_roundHalfEven (n d : ℕ) : n / d ≤ roundHalfEven n d := by
  unfold roundHalfEven
  dsimp only
  split_ifs <;> omega

/-- An even number is reached from the half before it on. -/
lemma le_roundHalfEven_iff {n d k : ℕ} (hd : 0 < d) (heven : k % 2 = 0) :
    k ≤ roundHalfEven n d ↔ 2 * (k * d) ≤ 2 * n + d := by
  have hn : d * (n / d) + n % d = n := Nat.div_add_mod n d
  have hr : n % d < d := Nat.mod_lt n hd
  by_cases hk : k ≤ n / d
  · have hle : k * d ≤ d * (n / d) := by
      rw [Nat.mul_comm d]
      exact Nat.mul_le_mul_right d hk
    have hround := le_roundHalfEven n d
    exact iff_of_true (hk.trans hround) (by omega)
  by_cases hnext : k = n / d + 1
  · -- the number before an even one is odd, so that a half is rounded up
    have hkd : k * d = d * (n / d) + d := by
      rw [hnext, Nat.add_mul, Nat.one_mul, Nat.mul_comm]
    unfold roundHalfEven
    dsimp only
    split_ifs <;> omega
  · have hle : (n / d + 2) * d ≤ k * d := Nat.mul_le_mul_right d (by omega)
    rw [Nat.add_mul, Nat.mul_comm (n / d)] at hle
    have hround := roundHalfEven_le n d
    exact iff_of_false (by omega) (by omega)

/-- The comparison that tells whether a number has at most 53 binary digits before a place. -/
lemma digits_fit_iff {n digits : ℕ} {e : ℤ} (he : 53 + e = digits) :
    n * Nat.pow 2 (-e).toNat < Nat.pow 2 53 * (1 * Nat.pow 2 e.toNat) ↔ n < 2 ^ digits := by
  have hexponent : 53 + e.toNat = digits + (-e).toNat := by omega
  change n * 2 ^ (-e).toNat < 2 ^ 53 * (1 * 2 ^ e.toNat) ↔ _
  rw [Nat.one_mul, ← Nat.pow_add, hexponent, Nat.pow_add]
  exact Nat.mul_lt_mul_right (Nat.two_pow_pos _)

/-- Whole numbers are rounded to their first 53 binary digits. -/
lemma nearestBits_one {n : ℕ} (hn : n ≠ 0) :
    nearestBits n 1 = min (0x7ff * 2 ^ 52) ((n.log2 + 1022) * 2 ^ 52 +
      roundHalfEven (n * 2 ^ (52 - n.log2)) (2 ^ (n.log2 - 52))) := by
  have hlow : ¬ n < 2 ^ n.log2 := (Nat.log2_self_le hn).not_gt
  have hhigh : n < 2 ^ (n.log2 + 1) := Nat.lt_log2_self
  have hone : ((1 : ℕ).log2 : ℤ) = 0 := by decide
  rw [nearestBits, if_neg hn, hone, sub_zero]
  -- the first guess of the place is one too low, whatever the number
  have hrough := digits_fit_iff (n := n) (show 53 + ((n.log2 : ℤ) - 53) = n.log2 by omega)
  have hnext :=
    digits_fit_iff (n := n) (show 53 + ((n.log2 : ℤ) - 53 + 1) = (n.log2 + 1 : ℕ) by omega)
  have hplace : max (-1074) ((n.log2 : ℤ) - 53 + 1) = n.log2 - 52 := by omega
  simp only [hrough, hnext, hlow, hhigh, decide_false, decide_true, Bool.false_eq_true, if_false,
    if_true]
  rw [hplace, Nat.one_mul]
  have hleft : (-((n.log2 : ℤ) - 52)).toNat = 52 - n.log2 := by omega
  have hright : ((n.log2 : ℤ) - 52).toNat = n.log2 - 52 := by omega
  have hexponent : ((n.log2 : ℤ) - 52 + 1074).toNat = n.log2 + 1022 := by omega
  rw [hleft, hright, hexponent]
  rfl

/-- The whole part of the first 53 binary digits. -/
lemma leadingDigits_bounds {n : ℕ} (hn : n ≠ 0) :
    2 ^ 52 ≤ n * 2 ^ (52 - n.log2) / 2 ^ (n.log2 - 52) ∧
      n * 2 ^ (52 - n.log2) / 2 ^ (n.log2 - 52) < 2 ^ 53 := by
  have hlow : 2 ^ n.log2 ≤ n := Nat.log2_self_le hn
  have hhigh : n < 2 ^ (n.log2 + 1) := Nat.lt_log2_self
  constructor
  · refine (Nat.le_div_iff_mul_le (Nat.two_pow_pos _)).mpr ?_
    calc 2 ^ 52 * 2 ^ (n.log2 - 52) = 2 ^ n.log2 * 2 ^ (52 - n.log2) := by
          rw [← Nat.pow_add, ← Nat.pow_add]
          congr 1
          omega
      _ ≤ n * 2 ^ (52 - n.log2) := Nat.mul_le_mul_right _ hlow
  · refine Nat.div_lt_of_lt_mul ?_
    calc n * 2 ^ (52 - n.log2) < 2 ^ (n.log2 + 1) * 2 ^ (52 - n.log2) :=
          Nat.mul_lt_mul_of_pos_right hhigh (Nat.two_pow_pos _)
      _ = 2 ^ (n.log2 - 52) * 2 ^ 53 := by
          rw [← Nat.pow_add, ← Nat.pow_add]
          congr 1
          omega

lemma nearestBits_one_eq_infinity (n : ℕ) :
    nearestBits n 1 = 0x7ff * 2 ^ 52 ↔ 2 ^ 1024 ≤ n + 2 ^ 970 := by
  have hpower : 2 ^ 1024 = 2 ^ 54 * 2 ^ 970 := by rw [← Nat.pow_add]
  by_cases hn : n = 0
  · have hpos : 0 < 2 ^ 970 := pow_pos Nat.two_pos 970
    rw [hn, hpower]
    generalize 2 ^ 970 = half at *
    exact iff_of_false (by decide) (by omega)
  rw [nearestBits_one hn, min_eq_left_iff]
  obtain ⟨hleast, hmost⟩ := leadingDigits_bounds hn
  have hround_le := roundHalfEven_le (n * 2 ^ (52 - n.log2)) (2 ^ (n.log2 - 52))
  have hle_round := le_roundHalfEven (n * 2 ^ (52 - n.log2)) (2 ^ (n.log2 - 52))
  rcases lt_trichotomy n.log2 1023 with hlog | hlog | hlog
  · -- a number of fewer digits is below the middle
    have hsmall : n < 2 ^ 53 * 2 ^ 970 := by
      have hpowers : 2 ^ (n.log2 + 1) ≤ 2 ^ (53 + 970) := pow_le_pow_right₀ one_le_two hlog
      rw [← pow_add]
      exact lt_of_lt_of_le Nat.lt_log2_self hpowers
    rw [hpower]
    generalize 2 ^ 970 = half at *
    exact iff_of_false (by omega) (by omega)
  · have hdouble : 2 ^ (n.log2 - 52) = 2 * 2 ^ 970 := by
      rw [hlog, ← pow_succ']
    have hwhole : 52 - n.log2 = 0 := by omega
    have hhalf := le_roundHalfEven_iff (n := n) (k := 2 ^ 53) (Nat.two_pow_pos (n.log2 - 52)) rfl
    rw [hwhole, Nat.pow_zero, Nat.mul_one, hpower]
    generalize 2 ^ 970 = half at *
    omega
  · -- a number of more digits is beyond the largest double
    have hlarge : 2 ^ 54 * 2 ^ 970 ≤ n := by
      have hpowers : 2 ^ (54 + 970) ≤ 2 ^ n.log2 := pow_le_pow_right₀ one_le_two hlog
      rw [← pow_add]
      exact hpowers.trans (Nat.log2_self_le hn)
    rw [hpower]
    generalize 2 ^ 970 = half at *
    exact iff_of_true (by omega) (by omega)

/-- Whole numbers without a double next to them. -/
theorem ofInt?_eq_none {n : ℤ} : ofInt? n = none ↔ 2 ^ 1024 ≤ n.natAbs + 2 ^ 970 := by
  unfold ofInt?
  rw [ite_eq_left_iff]
  simp only [reduceCtorEq, imp_false, not_not]
  exact nearestBits_one_eq_infinity n.natAbs

lemma exists_ofInt? {n : ℤ} (h : n.natAbs < 2 ^ 1023) : ∃ x, ofInt? n = some x := by
  refine Option.ne_none_iff_exists'.mp fun hnone => ?_
  have hlarge : 2 ^ 1024 ≤ n.natAbs + 2 ^ 970 := ofInt?_eq_none.mp hnone
  have hdouble : 2 ^ 1024 = 2 * 2 ^ 1023 := by rw [← pow_succ']
  have hmiddle : 2 ^ 970 ≤ 2 ^ 1023 := pow_le_pow_right₀ one_le_two (by decide)
  rw [hdouble] at hlarge
  generalize 2 ^ 970 = half at *
  generalize 2 ^ 1023 = middle at *
  omega

/-! ## Results that are no number -/

/-- Doubles are compared by what they are unpacked to. -/
lemma lt_iff_unpack {x y : Float} : x < y ↔ x.toModel.unpack.lt y.toModel.unpack = true := by
  change decide (x.toModel < y.toModel) = true ↔ _
  exact decide_eq_true_iff

end CardDrawing.Proofs
