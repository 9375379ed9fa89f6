import CardDrawing.Proofs.DoubleUnits
import CardDrawing.Proofs.ExactArithmetic

/-!
# Exact values of numbers

Whole and floating numbers are compared, rounded and cut by their exact values: what comes of
comparisons and whole parts alone is what comes of them in exact ratios, without any error.
-/

namespace CardDrawing

/-- Whole numbers are finite, and floating ones are unless they are infinite or no number. -/
def Number.IsFinite : Number → Prop
  | .int _ => True
  | .real x => x.isFinite

instance : DecidablePred Number.IsFinite
  | .int _ => .isTrue trivial
  | .real x => inferInstanceAs (Decidable (x.isFinite = true))

namespace Proofs

/-! ## Finite doubles -/

section

variable {x : Float} {q : ℚ}

lemma exactValue?_real : exactValue? (.real x) = some q ↔
    x.isFinite ∧ (signedMantissa x : ℚ) * 2 ^ exponentOf x = q := by
  have hvalue : exactValue? (.real x) = if x.isNaN || x.isInf then none else
      some ((signedMantissa x : ℚ) * 2 ^ exponentOf x) := rfl
  rw [hvalue, isNaN_or_isInf]
  cases x.isFinite <;> simp

lemma cast_power (k : ℕ) : ((Nat.pow 2 k : ℕ) : ℚ) = 2 ^ (k : ℤ) := by
  rw [zpow_natCast]
  exact Nat.cast_pow 2 k

/-- A finite double is so many of the smallest one. -/
lemma scaled_exact {k : ℕ} (hk : 1074 = k) (hx : exactValue? (.real x) = some q) :
    (Number.scaled x : ℚ) = q * (Nat.pow 2 k : ℕ) := by
  obtain ⟨-, rfl⟩ := exactValue?_real.mp hx
  have hlowest := lowest_le_exponent x
  have hplaces : ((exponentOf x + 1074).toNat : ℤ) = exponentOf x + k := by omega
  rw [scaled_eq, Int.cast_mul, Int.cast_pow, ← zpow_natCast, hplaces, Int.cast_ofNat,
    zpow_add₀ two_ne_zero, cast_power, mul_assoc]

/-- Taking a ratio to a whole number in a way that does not depend on common factors. -/
structure OfRatio (f : ℤ → ℤ → ℤ) : Prop where
  reduced : ∀ c n d, 0 < c → 0 < d → f (c * n) (c * d) = f n d
  whole : ∀ n, f n 1 = n

/-- A finite double is taken to the whole number that its exact value is taken to. -/
lemma wholeWith_exact {f : ℤ → ℤ → ℤ} (hf : OfRatio f) (hx : exactValue? (.real x) = some q) :
    Number.wholeWith f x = .ok (f q.num q.den) := by
  obtain ⟨hfinite, rfl⟩ := exactValue?_real.mp hx
  obtain ⟨hnan, hinf⟩ := kind_of_isFinite hfinite
  have hwhole : Number.wholeWith f x = if 0 ≤ exponentOf x then
      .ok (signedMantissa x * Nat.pow 2 (exponentOf x).toNat)
      else .ok (f (signedMantissa x) (Nat.pow 2 (-exponentOf x).toNat)) := by
    unfold Number.wholeWith
    rw [hnan, hinf]
    rfl
  rw [hwhole]
  generalize signedMantissa x = n
  generalize exponentOf x = e
  split_ifs with he
  · obtain ⟨k, rfl⟩ := Int.eq_ofNat_of_zero_le he
    have hvalue : (n : ℚ) * 2 ^ (k : ℤ) = (n * 2 ^ k : ℤ) := by push_cast; rw [zpow_natCast]
    rw [hvalue, Rat.num_intCast, Rat.den_intCast, Nat.cast_one, hf.whole]
    rfl
  · obtain ⟨k, hk⟩ := Int.eq_ofNat_of_zero_le (neg_nonneg.mpr (not_le.mp he).le)
    have hd : (0 : ℤ) < 2 ^ k := by positivity
    have hvalue : (n : ℚ) * 2 ^ e = n / (2 ^ k : ℤ) := by
      rw [← neg_neg e, hk, zpow_neg, zpow_natCast]
      push_cast
      rfl
    rw [hvalue, hk]
    obtain ⟨c, hnum, hden⟩ := Rat.exists_eq_mul_div_num_and_eq_mul_div_den n hd.ne'
    generalize (n : ℚ) / (2 ^ k : ℤ) = q at hnum hden ⊢
    have hpos : (0 : ℤ) < q.den := Int.natCast_pos.mpr q.pos
    have hc : 0 < c := (mul_pos_iff_of_pos_right hpos).mp (hden ▸ hd)
    have hpower : ((Nat.pow 2 (k : ℤ).toNat : ℕ) : ℤ) = 2 ^ k := Nat.cast_pow 2 k
    rw [hpower, hden, hnum, hf.reduced c _ _ hc hpos]

end

/-! ## Numbers -/

lemma exists_exactValue? {n : Number} (h : n.IsFinite) : ∃ q, exactValue? n = some q := by
  cases n with
  | int n => exact ⟨n, rfl⟩
  | real x => exact ⟨_, exactValue?_real.mpr ⟨h, rfl⟩⟩

section

variable {n a b : Number} {p q : ℚ}

lemma ofRatio_tdiv : OfRatio Int.tdiv where
  reduced _ n d hc _ := Int.mul_tdiv_mul_of_pos n d hc
  whole := Int.tdiv_one

lemma ofRatio_roundRatio : OfRatio Number.roundRatio where
  reduced c n d hc hd := by
    have htwice : 2 * (c * n - n.fdiv d * (c * d)) = c * (2 * (n - n.fdiv d * d)) := by ring
    unfold Number.roundRatio
    rw [Int.mul_fdiv_mul_of_pos n d hc]
    simp only [htwice, mul_lt_mul_iff_right₀ hc]
  whole n := by
    have htwice : 2 * (n - n.fdiv 1 * 1) < 1 := by
      rw [Int.fdiv_one, mul_one, sub_self, mul_zero]
      exact one_pos
    unfold Number.roundRatio
    dsimp only
    rw [if_pos htwice, Int.fdiv_one]

/-- Numbers are taken to whole ones as their exact values are. -/
lemma truncate_exact (h : exactValue? n = some q) : Scalar.truncate n = Scalar.truncate q := by
  cases n with
  | int n =>
    obtain rfl := Option.some.inj h
    exact congrArg Except.ok (ofRatio_tdiv.whole n).symm
  | real x => exact wholeWith_exact ofRatio_tdiv h

lemma round_exact (h : exactValue? n = some q) : Scalar.round n = Scalar.round q := by
  cases n with
  | int n =>
    obtain rfl := Option.some.inj h
    exact congrArg Except.ok (ofRatio_roundRatio.whole n).symm
  | real x => exact wholeWith_exact ofRatio_roundRatio h

/-- Numbers are compared as their exact values are. -/
lemma lt_exact (ha : exactValue? a = some p) (hb : exactValue? b = some q) :
    Scalar.lt a b = Scalar.lt p q := by
  -- the number of units in one is too large to compute with, and kept closed
  have hunit (k : ℕ) : (0 : ℚ) < (Nat.pow 2 k : ℕ) := cast_power k ▸ zpow_pos two_pos _
  change Number.lt a b = decide (p < q)
  cases a with
  | int m =>
    obtain rfl := Option.some.inj ha
    cases b with
    | int n =>
      obtain rfl := Option.some.inj hb
      exact decide_eq_decide.mpr Int.cast_lt.symm
    | real y =>
      obtain ⟨hnan, hinf⟩ := kind_of_isFinite (exactValue?_real.mp hb).1
      rw [Number.lt, hnan, hinf]
      refine decide_eq_decide.mpr ?_
      generalize hk : 1074 = k
      rw [← mul_lt_mul_iff_left₀ (hunit k), ← scaled_exact hk hb]
      exact_mod_cast Iff.rfl
  | real x =>
    have hx := (exactValue?_real.mp ha).1
    cases b with
    | int n =>
      obtain rfl := Option.some.inj hb
      obtain ⟨hnan, hinf⟩ := kind_of_isFinite hx
      rw [Number.lt, hnan, hinf]
      refine decide_eq_decide.mpr ?_
      generalize hk : 1074 = k
      rw [← mul_lt_mul_iff_left₀ (hunit k), ← scaled_exact hk ha]
      exact_mod_cast Iff.rfl
    | real y =>
      have hy := (exactValue?_real.mp hb).1
      refine decide_eq_decide.mpr ?_
      rw [lt_iff_scaled hx hy, ← mul_lt_mul_iff_left₀ (hunit 1074), ← scaled_exact rfl ha,
        ← scaled_exact rfl hb, Int.cast_lt]

lemma least_exact (ha : exactValue? a = some p) (hb : exactValue? b = some q) :
    exactValue? (Scalar.least a b) = some (Scalar.least p q) := by
  rw [Scalar.least, Scalar.least, lt_exact hb ha]
  split_ifs
  · exact hb
  · exact ha

lemma greatest_exact (ha : exactValue? a = some p) (hb : exactValue? b = some q) :
    exactValue? (Scalar.greatest a b) = some (Scalar.greatest p q) := by
  rw [Scalar.greatest, Scalar.greatest, lt_exact ha hb]
  split_ifs
  · exact hb
  · exact ha

end

/-! ## Whole numbers next to a ratio -/

/-- A whole number is the nearest one to a ratio, a half going to the even one. -/
structure RoundsTo (q : ℚ) (n : ℤ) : Prop where
  near : |q - n| ≤ 1 / 2
  even : |q - n| = 1 / 2 → Even n

/-- What a ratio is rounded to differs from it by at most a half, in whole numbers. -/
lemma roundRatio_near {n d : ℤ} (hd : 0 < d) :
    2 * |n - Number.roundRatio n d * d| ≤ d ∧
      (2 * |n - Number.roundRatio n d * d| = d → Even (Number.roundRatio n d)) := by
  have hq : n.fdiv d = n / d := Int.fdiv_eq_ediv_of_nonneg n hd.le
  have hrest : 0 ≤ n - n / d * d := sub_nonneg.mpr (Int.ediv_mul_le n hd.ne')
  have hrest' : n - n / d * d < d := by linarith [Int.lt_ediv_add_one_mul_self n hd]
  have hdown : |n - n / d * d| = n - n / d * d := abs_of_nonneg hrest
  have hup : |n - (n / d + 1) * d| = d - (n - n / d * d) := by
    rw [abs_of_nonpos (by linarith)]
    ring
  unfold Number.roundRatio
  rw [hq]
  dsimp only
  split_ifs with hbelow habove heven
  · rw [hdown]
    exact ⟨hbelow.le, fun hhalf => (hbelow.ne hhalf).elim⟩
  · rw [hup]
    exact ⟨by omega, fun hhalf => by omega⟩
  · rw [hdown]
    exact ⟨by omega, fun _ => Int.even_iff.mpr heven⟩
  · rw [hup]
    exact ⟨by omega, fun _ => Int.even_iff.mpr (by omega)⟩

/-- Ratios are rounded to the nearest whole number. -/
lemma roundsTo_roundRatio (q : ℚ) : RoundsTo q (Number.roundRatio q.num q.den) := by
  have hd : (0 : ℤ) < q.den := Int.natCast_pos.mpr q.pos
  have hd' : (0 : ℚ) < q.den := Nat.cast_pos.mpr q.pos
  obtain ⟨hnear, heven⟩ := roundRatio_near (n := q.num) hd
  generalize Number.roundRatio q.num q.den = n at hnear heven ⊢
  have hdistance : ((|q.num - n * q.den| : ℤ) : ℚ) = |q - n| * q.den := by
    rw [← abs_of_pos hd', ← abs_mul, sub_mul, Rat.mul_den_eq_num]
    push_cast
    rfl
  constructor
  · have hnear' : 2 * (|q - n| * q.den) ≤ q.den := by
      rw [← hdistance]
      exact_mod_cast hnear
    refine le_of_mul_le_mul_right ?_ hd'
    linarith
  · intro hhalf
    apply heven
    have hhalf' : 2 * (|q - n| * q.den) = q.den := by
      rw [hhalf]
      ring
    rw [← hdistance] at hhalf'
    exact_mod_cast hhalf'

/-- A ratio cut toward zero. -/
def wholePart (q : ℚ) : ℤ := q.num.tdiv q.den

lemma wholePart_of_nonneg {q : ℚ} (h : 0 ≤ q) : wholePart q = ⌊q⌋ := by
  rw [wholePart, Rat.floor_def', Int.tdiv_eq_ediv_of_nonneg (Rat.num_nonneg.mpr h)]

lemma wholePart_neg (q : ℚ) : wholePart (-q) = -wholePart q := by
  rw [wholePart, Rat.num_neg_eq_neg_num, Rat.den_neg_eq_den, Int.neg_tdiv, wholePart]

lemma wholePart_of_nonpos {q : ℚ} (h : q ≤ 0) : wholePart q = ⌈q⌉ := by
  rw [← neg_neg q, wholePart_neg, wholePart_of_nonneg (neg_nonneg.mpr h), Int.ceil_neg]

/-- Cutting moves a ratio by less than one, up if it is negative and down if not. -/
lemma wholePart_bounds (q : ℚ) : q - 1 < wholePart q ∧ wholePart q < q + 1 := by
  rcases le_total 0 q with h | h
  · rw [wholePart_of_nonneg h]
    exact ⟨Int.sub_one_lt_floor q, (Int.floor_le q).trans_lt (lt_add_one q)⟩
  · rw [wholePart_of_nonpos h]
    exact ⟨(sub_one_lt q).trans_le (Int.le_ceil q), Int.ceil_lt_add_one q⟩

end Proofs

end CardDrawing
