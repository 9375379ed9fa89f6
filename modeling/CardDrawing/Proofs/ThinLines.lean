import CardDrawing.Picture.Canvas
import Mathlib

/-!
# Thin lines

The pixels of a thin line lie in the box of its ends: with every pixel the line takes one step along
its long side, and it does not step aside more often than its short side is long.
-/

namespace CardDrawing

namespace Canvas

/-- Where some steps along a course and some steps aside lead. -/
def Course.place (c : Course) (here : Point) (along aside : ℕ) : Point :=
  (here.1 + along * c.along.1 + aside * c.aside.1, here.2 + along * c.along.2 + aside * c.aside.2)

/-- A pixel lies in the box of two others. -/
def InBox (start stop p : Point) : Prop :=
  p.1 ∈ Set.uIcc start.1 stop.1 ∧ p.2 ∈ Set.uIcc start.2 stop.2

end Canvas

namespace Proofs
open Canvas

/-! ## Steps -/

lemma place_zero (c : Course) (here : Point) : c.place here 0 0 = here := by
  simp [Course.place]

/-- A step along, after which more steps are taken. -/
lemma place_ahead (c : Course) (here : Point) (along aside : ℕ) :
    c.place (here.1 + c.along.1, here.2 + c.along.2) along aside =
      c.place here (along + 1) aside := by
  simp only [Course.place, Nat.cast_add, Nat.cast_one, Prod.mk.injEq]
  constructor <;> ring

/-- A step along and one aside, after which more steps are taken. -/
lemma place_beside (c : Course) (here : Point) (along aside : ℕ) :
    c.place (here.1 + c.along.1 + c.aside.1, here.2 + c.along.2 + c.aside.2) along aside =
      c.place here (along + 1) (aside + 1) := by
  simp only [Course.place, Nat.cast_add, Nat.cast_one, Prod.mk.injEq]
  constructor <;> ring

/-- A walk steps along with every pixel, and aside as often as its error allows. -/
lemma mem_walk {c : Course} {error : ℤ} {here p : Point} {n : ℕ} (hgain : 0 ≤ c.gain)
    (herror : c.gain ≤ error + c.full) (hp : p ∈ walk c error here n) :
    ∃ along aside : ℕ, p = c.place here along aside ∧ along < n ∧
      aside * c.full ≤ error + c.full + (along - 1) * c.gain := by
  induction n generalizing error here with
  | zero => cases hp
  | succ n ih =>
    rw [walk, List.mem_cons] at hp
    rcases hp with rfl | hp
    · exact ⟨0, 0, (place_zero c p).symm, Nat.succ_pos n, by push_cast; linarith⟩
    split_ifs at hp with hstep
    · obtain ⟨along, aside, rfl, hlt, hle⟩ := ih (by linarith) hp
      refine ⟨along + 1, aside + 1, place_beside c here along aside, Nat.succ_lt_succ hlt, ?_⟩
      push_cast
      linarith
    · obtain ⟨along, aside, rfl, hlt, hle⟩ := ih (by linarith) hp
      refine ⟨along + 1, aside, place_ahead c here along aside, Nat.succ_lt_succ hlt, ?_⟩
      push_cast
      linarith

/-! ## Lines -/

/-- A line takes no more steps along than its long side has, and none more aside than its short
side has. -/
lemma exists_steps {along aside here p : Point} {long short : ℕ} (hsides : short ≤ long)
    (hp : p ∈ walk ⟨along, aside, 2 * short, 2 * long⟩ (2 * short - long) here long) :
    ∃ i ≤ long, ∃ j ≤ short, p = Course.place ⟨along, aside, 2 * short, 2 * long⟩ here i j := by
  obtain ⟨i, j, rfl, hi, hle⟩ := mem_walk (by positivity) (by dsimp only; omega) hp
  refine ⟨i, hi.le, j, ?_, rfl⟩
  by_contra hmore
  have haside : ((short : ℤ) + 1) * (2 * long) ≤ j * (2 * long) :=
    mul_le_mul_of_nonneg_right (by omega) (by positivity)
  have halong : ((i : ℤ) - 1) * (2 * short) ≤ (long - 2) * (2 * short) :=
    mul_le_mul_of_nonneg_right (by omega) (by positivity)
  linarith

/-- Steps toward a place do not lead beyond it. -/
lemma steps_between {n : ℕ} {a b : ℤ} (h : n ≤ (b - a).natAbs) :
    a + n * (b - a).sign ∈ Set.uIcc a b := by
  rw [Set.mem_uIcc]
  rcases lt_trichotomy (b - a) 0 with hd | hd | hd
  · rw [Int.sign_eq_neg_one_of_neg hd]
    omega
  · rw [hd, Int.sign_zero]
    omega
  · rw [Int.sign_eq_one_of_pos hd]
    omega

lemma inBox_of_mem_thinLine {start stop p : Point} (hp : p ∈ thinLine start stop) :
    InBox start stop p := by
  unfold thinLine at hp
  dsimp only at hp
  rw [Int.toNat_natCast, Int.toNat_natCast] at hp
  split_ifs at hp with hwide
  · obtain ⟨i, hi, j, hj, rfl⟩ := exists_steps (by omega) hp
    simp only [InBox, Course.place, mul_zero, add_zero]
    exact ⟨steps_between hi, steps_between hj⟩
  · obtain ⟨i, hi, j, hj, rfl⟩ := exists_steps (by omega) hp
    simp only [InBox, Course.place, mul_zero, add_zero]
    exact ⟨steps_between hj, steps_between hi⟩

/-- The pixels of a thin line, its last one included. -/
theorem inBox_of_mem_thinPath {start stop p : Point} (hp : p ∈ thinPath [start, stop]) :
    InBox start stop p := by
  rw [thinPath, List.mem_append] at hp
  rcases hp with hp | hp
  · exact inBox_of_mem_thinLine hp
  · obtain rfl := List.mem_singleton.mp hp
    exact ⟨Set.right_mem_uIcc, Set.right_mem_uIcc⟩

end Proofs

end CardDrawing
