import CardDrawing.Value.Conversion
import CardDrawing.Proofs.Failures

/-!
# How numbers fail

Arithmetic fails for whole numbers that are too large for a floating one, and roundings for numbers
that no whole one is next to. A value that does not convert to a number is reported as the
conversion reports it.
-/

namespace CardDrawing.Proofs

/-- A whole number is too large for a floating one. -/
def TooLarge (why : Error) : Prop := ∃ n, Number.floatOfInt n = .error why

lemma TooLarge.eq {why : Error} (h : TooLarge why) : why = .intTooLarge := by
  obtain ⟨n, hn⟩ := h
  unfold Number.floatOfInt at hn
  split at hn
  · cases hn
  · exact (Except.error.inj hn).symm

/-! ## Arithmetic -/

section

variable (a b n : Number)

lemma toFloat_tooLarge : FailsOnly TooLarge n.toFloat := by
  cases n with
  | int m => exact fun why h => ⟨m, h⟩
  | real x => exact .ok

lemma withFloats_tooLarge (f : Float → Float → Float) :
    FailsOnly TooLarge (Number.withFloats f a b) :=
  .bind (toFloat_tooLarge a) fun _ _ => .bind (toFloat_tooLarge b) fun _ _ => .ok

lemma add_tooLarge : FailsOnly TooLarge (a.add b) := by
  unfold Number.add
  split
  · exact .ok
  · exact withFloats_tooLarge _ _ _

lemma sub_tooLarge : FailsOnly TooLarge (a.sub b) := by
  unfold Number.sub
  split
  · exact .ok
  · exact withFloats_tooLarge _ _ _

lemma mul_tooLarge : FailsOnly TooLarge (a.mul b) := by
  unfold Number.mul
  split
  · exact .ok
  · exact withFloats_tooLarge _ _ _

end

/-! ## Whole numbers -/

/-- A number has no whole number next to it. -/
inductive Endless : Error → Prop where
  | nan : Endless .nanToInt
  | infinity : Endless .infinityToInt

lemma wholeWith_endless (f : Int → Int → Int) (x : Float) :
    FailsOnly Endless (Number.wholeWith f x) := by
  refine .ite (fun _ => .error .nan) fun _ => ?_
  refine .ite (fun _ => .error .infinity) fun _ => ?_
  exact .ite (fun _ => .ok) fun _ => .ok

lemma truncate_endless (n : Number) : FailsOnly Endless n.truncate := by
  cases n with
  | int m => exact .ok
  | real x => exact wholeWith_endless _ x

lemma round_endless (n : Number) : FailsOnly Endless n.round := by
  cases n with
  | int m => exact .ok
  | real x => exact wholeWith_endless _ x

/-! ## Values -/

lemma TooLarge.foreign {why : Error} (h : TooLarge why) : Foreign why := by
  obtain rfl := h.eq
  exact ⟨Bool.false_ne_true, rfl⟩

lemma Endless.foreign {why : Error} (h : Endless why) : Foreign why := by
  cases h with
  | nan => exact ⟨Bool.false_ne_true, rfl⟩
  | infinity => exact ⟨Bool.false_ne_true, rfl⟩

lemma toFloat_foreign (v : Value) : FailsOnly Foreign v.toFloat := by
  cases v with
  | float x => exact .ok
  | int n => exact fun why h => TooLarge.foreign ⟨n, h⟩
  | bool b => exact .ok
  | text s =>
    unfold Value.toFloat
    dsimp only
    split
    · exact .ok
    · exact .error ⟨Bool.false_ne_true, rfl⟩
  | _ => exact .error ⟨Bool.false_ne_true, rfl⟩

lemma toInt_foreign (v : Value) : FailsOnly Foreign v.toInt := by
  cases v with
  | int n => exact .ok
  | float x => exact (truncate_endless (.real x)).imp fun _ => Endless.foreign
  | bool b => exact .ok
  | text s =>
    unfold Value.toInt
    dsimp only
    split
    · exact .ok
    · exact .error ⟨Bool.false_ne_true, rfl⟩
  | _ => exact .error ⟨Bool.false_ne_true, rfl⟩

end CardDrawing.Proofs
