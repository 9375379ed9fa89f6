import CardDrawing.Proofs.Outcomes

/-!
# Failures of one sort

Which errors a sequence of steps can come to: the errors of its steps, and no others. Some errors
are internal: they come from checks of what holds anyway, that a field stands under its own id, that
a selection is made of whole numbers, that what draws has a way to draw.
-/

namespace CardDrawing.Proofs

variable {α β : Type} {P Q : Error → Prop}

/-- Whatever error the steps come to is of the given sort. -/
def FailsOnly (P : Error → Prop) (x : Except Error α) : Prop :=
  ∀ why, x = .error why → P why

namespace FailsOnly

lemma ok {a : α} : FailsOnly P (.ok a) := by
  intro why h
  cases h

lemma error {why : Error} (h : P why) : FailsOnly P (.error why : Except Error α) := by
  intro why' h'
  cases h'
  exact h

lemma imp {x : Except Error α} (h : FailsOnly P x) (hp : ∀ why, P why → Q why) : FailsOnly Q x :=
  fun why hx => hp why (h why hx)

lemma bind {x : Except Error α} {f : α → Except Error β} (hx : FailsOnly P x)
    (hf : ∀ a, x = .ok a → FailsOnly P (f a)) : FailsOnly P (x >>= f) := by
  intro why h
  rcases bind_eq_error.mp h with h | ⟨a, ha, h⟩
  · exact hx why h
  · exact hf a ha why h

lemma map {x : Except Error α} (f : α → β) (hx : FailsOnly P x) : FailsOnly P (f <$> x) :=
  fun why h => hx why (map_eq_error.mp h)

lemma mapM {f : α → Except Error β} {l : List α} (hf : ∀ x ∈ l, FailsOnly P (f x)) :
    FailsOnly P (l.mapM f) := by
  intro why h
  obtain ⟨before, x, after, rfl, -, hx⟩ := mapM_eq_error.mp h
  exact hf x (List.mem_append_right before List.mem_cons_self) why hx

lemma ite {p : Prop} [Decidable p] {x y : Except Error α} (hx : p → FailsOnly P x)
    (hy : ¬ p → FailsOnly P y) : FailsOnly P (if p then x else y) := by
  split
  · exact hx ‹p›
  · exact hy ‹¬ p›

end FailsOnly

/-! ## Sorts of errors -/

/-- The error of a check that no document can fail. -/
def isInternal : Error → Bool
  | .keyMismatch _ _ | .invalidTag _ | .unsupportedChoiceIndex _ | .unsupportedPrimitive _ => true
  | .choiceOfField _ why => isInternal why
  | _ => false

/-- An error that has its cause in a document or outside. -/
def Regular (why : Error) : Prop := isInternal why = false

/-- An error that a caller tells by its kind as one of this compiler. -/
def Own (why : Error) : Prop := why.kind.isOwn = true

/-- An error of one kind, and of no internal check. -/
structure Told (sort : ErrorKind) (why : Error) : Prop where
  kind : why.kind = sort
  regular : Regular why

/-- An error of this compiler, and of no internal check. -/
structure Reported (why : Error) : Prop where
  own : Own why
  regular : Regular why

/-- An error of another kind that is passed on as it is, and of no internal check. -/
structure Foreign (why : Error) : Prop where
  notOwn : ¬ Own why
  regular : Regular why

lemma Told.reported {sort : ErrorKind} (h : sort.isOwn = true) :
    ∀ why, Told sort why → Reported why := by
  rintro why ⟨rfl, hregular⟩
  exact ⟨h, hregular⟩

/-! ## The failure of steps -/

/-- The error that steps come to, if they fail. -/
def failure? (x : Except Error α) : Option Error :=
  match x with
  | .ok _ => none
  | .error why => some why

lemma failure?_eq_some {x : Except Error α} {why : Error} :
    failure? x = some why ↔ x = .error why := by
  cases x <;> simp [failure?]

lemma failure?_eq_none {x : Except Error α} : failure? x = none ↔ ∃ a, x = .ok a := by
  cases x <;> simp [failure?]

/-- Steps that fail in the same way whatever comes before them. -/
lemma failure?_bind {x : Except Error α} {f : α → Except Error β} {later : Option Error}
    (h : ∀ a, failure? (f a) = later) : failure? (x >>= f) = (failure? x).or later := by
  cases x with
  | ok a => exact h a
  | error why => rfl

lemma failure?_map {x : Except Error α} (f : α → β) : failure? (f <$> x) = failure? x := by
  cases x <;> rfl

/-- A list of steps fails as the first of them that fails. -/
lemma failure?_mapM {f : α → Except Error β} (l : List α) :
    failure? (l.mapM f) = l.findSome? fun x => failure? (f x) := by
  induction l with
  | nil => rfl
  | cons x l ih =>
    have hlater (y : β) :
        failure? (do let ys ← l.mapM f; pure (y :: ys)) = failure? (l.mapM f) := by
      rw [bind_pure_comp, failure?_map]
    rw [List.mapM_cons, failure?_bind hlater, ih, List.findSome?_cons]
    cases failure? (f x) <;> rfl

end CardDrawing.Proofs
