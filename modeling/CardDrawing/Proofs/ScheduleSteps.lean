import CardDrawing.Schedule.History
import Mathlib

/-!
# Steps of a schedule

What one step can do to the slots, the line and the running items, in the form in which the
invariants of whole schedules use it.
-/

namespace CardDrawing.Proofs
open Schedule

variable {ι ρ ε : Type} {answer : ι → Except ε ρ}

/-- The lanes that have not come to an end, by number. -/
def numbersOf (s : State ι ρ ε) : List Nat :=
  (s.called ++ s.waiting ++ s.idle).map Lane.number ++ s.running.map Flight.number

/-- The items that are still to be started. -/
def leftOf (s : State ι ρ ε) : List ι :=
  (s.called ++ s.waiting ++ s.idle).flatMap Lane.items ++ s.running.flatMap Flight.rest

lemma insertFlight_perm (flight : Flight ι) (running : List (Flight ι)) :
    (State.insertFlight flight running).Perm (flight :: running) := by
  induction running with
  | nil => rfl
  | cons other rest ih =>
    rw [State.insertFlight]
    split
    · rfl
    · exact (ih.cons other).trans (.swap flight other rest)

lemma withoutFlight_eq_self {number : Nat} {running : List (Flight ι)}
    (h : number ∉ running.map Flight.number) : State.withoutFlight number running = running := by
  apply List.filter_eq_self.mpr
  intro flight hf
  simpa using fun he : flight.number = number => h (List.mem_map.mpr ⟨flight, hf, he⟩)

/-- A running item is taken out, and nothing else is. -/
lemma running_perm_withoutFlight {flight : Flight ι} {running : List (Flight ι)}
    (hn : (running.map Flight.number).Nodup) (hm : flight ∈ running) :
    running.Perm (flight :: State.withoutFlight flight.number running) := by
  induction running with
  | nil => cases hm
  | cons other rest ih =>
    rw [List.map_cons, List.nodup_cons] at hn
    rcases List.mem_cons.mp hm with rfl | hm
    · have hw : State.withoutFlight flight.number (flight :: rest) =
          State.withoutFlight flight.number rest := by
        simp [State.withoutFlight]
      rw [hw, withoutFlight_eq_self hn.1]
    · have hne : other.number ≠ flight.number :=
        fun he => hn.1 (he ▸ List.mem_map_of_mem hm)
      have hw : State.withoutFlight flight.number (other :: rest) =
          other :: State.withoutFlight flight.number rest := by
        simp [State.withoutFlight, hne]
      rw [hw]
      exact ((ih hn.2 hm).cons other).trans (.swap flight other _)

lemma enter?_eq_some {s t : State ι ρ ε} (h : s.enter? = some t) :
    ∃ lane waiting free, s.waiting = lane :: waiting ∧ s.free = free + 1 ∧
      t = { s with waiting, free, called := s.called ++ [lane] } := by
  unfold State.enter? at h
  split at h
  · rename_i lane waiting free hw hf
    exact ⟨lane, waiting, free, hw, hf, (Option.some.inj h).symm⟩
  · cases h

lemma enter?_eq_none {s : State ι ρ ε} : s.enter? = none ↔ s.waiting = [] ∨ s.free = 0 := by
  unfold State.enter?
  split
  · rename_i lane waiting free hw hf
    simp [hw, hf]
  · rename_i h
    cases hw : s.waiting with
    | nil => simp
    | cons lane waiting =>
      cases hf : s.free with
      | zero => simp
      | succ free => exact (h lane waiting free hw hf).elim

/-- A lane that goes on starts its next item if nothing has failed, and else gives its slot
back. -/
lemma proceed_cases (s : State ι ρ ε) (lane : Lane ι) :
    (∃ item rest, lane.items = item :: rest ∧ s.failure = none ∧
      s.proceed lane = s.launch lane.number item rest) ∨
    ((s.failure = none → lane.items = []) ∧ s.proceed lane = s.release) := by
  unfold State.proceed
  split
  · rename_i item rest hi hf
    exact .inl ⟨item, rest, hi, hf, rfl⟩
  · rename_i h
    refine .inr ⟨fun hf => ?_, rfl⟩
    cases hi : lane.items with
    | nil => rfl
    | cons item rest => exact (h item rest hi hf).elim

lemma step_of_advance? {s t : State ι ρ ε} (h : s.advance? = some t) : Step answer s t := by
  unfold State.advance? at h
  split at h
  · rename_i lane idle hidle
    cases h
    have hsplit : s.idle = [] ++ lane :: idle := hidle
    exact .resume hsplit
  · rename_i lane called hidle hcalled
    cases h
    exact .begin hcalled
  · exact .enter h

lemma advance?_eq_none {s : State ι ρ ε} :
    s.advance? = none ↔ s.idle = [] ∧ s.called = [] ∧ (s.waiting = [] ∨ s.free = 0) := by
  unfold State.advance?
  split <;> simp_all [enter?_eq_none]

/-! ## Runs -/

lemma run_trans {s t u : State ι ρ ε} (h : Run answer s t) (h' : Run answer t u) :
    Run answer s u := by
  induction h' with
  | refl => exact h
  | step _ hs ih => exact ih.step hs

lemma run_single {s t : State ι ρ ε} (h : Step answer s t) : Run answer s t :=
  (Run.refl s).step h

/-- What every step keeps, every run keeps. -/
lemma run_induction {P : State ι ρ ε → Prop} (hP : ∀ s t, Step answer s t → P s → P t)
    {s t : State ι ρ ε} (h : Run answer s t) (hs : P s) : P t := by
  induction h with
  | refl => exact hs
  | step _ hst ih => exact hP _ _ hst ih

lemma settle_of_advance? {s t : State ι ρ ε} (h : s.advance? = some t) :
    s.settle = t.settle := by
  rw [State.settle]
  split
  · rename_i u hu
    rw [Option.some.inj (hu.symm.trans h)]
  · rename_i hu
    exact (Option.some_ne_none _ (h.symm.trans hu)).elim

lemma settle_of_none {s : State ι ρ ε} (h : s.advance? = none) : s.settle = s := by
  rw [State.settle]
  split
  · rename_i u hu
    exact (Option.some_ne_none _ (hu.symm.trans h)).elim
  · rfl

lemma run_settle (s : State ι ρ ε) : Run answer s s.settle := by
  induction s using State.settle.induct with
  | case1 s t h ih =>
    rw [settle_of_advance? h]
    exact run_trans (run_single (step_of_advance? h)) ih
  | case2 s h =>
    rw [settle_of_none h]
    exact .refl s

/-- What can go on by itself has done so. -/
lemma advance?_settle (s : State ι ρ ε) : s.settle.advance? = none := by
  induction s using State.settle.induct with
  | case1 s t h ih => rwa [settle_of_advance? h]
  | case2 s h => rwa [settle_of_none h]

end CardDrawing.Proofs
