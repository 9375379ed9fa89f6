import CardDrawing.Proofs.ScheduleSafety

/-!
# Schedules come to an end

With a slot to spare, a schedule in which some lane is left can go on, and however it goes on it
comes closer to its end.
-/

namespace CardDrawing.Proofs
open Schedule

variable {ι ρ ε : Type} {answer : ι → Except ε ρ} {bound : Nat} {work : List (List ι)}

/-- However the schedule goes on, it comes to a state in which no lane is left. -/
inductive Ends (answer : ι → Except ε ρ) : State ι ρ ε → Prop where
  | over {s : State ι ρ ε} : s.Over → Ends answer s
  | later {s : State ι ρ ε} : (∃ t, Step answer s t) → (∀ t, Step answer s t → Ends answer t) →
      Ends answer s

/-- How far a schedule is from its end at most. -/
def weight (s : State ι ρ ε) : Nat :=
  2 * (leftOf s).length + 3 * s.waiting.length + 2 * (s.called.length + s.idle.length) +
    3 * s.running.length

lemma leftOf_length (s : State ι ρ ε) : (leftOf s).length =
    (s.called.flatMap Lane.items).length + (s.waiting.flatMap Lane.items).length +
      (s.idle.flatMap Lane.items).length + (s.running.flatMap Flight.rest).length := by
  simp [leftOf, Nat.add_assoc]

/-- The lane in hand and its items do not count in `s`. -/
lemma weight_proceed (s : State ι ρ ε) (lane : Lane ι) :
    weight (s.proceed lane) < weight s + 2 * lane.items.length + 2 := by
  rcases proceed_cases s lane with ⟨item, rest, hi, -, he⟩ | ⟨-, he⟩ <;> rw [he]
  · have hleft := (leftOf_launch s lane.number item rest).length_eq
    have hrun := (insertFlight_perm { number := lane.number, item, rest } s.running).length_eq
    rw [List.length_append] at hleft
    rw [List.length_cons] at hrun
    rw [hi, List.length_cons]
    simp only [weight, hleft]
    simp only [State.launch, hrun]
    omega
  · change weight s < _
    omega

lemma step_weight {s t : State ι ρ ε} (h : Step answer s t) (hp : Placed bound s) (ho : ¬ s.Over) :
    weight t < weight s := by
  cases h with
  | enter h =>
    obtain ⟨lane, waiting, free, hw, -, rfl⟩ := enter?_eq_some h
    simp only [weight, leftOf_length, hw, List.flatMap_append, List.flatMap_cons,
      List.flatMap_nil, List.append_nil, List.length_append, List.length_cons, List.length_nil]
    omega
  | @begin lane called hc =>
    refine Nat.lt_of_lt_of_le (weight_proceed { s with called } lane) ?_
    simp only [weight, leftOf_length, hc, List.flatMap_cons, List.length_append, List.length_cons]
    omega
  | @resume lane before after hidle =>
    refine Nat.lt_of_lt_of_le (weight_proceed { s with idle := before ++ after } lane) ?_
    simp only [weight, leftOf_length, hidle, List.flatMap_append, List.flatMap_cons,
      List.length_append, List.length_cons]
    omega
  | @complete flight hm =>
    have hrun := running_perm_withoutFlight hp.running hm
    have hlen := hrun.length_eq
    rw [List.length_cons] at hlen
    cases answer flight.item with
    | ok result =>
      have hleft := (leftOf_finish result hrun).length_eq
      simp only [State.complete, weight, hleft]
      simp only [State.finish, List.length_append, List.length_singleton]
      omega
    | error why =>
      have hrest := (hrun.flatMap_right Flight.rest).length_eq
      rw [List.flatMap_cons, List.length_append] at hrest
      simp only [State.complete, State.fail, weight, leftOf_length]
      omega
  | cancel _ =>
    have hzero : weight s.cancelAll = 0 := rfl
    rw [hzero]
    by_contra hle
    have hs : weight s = 0 := by omega
    simp only [weight] at hs
    refine ho ⟨?_, ?_, ?_, ?_⟩ <;> apply List.eq_nil_of_length_eq_zero <;> omega

/-- With a slot to spare, a lane that cannot go on waits for an item to end. -/
lemma over_of_running_nil {s : State ι ρ ε} (hb : 1 ≤ bound) (hp : Placed bound s)
    (hs : s.advance? = none) (hr : s.running = []) : s.Over := by
  obtain ⟨hidle, hcalled, hline⟩ := advance?_eq_none.mp hs
  have hslots := hp.slots
  simp only [hidle, hcalled, hr, List.length_nil, Nat.add_zero] at hslots
  exact ⟨hline.resolve_right (by omega), hcalled, hidle, hr⟩

/-- As long as a lane is left, a schedule with a slot can go on. -/
lemma exists_step {s : State ι ρ ε} (hb : 1 ≤ bound) (hp : Placed bound s) (ho : ¬ s.Over) :
    ∃ t, Step answer s t := by
  cases hrun : s.running with
  | cons flight rest => exact ⟨_, .complete (hrun ▸ List.mem_cons_self)⟩
  | nil =>
    cases hnext : s.advance? with
    | some t => exact ⟨t, step_of_advance? hnext⟩
    | none => exact (ho (over_of_running_nil hb hp hnext hrun)).elim

theorem placed_ends {s : State ι ρ ε} (hb : 1 ≤ bound) (hp : Placed bound s) : Ends answer s := by
  induction hw : weight s using Nat.strong_induction_on generalizing s with
  | _ n ih =>
    by_cases ho : s.Over
    · exact .over ho
    · refine .later (exists_step hb hp ho) fun t ht => ?_
      exact ih (weight t) (hw ▸ step_weight ht hp ho) (step_placed ht hp) rfl

end CardDrawing.Proofs
