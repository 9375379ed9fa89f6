import CardDrawing.Proofs.ScheduleSafety

/-!
# The order of a lane

Whatever happens between them, the items of a lane are started in the order of the lane: those
that have been started are always its first ones.
-/

namespace CardDrawing.Proofs
open Schedule

variable {ι ρ ε : Type} {answer : ι → Except ε ρ} {bound : Nat} {work : List (List ι)}

/-- A step starts nothing, or it starts one item and does nothing else that shows. -/
lemma step_started {s t : State ι ρ ε} (h : Step answer s t) :
    started t.history = started s.history ∨ ∃ item, t.history = s.history ++ [.start item] := by
  have hproceed (u : State ι ρ ε) (lane : Lane ι) : (u.proceed lane).history = u.history ∨
      ∃ item, (u.proceed lane).history = u.history ++ [.start item] := by
    rcases proceed_cases u lane with ⟨item, rest, -, -, he⟩ | ⟨-, he⟩ <;> rw [he]
    · exact .inr ⟨item, rfl⟩
    · exact .inl rfl
  cases h with
  | enter h =>
    obtain ⟨lane, waiting, free, -, -, rfl⟩ := enter?_eq_some h
    exact .inl rfl
  | @begin lane called _ =>
    exact (hproceed { s with called } lane).imp_left fun he => by rw [he]
  | @resume lane before after _ =>
    exact (hproceed { s with idle := before ++ after } lane).imp_left fun he => by rw [he]
  | @complete flight _ =>
    cases answer flight.item with
    | ok result => simp [State.complete, State.finish]
    | error why => simp [State.complete, State.fail]
  | cancel _ => simp [State.cancelAll]

/-- The items of a lane that come before a new one, if its predecessor is among them. -/
lemma eq_of_prefix_of_new {firsts done rest : List ι} {item : ι}
    (hn : (done ++ item :: rest).Nodup) (hp : firsts <+: done ++ item :: rest)
    (hnew : item ∉ firsts) (hprev : ∀ before prev, done = before ++ [prev] → prev ∈ firsts) :
    firsts = done := by
  rcases List.prefix_or_prefix_of_prefix hp (List.prefix_append done _) with hle | ⟨more, rfl⟩
  · rcases List.eq_nil_or_concat done with rfl | ⟨before, prev, he⟩
    · exact List.prefix_nil.mp hle
    · rw [List.concat_eq_append] at he
      rw [he] at hle
      refine (List.prefix_concat_iff.mp hle).elim (fun h => h.trans he.symm) fun hlt => ?_
      have hmem := hlt.subset (hprev before prev he)
      rw [he, List.append_assoc] at hn
      exact (List.disjoint_of_nodup_append hn hmem (by simp)).elim
  · cases more with
    | nil => exact List.append_nil done
    | cons x more =>
      have hx := (List.cons_prefix_cons.mp ((List.prefix_append_right_inj done).mp hp)).1
      exact (hnew (by simp [hx])).elim

/-- Where an item has been started, the one before it in its lane has finished. -/
lemma Orderly.finished_of_started {history : List (Event ι)} (h : Orderly work history)
    {done rest : List ι} {prev item : ι} (hl : done ++ prev :: item :: rest ∈ work)
    (hi : item ∈ started history) : prev ∈ finished history := by
  obtain ⟨before, after, rfl⟩ := List.append_of_mem (mem_started.mp hi)
  have hp : before ++ [.start item] <+: before ++ .start item :: after := ⟨after, by simp⟩
  rw [finished_append]
  exact List.mem_append_left _ ((h before item hp).follows done prev rest hl)

variable [DecidableEq ι]

/-- The items of a lane that have been started are its first ones, in order. -/
theorem reachable_started_prefix (hw : work.flatten.Nodup) (hne : [] ∉ work) {s : State ι ρ ε}
    (h : Reachable answer bound work s) {lane : List ι} (hl : lane ∈ work) :
    (started s.history).filter (· ∈ lane) <+: lane := by
  induction h with
  | refl => exact List.nil_prefix
  | @step t u hrun hst ih =>
    rcases step_started hst with he | ⟨item, he⟩
    · rwa [he]
    rw [he, started_append, started_start, List.filter_append]
    by_cases hi : item ∈ lane
    · have ht := reachable_lawful hw hne hrun
      obtain ⟨k, hk, -⟩ := (reachable_lawful hw hne (hrun.step hst)).ordered
      have hj := hk.orderly t.history item (he ▸ List.prefix_rfl)
      obtain ⟨done, rest, rfl⟩ := List.append_of_mem hi
      have hdone := eq_of_prefix_of_new ((List.nodup_flatten.mp hw).1 _ hl) ih
        (fun hm => hj.fresh (List.mem_of_mem_filter hm)) fun before prev hd => by
          have hfin := hj.follows before prev rest (by simpa [hd] using hl)
          simpa [hd] using mem_started.mp (ht.counted.started_of_finished hfin)
      rw [hdone]
      simp
    · simpa [hi] using ih

/-- A lane that has begun has started its first item. -/
lemma first_started (hw : work.flatten.Nodup) (hne : [] ∉ work) {s : State ι ρ ε}
    (h : Reachable answer bound work s) {first item : ι} {rest : List ι}
    (hl : first :: rest ∈ work) (hi : item ∈ first :: rest) (hs : item ∈ started s.history) :
    first ∈ started s.history := by
  have hp := reachable_started_prefix hw hne h hl
  have hm : item ∈ (started s.history).filter (· ∈ first :: rest) :=
    List.mem_filter.mpr ⟨hs, decide_eq_true hi⟩
  cases hf : (started s.history).filter (· ∈ first :: rest) with
  | nil =>
    rw [hf] at hm
    cases hm
  | cons x xs =>
    rw [hf] at hp
    have hx : first ∈ (started s.history).filter (· ∈ first :: rest) := by
      rw [hf, (List.cons_prefix_cons.mp hp).1]
      exact List.mem_cons_self
    exact List.mem_of_mem_filter hx

end CardDrawing.Proofs
