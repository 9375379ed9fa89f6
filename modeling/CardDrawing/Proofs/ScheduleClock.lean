import CardDrawing.Proofs.ScheduleProgress
import CardDrawing.Schedule.Clock

/-!
# Schedules on a clock are schedules

Every state that the clock shows is reachable, its log is the history with times, and it stops
when the schedule is over: with a slot to spare there is always a next item to end.
-/

namespace CardDrawing.Proofs
open Schedule
open scoped List

variable {ι ρ ε τ : Type} {answer : ι → Except ε ρ} {bound : Nat} {work : List (List ι)}

/-! ## What happens without an item ending -/

lemma proceed_quiet (s : State ι ρ ε) (lane : Lane ι) :
    (s.proceed lane).failure = s.failure ∧ (s.proceed lane).results = s.results ∧
      ∃ items : List ι, (s.proceed lane).history = s.history ++ items.map .start := by
  rcases proceed_cases s lane with ⟨item, rest, -, -, he⟩ | ⟨-, he⟩ <;> rw [he]
  · exact ⟨rfl, rfl, [item], rfl⟩
  · exact ⟨rfl, rfl, [], by simp [State.release]⟩

lemma advance?_quiet {s t : State ι ρ ε} (h : s.advance? = some t) :
    t.failure = s.failure ∧ t.results = s.results ∧
      ∃ items : List ι, t.history = s.history ++ items.map .start := by
  unfold State.advance? at h
  split at h
  · cases h
    exact proceed_quiet _ _
  · cases h
    exact proceed_quiet _ _
  · obtain ⟨lane, waiting, free, -, -, rfl⟩ := enter?_eq_some h
    exact ⟨rfl, rfl, [], by simp⟩

/-- Only starts are added when everything goes on that can. -/
lemma settle_quiet (s : State ι ρ ε) :
    s.settle.failure = s.failure ∧ s.settle.results = s.results ∧
      ∃ items : List ι, s.settle.history = s.history ++ items.map .start := by
  induction s using State.settle.induct with
  | case1 s t h ih =>
    obtain ⟨hf, hr, items, hi⟩ := advance?_quiet h
    obtain ⟨hf', hr', items', hi'⟩ := ih
    rw [settle_of_advance? h]
    refine ⟨hf'.trans hf, hr'.trans hr, items ++ items', ?_⟩
    rw [hi', hi, List.map_append, List.append_assoc]
  | case2 s h =>
    rw [settle_of_none h]
    exact ⟨rfl, rfl, [], by simp⟩

lemma step_history {s t : State ι ρ ε} (h : Step answer s t) : s.history <+: t.history := by
  cases h with
  | enter h =>
    obtain ⟨lane, waiting, free, -, -, rfl⟩ := enter?_eq_some h
    exact List.prefix_rfl
  | @begin lane called _ =>
    obtain ⟨-, -, items, hi⟩ := proceed_quiet { s with called } lane
    exact ⟨_, hi.symm⟩
  | @resume lane before after _ =>
    obtain ⟨-, -, items, hi⟩ := proceed_quiet { s with idle := before ++ after } lane
    exact ⟨_, hi.symm⟩
  | @complete flight _ => cases answer flight.item <;> exact List.prefix_append _ _
  | cancel _ => exact List.prefix_append _ _

lemma run_history {s t : State ι ρ ε} (h : Run answer s t) : s.history <+: t.history := by
  induction h with
  | refl => exact List.prefix_rfl
  | step _ hst ih => exact ih.trans (step_history hst)

/-! ## The next item to end -/

variable [LT τ] [DecidableLT τ]

lemma sooner_cases (due : List (Nat × τ)) (best : Option (Flight ι × τ)) (flight : Flight ι) :
    sooner due best flight = best ∨
      ∃ time, due.lookup flight.number = some time ∧
        sooner due best flight = some (flight, time) := by
  unfold sooner
  split
  · rename_i time first earliest hd
    split
    · exact .inr ⟨time, hd, rfl⟩
    · exact .inl rfl
  · rename_i time hd
    exact .inr ⟨time, hd, rfl⟩
  · exact .inl rfl

lemma soonest_eq_some {due : List (Nat × τ)} {running : List (Flight ι)} {flight : Flight ι}
    {time : τ} (h : soonest due running = some (flight, time)) :
    flight ∈ running ∧ due.lookup flight.number = some time := by
  suffices hs : ∀ best, running.foldl (sooner due) best = some (flight, time) →
      best = some (flight, time) ∨ flight ∈ running ∧ due.lookup flight.number = some time from
    (hs none h).resolve_left (by simp)
  clear h
  induction running with
  | nil => exact fun best h => .inl h
  | cons other rest ih =>
    intro best h
    rcases ih _ h with hb | ⟨hm, hd⟩
    · rcases sooner_cases due best other with he | ⟨t, hd, he⟩
      · exact .inl (he ▸ hb)
      · obtain ⟨rfl, rfl⟩ : other = flight ∧ t = time := by simpa [he] using hb
        exact .inr ⟨List.mem_cons_self, hd⟩
    · exact .inr ⟨List.mem_cons_of_mem _ hm, hd⟩

lemma foldl_sooner_isSome {due : List (Nat × τ)} (running : List (Flight ι))
    {best : Option (Flight ι × τ)} (hb : best.isSome) :
    (running.foldl (sooner due) best).isSome := by
  induction running generalizing best with
  | nil => exact hb
  | cons other rest ih =>
    apply ih
    rcases sooner_cases due best other with he | ⟨t, -, he⟩ <;> simp [he, hb]

lemma soonest_isSome {due : List (Nat × τ)} {running : List (Flight ι)} (hne : running ≠ [])
    (hd : ∀ flight ∈ running, (due.lookup flight.number).isSome) :
    (soonest due running).isSome := by
  cases running with
  | nil => exact (hne rfl).elim
  | cons flight rest =>
    obtain ⟨time, ht⟩ := Option.isSome_iff_exists.mp (hd flight List.mem_cons_self)
    have hfirst : sooner due none flight = some (flight, time) := by simp [sooner, ht]
    rw [soonest, List.foldl_cons, hfirst]
    exact foldl_sooner_isSome rest rfl

/-! ## What the clock shows -/

/-- The clock shows a reachable state in which nothing can go on by itself, knows when each running
item is due, and its log is the history. -/
structure Timely (answer : ι → Except ε ρ) (bound : Nat) (work : List (List ι))
    (w : Watch ι ρ ε τ) : Prop where
  reachable : Reachable answer bound work w.state
  settled : w.state.advance? = none
  due : ∀ flight ∈ w.state.running, (w.due.lookup flight.number).isSome
  log : w.log.map Timed.event = w.state.history

lemma advance?_cancelAll (s : State ι ρ ε) : s.cancelAll.advance? = none :=
  advance?_eq_none.mpr ⟨rfl, rfl, .inl rfl⟩

lemma over_cancelAll (s : State ι ρ ε) : s.cancelAll.Over := ⟨rfl, rfl, rfl, rfl⟩

variable [Add τ] {delay : ι → τ}

omit [LT τ] [DecidableLT τ] in
/-- Whatever the clock shows next is timely if the schedule can get there. -/
lemma timely_observe {w : Watch ι ρ ε τ} {now : τ} {t : State ι ρ ε}
    (hr : Reachable answer bound work w.state) (hlog : w.log.map Timed.event = w.state.history)
    (hrun : Run answer w.state t) (ht : t.advance? = none) :
    Timely answer bound work (w.observe delay now t) where
  reachable := run_trans hr hrun
  settled := ht
  due flight hm := by
    rw [List.lookup_isSome_iff]
    exact ⟨_, List.mem_map.mpr ⟨flight, hm, rfl⟩, by simp⟩
  log := by
    obtain ⟨tail, he⟩ := run_history hrun
    simp [Watch.observe, Function.comp_def, hlog, ← he]

omit [LT τ] [DecidableLT τ] in
lemma timely_opening (start : τ) :
    Timely answer bound work (Watch.opening start delay bound work) :=
  timely_observe (.refl _) rfl (run_settle _) (advance?_settle _)

/-- The item that ends next, and the state that the clock shows then. -/
lemma next?_eq_some {w w' : Watch ι ρ ε τ} (h : w.next? delay answer = some w') :
    ∃ flight now, soonest w.due w.state.running = some (flight, now) ∧
      ((∃ result, answer flight.item = .ok result ∧ w' =
        (w.forget flight.number).observe delay now (w.state.finish flight result).settle) ∨
      ∃ why, answer flight.item = .error why ∧ w' =
        (w.forget flight.number).observe delay now (w.state.fail flight why).cancelAll) := by
  obtain ⟨⟨flight, now⟩, hs, rfl⟩ := Option.map_eq_some_iff.mp h
  refine ⟨flight, now, hs, ?_⟩
  cases ha : answer flight.item with
  | ok result => exact .inl ⟨result, rfl, by simp only [ha]⟩
  | error why => exact .inr ⟨why, rfl, by simp only [ha]⟩

lemma run_finish {s : State ι ρ ε} {flight : Flight ι} {result : ρ} (hm : flight ∈ s.running)
    (ha : answer flight.item = .ok result) :
    Run answer s (s.finish flight result).settle := by
  have hs : Step answer s (s.complete flight (answer flight.item)) := .complete hm
  rw [ha] at hs
  exact run_trans (run_single hs) (run_settle _)

lemma run_fail {s : State ι ρ ε} {flight : Flight ι} {why : ε} (hm : flight ∈ s.running)
    (ha : answer flight.item = .error why) : Run answer s (s.fail flight why).cancelAll := by
  have hs : Step answer s (s.complete flight (answer flight.item)) := .complete hm
  rw [ha] at hs
  exact (run_single hs).step (.cancel rfl)

lemma timely_next? {w w' : Watch ι ρ ε τ} (hw : Timely answer bound work w)
    (h : w.next? delay answer = some w') : Timely answer bound work w' := by
  obtain ⟨flight, now, hs, ⟨result, ha, rfl⟩ | ⟨why, ha, rfl⟩⟩ := next?_eq_some h
  · exact timely_observe (w := w.forget flight.number) hw.reachable hw.log
      (run_finish (soonest_eq_some hs).1 ha) (advance?_settle _)
  · exact timely_observe (w := w.forget flight.number) hw.reachable hw.log
      (run_fail (soonest_eq_some hs).1 ha) (advance?_cancelAll _)

theorem timely_run {w : Watch ι ρ ε τ} (hw : Timely answer bound work w) (count : Nat) :
    Timely answer bound work (w.run delay answer count) := by
  induction count generalizing w with
  | zero => exact hw
  | succ count ih =>
    rw [Watch.run]
    split
    · rename_i next hn
      exact ih (timely_next? hw hn)
    · exact hw

/-! ## The end of a schedule -/

omit [Add τ] in
/-- Every item is still to be started, is running, or has ended. -/
lemma account_length {s : State ι ρ ε} (hs : Counted work s) (hf : s.failure = none) :
    (leftOf s).length + s.running.length + (ended s.history).length = work.flatten.length := by
  have hl := (hs.account hf).length_eq
  have hr := hs.flights.length_eq
  simp only [List.length_append, List.length_map] at hl hr
  omega

lemma running_nil_of_next?_eq_none {w : Watch ι ρ ε τ} (hw : Timely answer bound work w)
    (h : w.next? delay answer = none) : w.state.running = [] := by
  by_contra hne
  have hs := soonest_isSome hne hw.due
  rw [Option.map_eq_none_iff.mp h] at hs
  cases hs

/-- One more item has ended well, or the schedule is over. -/
lemma next?_progress {w w' : Watch ι ρ ε τ} (h : w.next? delay answer = some w') :
    (w'.state.failure = w.state.failure ∧
      (ended w'.state.history).length = (ended w.state.history).length + 1) ∨
    (w'.state.failure ≠ none ∧ w'.state.Over) := by
  obtain ⟨flight, now, -, ⟨result, -, rfl⟩ | ⟨why, -, rfl⟩⟩ := next?_eq_some h
  · obtain ⟨hf, -, items, hi⟩ := settle_quiet (w.state.finish flight result)
    have hq : ended (items.map Event.start) = [] := by
      simp [ended, Event.ended?, Function.comp_def]
    refine .inl ⟨hf, ?_⟩
    simp only [Watch.observe]
    rw [hi, ended_append, hq]
    simp [State.finish]
  · exact .inr ⟨by simp [Watch.observe, State.fail, State.cancelAll], over_cancelAll _⟩

/-- As many items as are not over yet end, and then the schedule is over. -/
lemma over_run {w : Watch ι ρ ε τ} {count : Nat} (hb : 1 ≤ bound)
    (hw : Timely answer bound work w) (hf : w.state.failure = none ∨ w.state.Over)
    (hcount : w.state.failure = none →
      work.flatten.length ≤ (ended w.state.history).length + count) :
    (w.run delay answer count).state.Over := by
  induction count generalizing w with
  | zero =>
    rcases hf with hf | ho
    · have hc := (reachable_counted hw.reachable)
      have hl := account_length hc.2 hf
      have hr : w.state.running = [] := List.eq_nil_of_length_eq_zero (by
        have := hcount hf
        omega)
      exact over_of_running_nil hb hc.1 hw.settled hr
    · exact ho
  | succ count ih =>
    rw [Watch.run]
    split
    · rename_i next hn
      rcases next?_progress hn with ⟨hf', he⟩ | ⟨hf', ho⟩
      · have hnone : w.state.failure = none := by
          refine hf.resolve_right fun ho => ?_
          obtain ⟨flight, now, hs, -⟩ := next?_eq_some hn
          have hm := (soonest_eq_some hs).1
          rw [ho.2.2.2] at hm
          cases hm
        refine ih (timely_next? hw hn) (.inl (hf'.trans hnone)) fun _ => ?_
        have := hcount hnone
        omega
      · exact ih (timely_next? hw hn) (.inr ho) fun h => (hf' h).elim
    · rename_i hn
      exact over_of_running_nil hb (reachable_placed hw.reachable) hw.settled
        (running_nil_of_next?_eq_none hw hn)

/-- A schedule on a clock is a schedule, and it comes to its end. -/
theorem runOnClock_over (start : τ) (hb : 1 ≤ bound) :
    Timely answer bound work (runOnClock start delay answer bound work) ∧
      (runOnClock start delay answer bound work).state.Over := by
  have hopen : Timely answer bound work (Watch.opening start delay bound work) :=
    timely_opening start
  refine ⟨timely_run hopen _, over_run hb hopen (.inl ?_) fun _ => by omega⟩
  exact (settle_quiet _).1

end CardDrawing.Proofs
