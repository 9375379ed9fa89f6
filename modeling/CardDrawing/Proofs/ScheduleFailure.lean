import CardDrawing.Proofs.ScheduleClock

/-!
# Failure of a schedule

The first failure is the one that is kept, nothing starts after it, and what was in flight is
called off. Without a failure every item comes to a result.
-/

namespace CardDrawing.Proofs
open Schedule
open scoped List

variable {ι ρ ε τ : Type} {answer : ι → Except ε ρ} {bound : Nat} {work : List (List ι)}

/-- Results and failure are what the finished and failed items came to, and nothing is cancelled
without a failure. -/
structure Answered (answer : ι → Except ε ρ) (s : State ι ρ ε) : Prop where
  results : s.results.map Prod.fst = finished s.history
  good : ∀ x ∈ s.results, answer x.1 = .ok x.2
  bad : ∀ item ∈ failed s.history, ∃ why, answer item = .error why
  first : ∀ item ∈ (failed s.history).head?, ∀ why, answer item = .error why → s.failure = some why
  calm : failed s.history = [] → s.failure = none ∧ ended s.history = finished s.history

lemma initial_answered : Answered answer (State.initial bound work) where
  results := rfl
  good := by simp [State.initial]
  bad := by simp [State.initial]
  first := by simp [State.initial, failed]
  calm _ := ⟨rfl, rfl⟩

lemma answered_proceed {s : State ι ρ ε} (hs : Answered answer s) (lane : Lane ι) :
    Answered answer (s.proceed lane) := by
  obtain ⟨hr, hg, hb, hf, hc⟩ := hs
  rcases proceed_cases s lane with ⟨item, rest, -, -, he⟩ | ⟨-, he⟩ <;> rw [he]
  · refine ⟨?_, hg, ?_, ?_, ?_⟩
    · simpa [State.launch] using hr
    · simpa [State.launch] using hb
    · simpa [State.launch] using hf
    · simpa [State.launch] using hc
  · exact ⟨hr, hg, hb, hf, hc⟩

lemma answered_finish {s : State ι ρ ε} (hs : Answered answer s) {flight : Flight ι} {result : ρ}
    (ha : answer flight.item = .ok result) : Answered answer (s.finish flight result) where
  results := by simp [State.finish, hs.results]
  good x hx := by
    rcases List.mem_append.mp hx with hx | hx
    · exact hs.good x hx
    · obtain rfl := List.mem_singleton.mp hx
      exact ha
  bad := by simpa [State.finish] using hs.bad
  first := by simpa [State.finish] using hs.first
  calm := by
    simp only [State.finish, failed_append, failed_finish, List.append_nil]
    intro hn
    obtain ⟨hnone, he⟩ := hs.calm hn
    exact ⟨hnone, by simp [he]⟩

/-- Of two failures the earlier one is kept. -/
lemma answered_fail {s : State ι ρ ε} (hs : Answered answer s) {flight : Flight ι} {why : ε}
    (ha : answer flight.item = .error why) : Answered answer (s.fail flight why) where
  results := by simpa [State.fail] using hs.results
  good := hs.good
  bad item hi := by
    simp only [State.fail, failed_append, failed_fail, List.mem_append, List.mem_singleton] at hi
    rcases hi with hi | rfl
    · exact hs.bad item hi
    · exact ⟨why, ha⟩
  first := by
    simp only [State.fail, failed_append, failed_fail]
    intro item hi why' ha'
    cases hn : failed s.history with
    | nil =>
      obtain rfl : flight.item = item := by simpa [hn] using hi
      obtain rfl : why = why' := by simpa [ha] using ha'
      simp [(hs.calm hn).1]
    | cons first rest =>
      have hi' : item ∈ (failed s.history).head? := by simpa [hn] using hi
      simp [hs.first item hi' why' ha']
  calm := by simp [State.fail]

lemma step_answered {s t : State ι ρ ε} (h : Step answer s t) (hs : Answered answer s) :
    Answered answer t := by
  obtain ⟨hr, hg, hb, hf, hc⟩ := id hs
  cases h with
  | enter h =>
    obtain ⟨lane, waiting, free, -, -, rfl⟩ := enter?_eq_some h
    exact ⟨hr, hg, hb, hf, hc⟩
  | @begin lane called _ =>
    exact answered_proceed (s := { s with called }) ⟨hr, hg, hb, hf, hc⟩ lane
  | @resume lane before after _ =>
    exact answered_proceed (s := { s with idle := before ++ after }) ⟨hr, hg, hb, hf, hc⟩ lane
  | @complete flight hm =>
    cases ha : answer flight.item with
    | ok result => exact answered_finish hs ha
    | error why => exact answered_fail hs ha
  | cancel hsome =>
    have hn : failed s.history ≠ [] := fun hn => by simp [(hc hn).1] at hsome
    refine ⟨?_, hg, ?_, ?_, ?_⟩
    · simpa [State.cancelAll] using hr
    · simpa [State.cancelAll] using hb
    · simpa [State.cancelAll] using hf
    · simp [State.cancelAll, hn]

lemma reachable_answered {s : State ι ρ ε} (h : Reachable answer bound work s) :
    Answered answer s :=
  run_induction (P := Answered answer) (fun _ _ => step_answered) h initial_answered

/-! ## After the first failure -/

lemma Orderly.no_start_after_fail {history before after : List (Event ι)} {item : ι}
    (h : Orderly work history) (he : history = before ++ .fail item :: after) :
    started after = [] := by
  apply List.eq_nil_iff_forall_not_mem.mpr
  intro i hi
  obtain ⟨a, b, rfl⟩ := List.append_of_mem (mem_started.mp hi)
  have hp : (before ++ .fail item :: a) ++ [.start i] <+: history := ⟨b, by simp [he]⟩
  have hn := (h _ i hp).healthy
  have hm : item ∈ failed (before ++ .fail item :: a) := by simp
  simp [hn] at hm

/-- The failure that is kept is the first one. -/
lemma Answered.failure_eq {s : State ι ρ ε} (hs : Answered answer s)
    {before after : List (Event ι)} {item : ι} (he : s.history = before ++ .fail item :: after)
    (hb : failed before = []) : ∃ why, answer item = .error why ∧ s.failure = some why := by
  obtain ⟨why, ha⟩ := hs.bad item (by simp [he])
  refine ⟨why, ha, hs.first item ?_ why ha⟩
  rw [he, failed_append, hb]
  rfl

/-- A failure that is kept is that of a failed item. -/
lemma Answered.culprit {s : State ι ρ ε} (hs : Answered answer s) {why : ε}
    (hf : s.failure = some why) : ∃ item, .fail item ∈ s.history ∧ answer item = .error why := by
  cases hn : failed s.history with
  | nil =>
    rw [(hs.calm hn).1] at hf
    cases hf
  | cons item rest =>
    obtain ⟨why', ha⟩ := hs.bad item (by simp [hn])
    have hfirst := hs.first item (by simp [hn]) why' ha
    obtain rfl : why' = why := Option.some.inj (hfirst.symm.trans hf)
    exact ⟨item, mem_failed.mp (by simp [hn]), ha⟩

/-- When the schedule is over, whatever was started has ended. -/
lemma Counted.ended_of_over {s : State ι ρ ε} (hs : Counted work s) (ho : s.Over) {item : ι}
    (hi : item ∈ started s.history) : item ∈ ended s.history := by
  have hf := hs.flights
  rw [ho.2.2.2, List.map_nil, List.nil_append] at hf
  exact hf.mem_iff.mpr hi

/-- Without a failure, every item has come to its result in the end. -/
lemma result_of_over {s : State ι ρ ε} (hs : Counted work s) (ha : Answered answer s)
    (ho : s.Over) (hf : failed s.history = []) {item : ι} (hi : item ∈ work.flatten) :
    ∃ result, (item, result) ∈ s.results ∧ answer item = .ok result := by
  obtain ⟨hnone, hended⟩ := ha.calm hf
  have hstart : item ∈ started s.history := by
    have hm := ((hs.account hnone).mem_iff).mpr hi
    obtain ⟨hwait, hcalled, hidle, hrun⟩ := ho
    simpa [leftOf, hwait, hcalled, hidle, hrun] using hm
  have hfin := hs.ended_of_over ho hstart
  rw [hended, ← ha.results] at hfin
  obtain ⟨x, hx, rfl⟩ := List.mem_map.mp hfin
  exact ⟨x.2, hx, ha.good x hx⟩

/-! ## Cancellation -/

/-- Items are cancelled all at once and last of all. -/
def CancelledLast (s : State ι ρ ε) : Prop :=
  ∃ (ends : List (Event ι)) (cancelled : List ι), s.history = ends ++ cancelled.map .cancel ∧
    (∀ i, .cancel i ∉ ends) ∧ (cancelled = [] ∨ s.Over)

lemma cancelledLast_append {s t : State ι ρ ε} {events : List (Event ι)} (hs : CancelledLast s)
    (ho : ¬ s.Over) (ht : t.history = s.history ++ events) (he : ∀ i, .cancel i ∉ events) :
    CancelledLast t := by
  obtain ⟨ends, cancelled, hh, hn, hc⟩ := hs
  obtain rfl := hc.resolve_right ho
  refine ⟨ends ++ events, [], by simp [ht, hh], fun i hi => ?_, .inl rfl⟩
  exact (List.mem_append.mp hi).elim (hn i) (he i)

lemma cancelledLast_proceed {s t : State ι ρ ε} (lane : Lane ι) (hs : CancelledLast t)
    (ho : ¬ t.Over) (ht : s.history = t.history) : CancelledLast (s.proceed lane) := by
  obtain ⟨-, -, items, hi⟩ := proceed_quiet s lane
  exact cancelledLast_append hs ho (ht ▸ hi) (by simp)

lemma step_cancelledLast {s t : State ι ρ ε} (h : Step answer s t) (hs : CancelledLast s) :
    CancelledLast t := by
  cases h with
  | enter h =>
    obtain ⟨lane, waiting, free, hw, -, rfl⟩ := enter?_eq_some h
    have ht : s.history = s.history ++ [] := by simp
    exact cancelledLast_append hs (fun ho => by simp [ho.1] at hw) ht (by simp)
  | @begin lane called hc =>
    exact cancelledLast_proceed lane hs (fun ho => by simp [ho.2.1] at hc) rfl
  | @resume lane before after hidle =>
    exact cancelledLast_proceed lane hs (fun ho => by simp [ho.2.2.1] at hidle) rfl
  | @complete flight hm =>
    have ho : ¬ s.Over := fun ho => by simp [ho.2.2.2] at hm
    cases answer flight.item <;> exact cancelledLast_append hs ho rfl (by simp)
  | cancel _ =>
    obtain ⟨ends, cancelled, hh, hn, rfl | ho⟩ := hs
    · refine ⟨ends, s.running.map Flight.item, ?_, hn, .inr (over_cancelAll s)⟩
      simp [State.cancelAll, hh]
    · refine ⟨ends, cancelled, ?_, hn, .inr (over_cancelAll s)⟩
      simp [State.cancelAll, hh, ho.2.2.2]

lemma reachable_cancelledLast {s : State ι ρ ε} (h : Reachable answer bound work s) :
    CancelledLast s :=
  run_induction (P := CancelledLast) (fun _ _ => step_cancelledLast) h
    ⟨[], [], rfl, by simp, .inl rfl⟩

/-- What happens after an item has failed: what still runs may end by itself, and then everything
that is in flight is cancelled. -/
def CalledOff (before : List (Event ι)) (item : ι) (after : List (Event ι)) : Prop :=
  ∃ (ends : List (Event ι)) (cancelled : List ι), after = ends ++ cancelled.map .cancel ∧
    (∀ e ∈ ends, ∃ i, e = .finish i ∨ e = .fail i) ∧
    ∀ i, i ∈ cancelled ↔ InFlight (before ++ .fail item :: ends) i

/-- Of a schedule that is over, the cancelled items are those that nothing else has ended. -/
lemma Lawful.mem_cancelled_iff (hw : work.flatten.Nodup) {s : State ι ρ ε}
    (hs : Lawful bound work s) (ho : s.Over) {ends : List (Event ι)} {cancelled : List ι}
    (hh : s.history = ends ++ cancelled.map .cancel) (i : ι) :
    i ∈ cancelled ↔ InFlight ends i := by
  have hstarted : started s.history = started ends := by simp [hh, started, Event.started?]
  have hended : ended s.history = ended ends ++ cancelled := by
    simp [hh, ended, Event.ended?, Function.comp_def]
  have hperm := hs.counted.flights
  rw [ho.2.2.2, List.map_nil, List.nil_append, hstarted, hended] at hperm
  have hn : (ended ends ++ cancelled).Nodup :=
    hperm.nodup_iff.mpr (hstarted ▸ hs.started_nodup hw)
  constructor
  · intro hi
    refine ⟨hperm.mem_iff.mp (List.mem_append_right _ hi), fun he => ?_⟩
    exact List.disjoint_of_nodup_append hn he hi
  · rintro ⟨hi, he⟩
    exact (List.mem_append.mp (hperm.mem_iff.mpr hi)).resolve_left he

/-- A failure comes before everything that is cancelled. -/
lemma split_before_cancelled {before after all : List (Event ι)} {item : ι} {cancelled : List ι}
    (h : before ++ .fail item :: after = all ++ cancelled.map .cancel) :
    ∃ ends, all = before ++ .fail item :: ends ∧ after = ends ++ cancelled.map .cancel := by
  have hfail : .fail item ∉ cancelled.map Event.cancel := by simp
  rcases List.append_eq_append_iff.mp h with ⟨mid, hall, hmid⟩ | ⟨mid, -, hmid⟩
  · cases mid with
    | nil =>
      rw [List.nil_append] at hmid
      exact (hfail (hmid ▸ List.mem_cons_self)).elim
    | cons e ends =>
      obtain ⟨rfl, hafter⟩ := List.cons.inj hmid
      exact ⟨ends, hall, hafter⟩
  · exact (hfail (by simp [hmid])).elim

lemma calledOff_of_over (hw : work.flatten.Nodup) (hne : [] ∉ work) {s : State ι ρ ε}
    (h : Reachable answer bound work s) (ho : s.Over) {before after : List (Event ι)} {item : ι}
    (he : s.history = before ++ .fail item :: after) : CalledOff before item after := by
  have hl := reachable_lawful hw hne h
  obtain ⟨k, hk, -⟩ := hl.ordered
  have hquiet := hk.orderly.no_start_after_fail he
  obtain ⟨all, cancelled, hh, hn, -⟩ := reachable_cancelledLast h
  obtain ⟨ends, rfl, rfl⟩ := split_before_cancelled (he.symm.trans hh)
  refine ⟨ends, cancelled, rfl, fun e hm => ?_, hl.mem_cancelled_iff hw ho hh⟩
  rw [started_append, List.append_eq_nil_iff] at hquiet
  cases e with
  | start i => exact (List.not_mem_nil (hquiet.1 ▸ mem_started.mpr hm)).elim
  | finish i => exact ⟨i, .inl rfl⟩
  | fail i => exact ⟨i, .inr rfl⟩
  | cancel i => exact (hn i (by simp [hm])).elim

/-! ## Failures on a clock -/

variable [Add τ] [LT τ] [DecidableLT τ] {delay : ι → τ}

/-- The log up to the first failure, which is that of `item`, and at the same instant the
cancellation of exactly what else was in flight. -/
def StoppedAt (item : ι) (log : List (Timed ι τ)) : Prop :=
  ∃ (before : List (Timed ι τ)) (now : τ) (cancelled : List ι),
    log = before ++ ⟨.fail item, now⟩ :: cancelled.map (fun i => ⟨.cancel i, now⟩) ∧
    failed (before.map Timed.event) = [] ∧
    ∀ i, i ∈ cancelled ↔ InFlight (before.map Timed.event) i ∧ i ≠ item

omit [Add τ] [LT τ] [DecidableLT τ] in
lemma Lawful.mem_others_iff (hw : work.flatten.Nodup) {s : State ι ρ ε} (hs : Lawful bound work s)
    {flight : Flight ι} (hm : flight ∈ s.running) (i : ι) :
    i ∈ (State.withoutFlight flight.number s.running).map Flight.item ↔
      InFlight s.history i ∧ i ≠ flight.item := by
  have hp := (running_perm_withoutFlight hs.placed.running hm).map Flight.item
  have hn : (s.running.map Flight.item).Nodup := List.Nodup.of_append_left
    (hs.counted.flights.nodup_iff.mpr (hs.started_nodup hw))
  rw [List.map_cons] at hp
  have hnotin := (List.nodup_cons.mp (hp.nodup_iff.mp hn)).1
  rw [← hs.mem_running_iff hw i, hp.mem_iff, List.mem_cons]
  constructor
  · exact fun hi => ⟨.inr hi, fun he => hnotin (he ▸ hi)⟩
  · exact fun hi => hi.1.resolve_left hi.2

lemma next?_failure (hw : work.flatten.Nodup) (hne : [] ∉ work) {w w' : Watch ι ρ ε τ}
    (ht : Timely answer bound work w) (hf : failed w.state.history = [])
    (h : w.next? delay answer = some w') :
    failed w'.state.history = [] ∨
      (w'.state.running = [] ∧ ∃ item, StoppedAt item w'.log) := by
  obtain ⟨flight, now, hs, ⟨result, -, rfl⟩ | ⟨why, -, rfl⟩⟩ := next?_eq_some h
  · obtain ⟨-, -, items, hi⟩ := settle_quiet (w.state.finish flight result)
    have hq : failed (items.map Event.start) = [] := by
      simp [failed, Event.failed?, Function.comp_def]
    refine .inl ?_
    simp only [Watch.observe]
    rw [hi, failed_append, hq]
    simp [State.finish, hf]
  · have hl := reachable_lawful hw hne ht.reachable
    refine .inr ⟨rfl, flight.item, w.log, now,
      (State.withoutFlight flight.number w.state.running).map Flight.item, ?_, ?_, fun i => ?_⟩
    · simp [Watch.observe, Watch.forget, State.fail, State.cancelAll, Function.comp_def]
    · rw [ht.log, hf]
    · rw [ht.log]
      exact hl.mem_others_iff hw (soonest_eq_some hs).1 i

lemma run_failure (hw : work.flatten.Nodup) (hne : [] ∉ work) {w : Watch ι ρ ε τ}
    (ht : Timely answer bound work w)
    (hf : failed w.state.history = [] ∨
      (w.state.running = [] ∧ ∃ item, StoppedAt item w.log)) (count : Nat) :
    failed (w.run delay answer count).state.history = [] ∨
      ∃ item, StoppedAt item (w.run delay answer count).log := by
  induction count generalizing w with
  | zero => exact hf.imp_right And.right
  | succ count ih =>
    rw [Watch.run]
    split
    · rename_i next hn
      refine ih (timely_next? ht hn) ?_
      rcases hf with hf | ⟨hr, -⟩
      · exact next?_failure hw hne ht hf hn
      · obtain ⟨flight, now, hs, -⟩ := next?_eq_some hn
        have hm := (soonest_eq_some hs).1
        rw [hr] at hm
        cases hm
    · exact hf.imp_right And.right

/-- On a clock, a schedule runs without a failure or stops at the instant of the first one. -/
theorem runOnClock_failure (hw : work.flatten.Nodup) (hne : [] ∉ work) (start : τ) :
    failed (runOnClock start delay answer bound work).state.history = [] ∨
      ∃ item, StoppedAt item (runOnClock start delay answer bound work).log := by
  have hopen : Timely answer bound work (Watch.opening start delay bound work) :=
    timely_opening start
  refine run_failure hw hne hopen (.inl ?_) _
  obtain ⟨-, -, items, hi⟩ := settle_quiet (State.initial bound work : State ι ρ ε)
  simp only [Watch.opening, Watch.observe]
  rw [hi]
  simp [State.initial, failed, Event.failed?, Function.comp_def]

end CardDrawing.Proofs
