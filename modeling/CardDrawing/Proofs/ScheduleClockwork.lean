import CardDrawing.Proofs.ScheduleTimes

/-!
# A clock keeps time

Every state that the clock shows of a schedule without failure has its log in order: items keep
their pace, lanes keep the line, and what runs is due when its delay is over.
-/

namespace CardDrawing.Proofs
open Schedule
open scoped List

variable {ι ρ ε τ : Type} [DecidableEq ι] [Add τ] [LinearOrder τ] {answer : ι → Except ε ρ}
  {bound : Nat} {work : List (List ι)} {start now : τ} {delay : ι → τ} {w w' : Watch ι ρ ε τ}

/-- The clock shows `now`, a calm state, and a log in order. -/
structure OnTime (answer : ι → Except ε ρ) (bound : Nat) (work : List (List ι)) (start : τ)
    (delay : ι → τ) (now : τ) (w : Watch ι ρ ε τ) : Prop where
  calm : Calm answer bound work w.state
  log : w.log.map Timed.event = w.state.history
  since : start ≤ now
  past : ∀ x ∈ w.log, start ≤ x.time ∧ x.time ≤ now
  sorted : w.log.Pairwise (·.time ≤ ·.time)
  keys : w.due.map Prod.fst = w.state.running.map Flight.number
  due : ∀ flight ∈ w.state.running, ∃ began, ⟨.start flight.item, began⟩ ∈ w.log ∧
    w.due.lookup flight.number = some (began + delay flight.item) ∧ now ≤ began + delay flight.item
  paced : Paced delay work w.log
  queued : Queued start bound work now w.log

omit [DecidableEq ι] [LinearOrder τ] in
lemma observe_log {t : State ι ρ ε} {events : List (Event ι)}
    (hh : t.history = w.state.history ++ events) :
    (w.observe delay now t).log = later w.log now events := by
  simp [Watch.observe, later, hh]

omit [DecidableEq ι] [LinearOrder τ] in
lemma observe_keys {t : State ι ρ ε} :
    (w.observe delay now t).due.map Prod.fst = t.running.map Flight.number := by
  simp [Watch.observe, Function.comp_def]

omit [DecidableEq ι] [LinearOrder τ] in
lemma observe_due {t : State ι ρ ε} (ht : Calm answer bound work t) {flight : Flight ι}
    (hm : flight ∈ t.running) : (w.observe delay now t).due.lookup flight.number =
      some ((w.due.lookup flight.number).getD (now + delay flight.item)) :=
  lookup_due ht.lawful.placed.running _ hm

/-- What is known at an instant at which the clock goes on from `w` to the state `t` after some
events. -/
structure Instant (answer : ι → Except ε ρ) (bound : Nat) (work : List (List ι)) (start : τ)
    (delay : ι → τ) (now : τ) (w : Watch ι ρ ε τ) (t : State ι ρ ε) (events : List (Event ι)) :
    Prop where
  calm : Calm answer bound work t
  history : t.history = w.state.history ++ events
  log : w.log.map Timed.event = w.state.history
  since : start ≤ now
  past : ∀ x ∈ w.log, start ≤ x.time ∧ x.time ≤ now
  sorted : w.log.Pairwise (·.time ≤ ·.time)
  /-- nothing ends that starts now -/
  ended : ∀ item ∈ ended t.history, item ∈ started w.state.history
  paced : Paced delay work w.log
  lasts : ∀ item, .finish item ∈ events →
    ∃ began, ⟨.start item, began⟩ ∈ w.log ∧ now = began + delay item
  next : ∀ done prev item rest, done ++ prev :: item :: rest ∈ work →
    prev ∈ finished w.state.history → item ∈ started w.state.history
  queued : Queued start bound work now w.log
  /-- what ran before is not due before now, and what starts now is not known yet -/
  due : ∀ flight ∈ t.running,
    (∃ began, ⟨.start flight.item, began⟩ ∈ w.log ∧
      w.due.lookup flight.number = some (began + delay flight.item) ∧
      now ≤ began + delay flight.item) ∨
    (.start flight.item ∈ events ∧ w.due.lookup flight.number = none)

lemma onTime_observe (hd : ∀ time item, time ≤ time + delay item) {t : State ι ρ ε}
    {events : List (Event ι)} (h : Instant answer bound work start delay now w t events) :
    OnTime answer bound work start delay now (w.observe delay now t) where
  calm := h.calm
  log := by rw [observe_log h.history, map_later, h.log]; exact h.history.symm
  since := h.since
  past x hx := by
    rw [observe_log h.history] at hx
    rcases mem_later.mp hx with hx | ⟨-, ht⟩
    · exact h.past x hx
    · exact ⟨ht ▸ h.since, ht.le⟩
  sorted := by
    rw [observe_log h.history, later, List.pairwise_append]
    refine ⟨h.sorted, List.pairwise_map.mpr (List.pairwise_of_forall fun _ _ => le_rfl), ?_⟩
    intro x hx y hy
    obtain ⟨event, -, rfl⟩ := List.mem_map.mp hy
    exact (h.past x hx).2
  keys := observe_keys
  due flight hm := by
    have hlookup : (w.observe delay now t).due.lookup flight.number =
        some ((w.due.lookup flight.number).getD (now + delay flight.item)) :=
      observe_due h.calm hm
    rw [observe_log h.history, hlookup]
    rcases h.due flight hm with ⟨began, hb, hl, hle⟩ | ⟨he, hl⟩
    · exact ⟨began, mem_later.mpr (.inl hb), by rw [hl]; rfl, hle⟩
    · exact ⟨now, mem_later.mpr (.inr ⟨he, rfl⟩), by rw [hl]; rfl, hd now flight.item⟩
  paced := by
    rw [observe_log h.history]
    exact paced_later h.calm h.history h.paced h.lasts h.next
  queued := by
    rw [observe_log h.history]
    exact queued_later h.calm h.history h.log (fun x hx => (h.past x hx).2) h.ended
      h.queued.roomy h.queued.crowded

/-! ## The opening -/

/-- Everything that starts when the schedule opens starts on time. -/
lemma onTime_opening (hw : work.flatten.Nodup) (hne : [] ∉ work)
    (hd : ∀ time item, time ≤ time + delay item) :
    OnTime answer bound work start delay start (Watch.opening start delay bound work) := by
  obtain ⟨-, -, items, hi⟩ := settle_quiet (State.initial bound work : State ι ρ ε)
  obtain ⟨-, -, -, hended⟩ := quiet_starts items
  have hh : (State.initial bound work : State ι ρ ε).settle.history = items.map .start := hi
  have ht : Calm answer bound work (State.initial bound work).settle :=
    (calm_settle hw hne (.refl _) rfl).1
  let first : Watch ι ρ ε τ := { state := State.initial bound work, due := [], log := [] }
  have h : Instant answer bound work start delay start first (State.initial bound work).settle
      (items.map .start) := by
    refine ⟨ht, hi, rfl, le_rfl, by simp [first], .nil, ?_, ?_, ?_, ?_, ?_, fun flight hm => ?_⟩
    · simp [hh, hended]
    · exact ⟨by simp [first], by simp [first]⟩
    · simp
    · simp [first, State.initial, finished]
    · exact ⟨by simp [first], fun n _ rest time _ hle hlt => (not_lt.mpr hle hlt).elim⟩
    · have hrun := (ht.lawful.mem_running_iff hw _).mp (List.mem_map_of_mem hm)
      exact .inr ⟨hh ▸ mem_started.mp hrun.1, rfl⟩
  exact onTime_observe hd h

/-! ## The next item to end -/

/-- As far as the clock knows, a lane that has not begun by some time waits for a slot then. -/
lemma OnTime.crowded (h : OnTime answer bound work start delay now w) {n : Nat} {first : ι}
    {rest : List ι} {time : τ} (hn : work[n]? = some (first :: rest)) (hstart : start ≤ time)
    (hnew : ∀ began, ⟨.start first, began⟩ ∈ w.log → time < began) :
    bound ≤ (ahead work w.log n time).length := by
  rcases lt_or_ge time now with hlt | hge
  · exact h.queued.crowded n first rest time hn hstart hlt hnew
  · have hfirst : first ∉ started w.state.history := by
      intro hs
      rw [mem_started, ← h.log] at hs
      obtain ⟨⟨event, began⟩, hx, rfl⟩ := List.mem_map.mp hs
      exact (not_lt.mpr ((h.past _ hx).2.trans hge)) (hnew began hx)
    exact h.calm.le_ahead h.log time (h.calm.waiting_of_new hn hfirst)

omit [DecidableEq ι] [Add τ] [LinearOrder τ] in
lemma Calm.number_eq {s t : State ι ρ ε} (hs : Calm answer bound work s)
    (ht : Calm answer bound work t) {f g : Flight ι} (hf : f ∈ s.running) (hg : g ∈ t.running)
    (hi : f.item = g.item) : f.number = g.number := by
  obtain ⟨done, hd⟩ := hs.getElem?_of_running hf
  obtain ⟨done', hd'⟩ := ht.getElem?_of_running hg
  have hmem : f.item ∈ done' ++ g.item :: g.rest := by simp [hi]
  exact lane_unique hs.distinct hd hd' (by simp) hmem

omit [DecidableEq ι] [Add τ] [LinearOrder τ] in
lemma Calm.flight_eq {s : State ι ρ ε} (hs : Calm answer bound work s) {f g : Flight ι}
    (hf : f ∈ s.running) (hg : g ∈ s.running) (hn : f.number = g.number) : f = g :=
  List.inj_on_of_nodup_map hs.lawful.placed.running hf hg hn

omit [DecidableEq ι] [Add τ] [LinearOrder τ] in
/-- When one item has ended, what runs then did so before, or has just started in a lane that runs
nothing else. -/
lemma running_after {s t : State ι ρ ε} {events : List (Event ι)} {flight g : Flight ι}
    (hs : Calm answer bound work s) (ht : Calm answer bound work t)
    (hh : t.history = s.history ++ events) (hends : ended events = [flight.item])
    (hg : g ∈ t.running) :
    (∃ f ∈ s.running, f.item = g.item ∧ f.number = g.number ∧ f.item ≠ flight.item) ∨
      (.start g.item ∈ events ∧
        ∀ f ∈ s.running, f.number = g.number → f.item = flight.item) := by
  have hended : ended t.history = ended s.history ++ [flight.item] := by
    rw [hh, ended_append, hends]
  obtain ⟨hstarted, hopen⟩ := (ht.lawful.mem_running_iff ht.distinct _).mp (List.mem_map_of_mem hg)
  rw [hended, List.mem_append, List.mem_singleton, not_or] at hopen
  rw [hh, started_append, List.mem_append] at hstarted
  rcases hstarted with hold | hnew
  · obtain ⟨f, hf, hi⟩ := List.mem_map.mp
      ((hs.lawful.mem_running_iff hs.distinct _).mpr ⟨hold, hopen.1⟩)
    exact .inl ⟨f, hf, hi, hs.number_eq ht hf hg hi, hi ▸ hopen.2⟩
  · refine .inr ⟨mem_started.mp hnew, fun f hf hn => ?_⟩
    by_contra hne
    -- `f` would still run, in the lane of `g`
    obtain ⟨hfs, hfe⟩ := (hs.lawful.mem_running_iff hs.distinct _).mp (List.mem_map_of_mem hf)
    have hin : InFlight t.history f.item := by
      refine ⟨by simp [hh, mem_started.mp hfs], fun he => ?_⟩
      rw [hended, List.mem_append, List.mem_singleton] at he
      exact he.elim hfe hne
    obtain ⟨g', hg', hi⟩ := List.mem_map.mp ((ht.lawful.mem_running_iff ht.distinct _).mpr hin)
    have hnum := hs.number_eq ht hf hg' hi.symm
    rw [← ht.flight_eq hg hg' (hn.symm.trans hnum)] at hi
    exact ht.not_started_twice hh hfs (hi ▸ hnew)

omit [DecidableEq ι] [Add τ] [LinearOrder τ] in
/-- An item that ends well brings the schedule to a calm state, and only starts follow its end. -/
lemma calm_finish {s : State ι ρ ε} (hs : Calm answer bound work s) {flight : Flight ι} {result : ρ}
    (hm : flight ∈ s.running) (ha : answer flight.item = .ok result) :
    Calm answer bound work (s.finish flight result).settle ∧ ∃ items : List ι,
      (s.finish flight result).settle.history =
        s.history ++ .finish flight.item :: items.map .start := by
  obtain ⟨-, -, items, hi⟩ := settle_quiet (s.finish flight result)
  have hh : (s.finish flight result).settle.history =
      s.history ++ .finish flight.item :: items.map .start := by
    rw [hi, State.finish, List.append_assoc, List.singleton_append]
  have hstep : Step answer s (s.complete flight (answer flight.item)) := .complete hm
  rw [ha] at hstep
  have hhealthy : failed (s.finish flight result).history = [] := by
    simp [State.finish, hs.healthy]
  exact ⟨(calm_settle hs.distinct hs.inhabited (hs.reachable.step hstep) hhealthy).1, items, hh⟩

/-- What ran before an instant and still runs is due no sooner than the item that ends then, and
about what starts then nothing is known. -/
lemma OnTime.due_next (h : OnTime answer bound work start delay now w) {now' : τ}
    {flight g : Flight ι} (hs : soonest w.due w.state.running = some (flight, now'))
    {t : State ι ρ ε} (ht : Calm answer bound work t) {events : List (Event ι)}
    (hh : t.history = w.state.history ++ events) (hends : ended events = [flight.item])
    (hg : g ∈ t.running) :
    (∃ began, ⟨.start g.item, began⟩ ∈ w.log ∧
      (w.forget flight.number).due.lookup g.number = some (began + delay g.item) ∧
      now' ≤ began + delay g.item) ∨
    (.start g.item ∈ events ∧ (w.forget flight.number).due.lookup g.number = none) := by
  obtain ⟨hm, -⟩ := soonest_eq_some hs
  rcases running_after h.calm ht hh hends hg with ⟨f, hf, hi, hn, hne⟩ | ⟨he, hother⟩
  · obtain ⟨began, hb, hl, -⟩ := h.due f hf
    have hnum : f.number ≠ flight.number :=
      fun he => hne (congrArg Flight.item (h.calm.flight_eq hf hm he))
    refine .inl ⟨began, hi ▸ hb, ?_, hi ▸ soonest_le hs hf hl⟩
    rw [Watch.forget, ← hn, lookup_forget _ hnum, hl, hi]
  · refine .inr ⟨he, ?_⟩
    rw [List.lookup_eq_none_iff]
    intro entry hentry
    obtain ⟨hmem, hne⟩ := List.mem_filter.mp hentry
    have hkey : entry.1 ∈ w.state.running.map Flight.number := h.keys ▸ List.mem_map_of_mem hmem
    obtain ⟨f, hf, hn⟩ := List.mem_map.mp hkey
    rw [bne_iff_ne]
    intro hgn
    have hnum := h.calm.number_eq h.calm hf hm (hother f hf (hn.trans hgn.symm))
    simp [← hn, hnum] at hne

/-- When the next item ends well, the clock goes on in time. -/
lemma onTime_next (hd : ∀ time item, time ≤ time + delay item)
    (hall : ∀ item ∈ work.flatten, ∃ result, answer item = .ok result)
    (h : OnTime answer bound work start delay now w) (hn : w.next? delay answer = some w') :
    ∃ now', OnTime answer bound work start delay now' w' := by
  obtain ⟨flight, now', hs, hcase⟩ := next?_eq_some hn
  obtain ⟨hm, hdue⟩ := soonest_eq_some hs
  obtain ⟨done, hlane⟩ := h.calm.getElem?_of_running hm
  obtain ⟨result, ha⟩ := hall flight.item
    (List.mem_flatten_of_mem (List.mem_of_getElem? hlane) (by simp))
  obtain ⟨result', ha', rfl⟩ | ⟨why, ha', -⟩ := hcase
  swap
  · cases ha.symm.trans ha'
  obtain rfl : result = result' := Except.ok.inj (ha.symm.trans ha')
  obtain ⟨ht, items, hh⟩ := calm_finish h.calm hm ha
  obtain ⟨-, -, -, hquiet⟩ := quiet_starts items
  have hends : ended (.finish flight.item :: items.map .start) = [flight.item] := by
    rw [← List.singleton_append, ended_append, hquiet]
    rfl
  obtain ⟨began, hb, hl, hle⟩ := h.due flight hm
  obtain rfl : now' = began + delay flight.item := Option.some.inj (hdue.symm.trans hl)
  have h' : Instant answer bound work start delay (began + delay flight.item)
      (w.forget flight.number) (w.state.finish flight result).settle
      (.finish flight.item :: items.map .start) := by
    refine ⟨ht, hh, h.log, h.since.trans hle, fun x hx => ?_, h.sorted, fun item hi => ?_, h.paced,
      fun item hi => ?_, fun _ _ _ _ => h.calm.successor_started,
      ⟨h.queued.roomy, fun _ _ _ _ hn hstart _ => h.crowded hn hstart⟩,
      fun g hg => h.due_next hs ht hh hends hg⟩
    · exact ⟨(h.past x hx).1, (h.past x hx).2.trans hle⟩
    · rw [hh, ended_append, hends, List.mem_append, List.mem_singleton] at hi
      rcases hi with hi | rfl
      · exact h.calm.lawful.counted.started_of_ended hi
      · exact ((h.calm.lawful.mem_running_iff h.calm.distinct _).mp (List.mem_map_of_mem hm)).1
    · obtain rfl : item = flight.item := by simpa using hi
      exact ⟨began, hb, rfl⟩
  exact ⟨_, onTime_observe hd h'⟩

theorem onTime_run (hd : ∀ time item, time ≤ time + delay item)
    (hall : ∀ item ∈ work.flatten, ∃ result, answer item = .ok result)
    (h : OnTime answer bound work start delay now w) (count : Nat) :
    ∃ now', OnTime answer bound work start delay now' (w.run delay answer count) := by
  induction count generalizing w now with
  | zero => exact ⟨now, h⟩
  | succ count ih =>
    rw [Watch.run]
    split
    · rename_i next hn
      obtain ⟨now', h'⟩ := onTime_next hd hall h hn
      exact ih h'
    · exact ⟨now, h⟩

end CardDrawing.Proofs
