import CardDrawing.Proofs.ScheduleConservation

/-!
# When items start and finish

On a clock an item lasts as long as its delay says, the next item of its lane starts the moment it
finishes, and a lane begins as soon as fewer lanes before it are still at work than there are
slots. These facts fix the time of every event of a schedule without failure.
-/

namespace CardDrawing.Proofs
open Schedule
open scoped List

variable {ι ρ ε τ : Type} {answer : ι → Except ε ρ} {bound : Nat} {work : List (List ι)}

/-! ## The item that is due first -/

lemma lookup_due {running : List (Flight ι)} (hn : (running.map Flight.number).Nodup)
    (time : Flight ι → τ) {flight : Flight ι} (hm : flight ∈ running) :
    (running.map fun f => (f.number, time f)).lookup flight.number = some (time flight) := by
  induction running with
  | nil => cases hm
  | cons other rest ih =>
    rw [List.map_cons, List.nodup_cons] at hn
    rw [List.map_cons, List.lookup_cons]
    rcases List.mem_cons.mp hm with rfl | hm
    · simp
    · have hne : (flight.number == other.number) = false :=
        beq_eq_false_iff_ne.mpr fun he => hn.1 (he ▸ List.mem_map_of_mem hm)
      simpa [hne] using ih hn.2 hm

lemma lookup_forget (due : List (Nat × τ)) {number other : Nat} (h : other ≠ number) :
    (due.filter (·.1 ≠ number)).lookup other = due.lookup other := by
  induction due with
  | nil => rfl
  | cons entry rest ih =>
    obtain ⟨n, time⟩ := entry
    by_cases hn : n = number
    · have ho : (other == n) = false := by simpa [hn] using h
      simpa [List.lookup_cons, hn, beq_eq_false_iff_ne.mpr h] using ih
    · simp only [List.filter_cons, hn, ne_eq, not_false_eq_true, decide_true, if_true,
        List.lookup_cons, ih]

section

variable [LinearOrder τ] {due : List (Nat × τ)}

/-- When a running item will end, if that is known. -/
def dueTime (due : List (Nat × τ)) (flight : Flight ι) : WithTop τ :=
  (due.lookup flight.number).elim ⊤ (↑)

/-- When the best item so far will end, if there is one. -/
def bestTime (best : Option (Flight ι × τ)) : WithTop τ := best.elim ⊤ fun x => x.2

lemma bestTime_sooner (due : List (Nat × τ)) (best : Option (Flight ι × τ)) (flight : Flight ι) :
    bestTime (sooner due best flight) ≤ bestTime best ∧
      bestTime (sooner due best flight) ≤ dueTime due flight := by
  unfold sooner dueTime
  cases hd : due.lookup flight.number with
  | none => exact ⟨le_rfl, le_top⟩
  | some time =>
    cases best with
    | none => exact ⟨le_top, le_rfl⟩
    | some x =>
      by_cases hlt : time < x.2
      · simp [hlt, bestTime, hlt.le]
      · simp [hlt, bestTime, not_lt.mp hlt]

lemma bestTime_foldl (due : List (Nat × τ)) (running : List (Flight ι))
    (best : Option (Flight ι × τ)) :
    bestTime (running.foldl (sooner due) best) ≤ bestTime best ∧
      ∀ flight ∈ running, bestTime (running.foldl (sooner due) best) ≤ dueTime due flight := by
  induction running generalizing best with
  | nil => exact ⟨le_rfl, by simp⟩
  | cons first rest ih =>
    obtain ⟨hbest, hrest⟩ := ih (sooner due best first)
    obtain ⟨hb, hfirst⟩ := bestTime_sooner due best first
    refine ⟨hbest.trans hb, fun flight hm => ?_⟩
    rcases List.mem_cons.mp hm with rfl | hm
    · exact hbest.trans hfirst
    · exact hrest flight hm

/-- No running item is due before the one that ends next. -/
lemma soonest_le {running : List (Flight ι)} {flight other : Flight ι} {time t : τ}
    (h : soonest due running = some (flight, time)) (hm : other ∈ running)
    (ht : due.lookup other.number = some t) : time ≤ t := by
  have hle := (bestTime_foldl due running none).2 other hm
  rw [soonest] at h
  simpa [h, bestTime, dueTime, ht] using hle

end

/-! ## More events at one instant -/

section

variable {log : List (Timed ι τ)} {now : τ} {events : List (Event ι)}

/-- The log goes on with the given events, all of them now. -/
def later (log : List (Timed ι τ)) (now : τ) (events : List (Event ι)) : List (Timed ι τ) :=
  log ++ events.map fun event => { event, time := now }

lemma mem_later {x : Timed ι τ} :
    x ∈ later log now events ↔ x ∈ log ∨ x.event ∈ events ∧ x.time = now := by
  simp only [later, List.mem_append, List.mem_map]
  refine or_congr_right ⟨?_, fun ⟨he, ht⟩ => ⟨x.event, he, by rw [← ht]⟩⟩
  rintro ⟨event, he, rfl⟩
  exact ⟨he, rfl⟩

lemma map_later :
    (later log now events).map Timed.event = log.map Timed.event ++ events := by
  simp [later, Function.comp_def]

end

/-! ## Pace -/

section

variable [Add τ] {delay : ι → τ} {log : List (Timed ι τ)} {now : τ} {t : State ι ρ ε}
  {before events : List (Event ι)}

/-- Items last as long as their delay says, and follow each other in their lane without a break. -/
structure Paced (delay : ι → τ) (work : List (List ι)) (log : List (Timed ι τ)) : Prop where
  lasts : ∀ item time, ⟨.finish item, time⟩ ∈ log →
    ∃ began, ⟨.start item, began⟩ ∈ log ∧ time = began + delay item
  follows : ∀ done prev item rest time, done ++ prev :: item :: rest ∈ work →
    ⟨.start item, time⟩ ∈ log → ⟨.finish prev, time⟩ ∈ log

lemma Calm.not_started_twice (h : Calm answer bound work t) (hh : t.history = before ++ events)
    {item : ι} (hb : item ∈ started before) : item ∉ started events := by
  have hn := h.lawful.started_nodup h.distinct
  rw [hh, started_append] at hn
  exact fun he => List.disjoint_of_nodup_append hn hb he

/-- What is started at an instant at which nothing but earlier items ends runs after it. -/
lemma Calm.running_of_new (h : Calm answer bound work t) (hh : t.history = before ++ events)
    (hended : ∀ item ∈ ended t.history, item ∈ started before) {item : ι}
    (hi : item ∈ started events) : ∃ flight ∈ t.running, flight.item = item := by
  refine List.mem_map.mp ((h.lawful.mem_running_iff h.distinct item).mpr ⟨?_, fun he => ?_⟩)
  · simp [hh, hi]
  · exact h.not_started_twice hh (hended item he) hi

/-- The pace is kept by what happens now, if what finishes now has lasted long enough, and if all
that could follow before now has done so. -/
lemma paced_later (h : Calm answer bound work t) (hh : t.history = before ++ events)
    (hp : Paced delay work log)
    (hlasts : ∀ item, .finish item ∈ events →
      ∃ began, ⟨.start item, began⟩ ∈ log ∧ now = began + delay item)
    (hnext : ∀ done prev item rest, done ++ prev :: item :: rest ∈ work →
      prev ∈ finished before → item ∈ started before) :
    Paced delay work (later log now events) where
  lasts item time hm := by
    rcases mem_later.mp hm with hm | ⟨he, rfl⟩
    · obtain ⟨began, hb, ht⟩ := hp.lasts item time hm
      exact ⟨began, mem_later.mpr (.inl hb), ht⟩
    · obtain ⟨began, hb, ht⟩ := hlasts item he
      exact ⟨began, mem_later.mpr (.inl hb), ht⟩
  follows done prev item rest time hl hm := by
    rcases mem_later.mp hm with hm | ⟨he, rfl⟩
    · exact mem_later.mpr (.inl (hp.follows done prev item rest time hl hm))
    · have hitem : item ∈ started events := mem_started.mpr he
      obtain ⟨k, hk, -⟩ := h.lawful.ordered
      have hprev := hk.orderly.finished_of_started hl (by simp [hh, he])
      rw [hh, finished_append, List.mem_append] at hprev
      refine mem_later.mpr (.inr ⟨mem_finished.mp (hprev.resolve_left fun hb => ?_), rfl⟩)
      exact h.not_started_twice hh (hnext done prev item rest hl hb) hitem

end

/-! ## The lanes ahead -/

section

variable [LinearOrder τ] {log log' : List (Timed ι τ)} {now time : τ} {s : State ι ρ ε}

/-- Every item of a lane has finished by the given time. -/
def DoneBy (log : List (Timed ι τ)) (time : τ) (items : List ι) : Prop :=
  ∀ item ∈ items, ∃ x ∈ log, x.event = .finish item ∧ x.time ≤ time

lemma not_doneBy_of_running (h : Calm answer bound work s)
    (hlog : log.map Timed.event = s.history) {flight : Flight ι} (hm : flight ∈ s.running)
    {items : List ι} (hi : flight.item ∈ items) : ¬ DoneBy log time items := by
  intro hd
  obtain ⟨x, hx, he, -⟩ := hd _ hi
  refine h.not_finished_of_running hm (mem_finished.mpr ?_)
  rw [← hlog, ← he]
  exact List.mem_map_of_mem hx

lemma open_of_not_doneBy (hlog : log.map Timed.event = s.history) (hpast : ∀ x ∈ log, x.time ≤ now)
    {items : List ι} (hd : ¬ DoneBy log now items) : ∃ item ∈ items, item ∉ finished s.history := by
  simp only [DoneBy, not_forall] at hd
  obtain ⟨item, hi, hd⟩ := hd
  refine ⟨item, hi, fun hf => ?_⟩
  rw [mem_finished, ← hlog] at hf
  obtain ⟨x, hx, he⟩ := List.mem_map.mp hf
  exact hd ⟨x, hx, he, hpast x hx⟩

/-- What happens now does not change what was done before. -/
lemma doneBy_later {events : List (Event ι)} {items : List ι} (hlt : time < now) :
    DoneBy (later log now events) time items ↔ DoneBy log time items := by
  refine forall₂_congr fun item _ => exists_congr fun x => ?_
  rw [mem_later]
  constructor
  · rintro ⟨hx | ⟨-, ht⟩, he, hle⟩
    · exact ⟨hx, he, hle⟩
    · exact (not_le.mpr hlt (ht ▸ hle)).elim
  · exact fun ⟨hx, he, hle⟩ => ⟨.inl hx, he, hle⟩

variable [DecidableEq ι]

instance (log : List (Timed ι τ)) (time : τ) (items : List ι) : Decidable (DoneBy log time items) :=
  inferInstanceAs (Decidable (∀ item ∈ items, ∃ x ∈ log, x.event = .finish item ∧ x.time ≤ time))

/-- The lanes before lane `n` that are not done by the given time. -/
def ahead (work : List (List ι)) (log : List (Timed ι τ)) (n : Nat) (time : τ) : List (Lane ι) :=
  (lanes work).filter fun lane => lane.number < n ∧ ¬ DoneBy log time lane.items

lemma mem_ahead {n : Nat} {lane : Lane ι} : lane ∈ ahead work log n time ↔
    work[lane.number]? = some lane.items ∧ lane.number < n ∧ ¬ DoneBy log time lane.items := by
  rw [ahead, List.mem_filter, mem_lanes, decide_eq_true_iff]

/-- The sooner lanes are done, the fewer are ahead. -/
lemma ahead_length_le {n : Nat} {time' : τ}
    (h : ∀ lane ∈ lanes work, lane.number < n →
      DoneBy log time lane.items → DoneBy log' time' lane.items) :
    (ahead work log' n time').length ≤ (ahead work log n time).length := by
  simp only [ahead, ← List.countP_eq_length_filter]
  refine List.countP_mono_left fun lane hm hlane => ?_
  rw [decide_eq_true_iff] at hlane ⊢
  exact ⟨hlane.1, fun hd => hlane.2 (h lane hm hlane.1 hd)⟩

/-- A lane that runs an item has a slot, so that fewer lanes ahead of it are at work than there are
slots. -/
lemma Calm.ahead_lt (h : Calm answer bound work s) (hlog : log.map Timed.event = s.history)
    (hpast : ∀ x ∈ log, x.time ≤ now) {flight : Flight ι} (hm : flight ∈ s.running) :
    (ahead work log flight.number now).length < bound := by
  obtain ⟨k, hline, hbegun⟩ := h.line
  have hfk : flight.number < k := by
    obtain ⟨done, hd⟩ := h.getElem?_of_running hm
    have hin := (h.lawful.mem_running_iff h.distinct _).mp (List.mem_map_of_mem hm)
    exact (hbegun _ _ hd).mp ⟨flight.item, by simp, hin.1⟩
  have hsub : flight.number :: (ahead work log flight.number now).map Lane.number ⊆
      s.running.map Flight.number := by
    refine List.cons_subset.mpr ⟨List.mem_map_of_mem hm, fun n hn => ?_⟩
    obtain ⟨lane, ha, rfl⟩ := List.mem_map.mp hn
    obtain ⟨hlane, hlt, hd⟩ := mem_ahead.mp ha
    obtain ⟨item, hi, hf⟩ := open_of_not_doneBy hlog hpast hd
    refine (List.mem_append.mp (h.placed_of_unfinished hlane hi hf)).resolve_left fun hw => ?_
    obtain ⟨other, hwait, hnum⟩ := List.mem_map.mp hw
    rw [hline, mem_lanes_drop] at hwait
    omega
  have hnodup : (flight.number :: (ahead work log flight.number now).map Lane.number).Nodup := by
    refine List.nodup_cons.mpr ⟨fun hn => ?_, filter_lanes_nodup _⟩
    obtain ⟨lane, ha, hnum⟩ := List.mem_map.mp hn
    have hlt := (mem_ahead.mp ha).2.1
    omega
  have hlen := (hnodup.subperm hsub).length_le
  have hslots := h.lawful.placed.slots
  simp only [List.length_cons, List.length_map] at hlen
  omega

/-- A lane that stands in line has as many lanes ahead of it at work as there are slots. -/
lemma Calm.le_ahead (h : Calm answer bound work s) (hlog : log.map Timed.event = s.history)
    (time : τ) {lane : Lane ι} (hm : lane ∈ s.waiting) :
    bound ≤ (ahead work log lane.number time).length := by
  obtain ⟨k, hline, hbegun⟩ := h.line
  have hkn : k ≤ lane.number := (mem_lanes_drop.mp (hline ▸ hm)).2
  have hfull : s.running.length = bound :=
    h.waiting_or_full.resolve_left (List.ne_nil_of_mem hm)
  have hsub : s.running.map Flight.number ⊆ (ahead work log lane.number time).map Lane.number := by
    intro n hn
    obtain ⟨flight, hf, rfl⟩ := List.mem_map.mp hn
    obtain ⟨done, hd⟩ := h.getElem?_of_running hf
    have hin := (h.lawful.mem_running_iff h.distinct _).mp (List.mem_map_of_mem hf)
    have hlt := (hbegun _ _ hd).mp ⟨flight.item, by simp, hin.1⟩
    refine List.mem_map.mpr ⟨⟨flight.number, done ++ flight.item :: flight.rest⟩, ?_, rfl⟩
    exact mem_ahead.mpr ⟨hd, by dsimp only; omega, not_doneBy_of_running h hlog hf (by simp)⟩
  have hlen := (h.lawful.placed.running.subperm hsub).length_le
  simp only [List.length_map] at hlen
  omega

end

/-! ## The line -/

section

variable [DecidableEq ι] [LinearOrder τ] {start now : τ} {log : List (Timed ι τ)}
  {t : State ι ρ ε} {before events : List (Event ι)}

/-- A lane begins as soon as fewer lanes ahead of it are at work than there are slots: not before,
and up to `now` not later either. -/
structure Queued (start : τ) (bound : Nat) (work : List (List ι)) (now : τ)
    (log : List (Timed ι τ)) : Prop where
  roomy : ∀ n first rest time, work[n]? = some (first :: rest) → ⟨.start first, time⟩ ∈ log →
    (ahead work log n time).length < bound
  crowded : ∀ n first rest time, work[n]? = some (first :: rest) → start ≤ time → time < now →
    (∀ began, ⟨.start first, began⟩ ∈ log → time < began) →
    bound ≤ (ahead work log n time).length

/-- The line is kept by what happens now, if lanes were kept waiting until now for want of a slot
only. -/
lemma queued_later (h : Calm answer bound work t) (hh : t.history = before ++ events)
    (hlog : log.map Timed.event = before) (hpast : ∀ x ∈ log, x.time ≤ now)
    (hended : ∀ item ∈ ended t.history, item ∈ started before)
    (hroomy : ∀ n first rest time, work[n]? = some (first :: rest) → ⟨.start first, time⟩ ∈ log →
      (ahead work log n time).length < bound)
    (hcrowded : ∀ n first rest time, work[n]? = some (first :: rest) → start ≤ time → time < now →
      (∀ began, ⟨.start first, began⟩ ∈ log → time < began) →
      bound ≤ (ahead work log n time).length) :
    Queued start bound work now (later log now events) where
  roomy n first rest time hn hm := by
    rcases mem_later.mp hm with hm | ⟨he, rfl⟩
    · refine (ahead_length_le fun lane _ _ hd item hi => ?_).trans_lt
        (hroomy n first rest time hn hm)
      obtain ⟨x, hx, hxe⟩ := hd item hi
      exact ⟨x, mem_later.mpr (.inl hx), hxe⟩
    · obtain ⟨flight, hf, rfl⟩ := h.running_of_new hh hended (mem_started.mpr he)
      obtain ⟨done, hd⟩ := h.getElem?_of_running hf
      rw [lane_unique h.distinct hn hd List.mem_cons_self (by simp)]
      refine h.ahead_lt (by rw [map_later, hlog, hh]) (fun x hx => ?_) hf
      rcases mem_later.mp hx with hx | ⟨-, ht⟩
      · exact hpast x hx
      · exact ht.le
  crowded n first rest time hn hstart hlt hnew := by
    refine (hcrowded n first rest time hn hstart hlt fun began hb => ?_).trans ?_
    · exact hnew began (mem_later.mpr (.inl hb))
    · exact ahead_length_le fun lane _ _ hd => (doneBy_later hlt).mp hd

end

end CardDrawing.Proofs
