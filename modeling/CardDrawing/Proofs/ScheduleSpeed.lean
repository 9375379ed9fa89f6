import CardDrawing.Proofs.ScheduleClockwork

/-!
# More slots delay nothing

Two schedules of the same work on a clock, one with at least as many slots as the other: every
item starts and finishes in it no later than in the other. A lane begins once few enough lanes
before it are at work, and those are done no later either, so that the comparison goes from lane
to lane, and within a lane from item to item.
-/

namespace CardDrawing.Proofs
open Schedule
open scoped List

variable {ι ρ ε τ : Type} {answer : ι → Except ε ρ} {bound : Nat} {work : List (List ι)}

/-! ## What has happened in the end -/

section

variable {s : State ι ρ ε}

lemma Lawful.ended_nodup (h : Lawful bound work s) (hw : work.flatten.Nodup) :
    (ended s.history).Nodup :=
  List.Nodup.of_append_right (h.counted.flights.nodup_iff.mpr (h.started_nodup hw))

/-- Nothing happens twice. -/
lemma Lawful.history_nodup (h : Lawful bound work s) (hw : work.flatten.Nodup) :
    s.history.Nodup := by
  have hstarted := h.started_nodup hw
  have hended := h.ended_nodup hw
  rw [started, List.Nodup, List.pairwise_filterMap] at hstarted
  rw [ended, List.Nodup, List.pairwise_filterMap] at hended
  refine (hstarted.and hended).imp ?_
  rintro e e' ⟨hs, he⟩ rfl
  cases e with
  | start item => exact hs item rfl item rfl rfl
  | finish item => exact he item rfl item rfl rfl
  | fail item => exact he item rfl item rfl rfl
  | cancel item => exact he item rfl item rfl rfl

/-- An item ends in one way only. -/
lemma Lawful.end_unique (h : Lawful bound work s) (hw : work.flatten.Nodup) {e e' : Event ι}
    {item : ι} (he : e ∈ s.history) (he' : e' ∈ s.history) (hi : e.ended? = some item)
    (hi' : e'.ended? = some item) : e = e' := by
  have hended := h.ended_nodup hw
  rw [ended, List.Nodup, List.pairwise_filterMap] at hended
  by_contra hne
  have hsymm : Std.Symm fun e e' : Event ι =>
      ∀ b, e.ended? = some b → ∀ b', e'.ended? = some b' → b ≠ b' :=
    ⟨fun e e' h b hb b' hb' heq => h b' hb' b hb heq.symm⟩
  exact hended.forall he he' hne item hi item hi' rfl

/-- In the end every item has been started and has finished, and nothing else has happened. -/
lemma Calm.mem_history (h : Calm answer bound work s) (ho : s.Over) {event : Event ι} :
    event ∈ s.history ↔ ∃ item ∈ work.flatten, event = .start item ∨ event = .finish item := by
  have hfinished (item : ι) : .finish item ∈ s.history ↔ item ∈ work.flatten := by
    rw [← mem_finished, (h.finished_perm ho).mem_iff]
  constructor
  · intro he
    cases event with
    | start item => exact ⟨item, h.lawful.counted.once.subset (mem_started.mpr he), .inl rfl⟩
    | finish item => exact ⟨item, (hfinished item).mp he, .inr rfl⟩
    | fail item =>
      have hf : item ∈ failed s.history := mem_failed.mpr he
      rw [h.healthy] at hf
      cases hf
    | cancel item =>
      -- it would have finished as well
      have hc : item ∈ ended s.history := mem_ended.mpr (.inr (.inr he))
      rw [h.ended_eq] at hc
      cases h.lawful.end_unique h.distinct he (mem_finished.mp hc) rfl rfl
  · rintro ⟨item, hi, rfl | rfl⟩
    · have hf := (hfinished item).mpr hi
      exact mem_started.mp (h.lawful.counted.started_of_finished (mem_finished.mpr hf))
    · exact (hfinished item).mpr hi

end

/-! ## Two logs -/

section

variable [LinearOrder τ] {log log' : List (Timed ι τ)} {start : τ}

/-- The event happens in the one log no later than in the other. -/
def Sooner (log log' : List (Timed ι τ)) (event : Event ι) : Prop :=
  ∀ time time', ⟨event, time⟩ ∈ log → ⟨event, time'⟩ ∈ log' → time ≤ time'

/-- When the last thing happens that a log tells of; it opens at `start`. -/
def endTime (start : τ) (log : List (Timed ι τ)) : τ := (log.getLast?.map Timed.time).getD start

/-- The same happens in both logs, each thing once, and in `log` never later than in `log'`. -/
structure NoLater (start : τ) (log log' : List (Timed ι τ)) : Prop where
  once : (log.map Timed.event).Nodup
  same : log.map Timed.event ~ log'.map Timed.event
  sooner : ∀ event, Sooner log log' event
  ends : endTime start log ≤ endTime start log'

/-- In a log in order, nothing happens after the last thing. -/
lemma time_le_endTime (hs : log.Pairwise (·.time ≤ ·.time)) {x : Timed ι τ} (hx : x ∈ log) :
    x.time ≤ endTime start log := by
  rcases List.eq_nil_or_concat log with rfl | ⟨rest, last, rfl⟩
  · cases hx
  · rw [List.concat_eq_append] at hs hx ⊢
    have hend : endTime start (rest ++ [last]) = last.time := by simp [endTime]
    rw [hend]
    rcases List.mem_append.mp hx with hx | hx
    · exact (List.pairwise_append.mp hs).2.2 x hx last (by simp)
    · rw [List.mem_singleton.mp hx]

lemma endTime_le (hs : log'.Pairwise (·.time ≤ ·.time))
    (hsame : log.map Timed.event ~ log'.map Timed.event)
    (hsooner : ∀ event, Sooner log log' event) : endTime start log ≤ endTime start log' := by
  rcases List.eq_nil_or_concat log with rfl | ⟨rest, last, rfl⟩
  · have hnil : log' = [] := by simpa using hsame.symm
    rw [hnil]
  · rw [List.concat_eq_append] at hsame hsooner ⊢
    have hend : endTime start (rest ++ [last]) = last.time := by simp [endTime]
    have hlast : last.event ∈ log'.map Timed.event := hsame.mem_iff.mp (by simp)
    obtain ⟨x, hx, he⟩ := List.mem_map.mp hlast
    have hx' : (⟨last.event, x.time⟩ : Timed ι τ) ∈ log' := he ▸ hx
    rw [hend]
    exact (hsooner last.event last.time x.time (by simp) hx').trans (time_le_endTime hs hx)

end

/-! ## From lane to lane -/

section

variable [DecidableEq ι] [Add τ] [LinearOrder τ] [AddRightMono τ] {delay : ι → τ}
  {m n : Nat} {start now now' : τ} {fast slow : Watch ι ρ ε τ}

omit [DecidableEq ι] in
/-- What starts no later finishes no later. -/
lemma finish_sooner {log log' : List (Timed ι τ)} (h : Paced delay work log)
    (h' : Paced delay work log') {item : ι} (hs : Sooner log log' (.start item)) :
    Sooner log log' (.finish item) := by
  intro time time' ht ht'
  obtain ⟨began, hb, rfl⟩ := h.lasts item time ht
  obtain ⟨began', hb', rfl⟩ := h'.lasts item time' ht'
  exact add_le_add_left (hs began began' hb hb') (delay item)

omit [DecidableEq ι] in
/-- In a lane that begins no later, everything starts no later. -/
lemma start_sooner {log log' : List (Timed ι τ)} (h : Paced delay work log)
    (h' : Paced delay work log') {first : ι} {rest : List ι} (hl : first :: rest ∈ work)
    (hfirst : Sooner log log' (.start first)) {item : ι} (hi : item ∈ first :: rest) :
    Sooner log log' (.start item) := by
  obtain ⟨done, after, he⟩ := List.append_of_mem hi
  clear hi
  -- the induction is on what comes before the item in its lane
  induction done using List.reverseRecOn generalizing item after with
  | nil => exact (List.cons.inj he).1 ▸ hfirst
  | append_singleton done prev ih =>
    rw [List.append_assoc, List.singleton_append] at he
    intro time time' ht ht'
    rw [he] at hl
    exact finish_sooner h h' (ih (item :: after) he) time time'
      (h.follows done prev item after time hl ht) (h'.follows done prev item after time' hl ht')

omit [AddRightMono τ] in
lemma log_unique (h : OnTime answer bound work start delay now fast) {event : Event ι} {t t' : τ}
    (ht : ⟨event, t⟩ ∈ fast.log) (ht' : ⟨event, t'⟩ ∈ fast.log) : t = t' := by
  have hn : (fast.log.map Timed.event).Nodup :=
    h.log ▸ h.calm.lawful.history_nodup h.calm.distinct
  exact congrArg Timed.time (List.inj_on_of_nodup_map hn ht ht' rfl)

omit [AddRightMono τ] in
/-- If the lanes before a lane finish no later, the lane begins no later. -/
lemma first_sooner (hmn : m ≤ n) (h : OnTime answer n work start delay now fast)
    (h' : OnTime answer m work start delay now' slow) (ho : fast.state.Over) {k : Nat} {first : ι}
    {rest : List ι} (hk : work[k]? = some (first :: rest))
    (hbefore : ∀ i lane, work[i]? = some lane → i < k → ∀ item ∈ lane,
      Sooner fast.log slow.log (.finish item)) :
    Sooner fast.log slow.log (.start first) := by
  intro time time' ht ht'
  by_contra hlt
  have hcrowded : n ≤ (ahead work fast.log k time').length := by
    refine h.crowded hk (h'.past _ ht').1 fun began hb => ?_
    rw [log_unique h hb ht]
    exact not_le.mp hlt
  have hroomy : (ahead work slow.log k time').length < m :=
    h'.queued.roomy k first rest time' hk ht'
  have hle : (ahead work fast.log k time').length ≤ (ahead work slow.log k time').length := by
    refine ahead_length_le fun lane hlane hlt hdone item hi => ?_
    have hwork := mem_lanes.mp hlane
    obtain ⟨⟨event, t'⟩, hx, rfl, hle⟩ := hdone item hi
    have hfin : .finish item ∈ fast.log.map Timed.event := by
      rw [h.log, h.calm.mem_history ho]
      exact ⟨item, List.mem_flatten_of_mem (List.mem_of_getElem? hwork) hi, .inr rfl⟩
    obtain ⟨⟨event, t⟩, hy, rfl⟩ := List.mem_map.mp hfin
    exact ⟨_, hy, rfl, (hbefore _ _ hwork hlt item hi t t' hy hx).trans hle⟩
  omega

/-- Lane by lane, nothing of a schedule with more slots is later. -/
theorem lane_sooner (hmn : m ≤ n) (h : OnTime answer n work start delay now fast)
    (h' : OnTime answer m work start delay now' slow) (ho : fast.state.Over) (k : Nat) :
    ∀ lane, work[k]? = some lane → ∀ item ∈ lane,
      Sooner fast.log slow.log (.start item) ∧ Sooner fast.log slow.log (.finish item) := by
  induction k using Nat.strong_induction_on with
  | _ k ih =>
    intro lane hk item hi
    have hl := List.mem_of_getElem? hk
    cases lane with
    | nil => cases hi
    | cons first rest =>
      have hfirst := first_sooner hmn h h' ho hk fun i lane hwork hlt item hi =>
        (ih i hlt lane hwork item hi).2
      have hs := start_sooner h.paced h'.paced hl hfirst hi
      exact ⟨hs, finish_sooner h.paced h'.paced hs⟩

theorem noLater_of_onTime (hmn : m ≤ n) (h : OnTime answer n work start delay now fast)
    (h' : OnTime answer m work start delay now' slow) (ho : fast.state.Over)
    (ho' : slow.state.Over) : NoLater start fast.log slow.log := by
  have hnodup := h.calm.lawful.history_nodup h.calm.distinct
  have hsame : fast.log.map Timed.event ~ slow.log.map Timed.event := by
    rw [h.log, h'.log]
    refine (List.perm_ext_iff_of_nodup hnodup
      (h'.calm.lawful.history_nodup h.calm.distinct)).mpr fun event => ?_
    rw [h.calm.mem_history ho, h'.calm.mem_history ho']
  have hsooner : ∀ event, Sooner fast.log slow.log event := by
    intro event time time' ht ht'
    have he : event ∈ fast.state.history := h.log ▸ List.mem_map_of_mem ht
    obtain ⟨item, hi, hevent⟩ := (h.calm.mem_history ho).mp he
    obtain ⟨lane, hl, hmem⟩ := List.mem_flatten.mp hi
    obtain ⟨k, hk⟩ := List.mem_iff_getElem?.mp hl
    obtain ⟨hs, hf⟩ := lane_sooner hmn h h' ho k lane hk item hmem
    rcases hevent with rfl | rfl
    · exact hs time time' ht ht'
    · exact hf time time' ht ht'
  exact ⟨h.log ▸ hnodup, hsame, hsooner, endTime_le h'.sorted hsame hsooner⟩

omit [AddRightMono τ] in
/-- When everything succeeds, a schedule on a clock ends in time. -/
lemma onTime_runOnClock (hb : 1 ≤ bound) (hw : work.flatten.Nodup) (hne : [] ∉ work)
    (hd : ∀ time item, time ≤ time + delay item)
    (hall : ∀ item ∈ work.flatten, ∃ result, answer item = .ok result) :
    (∃ now, OnTime answer bound work start delay now
      (runOnClock start delay answer bound work)) ∧
    (runOnClock start delay answer bound work).state.Over :=
  ⟨onTime_run hd hall (onTime_opening hw hne hd) _, (runOnClock_over start hb).2⟩

/-- On a clock, more slots delay nothing. -/
theorem runOnClock_noLater (hm : 1 ≤ m) (hmn : m ≤ n) (hw : work.flatten.Nodup) (hne : [] ∉ work)
    (hd : ∀ time item, time ≤ time + delay item)
    (hall : ∀ item ∈ work.flatten, ∃ result, answer item = .ok result) :
    NoLater start (runOnClock start delay answer n work).log
      (runOnClock start delay answer m work).log := by
  obtain ⟨⟨now, h⟩, ho⟩ := onTime_runOnClock (hm.trans hmn) hw hne hd hall
  obtain ⟨⟨now', h'⟩, ho'⟩ := onTime_runOnClock hm hw hne hd hall
  exact noLater_of_onTime hmn h h' ho ho'

end

end CardDrawing.Proofs
