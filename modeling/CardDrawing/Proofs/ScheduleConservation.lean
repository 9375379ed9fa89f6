import CardDrawing.Proofs.ScheduleFailure
import CardDrawing.Proofs.ScheduleOrder

/-!
# No slot is idle

In a settled schedule without failure every lane that is not done is in line or runs an item, and
lanes stand in line only while every slot is taken. So as many items run as slots and lanes allow,
and a schedule ends with the last of its items.
-/

namespace CardDrawing.Proofs
open Schedule
open scoped List

variable {ι ρ ε : Type} {answer : ι → Except ε ρ} {bound : Nat} {work : List (List ι)}
  {s : State ι ρ ε}

lemma mem_lanes {lane : Lane ι} : lane ∈ lanes work ↔ work[lane.number]? = some lane.items := by
  rw [lanes, List.mem_map]
  constructor
  · rintro ⟨⟨items, number⟩, hm, rfl⟩
    exact List.mk_mem_zipIdx_iff_getElem?.mp hm
  · exact fun h => ⟨(lane.items, lane.number), List.mk_mem_zipIdx_iff_getElem?.mpr h, rfl⟩

lemma mem_lanes_drop {k : Nat} {lane : Lane ι} :
    lane ∈ (lanes work).drop k ↔ work[lane.number]? = some lane.items ∧ k ≤ lane.number := by
  simp only [List.mem_iff_getElem?, List.getElem?_drop, lanes, List.getElem?_map,
    List.getElem?_zipIdx, Option.map_map, Option.map_eq_some_iff]
  constructor
  · rintro ⟨i, items, hi, rfl⟩
    exact ⟨by simpa using hi, by simp⟩
  · rintro ⟨hi, hk⟩
    refine ⟨lane.number - k, lane.items, ?_, ?_⟩
    · rwa [Nat.add_sub_cancel' hk]
    · simp [Nat.add_sub_cancel' hk]

lemma filter_lanes_nodup (p : Lane ι → Bool) :
    (((lanes work).filter p).map Lane.number).Nodup := by
  have hsub : (((lanes work).filter p).map Lane.number).Sublist ((lanes work).map Lane.number) :=
    List.filter_sublist.map _
  rw [lanes_numbers] at hsub
  exact List.nodup_range.sublist hsub

/-- A settled state in which nothing has failed, of a schedule whose lanes hold distinct items,
none of them empty. -/
structure Calm (answer : ι → Except ε ρ) (bound : Nat) (work : List (List ι))
    (s : State ι ρ ε) : Prop where
  distinct : work.flatten.Nodup
  inhabited : [] ∉ work
  reachable : Reachable answer bound work s
  healthy : failed s.history = []
  settled : s.advance? = none

namespace Calm

lemma lawful (h : Calm answer bound work s) : Lawful bound work s :=
  reachable_lawful h.distinct h.inhabited h.reachable

lemma failure (h : Calm answer bound work s) : s.failure = none :=
  ((reachable_answered h.reachable).calm h.healthy).1

lemma ended_eq (h : Calm answer bound work s) : ended s.history = finished s.history :=
  ((reachable_answered h.reachable).calm h.healthy).2

/-! ## Where the lanes are -/

lemma idle (h : Calm answer bound work s) : s.idle = [] := (advance?_eq_none.mp h.settled).1

lemma called (h : Calm answer bound work s) : s.called = [] := (advance?_eq_none.mp h.settled).2.1

/-- Lanes stand in line only while every slot runs an item. -/
lemma waiting_or_full (h : Calm answer bound work s) :
    s.waiting = [] ∨ s.running.length = bound := by
  refine (advance?_eq_none.mp h.settled).2.2.imp_right fun hfree => ?_
  have hslots := h.lawful.placed.slots
  rw [hfree, h.called, h.idle, List.length_nil] at hslots
  omega

/-- The lanes in line are those that have not begun. -/
lemma line (h : Calm answer bound work s) : ∃ k, s.waiting = (lanes work).drop k ∧
    ∀ n lane, work[n]? = some lane → ((∃ item ∈ lane, item ∈ started s.history) ↔ n < k) := by
  obtain ⟨k, hk, hl⟩ := h.lawful.ordered
  have hline := hl h.failure
  rw [h.called, List.nil_append] at hline
  exact ⟨k, hline, hk.begun⟩

/-- A lane stands in line, with all its items to start, as long as none of them has been. -/
lemma mem_waiting (h : Calm answer bound work s) {lane : Lane ι} : lane ∈ s.waiting ↔
    work[lane.number]? = some lane.items ∧ ∀ item ∈ lane.items, item ∉ started s.history := by
  obtain ⟨k, hline, hbegun⟩ := h.line
  rw [hline, mem_lanes_drop]
  refine and_congr_right fun hlane => ?_
  rw [← Nat.not_lt, ← hbegun _ _ hlane]
  simp

/-- A lane whose first item has not been started stands in line. -/
lemma waiting_of_new [DecidableEq ι] (h : Calm answer bound work s) {n : Nat} {first : ι}
    {rest : List ι} (hn : work[n]? = some (first :: rest)) (hf : first ∉ started s.history) :
    ⟨n, first :: rest⟩ ∈ s.waiting :=
  h.mem_waiting.mpr ⟨hn, fun _ hi hs => hf (first_started h.distinct h.inhabited h.reachable
    (List.mem_of_getElem? hn) hi hs)⟩

lemma getElem?_of_running (h : Calm answer bound work s) {flight : Flight ι}
    (hm : flight ∈ s.running) :
    ∃ done, work[flight.number]? = some (done ++ flight.item :: flight.rest) := by
  obtain ⟨k, hk, -⟩ := h.lawful.ordered
  exact hk.running flight hm

lemma numbers_nodup (h : Calm answer bound work s) :
    (s.waiting.map Lane.number ++ s.running.map Flight.number).Nodup := by
  have hn := h.lawful.placed.numbers
  rwa [numbersOf, h.called, h.idle, List.nil_append, List.append_nil] at hn

lemma mem_leftOf (h : Calm answer bound work s) {item : ι} : item ∈ leftOf s ↔
    (∃ lane ∈ s.waiting, item ∈ lane.items) ∨ ∃ flight ∈ s.running, item ∈ flight.rest := by
  simp [leftOf, h.called, h.idle]

/-! ## Which items are open -/

lemma not_started_of_left (h : Calm answer bound work s) {item : ι} (hi : item ∈ leftOf s) :
    item ∉ started s.history :=
  h.lawful.counted.fresh h.distinct h.failure hi

lemma not_finished_of_left (h : Calm answer bound work s) {item : ι} (hi : item ∈ leftOf s) :
    item ∉ finished s.history :=
  fun hf => h.not_started_of_left hi (h.lawful.counted.started_of_finished hf)

lemma not_finished_of_running (h : Calm answer bound work s) {flight : Flight ι}
    (hm : flight ∈ s.running) : flight.item ∉ finished s.history := by
  have hin := (h.lawful.mem_running_iff h.distinct flight.item).mp (List.mem_map_of_mem hm)
  exact h.ended_eq ▸ hin.2

/-- An item that has not finished is to be started, or it runs. -/
lemma left_or_running (h : Calm answer bound work s) {item : ι} (hi : item ∈ work.flatten)
    (hf : item ∉ finished s.history) :
    item ∈ leftOf s ∨ ∃ flight ∈ s.running, flight.item = item := by
  rcases List.mem_append.mp ((h.lawful.counted.account h.failure).mem_iff.mpr hi) with hl | hs
  · exact .inl hl
  · have hm := h.lawful.counted.flights.mem_iff.mpr hs
    rw [h.ended_eq, List.mem_append] at hm
    exact .inr (List.mem_map.mp (hm.resolve_right hf))

/-- The lane of an item that has not finished is in line or runs an item. -/
lemma placed_of_unfinished (h : Calm answer bound work s) {n : Nat} {lane : List ι}
    (hn : work[n]? = some lane) {item : ι} (hi : item ∈ lane) (hf : item ∉ finished s.history) :
    n ∈ s.waiting.map Lane.number ++ s.running.map Flight.number := by
  have hflat : item ∈ work.flatten := List.mem_flatten_of_mem (List.mem_of_getElem? hn) hi
  have hrun {flight : Flight ι} (hm : flight ∈ s.running)
      (hmem : item ∈ flight.item :: flight.rest) : n ∈ s.running.map Flight.number := by
    obtain ⟨done, hd⟩ := h.getElem?_of_running hm
    rw [lane_unique h.distinct hn hd hi (List.mem_append_right done hmem)]
    exact List.mem_map_of_mem hm
  rw [List.mem_append]
  rcases h.left_or_running hflat hf with hl | ⟨flight, hm, rfl⟩
  · rcases h.mem_leftOf.mp hl with ⟨other, hm, hmem⟩ | ⟨flight, hm, hmem⟩
    · rw [lane_unique h.distinct hn (h.mem_waiting.mp hm).1 hi hmem]
      exact .inl (List.mem_map_of_mem hm)
    · exact .inr (hrun hm (List.mem_cons_of_mem _ hmem))
  · exact .inr (hrun hm List.mem_cons_self)

/-- A lane that is in line or runs an item is not done. -/
lemma unfinished_of_placed (h : Calm answer bound work s) {n : Nat}
    (hn : n ∈ s.waiting.map Lane.number ++ s.running.map Flight.number) :
    ∃ lane, work[n]? = some lane ∧ ∃ item ∈ lane, item ∉ finished s.history := by
  rcases List.mem_append.mp hn with hn | hn
  · obtain ⟨lane, hm, rfl⟩ := List.mem_map.mp hn
    have hlane := (h.mem_waiting.mp hm).1
    obtain ⟨item, hi⟩ := List.exists_mem_of_ne_nil lane.items
      fun he => h.inhabited (he ▸ List.mem_of_getElem? hlane)
    exact ⟨_, hlane, item, hi, h.not_finished_of_left (h.mem_leftOf.mpr (.inl ⟨lane, hm, hi⟩))⟩
  · obtain ⟨flight, hm, rfl⟩ := List.mem_map.mp hn
    obtain ⟨done, hd⟩ := h.getElem?_of_running hm
    exact ⟨_, hd, flight.item, by simp, h.not_finished_of_running hm⟩

/-- No lane is idle: where an item has finished, the next one of its lane has been started. -/
lemma successor_started (h : Calm answer bound work s) {done rest : List ι} {prev item : ι}
    (hl : done ++ prev :: item :: rest ∈ work) (hf : prev ∈ finished s.history) :
    item ∈ started s.history := by
  by_contra hi
  obtain ⟨n, hn⟩ := List.mem_iff_getElem?.mp hl
  have hflat : item ∈ work.flatten := List.mem_flatten_of_mem hl (by simp)
  have hleft : item ∈ leftOf s := by
    have ha := (h.lawful.counted.account h.failure).mem_iff.mpr hflat
    exact (List.mem_append.mp ha).resolve_right hi
  rcases h.mem_leftOf.mp hleft with ⟨lane, hm, hmem⟩ | ⟨flight, hm, hmem⟩
  · -- nothing of a lane in line has been started
    obtain ⟨hlane, hnew⟩ := h.mem_waiting.mp hm
    rw [← lane_unique h.distinct hn hlane (by simp) hmem, hn] at hlane
    exact hnew prev (Option.some.inj hlane ▸ by simp) (h.lawful.counted.started_of_finished hf)
  · -- what comes before `item` runs, or is left as well
    obtain ⟨done', hd⟩ := h.getElem?_of_running hm
    obtain ⟨before, after, hrest⟩ := List.append_of_mem hmem
    have hitem : item ∈ done ++ prev :: item :: rest := by simp
    rw [← lane_unique h.distinct hn hd hitem (by simp [hmem]), hn] at hd
    have he : (done ++ [prev]) ++ item :: rest =
        (done' ++ flight.item :: before) ++ item :: after := by
      simpa [hrest] using Option.some.inj hd
    have hnodup : ((done ++ [prev]) ++ item :: rest).Nodup := by
      simpa using (List.nodup_flatten.mp h.distinct).1 _ hl
    have hlast := congrArg List.getLast? (split_unique hnodup he).1
    rw [List.getLast?_concat, List.getLast?_append_cons] at hlast
    rcases List.mem_cons.mp (List.mem_of_getLast? hlast.symm) with rfl | hb
    · exact h.not_finished_of_running hm hf
    · exact h.not_finished_of_left (h.mem_leftOf.mpr (.inr ⟨flight, hm, by simp [hrest, hb]⟩)) hf

end Calm

/-! ## How many items run -/

section

variable [DecidableEq ι]

/-- The lanes with an item that has not finished. -/
def unfinished (work : List (List ι)) (history : List (Event ι)) : List (Lane ι) :=
  (lanes work).filter fun lane => ∃ item ∈ lane.items, item ∉ finished history

lemma mem_unfinished {history : List (Event ι)} {lane : Lane ι} :
    lane ∈ unfinished work history ↔ work[lane.number]? = some lane.items ∧
      ∃ item ∈ lane.items, item ∉ finished history := by
  rw [unfinished, List.mem_filter, mem_lanes, decide_eq_true_iff]

/-- The lanes that are not done are those in line and those that run an item. -/
lemma Calm.unfinished_perm (h : Calm answer bound work s) :
    (unfinished work s.history).map Lane.number ~
      s.waiting.map Lane.number ++ s.running.map Flight.number := by
  refine (List.perm_ext_iff_of_nodup (filter_lanes_nodup _) h.numbers_nodup).mpr fun n => ?_
  rw [List.mem_map]
  constructor
  · rintro ⟨lane, hm, rfl⟩
    obtain ⟨hlane, item, hi, hf⟩ := mem_unfinished.mp hm
    exact h.placed_of_unfinished hlane hi hf
  · intro hn
    obtain ⟨lane, hlane, hopen⟩ := h.unfinished_of_placed hn
    exact ⟨⟨n, lane⟩, mem_unfinished.mpr ⟨hlane, hopen⟩, rfl⟩

/-- As many items run as there are slots, or lanes that are not done if these are fewer. -/
theorem Calm.running_length (h : Calm answer bound work s) :
    s.running.length = min bound (unfinished work s.history).length := by
  have hcount := h.unfinished_perm.length_eq
  simp only [List.length_map, List.length_append] at hcount
  have hslots := h.lawful.placed.slots
  rcases h.waiting_or_full with hwait | hfull
  · rw [hwait, List.length_nil] at hcount
    omega
  · omega

/-- No slot is idle: the running items are those in flight, one for every slot, or for every lane
that is not done if these are fewer. -/
structure Busy (bound : Nat) (work : List (List ι)) (s : State ι ρ ε) : Prop where
  inFlight : ∀ item, item ∈ s.running.map Flight.item ↔ InFlight s.history item
  distinct : (s.running.map Flight.item).Nodup
  full : s.running.length = min bound (unfinished work s.history).length

lemma Calm.busy (h : Calm answer bound work s) : Busy bound work s where
  inFlight := h.lawful.mem_running_iff h.distinct
  distinct := List.Nodup.of_append_left
    (h.lawful.counted.flights.nodup_iff.mpr (h.lawful.started_nodup h.distinct))
  full := h.running_length

end

lemma quiet_starts (items : List ι) : started (items.map Event.start) = items ∧
    finished (items.map Event.start) = [] ∧ failed (items.map Event.start) = [] ∧
      ended (items.map Event.start) = [] := by
  simp [started, finished, failed, ended, Event.started?, Event.finished?, Event.failed?,
    Event.ended?, Function.comp_def]

/-- When everything has gone on that can, a schedule without failure is calm, and no item has
finished meanwhile. -/
lemma calm_settle (hw : work.flatten.Nodup) (hne : [] ∉ work) (h : Reachable answer bound work s)
    (hf : failed s.history = []) :
    Calm answer bound work s.settle ∧ finished s.settle.history = finished s.history := by
  obtain ⟨-, -, items, hitems⟩ := settle_quiet s
  obtain ⟨-, hfinished, hfailed, -⟩ := quiet_starts items
  refine ⟨⟨hw, hne, run_trans h (run_settle s), ?_, advance?_settle s⟩, ?_⟩
  · rw [hitems, failed_append, hf, hfailed, List.append_nil]
  · rw [hitems, finished_append, hfinished, List.append_nil]

/-! ## The last item -/

lemma calm_of_over (hw : work.flatten.Nodup) (hne : [] ∉ work)
    (h : Reachable answer bound work s) (hf : failed s.history = []) (ho : s.Over) :
    Calm answer bound work s :=
  ⟨hw, hne, h, hf, advance?_eq_none.mpr ⟨ho.2.2.1, ho.2.1, .inl ho.1⟩⟩

/-- A schedule without failure that is over has started every item, each one once. -/
lemma Calm.started_perm (h : Calm answer bound work s) (ho : s.Over) :
    started s.history ~ work.flatten := by
  obtain ⟨hwaiting, hcalled, hidle, hrunning⟩ := ho
  have hleft : leftOf s = [] := by simp [leftOf, hwaiting, hcalled, hidle, hrunning]
  have haccount := h.lawful.counted.account h.failure
  rwa [hleft, List.nil_append] at haccount

/-- It has started the items of a lane in the order of the lane. -/
lemma Calm.started_lane [DecidableEq ι] (h : Calm answer bound work s) (ho : s.Over)
    {lane : List ι} (hl : lane ∈ work) : (started s.history).filter (· ∈ lane) = lane := by
  have hp := reachable_started_prefix h.distinct h.inhabited h.reachable hl
  have hsub : lane ⊆ (started s.history).filter (· ∈ lane) := fun item hi =>
    List.mem_filter.mpr ⟨(h.started_perm ho).mem_iff.mpr (List.mem_flatten_of_mem hl hi),
      decide_eq_true hi⟩
  have hnodup : lane.Nodup := (List.nodup_flatten.mp h.distinct).1 lane hl
  exact hp.eq_of_length_le (hnodup.subperm hsub).length_le

/-- A schedule without failure that is over has finished every item, each one once. -/
lemma Calm.finished_perm (h : Calm answer bound work s) (ho : s.Over) :
    finished s.history ~ work.flatten := by
  have hflights := h.lawful.counted.flights
  rw [ho.2.2.2, List.map_nil, List.nil_append, h.ended_eq] at hflights
  exact hflights.trans (h.started_perm ho)

/-- A settled schedule is over when as many items have finished as there are. -/
lemma Calm.over_iff (h : Calm answer bound work s) (hb : 1 ≤ bound) :
    s.Over ↔ (finished s.history).length = work.flatten.length := by
  constructor
  · exact fun ho => (h.finished_perm ho).length_eq
  · intro hlen
    have haccount := account_length h.lawful.counted h.failure
    rw [h.ended_eq] at haccount
    exact over_of_running_nil hb h.lawful.placed h.settled
      (List.eq_nil_of_length_eq_zero (by omega))

end CardDrawing.Proofs
