import CardDrawing.Proofs.BuildFetching
import CardDrawing.Proofs.BuildLoads
import CardDrawing.Proofs.ScheduleSpeed

/-!
# The pace of a concurrent build

A concurrent build keeps as many loads going as its bound and its fields allow, ends with the last
of them, and is never slowed down by a higher bound.
-/

namespace CardDrawing.Proofs
open Schedule

variable {c : Collaborators} {template : Template} {card : Card} {bound : Nat}
  {answer : Pending → Except Error Resource} {prepared : Prepared}

/-! ## No slot is idle -/

/-- There is one load for every primitive that waits for one. -/
lemma prepared_length (h : prepare c template card = .ok prepared) :
    prepared.lanes.flatten.length = (prepared.expanded.filterMap awaited?).length := by
  have hlength := List.Forall₂.length_eq (loadsOf_prepared h)
  rw [List.length_map] at hlength
  exact hlength.symm

lemma settle_of_over {s : State Pending Resource Error} (ho : s.Over) : s.settle = s :=
  settle_of_none (advance?_eq_none.mpr ⟨ho.2.2.1, ho.2.1, .inl ho.1⟩)

/-- In the end there is a result for every primitive that waits. -/
lemma result_of_waits (h : prepare c template card = .ok prepared)
    {s : State Pending Resource Error} (hr : Reachable answer bound prepared.lanes s)
    (ho : s.Over) (hf : failed s.history = []) {i : Nat} {p : Primitive} {r : ResourceRequest}
    (hp : prepared.expanded[i]? = some p) (hw : Waits p r) :
    ∃ call resource, LoadOf r call ∧ (⟨i, call⟩, resource) ∈ s.results ∧
      answer ⟨i, call⟩ = .ok resource := by
  obtain ⟨call, hcall, hm⟩ := prepared_of_waits h hp hw
  obtain ⟨resource, hres, ha⟩ :=
    result_of_over (reachable_counted hr).2 (reachable_answered hr) ho hf hm
  exact ⟨call, resource, (checkFetchable_eq_ok.mp hcall).2, hres, ha⟩

/-- Without failure no slot is idle once everything has started that can, and a build ends with
the last of its loads: after as many as there are primitives without anything inline, each of
which has its result then. It does so for every bound, in whatever order the loads end. -/
theorem no_slot_idle (h : prepare c template card = .ok prepared) (hb : 1 ≤ bound)
    (answer : Pending → Except Error Resource) :
    (∀ s, Reachable answer bound prepared.lanes s → failed s.history = [] →
      Busy bound prepared.lanes s.settle ∧ finished s.settle.history = finished s.history ∧
      (s.settle.Over ↔
        (finished s.history).length = (prepared.expanded.filterMap awaited?).length)) ∧
    (∀ s, Reachable answer bound prepared.lanes s → Ends answer s) ∧
    (∀ s, Reachable answer bound prepared.lanes s → s.Over → failed s.history = [] →
      (finished s.history).length = (prepared.expanded.filterMap awaited?).length ∧
      ∀ i p r, prepared.expanded[i]? = some p → Waits p r → ∃ call resource, LoadOf r call ∧
        (⟨i, call⟩, resource) ∈ s.results ∧ answer ⟨i, call⟩ = .ok resource) ∧
    (∀ outcome history, ConcurrentBuild c answer bound template card outcome history →
      failed history = [] → (∃ ps, outcome = .ok ps) ∧
        (finished history).length = (prepared.expanded.filterMap awaited?).length) ∧
    ∀ (τ : Type) [Add τ] [LT τ] [DecidableLT τ] (start : τ) (delay : Pending → τ) (count : Nat),
      let watch := (Watch.opening start delay bound prepared.lanes).run delay answer count
      failed watch.state.history = [] → Busy bound prepared.lanes watch.state := by
  obtain ⟨hw, hne⟩ := prepared_nodup h
  have hsettled (s) (hr : Reachable answer bound prepared.lanes s) (hf : failed s.history = []) :
      Busy bound prepared.lanes s.settle ∧ finished s.settle.history = finished s.history ∧
      (s.settle.Over ↔
        (finished s.history).length = (prepared.expanded.filterMap awaited?).length) := by
    obtain ⟨hcalm, hfin⟩ := calm_settle hw hne hr hf
    refine ⟨hcalm.busy, hfin, ?_⟩
    rw [hcalm.over_iff hb, hfin, prepared_length h]
  have hover (s) (hr : Reachable answer bound prepared.lanes s) (ho : s.Over)
      (hf : failed s.history = []) :
      (finished s.history).length = (prepared.expanded.filterMap awaited?).length :=
    (hsettled s hr hf).2.2.mp ((settle_of_over ho).symm ▸ ho)
  refine ⟨hsettled, fun s hr => placed_ends hb (reachable_placed hr),
    fun s hr ho hf => ⟨hover s hr ho hf, fun i p r => result_of_waits h hr ho hf⟩, ?_, ?_⟩
  · intro outcome history hc hf
    refine ⟨(concurrentBuild_ended h hc).2 hf, ?_⟩
    cases hc with
    | refused hp => cases h.symm.trans hp
    | ended hp hr ho =>
      cases h.symm.trans hp
      exact hover _ hr ho hf
  · intro τ _ _ _ start delay count watch hf
    have ht : Timely answer bound prepared.lanes watch := timely_run (timely_opening start) count
    exact (Calm.mk hw hne ht.reachable hf ht.settled).busy

/-- With one slot, a map of an atlas is loading until both have been loaded. -/
theorem atlas_busy : prepare atlasLoader atlas atlasCard = .ok atlasPrepared ∧ 1 ≤ 1 ∧
    (∀ s, Reachable (fun p => atlasLoader.answer p.fetch) 1 atlasPrepared.lanes s →
      failed s.history = [] → Busy 1 atlasPrepared.lanes s.settle ∧
        finished s.settle.history = finished s.history ∧
        (s.settle.Over ↔ (finished s.history).length = 2)) ∧
    ∀ delay : Fetch → Nat, (finished ((buildConcurrently 0 delay atlasLoader 1 atlas
      atlasCard).2.map Timed.event)).length = 2 := by
  have hp : prepare atlasLoader atlas atlasCard = .ok atlasPrepared := atlas_prepared _
  obtain ⟨hbusy, -, -, hended, -⟩ :=
    no_slot_idle hp (by decide : 1 ≤ 1) (fun p => atlasLoader.answer p.fetch)
  refine ⟨hp, by decide, hbusy, fun delay => ?_⟩
  have hok := atlas_drawn (by decide : 1 ≤ 1) delay
  have hbuild : ConcurrentBuild atlasLoader (fun p => atlasLoader.answer p.fetch) 1 atlas
      atlasCard _ _ := buildConcurrently_schedule 0 delay (by decide)
  obtain ⟨_, last, -, hcalm, -, hlast⟩ := concurrentBuild_calm hbuild hok
  exact (hended _ _ hbuild (hlast ▸ hcalm.healthy)).2

/-! ## A higher bound delays nothing -/

section

variable {τ : Type} [Add τ] [LinearOrder τ] [AddRightMono τ] {m n : Nat}

/-- When a concurrent build comes to a list, so does every one of its loads. -/
lemma answers_of_ok {outcome : Except Error (List Primitive)} {history : List (Event Pending)}
    (h : ConcurrentBuild c answer bound template card outcome history) {ps : List Primitive}
    (hok : outcome = .ok ps) : ∃ prepared, prepare c template card = .ok prepared ∧
      ∀ item ∈ prepared.lanes.flatten, ∃ resource, answer item = .ok resource := by
  obtain ⟨prepared, last, hp, hcalm, ho, -⟩ := concurrentBuild_calm h hok
  refine ⟨prepared, hp, fun item hi => ?_⟩
  obtain ⟨resource, -, ha⟩ := result_of_over hcalm.lawful.counted
    (reachable_answered hcalm.reachable) ho hcalm.healthy hi
  exact ⟨resource, ha⟩

lemma buildConcurrently_noLater (hm : 1 ≤ m) (hmn : m ≤ n) (start : τ) {delay : Fetch → τ}
    (hd : ∀ time call, time ≤ time + delay call) {ps : List Primitive}
    (hok : (buildConcurrently start delay c m template card).1 = .ok ps) :
    NoLater start (buildConcurrently start delay c n template card).2
      (buildConcurrently start delay c m template card).2 := by
  obtain ⟨prepared, hp, hall⟩ := answers_of_ok (buildConcurrently_schedule start delay hm) hok
  obtain ⟨hw, hne⟩ := prepared_nodup hp
  simp only [buildConcurrently, hp]
  exact runOnClock_noLater hm hmn hw hne (fun time item => hd time item.fetch) hall

/-- Whatever the lanes and however long each item takes, if all succeed then under a higher bound
everything is started and finished no later than under a lower one. So a concurrent build that
comes to a list comes to the same list under a higher bound, and is done no later. -/
theorem more_slots_delay_nothing (hm : 1 ≤ m) (hmn : m ≤ n) (start : τ) :
    (∀ (work : List (List Pending)) (delay : Pending → τ)
        (answer : Pending → Except Error Resource),
      work.flatten.Nodup → [] ∉ work → (∀ time item, time ≤ time + delay item) →
      (∀ item ∈ work.flatten, ∃ resource, answer item = .ok resource) →
      NoLater start (runOnClock start delay answer n work).log
        (runOnClock start delay answer m work).log ∧
      ∀ event, event ∈ (runOnClock start delay answer n work).log.map Timed.event ↔
        ∃ item ∈ work.flatten, event = .start item ∨ event = .finish item) ∧
    ∀ c template card (delay : Fetch → τ) ps, (∀ time call, time ≤ time + delay call) →
      (buildConcurrently start delay c m template card).1 = .ok ps →
      (buildConcurrently start delay c n template card).1 = .ok ps ∧
      NoLater start (buildConcurrently start delay c n template card).2
        (buildConcurrently start delay c m template card).2 := by
  have hn : 1 ≤ n := hm.trans hmn
  constructor
  · intro work delay answer hw hne hd hall
    refine ⟨runOnClock_noLater hm hmn hw hne hd hall, fun event => ?_⟩
    obtain ⟨⟨now, h⟩, ho⟩ := onTime_runOnClock hn hw hne hd hall
    rw [h.log, h.calm.mem_history ho]
  · intro c template card delay ps hd hok
    refine ⟨?_, buildConcurrently_noLater hm hmn start hd hok⟩
    have hbuilt := (concurrentBuild_eq_ok (buildConcurrently_schedule start delay hm)).mp hok
    exact (concurrentBuild_eq_ok (buildConcurrently_schedule start delay hn)).mpr hbuilt

lemma atlas_answered {item : Pending} (hi : item ∈ atlasPrepared.lanes.flatten) :
    ∃ resource, atlasLoader.answer item.fetch = .ok resource := by
  have hi : item ∈ [(⟨0, .svg, "n.svg"⟩ : Pending), ⟨2, .svg, "s.svg"⟩] := hi
  rcases List.mem_pair.mp hi with rfl | rfl <;> exact ⟨_, rfl⟩

/-- With two slots, an atlas is drawn no later than with one, however long its maps take. -/
theorem atlas_no_later : 1 ≤ 1 ∧ 1 ≤ 2 ∧
    (∀ delay : Pending → Nat, NoLater 0
      (runOnClock 0 delay (fun p => atlasLoader.answer p.fetch) 2 atlasPrepared.lanes).log
      (runOnClock 0 delay (fun p => atlasLoader.answer p.fetch) 1 atlasPrepared.lanes).log) ∧
    ∀ delay : Fetch → Nat,
      (buildConcurrently 0 delay atlasLoader 2 atlas atlasCard).1 = .ok atlasDrawing ∧
      NoLater 0 (buildConcurrently 0 delay atlasLoader 2 atlas atlasCard).2
        (buildConcurrently 0 delay atlasLoader 1 atlas atlasCard).2 := by
  obtain ⟨hclock, hbuild⟩ :=
    more_slots_delay_nothing (by decide : 1 ≤ 1) (by decide : 1 ≤ 2) (0 : Nat)
  refine ⟨by decide, by decide, fun delay => ?_, fun delay => ?_⟩
  · exact (hclock atlasPrepared.lanes delay _ (by decide) (by decide)
      (fun time item => Nat.le_add_right time (delay item)) fun _ => atlas_answered).1
  · exact hbuild atlasLoader atlas atlasCard delay atlasDrawing
      (fun time call => Nat.le_add_right time (delay call)) (atlas_drawn (by decide) delay)

end

end CardDrawing.Proofs
