import CardDrawing.Proofs.BuildPreparation
import CardDrawing.Proofs.ScheduleFailure

/-!
# Concurrent builds come to what builds come to

Whichever load ends first, a concurrent build puts every resource in the place that waits for it,
and comes to a list exactly when the build that loads one resource after another does.
-/

namespace CardDrawing.Proofs
open Schedule

variable {c : Collaborators} {template : Template} {card : Card} {bound : Nat}
  {answer : Pending → Except Error Resource}

/-! ## Results in their places -/

lemma mem_work_of_result {prepared : Prepared} {s : State Pending Resource Error}
    (hc : Counted prepared.lanes s) (ha : Answered answer s) {x : Pending × Resource}
    (hx : x ∈ s.results) : x.1 ∈ prepared.lanes.flatten := by
  have hfin : x.1 ∈ finished s.history := ha.results ▸ List.mem_map_of_mem hx
  exact hc.once.subset (hc.started_of_finished hfin)

/-- The result that is found at the place of a pending load is what the load comes to. -/
lemma find?_result {prepared : Prepared} (h : prepare c template card = .ok prepared)
    {s : State Pending Resource Error} (hc : Counted prepared.lanes s) (ha : Answered answer s)
    {item : Pending} {resource : Resource} (hm : (item, resource) ∈ s.results) :
    ∃ x, s.results.find? (·.1.index = item.index) = some x ∧ x.2 = resource := by
  have hsome : (s.results.find? (·.1.index = item.index)).isSome := by
    rw [List.find?_isSome]
    exact ⟨(item, resource), hm, by simp⟩
  obtain ⟨x, hx⟩ := Option.isSome_iff_exists.mp hsome
  have hxm := List.mem_of_find?_eq_some hx
  have hxi : x.1.index = item.index := by simpa using List.find?_some hx
  have hitem : x.1 = item :=
    prepared_index_inj h (mem_work_of_result hc ha hxm) (mem_work_of_result hc ha hm) hxi
  have hxa := ha.good x hxm
  rw [hitem, ha.good _ hm] at hxa
  exact ⟨x, hx, (Except.ok.inj hxa).symm⟩

/-- When every load has come to its result, every primitive has its resource. -/
lemma resolved_attachLoaded {prepared : Prepared} (h : prepare c template card = .ok prepared)
    {s : State Pending Resource Error} (hc : Counted prepared.lanes s)
    (ha : Answered (fun p => c.answer p.fetch) s) (ho : s.Over) (hf : failed s.history = [])
    {i : Nat} {p : Primitive} (hp : prepared.expanded[i]? = some p) :
    resolved c p = .ok (attachLoaded s.results p i) := by
  cases hq : p.request? with
  | none => rw [resolved_of_none hq, attachLoaded, hq]
  | some r =>
    by_cases hn : r.inline = .null
    · obtain ⟨call, hcall, hm⟩ := prepared_of_waits h hp ⟨hq, hn⟩
      obtain ⟨resource, hr, hload⟩ := result_of_over hc ha ho hf hm
      obtain ⟨x, hx, rfl⟩ := find?_result h hc ha hr
      have hattach : attachLoaded s.results p i = p.attach x.2 := by
        simp only [attachLoaded, hq, hn, hx]
      rw [hattach]
      exact (resolved_eq_ok_of_waits ⟨hq, hn⟩).mpr ⟨call, x.2, hcall, hload, rfl⟩
    · rw [resolved_of_inline hq hn]
      simp only [attachLoaded, hq]

lemma assemble_eq {prepared : Prepared} (h : prepare c template card = .ok prepared)
    {s : State Pending Resource Error} (hc : Counted prepared.lanes s)
    (ha : Answered (fun p => c.answer p.fetch) s) (ho : s.Over) (hf : failed s.history = []) :
    prepared.expanded.mapM (resolved c) = .ok (assemble prepared.expanded s.results) := by
  rw [mapM_eq_ok, List.forall₂_iff_get]
  refine ⟨by simp [assemble], fun i hi hi' => ?_⟩
  have hp : prepared.expanded[i]? = some prepared.expanded[i] := List.getElem?_eq_getElem hi
  simpa [assemble] using resolved_attachLoaded h hc ha ho hf hp

/-- The outcome of a schedule that is over is that of the loads made one after another. -/
lemma outcomeOf_eq_ok {prepared : Prepared} (h : prepare c template card = .ok prepared)
    {s : State Pending Resource Error}
    (hr : Reachable (fun p => c.answer p.fetch) bound prepared.lanes s) (ho : s.Over)
    {ps : List Primitive} :
    outcomeOf prepared s = .ok ps ↔ prepared.expanded.mapM (resolved c) = .ok ps := by
  have hc := (reachable_counted hr).2
  have ha := reachable_answered hr
  unfold outcomeOf
  cases hf : s.failure with
  | none =>
    obtain ⟨hw, hne⟩ := prepared_nodup h
    obtain ⟨k, hk, -⟩ := (reachable_lawful hw hne hr).ordered
    rw [assemble_eq h hc ha ho (hk.healthy.mp hf)]
  | some why =>
    -- the load that failed would fail just so on its own
    obtain ⟨item, hi, hload⟩ := ha.culprit hf
    have hm : item ∈ prepared.lanes.flatten := hc.once.subset (hc.started_of_ended
      (mem_ended.mpr (.inr (.inl hi))))
    obtain ⟨p, r, hp, hr, hcall⟩ := (mem_prepared_lanes h).mp hm
    constructor
    · intro he
      cases he
    · intro hps
      obtain ⟨q, hq⟩ := ok_of_mapM hps (List.mem_of_getElem? hp)
      obtain ⟨call, resource, hcall', hload', -⟩ := (resolved_eq_ok_of_waits hr).mp hq
      obtain rfl : item.fetch = call := Except.ok.inj (hcall.symm.trans hcall')
      cases hload.symm.trans hload'

lemma build_eq_ok_of_prepared {prepared : Prepared}
    (h : prepare c template card = .ok prepared) {ps : List Primitive} :
    (build c template card).1 = .ok ps ↔ prepared.expanded.mapM (resolved c) = .ok ps := by
  obtain ⟨palettes, fields, expanded, hopen, he, -, hp⟩ := prepare_eq_ok.mp h
  rw [build_eq_ok, hp]
  constructor
  · rintro ⟨palettes', fields', expanded', hopen', he', hps⟩
    cases hopen.symm.trans hopen'
    cases he.symm.trans he'
    exact hps
  · exact fun hps => ⟨palettes, fields, expanded, hopen, he, hps⟩

/-- What is refused before the first load is not built either. -/
lemma build_ne_ok_of_refused {why : Error} (h : prepare c template card = .error why)
    {ps : List Primitive} : (build c template card).1 ≠ .ok ps := by
  intro hps
  obtain ⟨palettes, fields, expanded, hopen, he, hps⟩ := build_eq_ok.mp hps
  cases prepare_eq_error.mp h with
  | palettes h =>
    cases (openSession_eq_error.mpr h).symm.trans hopen
  | @expansion palettes' before after field _ hopen' _ hf =>
    cases hopen.symm.trans hopen'
    obtain ⟨ys, hys⟩ := ok_of_mapM he (List.mem_append_right before List.mem_cons_self)
    cases hf.symm.trans hys
  | @request palettes' fields' expanded' before after p r _ hopen' he' hflat _ hr hw =>
    cases hopen.symm.trans hopen'
    cases he.symm.trans he'
    have hm : p ∈ expanded.flatten := by simp [hflat]
    obtain ⟨q, hq⟩ := ok_of_mapM hps hm
    obtain ⟨call, resource, hcall, -, -⟩ := (resolved_eq_ok_of_waits hr).mp hq
    cases hw.symm.trans hcall

/-! ## Builds on a clock -/

/-- A build on a clock is a concurrent build, and it comes to an end. -/
theorem buildConcurrently_schedule {τ : Type} [Add τ] [LT τ] [DecidableLT τ] (start : τ)
    (delay : Fetch → τ) (hb : 1 ≤ bound) :
    ConcurrentBuild c (fun p => c.answer p.fetch) bound template card
      (buildConcurrently start delay c bound template card).1
      ((buildConcurrently start delay c bound template card).2.map Timed.event) := by
  unfold buildConcurrently
  cases h : prepare c template card with
  | error why => exact .refused h
  | ok prepared =>
    let last := runOnClock start (fun p => delay p.fetch) (fun p => c.answer p.fetch) bound
      prepared.lanes
    obtain ⟨ht, ho⟩ : Timely (fun p => c.answer p.fetch) bound prepared.lanes last ∧
        last.state.Over := runOnClock_over start hb
    have hlog : last.log.map Timed.event = last.state.history := ht.log
    dsimp only
    rw [hlog]
    exact .ended h ht.reachable ho

/-! ## Agreement -/

lemma concurrentBuild_eq_ok {outcome : Except Error (List Primitive)}
    {history : List (Event Pending)}
    (h : ConcurrentBuild c (fun p => c.answer p.fetch) bound template card outcome history)
    {ps : List Primitive} : outcome = .ok ps ↔ (build c template card).1 = .ok ps := by
  cases h with
  | @refused why hp =>
    constructor
    · intro he
      cases he
    · exact fun he => (build_ne_ok_of_refused hp he).elim
  | @ended prepared last hp hr ho =>
    rw [outcomeOf_eq_ok hp hr ho, build_eq_ok_of_prepared hp]

/-- However its loads go on, a prepared build comes to its end. -/
lemma prepared_ends (answer : Pending → Except Error Resource) (prepared : Prepared)
    (hb : 1 ≤ bound) : Ends answer (State.initial bound prepared.lanes) :=
  placed_ends hb initial_placed

/-- Builds come to the same list, whether the resources are loaded one after another, under a
bound in whatever order the loads end, or on a clock with whatever delays; all of them come to
their end, and nothing in the list is pending. -/
theorem concurrent_build_agrees (hb : 1 ≤ bound) :
    (∀ outcome history,
      ConcurrentBuild c (fun p => c.answer p.fetch) bound template card outcome history →
      ∀ ps, outcome = .ok ps ↔ (build c template card).1 = .ok ps) ∧
    (∀ prepared, prepare c template card = .ok prepared →
      Ends (fun p => c.answer p.fetch) (State.initial bound prepared.lanes)) ∧
    (∀ (τ : Type) [Add τ] [LT τ] [DecidableLT τ] (start : τ) (delay : Fetch → τ) ps,
      (buildConcurrently start delay c bound template card).1 = .ok ps ↔
        (build c template card).1 = .ok ps) ∧
    ∀ ps, (build c template card).1 = .ok ps → ∀ p ∈ ps, p.request? = none := by
  refine ⟨fun outcome history h ps => concurrentBuild_eq_ok h,
    fun prepared _ => prepared_ends _ prepared hb, fun τ _ _ _ start delay ps => ?_, ?_⟩
  · exact concurrentBuild_eq_ok (buildConcurrently_schedule start delay hb)
  · intro ps hps q hq
    obtain ⟨palettes, fields, expanded, -, -, hps⟩ := build_eq_ok.mp hps
    obtain ⟨i, hi⟩ := List.mem_iff_getElem?.mp hq
    obtain ⟨p, -, hp⟩ := (mapM_getElem? hps).mp hi
    exact request?_resolved hp

/-- Any map is loaded as a text that says where it comes from. -/
def atlasLoader : Collaborators := { svgs := some fun url => .ok (.value (.text url)) }

def atlasDrawing : List Primitive :=
  [.svg {
      x := 0, y := 0, width := 8, height := 8
      url := some "n.svg", resource := .value (.text "n.svg") },
    .image {
      id := "photo", x := 8, y := 0, width := 8, height := 8
      resource := .value (.int 7) },
    .svg {
      x := 0, y := 0, width := 8, height := 8
      url := some "s.svg", resource := .value (.text "s.svg") }]

lemma atlas_built : (build atlasLoader atlas atlasCard).1 = .ok atlasDrawing := by rfl

lemma atlas_drawn (hb : 1 ≤ bound) (delay : Fetch → Nat) :
    (buildConcurrently 0 delay atlasLoader bound atlas atlasCard).1 = .ok atlasDrawing :=
  (concurrentBuild_eq_ok (buildConcurrently_schedule 0 delay hb)).mpr atlas_built

theorem atlas_built_concurrently : 1 ≤ 2 ∧ ∀ delay : Fetch → Nat,
    (buildConcurrently 0 delay atlasLoader 2 atlas atlasCard).1 = .ok atlasDrawing :=
  ⟨by decide, fun delay =>
    ((concurrent_build_agrees (by decide)).2.2.1 Nat 0 delay atlasDrawing).mpr atlas_built⟩

end CardDrawing.Proofs
