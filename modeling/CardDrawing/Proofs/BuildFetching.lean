import CardDrawing.Proofs.BuildAgreement

/-!
# The loads of a concurrent build

The loads of a prepared build are a schedule with a lane for every field: what holds of schedules
holds of them, in every state and in whatever order they end.
-/

namespace CardDrawing.Proofs
open Schedule

variable {c : Collaborators} {template : Template} {card : Card} {bound : Nat}
  {answer : Pending → Except Error Resource} {prepared : Prepared}

/-- Loads are bounded, one at a time and in order within a field, never repeated, and fields begin
in declaration order: in every state of every schedule, and whenever one looks at the clock. -/
theorem fetches_safe (answer : Pending → Except Error Resource) (bound : Nat)
    (h : prepare c template card = .ok prepared) :
    (∀ s, Reachable answer bound prepared.lanes s → Safe bound prepared.lanes s) ∧
    ∀ (τ : Type) [Add τ] [LT τ] [DecidableLT τ] (start : τ) (delay : Fetch → τ) (count : Nat),
      let opening := Watch.opening start (fun p => delay p.fetch) bound prepared.lanes
      Safe bound prepared.lanes (opening.run (fun p => delay p.fetch) answer count).state := by
  obtain ⟨hw, hne⟩ := prepared_nodup h
  have hsafe (s) (hr : Reachable answer bound prepared.lanes s) : Safe bound prepared.lanes s :=
    (reachable_lawful hw hne hr).safe hw
  exact ⟨hsafe, fun τ _ _ _ start delay count =>
    hsafe _ (timely_run (timely_opening start) count).reachable⟩

theorem atlas_fetches_safe : prepare atlasLoader atlas atlasCard = .ok atlasPrepared ∧
    ∀ (delay : Fetch → Nat) (count : Nat),
      let opening := Watch.opening 0 (fun p => delay p.fetch) 1 atlasPrepared.lanes
      Safe 1 atlasPrepared.lanes (opening.run (fun p => delay p.fetch)
        (fun p => atlasLoader.answer p.fetch) count).state := by
  have hp : prepare atlasLoader atlas atlasCard = .ok atlasPrepared := atlas_prepared _
  exact ⟨hp, (fetches_safe (fun p => atlasLoader.answer p.fetch) 1 hp).2 Nat 0⟩

/-- A build whose last load has ended, for better or worse. -/
lemma concurrentBuild_ended (h : prepare c template card = .ok prepared)
    {outcome : Except Error (List Primitive)} {history : List (Event Pending)}
    (hc : ConcurrentBuild c answer bound template card outcome history) :
    (∀ before item after, history = before ++ .fail item :: after → failed before = [] →
      CalledOff before item after ∧ ∃ why, answer item = .error why ∧ outcome = .error why) ∧
    (failed history = [] → ∃ ps, outcome = .ok ps) := by
  obtain ⟨hw, hne⟩ := prepared_nodup h
  cases hc with
  | refused hp => cases h.symm.trans hp
  | @ended prepared' last hp hr ho =>
    cases h.symm.trans hp
    refine ⟨fun before item after he hb => ⟨calledOff_of_over hw hne hr ho he, ?_⟩, fun hf => ?_⟩
    · obtain ⟨why, ha, hf⟩ := (reachable_answered hr).failure_eq he hb
      exact ⟨why, ha, by rw [outcomeOf, hf]⟩
    · rw [outcomeOf, ((reachable_answered hr).calm hf).1]
      exact ⟨_, rfl⟩

/-- The log of a build on a clock has no failure or stops at the first one. -/
lemma buildConcurrently_log (h : prepare c template card = .ok prepared) {τ : Type} [Add τ]
    [LT τ] [DecidableLT τ] (start : τ) (delay : Fetch → τ) :
    failed ((buildConcurrently start delay c bound template card).2.map Timed.event) = [] ∨
      ∃ item, StoppedAt item (buildConcurrently start delay c bound template card).2 := by
  obtain ⟨hw, hne⟩ := prepared_nodup h
  have ht : Timely (fun p => c.answer p.fetch) bound prepared.lanes (runOnClock start
      (fun p => delay p.fetch) (fun p => c.answer p.fetch) bound prepared.lanes) :=
    timely_run (timely_opening start) _
  have hlog := ht.log
  rw [buildConcurrently, h]
  dsimp only
  rw [hlog]
  exact runOnClock_failure hw hne start

/-- After the first failure nothing is loaded any more, what is in flight is called off, and the
build fails with just that failure; without a failure it comes to a list. On a clock, what is in
flight is cancelled at the instant of the failure. -/
theorem first_failure_stops (answer : Pending → Except Error Resource) (bound : Nat)
    (h : prepare c template card = .ok prepared) :
    (∀ s, Reachable answer bound prepared.lanes s →
      ∀ before item after, s.history = before ++ .fail item :: after → failed before = [] →
        started after = [] ∧ ∃ why, answer item = .error why ∧ s.failure = some why) ∧
    (∀ outcome history, ConcurrentBuild c answer bound template card outcome history →
      (∀ before item after, history = before ++ .fail item :: after → failed before = [] →
        CalledOff before item after ∧ ∃ why, answer item = .error why ∧ outcome = .error why) ∧
      (failed history = [] → ∃ ps, outcome = .ok ps)) ∧
    ∀ (τ : Type) [Add τ] [LT τ] [DecidableLT τ] (start : τ) (delay : Fetch → τ), 1 ≤ bound →
      let last := buildConcurrently start delay c bound template card
      (failed (last.2.map Timed.event) = [] ∧ ∃ ps, last.1 = .ok ps) ∨
        ∃ item why, StoppedAt item last.2 ∧ c.answer item.fetch = .error why ∧
          last.1 = .error why := by
  obtain ⟨hw, hne⟩ := prepared_nodup h
  refine ⟨fun s hr before item after he hb => ?_,
    fun _ _ hc => concurrentBuild_ended h hc, fun τ _ _ _ start delay hb => ?_⟩
  · obtain ⟨k, hk, -⟩ := (reachable_lawful hw hne hr).ordered
    exact ⟨hk.orderly.no_start_after_fail he, (reachable_answered hr).failure_eq he hb⟩
  · have hc : ConcurrentBuild c (fun p => c.answer p.fetch) bound template card
        (buildConcurrently start delay c bound template card).1
        ((buildConcurrently start delay c bound template card).2.map Timed.event) :=
      buildConcurrently_schedule start delay hb
    obtain ⟨hfail, hcalm⟩ := concurrentBuild_ended h hc
    rcases buildConcurrently_log h start delay with hf | ⟨item, hstop⟩
    · exact .inl ⟨hf, hcalm hf⟩
    · obtain ⟨before, now, cancelled, hlog, hb', -⟩ := id hstop
      obtain ⟨-, why, ha, ho⟩ := hfail (before.map Timed.event) item
        (cancelled.map .cancel) (by simp [hlog, Function.comp_def]) hb'
      exact .inr ⟨item, why, hstop, ha, ho⟩

/-- No map can be loaded. -/
def brokenLoader : Collaborators := { svgs := some fun url => .error (.unsupportedScheme "" url) }

theorem atlas_stopped : prepare brokenLoader atlas atlasCard = .ok atlasPrepared ∧ 1 ≤ 2 ∧
    ∀ delay : Fetch → Nat, ∃ item why,
      StoppedAt item (buildConcurrently 0 delay brokenLoader 2 atlas atlasCard).2 ∧
      (buildConcurrently 0 delay brokenLoader 2 atlas atlasCard).1 = .error why := by
  have hp : prepare brokenLoader atlas atlasCard = .ok atlasPrepared := atlas_prepared _
  refine ⟨hp, by decide, fun delay => ?_⟩
  have hstops := first_failure_stops (fun p => brokenLoader.answer p.fetch) 2 hp
  rcases hstops.2.2 Nat 0 delay (by decide) with ⟨-, ps, hps⟩ | ⟨item, why, hstop, -, ho⟩
  · have hbuilt : (build brokenLoader atlas atlasCard).1 = .ok ps :=
      (concurrentBuild_eq_ok (buildConcurrently_schedule 0 delay (by decide))).mp hps
    cases hbuilt
  · exact ⟨item, why, hstop, ho⟩

end CardDrawing.Proofs
