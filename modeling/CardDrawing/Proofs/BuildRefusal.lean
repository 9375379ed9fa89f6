import CardDrawing.Proofs.BuildAgreement

/-!
# Which error a concurrent build comes to

Palettes come before fields, fields before requests, and requests before loads: what is refused
early is refused without a single load, and whatever fails later is the failure of a load that was
started.
-/

namespace CardDrawing.Proofs
open Schedule

variable {c : Collaborators} {template : Template} {card : Card} {bound : Nat}
  {answer : Pending → Except Error Resource} {outcome : Except Error (List Primitive)}
  {history : List (Event Pending)}

/-! ## The error of a build that loads as it goes -/

lemma build_eq_error_of_palettes {why : Error}
    (h : Palettes.build (partitionFields template.orderedFields).1 card = .error why) :
    (build c template card).1 = .error why := by
  rw [outcome_build, bind_eq_error]
  exact .inl (openSession_eq_error.mpr h)

/-- A build that has gone through some fields stops at the first that does not expand. -/
lemma build_eq_error_of_expansion {palettes : Palettes} {before after : List Field} {field : Field}
    {why : Error} (hopen : openSession template card = .ok (palettes, before ++ field :: after))
    (hb : ∃ ps, (buildFields c palettes card before).run.1 = .ok ps)
    (hf : resolveAndExpand palettes card field = .error why) :
    (build c template card).1 = .error why := by
  obtain ⟨ps, hps⟩ := hb
  rw [(outcome_buildFields palettes before).2] at hps
  obtain ⟨parts, hparts, -⟩ := map_eq_ok.mp hps
  rw [outcome_build, bind_eq_error]
  refine .inr ⟨_, hopen, ?_⟩
  rw [(outcome_buildFields palettes _).2, map_eq_error, mapM_eq_error]
  exact ⟨before, field, after, rfl, fun f hm => ok_of_mapM hparts hm,
    bind_eq_error.mpr (.inl hf)⟩

/-- Fields that are built have been expanded. -/
lemma expanded_of_built {palettes : Palettes} {fields : List Field}
    (h : ∃ ps, (buildFields c palettes card fields).run.1 = .ok ps) :
    ∀ f ∈ fields, ∃ ps, resolveAndExpand palettes card f = .ok ps := by
  obtain ⟨ps, hps⟩ := h
  rw [(outcome_buildFields palettes fields).2] at hps
  obtain ⟨expanded, he, -⟩ := mapM_bind_flatten_eq_ok.mp hps
  exact fun f hm => ok_of_mapM he hm

/-! ## The error of a concurrent build -/

lemma concurrentBuild_refused {why : Error}
    (h : ConcurrentBuild c answer bound template card outcome history)
    (hw : Refusal c template card why) : outcome = .error why ∧ history = [] := by
  have hp := prepare_eq_error.mpr hw
  cases h with
  | refused hp' =>
    cases hp.symm.trans hp'
    exact ⟨rfl, rfl⟩
  | ended hp' _ _ => cases hp.symm.trans hp'

/-- What is not refused comes to a list, or to the failure of a load that was started. -/
lemma concurrentBuild_loaded (h : ConcurrentBuild c answer bound template card outcome history)
    (hw : ∀ why, ¬ Refusal c template card why) :
    (∃ ps, outcome = .ok ps) ∨ ∃ item why, .start item ∈ history ∧ .fail item ∈ history ∧
      answer item = .error why ∧ outcome = .error why := by
  cases h with
  | refused hp => exact (hw _ (prepare_eq_error.mp hp)).elim
  | @ended prepared last hp hr ho =>
    unfold outcomeOf
    cases hf : last.failure with
    | none => exact .inl ⟨_, rfl⟩
    | some why =>
      obtain ⟨item, hi, ha⟩ := (reachable_answered hr).culprit hf
      have hs := (reachable_counted hr).2.started_of_ended (mem_ended.mpr (.inr (.inl hi)))
      exact .inr ⟨item, why, mem_started.mp hs, hi, ha, rfl⟩

/-- Which error a concurrent build comes to, and after which loads. -/
structure FailsFast (c : Collaborators) (answer : Pending → Except Error Resource)
    (template : Template) (card : Card) (outcome : Except Error (List Primitive))
    (history : List (Event Pending)) : Prop where
  /-- what is refused is refused for the first reason there is, before any load -/
  refused : ∀ why, Refusal c template card why → outcome = .error why ∧ history = []
  /-- anything else comes to a list, or to the failure of a load that was started -/
  loaded : (∀ why, ¬ Refusal c template card why) → (∃ ps, outcome = .ok ps) ∨
    ∃ item why, .start item ∈ history ∧ .fail item ∈ history ∧ answer item = .error why ∧
      outcome = .error why
  /-- without palettes, a build that loads as it goes comes to the same error -/
  palettes : ∀ why, Palettes.build (partitionFields template.orderedFields).1 card = .error why →
    (build c template card).1 = .error why ∧ outcome = .error why ∧ history = []
  /-- so it does at a field that does not expand -/
  expansion : ∀ palettes before field after why,
    openSession template card = .ok (palettes, before ++ field :: after) →
    (∃ ps, (buildFields c palettes card before).run.1 = .ok ps) →
    resolveAndExpand palettes card field = .error why →
    (build c template card).1 = .error why ∧ outcome = .error why ∧ history = []

lemma concurrentBuild_failsFast
    (h : ConcurrentBuild c answer bound template card outcome history) :
    FailsFast c answer template card outcome history where
  refused _ hw := concurrentBuild_refused h hw
  loaded hw := concurrentBuild_loaded h hw
  palettes _ hw := ⟨build_eq_error_of_palettes hw, concurrentBuild_refused h (.palettes hw)⟩
  expansion _ _ _ _ _ hopen hb hf := ⟨build_eq_error_of_expansion hopen hb hf,
    concurrentBuild_refused h (.expansion hopen (expanded_of_built hb) hf)⟩

/-- Every concurrent build fails fast, in whatever order the loads end, and what is not refused
comes to its end. -/
theorem concurrent_build_fails_fast (hb : 1 ≤ bound) :
    (∀ answer outcome history, ConcurrentBuild c answer bound template card outcome history →
      FailsFast c answer template card outcome history) ∧
    (∀ (answer : Pending → Except Error Resource) prepared,
      prepare c template card = .ok prepared →
      Ends answer (State.initial bound prepared.lanes)) ∧
    ∀ (τ : Type) [Add τ] [LT τ] [DecidableLT τ] (start : τ) (delay : Fetch → τ),
      FailsFast c (fun p => c.answer p.fetch) template card
        (buildConcurrently start delay c bound template card).1
        ((buildConcurrently start delay c bound template card).2.map Timed.event) := by
  refine ⟨fun _ _ _ h => concurrentBuild_failsFast h,
    fun answer prepared _ => prepared_ends answer prepared hb, fun _ _ _ _ start delay => ?_⟩
  exact concurrentBuild_failsFast (buildConcurrently_schedule start delay hb)

/-- Nothing loads the maps of an atlas, so that its first map is refused. -/
theorem atlas_refused : 1 ≤ 1 ∧ ∀ delay : Fetch → Nat,
    (buildConcurrently 0 delay {} 1 atlas atlasCard).1 = .error .noSvgLoader ∧
      (buildConcurrently 0 delay {} 1 atlas atlasCard).2.map Timed.event = [] := by
  refine ⟨by decide, fun delay => ?_⟩
  refine ((concurrent_build_fails_fast (by decide)).2.2 Nat 0 delay).refused _ ?_
  exact prepare_eq_error.mp rfl

end CardDrawing.Proofs
