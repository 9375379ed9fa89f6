import CardDrawing.Proofs.BuildAgreement
import CardDrawing.Proofs.ScheduleConservation

/-!
# Which loads are made

A build loads what its primitives wait for, once each and in the order of the output, up to the
first thing that goes wrong. A concurrent build makes the same loads, in the same order within
every field.
-/

namespace CardDrawing.Proofs
open Schedule
open scoped List

variable {c : Collaborators} {template : Template} {card : Card} {palettes : Palettes}

/-! ## The loads of a list of primitives -/

/-- The request of a primitive that has nothing inline. -/
def awaited? (p : Primitive) : Option ResourceRequest := p.request?.filter (·.inline.isNull)

lemma awaited?_eq_some {p : Primitive} {r : ResourceRequest} :
    awaited? p = some r ↔ Waits p r := by
  rw [awaited?, Option.filter_eq_some_iff, isNull_eq_true, Waits]

lemma awaited?_eq_none {p : Primitive} : awaited? p = none ↔ ∀ r, ¬ Waits p r := by
  simp only [Option.eq_none_iff_forall_ne_some, ne_eq, awaited?_eq_some]

/-- One load for every primitive that waits for one, in order, and no others. -/
def LoadsOf (ps : List Primitive) (calls : List Fetch) : Prop :=
  List.Forall₂ LoadOf (ps.filterMap awaited?) calls

lemma LoadsOf.append {ps ps' : List Primitive} {calls calls' : List Fetch} (h : LoadsOf ps calls)
    (h' : LoadsOf ps' calls') : LoadsOf (ps ++ ps') (calls ++ calls') := by
  rw [LoadsOf, List.filterMap_append]
  exact List.rel_append h h'

/-- A list of primitives needs the same loads every time. -/
lemma LoadsOf.unique {ps : List Primitive} {calls calls' : List Fetch} (h : LoadsOf ps calls)
    (h' : LoadsOf ps calls') : calls = calls' := by
  have hr : Relator.RightUnique LoadOf := fun r call call' hc hc' => by
    obtain ⟨kind, url⟩ := call
    obtain ⟨kind', url'⟩ := call'
    have hkind : kind = kind' := hc.kind.trans hc'.kind.symm
    have hurl : url = url' := Option.some.inj (hc.url.symm.trans hc'.url)
    rw [hkind, hurl]
  exact hr.forall₂ h h'

lemma loadsOf_of_waits {p : Primitive} {r : ResourceRequest} {call : Fetch} (h : Waits p r)
    (hc : LoadOf r call) : LoadsOf [p] [call] := by
  rw [LoadsOf, List.filterMap_cons_some (awaited?_eq_some.mpr h)]
  exact .cons hc .nil

lemma loadsOf_of_settled {p : Primitive} (h : ∀ r, ¬ Waits p r) : LoadsOf [p] [] := by
  rw [LoadsOf, List.filterMap_cons_none (awaited?_eq_none.mpr h)]
  exact .nil

/-! ## Loads that are made -/

/-- The loads of a list of primitives, all of which come to a resource. -/
structure Loaded (c : Collaborators) (ps : List Primitive) (calls : List Fetch) : Prop where
  loads : LoadsOf ps calls
  answered : ∀ call ∈ calls, ∃ resource, c.answer call = .ok resource

lemma Loaded.append {ps ps' : List Primitive} {calls calls' : List Fetch} (h : Loaded c ps calls)
    (h' : Loaded c ps' calls') : Loaded c (ps ++ ps') (calls ++ calls') where
  loads := h.loads.append h'.loads
  answered := List.forall_mem_append.mpr ⟨h.answered, h'.answered⟩

lemma loaded_nil : Loaded c [] [] := ⟨.nil, by simp⟩

/-- Why a primitive does not get its resource, and the loads tried for it: none if the request
cannot be met, else one that fails. -/
inductive Fails (c : Collaborators) (p : Primitive) (why : Error) : List Fetch → Prop where
  | request {r : ResourceRequest} : Waits p r → checkFetchable c p r = .error why →
      Fails c p why []
  | load {call : Fetch} : LoadsOf [p] [call] → c.answer call = .error why →
      Fails c p why [call]

lemma run_fetch (call : Fetch) : (fetch c call).run = (c.answer call, [call]) := rfl

/-- A primitive that waits for nothing is settled without a load; any other asks for one load. -/
lemma run_settle_cases (c : Collaborators) (p : Primitive) :
    ((∀ r, ¬ Waits p r) ∧ ∃ q, (settle c p).run = (.ok q, [])) ∨
    ∃ r, Waits p r ∧ ((∃ why, checkFetchable c p r = .error why ∧
        (settle c p).run = (.error why, [])) ∨
      ∃ call, checkFetchable c p r = .ok call ∧
        (settle c p).run = (p.attach <$> c.answer call, [call])) := by
  cases hp : p.request? with
  | none =>
    refine .inl ⟨fun r hr => by simp [Waits, hp] at hr, p, ?_⟩
    rw [settle, hp]
    rfl
  | some r =>
    by_cases hn : r.inline = .null
    · refine .inr ⟨r, ⟨hp, hn⟩, ?_⟩
      simp only [settle, hp, hn]
      cases checkFetchable c p r with
      | error why => exact .inl ⟨why, rfl, rfl⟩
      | ok call =>
        have hrun := (run_map (f := p.attach) (outcome_fetch (c := c) call).1).2
        rw [run_fetch] at hrun
        exact .inr ⟨call, rfl, hrun⟩
    · refine .inl ⟨fun r' hr' => ?_, p.attach (.value r.inline), ?_⟩
      · obtain rfl : r = r' := Option.some.inj (hp.symm.trans hr'.1)
        exact hn hr'.2
      · simp only [settle, hp]
        rfl

lemma loaded_settle {p q : Primitive} (h : (settle c p).run.1 = .ok q) :
    Loaded c [p] (settle c p).run.2 := by
  rcases run_settle_cases c p with ⟨hp, q', he⟩ | ⟨r, hr, ⟨why, -, he⟩ | ⟨call, hcall, he⟩⟩ <;>
    rw [he] at h ⊢
  · exact ⟨loadsOf_of_settled hp, by simp⟩
  · cases h
  · obtain ⟨resource, hload, -⟩ := map_eq_ok.mp h
    exact ⟨loadsOf_of_waits hr (checkFetchable_eq_ok.mp hcall).2, by simp [hload]⟩

lemma fails_settle {p : Primitive} {why : Error} (h : (settle c p).run.1 = .error why) :
    Fails c p why (settle c p).run.2 := by
  rcases run_settle_cases c p with ⟨hp, q', he⟩ | ⟨r, hr, ⟨why', hw, he⟩ | ⟨call, hcall, he⟩⟩ <;>
    rw [he] at h ⊢
  · cases h
  · cases h
    exact .request hr hw
  · exact .load (loadsOf_of_waits hr (checkFetchable_eq_ok.mp hcall).2) (map_eq_error.mp h)

lemma loaded_primitives {ps qs : List Primitive} (h : (ps.mapM (settle c)).run.1 = .ok qs) :
    Loaded c ps (ps.mapM (settle c)).run.2 := by
  refine record_of_mapM_ok (fun p => (outcome_settle p).1) loaded_nil ?_ h
  exact fun p q rest log hq hrest => (loaded_settle hq).append hrest

/-! ## The loads of a build -/

lemma run_buildField {field : Field} {ps : List Primitive}
    (h : resolveAndExpand palettes card field = .ok ps) :
    (buildField c palettes card field).run = (ps.mapM (settle c)).run := by
  rw [buildField, h]
  rfl

lemma run_buildField_error {field : Field} {why : Error}
    (h : resolveAndExpand palettes card field = .error why) :
    (buildField c palettes card field).run = (.error why, []) := by
  rw [buildField, h]
  rfl

lemma buildFields_eq (fields : List Field) : buildFields c palettes card fields =
    List.flatten <$> fields.mapM (buildField c palettes card) := by
  induction fields with
  | nil => rfl
  | cons field rest ih => simp [buildFields, ih]

lemma run_buildFields (fields : List Field) : (buildFields c palettes card fields).run =
    (List.flatten <$> (fields.mapM (buildField c palettes card)).run.1,
      (fields.mapM (buildField c palettes card)).run.2) := by
  rw [buildFields_eq]
  exact (run_map (outcome_mapM (fun field => (outcome_buildField palettes field).1) fields).1).2

lemma loaded_fields {fields : List Field} {parts : List (List Primitive)}
    (h : (fields.mapM (buildField c palettes card)).run.1 = .ok parts) :
    ∃ expanded, fields.mapM (resolveAndExpand palettes card) = .ok expanded ∧
      Loaded c expanded.flatten (fields.mapM (buildField c palettes card)).run.2 := by
  refine record_of_mapM_ok (Q := fun fields calls => ∃ expanded,
    fields.mapM (resolveAndExpand palettes card) = .ok expanded ∧ Loaded c expanded.flatten calls)
    (fun field => (outcome_buildField palettes field).1) ⟨[], rfl, loaded_nil⟩ ?_ h
  rintro field part rest log hpart ⟨expanded, he, hlog⟩
  have ho : (resolveAndExpand palettes card field >>= List.mapM (resolved c)) = .ok part :=
    (outcome_buildField palettes field).2.symm.trans hpart
  obtain ⟨primitives, hp, -⟩ := bind_eq_ok.mp ho
  rw [run_buildField hp] at hpart ⊢
  refine ⟨primitives :: expanded, ?_, (loaded_primitives hpart).append hlog⟩
  exact mapM_eq_ok.mpr (.cons hp (mapM_eq_ok.mp he))

/-- The loads of a build that fails: those of the fields before the one at fault, and within that
field those of the primitives before the one that fails, and its own. -/
inductive StoppedAfter (c : Collaborators) (template : Template) (card : Card) (why : Error) :
    List Fetch → Prop where
  | palettes : Palettes.build (partitionFields template.orderedFields).1 card = .error why →
      StoppedAfter c template card why []
  | expansion {palettes : Palettes} {before after : List Field} {field : Field}
      {expanded : List (List Primitive)} {calls : List Fetch} :
      openSession template card = .ok (palettes, before ++ field :: after) →
      before.mapM (resolveAndExpand palettes card) = .ok expanded →
      resolveAndExpand palettes card field = .error why →
      Loaded c expanded.flatten calls →
      StoppedAfter c template card why calls
  | resource {palettes : Palettes} {before after : List Field} {field : Field}
      {expanded : List (List Primitive)} {done rest : List Primitive} {p : Primitive}
      {calls last : List Fetch} :
      openSession template card = .ok (palettes, before ++ field :: after) →
      before.mapM (resolveAndExpand palettes card) = .ok expanded →
      resolveAndExpand palettes card field = .ok (done ++ p :: rest) →
      Loaded c (expanded.flatten ++ done) calls → Fails c p why last →
      StoppedAfter c template card why (calls ++ last)

lemma run_build {fields : List Field} (h : openSession template card = .ok (palettes, fields)) :
    build c template card = (buildFields c palettes card fields).run := by
  rw [build, h]
  rfl

lemma run_build_error {why : Error} (h : openSession template card = .error why) :
    build c template card = (.error why, []) := by
  rw [build, h]
  rfl

/-- What the fields of a card expand to. -/
def Expands (template : Template) (card : Card) (expanded : List (List Primitive)) : Prop :=
  ∃ palettes fields, openSession template card = .ok (palettes, fields) ∧
    fields.mapM (resolveAndExpand palettes card) = .ok expanded

lemma loaded_build {ps : List Primitive} (h : (build c template card).1 = .ok ps) :
    ∃ expanded, Expands template card expanded ∧
      Loaded c expanded.flatten (build c template card).2 := by
  obtain ⟨palettes, fields, -, hopen, -, -⟩ := build_eq_ok.mp h
  rw [run_build hopen, run_buildFields] at h ⊢
  obtain ⟨parts, hparts, -⟩ := map_eq_ok.mp h
  obtain ⟨expanded, he, hlog⟩ := loaded_fields hparts
  exact ⟨expanded, ⟨palettes, fields, hopen, he⟩, hlog⟩

lemma stoppedAfter_build {why : Error} (h : (build c template card).1 = .error why) :
    StoppedAfter c template card why (build c template card).2 := by
  cases hopen : openSession template card with
  | error why' =>
    rw [run_build_error hopen] at h ⊢
    cases h
    exact .palettes (openSession_eq_error.mp hopen)
  | ok session =>
    obtain ⟨palettes, fields⟩ := session
    rw [run_build hopen, run_buildFields] at h ⊢
    -- the first field that fails, and within it the first primitive, unless it does not expand
    obtain ⟨before, field, after, parts, rfl, hparts, hfield, hlog⟩ :=
      record_of_mapM_error (fun field => (outcome_buildField palettes field).1)
        (map_eq_error.mp h)
    obtain ⟨expanded, he, hbefore⟩ := loaded_fields hparts
    rw [hlog]
    cases hp : resolveAndExpand palettes card field with
    | error why' =>
      rw [run_buildField_error hp] at hfield ⊢
      cases hfield
      rw [List.append_nil]
      exact .expansion hopen he hp hbefore
    | ok primitives =>
      rw [run_buildField hp] at hfield ⊢
      obtain ⟨done, p, rest, qs, rfl, hqs, hwhy, hlast⟩ :=
        record_of_mapM_error (fun p => (outcome_settle p).1) hfield
      rw [hlast, ← List.append_assoc]
      exact .resource hopen he hp (hbefore.append (loaded_primitives hqs)) (fails_settle hwhy)

/-! ## The lanes of the fields -/

lemma mem_collect_index {start : Nat} {loads : List (Option Fetch)} {item : Pending}
    (h : item ∈ collect start loads) :
    start ≤ item.index ∧ item.index < start + loads.length := by
  obtain ⟨i, hi, hload⟩ := mem_collect.mp h
  have hlt : i < loads.length := (List.getElem?_eq_some_iff.mp hload).1
  omega

/-- The pending loads of a list of primitives are those that it needs. -/
lemma loadsOf_collect {ps : List Primitive} {loads : List (Option Fetch)}
    (h : ps.mapM (wanted c) = .ok loads) (start : Nat) :
    LoadsOf ps ((collect start loads).map Pending.fetch) := by
  have hall := mapM_eq_ok.mp h
  clear h
  induction hall generalizing start with
  | nil => exact .nil
  | @cons p load? ps loads hp _ ih =>
    have hfirst : LoadsOf [p] ((load?.map fun fetch => (⟨start, fetch⟩ : Pending)).toList.map
        Pending.fetch) := by
      rcases wanted_cases c p with ⟨r, hr, he⟩ | ⟨hr, he⟩ <;> rw [he] at hp
      · obtain ⟨call, hcall, rfl⟩ := map_eq_ok.mp hp
        exact loadsOf_of_waits hr (checkFetchable_eq_ok.mp hcall).2
      · cases hp
        exact loadsOf_of_settled hr
    rw [collect_cons, List.map_append]
    exact hfirst.append (ih (start + 1))

lemma loadsOf_prepared {prepared : Prepared} (h : prepare c template card = .ok prepared) :
    LoadsOf prepared.expanded (prepared.lanes.flatten.map Pending.fetch) := by
  obtain ⟨loads, hloads, hl⟩ := prepared_lanes_flatten h
  rw [hl]
  exact loadsOf_collect hloads 0

/-- A field has a lane with all its pending loads, unless it has none. -/
lemma lane_of_field {start : Nat} {xss : List (List Primitive)} {lanes : List (List Pending)}
    (h : lanesOf c start xss = .ok lanes) {k : Nat} {xs : List Primitive}
    (hk : xss[k]? = some xs) : ∃ loads, xs.mapM (wanted c) = .ok loads ∧
      (collect (start + (xss.take k).flatten.length) loads = [] ∨
        collect (start + (xss.take k).flatten.length) loads ∈ lanes) := by
  -- from field to field the first place moves on by what the field expands to
  induction xss generalizing start lanes k with
  | nil => cases hk
  | cons first rest ih =>
    obtain ⟨lane, hlane, h⟩ := bind_eq_ok.mp h
    obtain ⟨others, hothers, h⟩ := bind_eq_ok.mp h
    obtain rfl := pure_eq_ok.mp h
    cases k with
    | zero =>
      cases hk
      rw [pendingOf_eq] at hlane
      obtain ⟨loads, hloads, rfl⟩ := map_eq_ok.mp hlane
      refine ⟨loads, hloads, ?_⟩
      by_cases he : collect start loads = []
      · exact .inl he
      · right
        simp [he]
    | succ k =>
      obtain ⟨loads, hloads, hm⟩ := ih hothers hk
      rw [List.take_succ_cons, List.flatten_cons, List.length_append, ← Nat.add_assoc]
      refine ⟨loads, hloads, hm.imp_right fun hm => ?_⟩
      split
      · exact hm
      · exact List.mem_cons_of_mem lane hm

/-- The item has one of the `count` places from `start` on. -/
def placedIn (start count : Nat) (item : Pending) : Bool :=
  start ≤ item.index ∧ item.index < start + count

lemma placedIn_eq_true {start count : Nat} {item : Pending} :
    placedIn start count item = true ↔ start ≤ item.index ∧ item.index < start + count :=
  decide_eq_true_iff

lemma filter_collect (start : Nat) (before own after : List (Option Fetch)) :
    (collect start (before ++ (own ++ after))).filter
      (placedIn (start + before.length) own.length) = collect (start + before.length) own := by
  have hbefore : (collect start before).filter (placedIn (start + before.length) own.length) =
      [] := by
    refine List.filter_eq_nil_iff.mpr fun item hi => ?_
    have hindex := mem_collect_index hi
    rw [placedIn_eq_true]
    omega
  have hown : (collect (start + before.length) own).filter
      (placedIn (start + before.length) own.length) = collect (start + before.length) own :=
    List.filter_eq_self.mpr fun item hi => placedIn_eq_true.mpr (mem_collect_index hi)
  have hafter : (collect (start + before.length + own.length) after).filter
      (placedIn (start + before.length) own.length) = [] := by
    refine List.filter_eq_nil_iff.mpr fun item hi => ?_
    have hindex := mem_collect_index hi
    rw [placedIn_eq_true]
    omega
  rw [collect_append, collect_append, List.filter_append, List.filter_append, hbefore, hown,
    hafter, List.nil_append, List.append_nil]

/-- The pending loads of a field are those of the whole output in its places. -/
lemma filter_lanes {expanded : List (List Primitive)} {lanes : List (List Pending)}
    (h : lanesOf c 0 expanded = .ok lanes) {k : Nat} {xs : List Primitive}
    {loads : List (Option Fetch)} (hk : expanded[k]? = some xs)
    (hloads : xs.mapM (wanted c) = .ok loads) :
    lanes.flatten.filter (placedIn (expanded.take k).flatten.length xs.length) =
      collect (expanded.take k).flatten.length loads := by
  obtain ⟨hlt, rfl⟩ := List.getElem?_eq_some_iff.mp hk
  have hsplit : expanded.flatten = (expanded.take k).flatten ++
      (expanded[k] ++ (expanded.drop (k + 1)).flatten) := by
    rw [← List.flatten_cons, ← List.drop_eq_getElem_cons hlt, ← List.flatten_append,
      List.take_append_drop]
  have hlanes := flatten_lanesOf (c := c) 0 expanded
  rw [h, hsplit] at hlanes
  obtain ⟨all, hall, he⟩ := map_eq_ok.mp hlanes.symm
  obtain ⟨before, tail, hbefore, htail, rfl⟩ := mapM_append_eq_ok.mp hall
  obtain ⟨own, after, hown, -, rfl⟩ := mapM_append_eq_ok.mp htail
  obtain rfl : own = loads := Except.ok.inj (hown.symm.trans hloads)
  have hfilter := filter_collect 0 before own after
  rwa [he, mapM_wanted_length hbefore, mapM_wanted_length hown, Nat.zero_add] at hfilter

/-! ## The loads of a concurrent build -/

/-- Items that are the given loads in some order, and in the order of its primitives within
every field. -/
structure FieldByField (expanded : List (List Primitive)) (calls : List Fetch)
    (items : List Pending) : Prop where
  same : items.map Pending.fetch ~ calls
  ordered : ∀ k primitives, expanded[k]? = some primitives → LoadsOf primitives
    ((items.filter (placedIn (expanded.take k).flatten.length primitives.length)).map
      Pending.fetch)

variable {bound : Nat} {answer : Pending → Except Error Resource}

/-- The last state of a concurrent build that comes to a list. -/
lemma concurrentBuild_calm {outcome : Except Error (List Primitive)}
    {history : List (Event Pending)}
    (h : ConcurrentBuild c answer bound template card outcome history) {ps : List Primitive}
    (hok : outcome = .ok ps) : ∃ prepared last, prepare c template card = .ok prepared ∧
      Calm answer bound prepared.lanes last ∧ last.Over ∧ last.history = history := by
  cases h with
  | refused => cases hok
  | @ended prepared last hp hr ho =>
    obtain ⟨hw, hne⟩ := prepared_nodup hp
    obtain ⟨k, hk, -⟩ := (reachable_lawful hw hne hr).ordered
    have hf : failed last.history = [] := by
      refine hk.healthy.mp ?_
      unfold outcomeOf at hok
      split at hok
      · cases hok
      · assumption
    exact ⟨prepared, last, hp, calm_of_over hw hne hr hf ho, ho, rfl⟩

/-- The items that are started for a field are those of its lane, in order. -/
lemma started_field {expanded : List (List Primitive)} {lanes : List (List Pending)}
    (h : lanesOf c 0 expanded = .ok lanes) {last : State Pending Resource Error}
    (hcalm : Calm answer bound lanes last) (ho : last.Over) {k : Nat} {xs : List Primitive}
    (hk : expanded[k]? = some xs) : ∃ loads, xs.mapM (wanted c) = .ok loads ∧
      (started last.history).filter (placedIn (expanded.take k).flatten.length xs.length) =
        collect (expanded.take k).flatten.length loads := by
  obtain ⟨loads, hloads, hlane⟩ := lane_of_field h hk
  have hfilter := filter_lanes h hk hloads
  have hperm := hcalm.started_perm ho
  rw [Nat.zero_add] at hlane
  refine ⟨loads, hloads, ?_⟩
  rcases hlane with hnil | hmem
  · -- no lane holds anything for the field, so that nothing was started for it
    have hnone := hperm.filter (placedIn (expanded.take k).flatten.length xs.length)
    rw [hfilter, hnil] at hnone
    rw [hnone.eq_nil, hnil]
  · refine (List.filter_congr fun item hi => ?_).trans (hcalm.started_lane ho hmem)
    simp only [← hfilter, List.mem_filter, hperm.mem_iff.mp hi, true_and, Bool.decide_eq_true]

lemma fieldByField_of_over {prepared : Prepared} (h : prepare c template card = .ok prepared)
    {last : State Pending Resource Error} (hcalm : Calm answer bound prepared.lanes last)
    (ho : last.Over) {expanded : List (List Primitive)} (he : Expands template card expanded)
    {calls : List Fetch} (hcalls : LoadsOf expanded.flatten calls) :
    FieldByField expanded calls (started last.history) := by
  obtain ⟨palettes, fields, expanded', hopen, he', hlanes, hflat⟩ := prepare_eq_ok.mp h
  obtain ⟨palettes', fields', hopen', he⟩ := he
  cases hopen.symm.trans hopen'
  cases he.symm.trans he'
  constructor
  · rw [hcalls.unique (hflat ▸ loadsOf_prepared h)]
    exact (hcalm.started_perm ho).map Pending.fetch
  · intro k primitives hk
    obtain ⟨loads, hloads, hstarted⟩ := started_field hlanes hcalm ho hk
    rw [hstarted]
    exact loadsOf_collect hloads _

lemma concurrentBuild_loads {outcome : Except Error (List Primitive)}
    {history : List (Event Pending)}
    (h : ConcurrentBuild c (fun p => c.answer p.fetch) bound template card outcome history)
    {ps : List Primitive} (hok : outcome = .ok ps) :
    ∃ expanded, Expands template card expanded ∧
      LoadsOf expanded.flatten (build c template card).2 ∧
      FieldByField expanded (build c template card).2 (started history) := by
  obtain ⟨expanded, he, hloaded⟩ := loaded_build ((concurrentBuild_eq_ok h).mp hok)
  obtain ⟨prepared, last, hp, hcalm, ho, rfl⟩ := concurrentBuild_calm h hok
  exact ⟨expanded, he, hloaded.loads, fieldByField_of_over hp hcalm ho he hloaded.loads⟩

/-- A build that comes to a list makes one load for every primitive that has nothing inline, in
the order of the output; a build that fails has made these loads up to its failure, and none if a
palette is at fault. A concurrent build that comes to a list makes the same loads, in order within
every field, whatever the bound and the order in which they end. -/
theorem loads_made_once (c : Collaborators) (template : Template) (card : Card) :
    (∀ ps, (build c template card).1 = .ok ps → ∃ expanded, Expands template card expanded ∧
      LoadsOf expanded.flatten (build c template card).2) ∧
    (∀ why, (build c template card).1 = .error why →
      StoppedAfter c template card why (build c template card).2) ∧
    (∀ why, Palettes.build (partitionFields template.orderedFields).1 card = .error why →
      build c template card = (.error why, [])) ∧
    (∀ bound ps history,
      ConcurrentBuild c (fun p => c.answer p.fetch) bound template card (.ok ps) history →
      ∃ expanded, Expands template card expanded ∧
        LoadsOf expanded.flatten (build c template card).2 ∧
        FieldByField expanded (build c template card).2 (started history)) ∧
    ∀ (τ : Type) [Add τ] [LT τ] [DecidableLT τ] (start : τ) (delay : Fetch → τ) bound ps,
      1 ≤ bound → (buildConcurrently start delay c bound template card).1 = .ok ps →
      ∃ expanded, Expands template card expanded ∧
        LoadsOf expanded.flatten (build c template card).2 ∧
        FieldByField expanded (build c template card).2 (started
          ((buildConcurrently start delay c bound template card).2.map Timed.event)) := by
  refine ⟨fun ps h => ?_, fun why => stoppedAfter_build,
    fun why h => run_build_error (openSession_eq_error.mpr h),
    fun bound ps history h => concurrentBuild_loads h rfl,
    fun τ _ _ _ start delay bound ps hb h =>
      concurrentBuild_loads (buildConcurrently_schedule start delay hb) h⟩
  obtain ⟨expanded, he, hloaded⟩ := loaded_build h
  exact ⟨expanded, he, hloaded.loads⟩

/-- The two maps of an atlas are loaded, and its photo is not. -/
theorem atlas_loads :
    (∃ expanded, Expands atlas atlasCard expanded ∧
      LoadsOf expanded.flatten [⟨.svg, "n.svg"⟩, ⟨.svg, "s.svg"⟩]) ∧
    ∀ delay : Fetch → Nat, ∃ expanded, Expands atlas atlasCard expanded ∧
      LoadsOf expanded.flatten [⟨.svg, "n.svg"⟩, ⟨.svg, "s.svg"⟩] ∧
      FieldByField expanded [⟨.svg, "n.svg"⟩, ⟨.svg, "s.svg"⟩] (started
        ((buildConcurrently 0 delay atlasLoader 2 atlas atlasCard).2.map Timed.event)) := by
  obtain ⟨hbuild, -, -, -, hclock⟩ := loads_made_once atlasLoader atlas atlasCard
  exact ⟨hbuild atlasDrawing atlas_built, fun delay =>
    hclock Nat 0 delay 2 atlasDrawing (by decide) (atlas_drawn (by decide) delay)⟩

end CardDrawing.Proofs
