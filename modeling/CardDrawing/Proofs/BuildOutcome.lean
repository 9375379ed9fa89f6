import CardDrawing.Build.Basic
import CardDrawing.Proofs.Outcomes

/-!
# The outcome of a build

What a build comes to apart from its loads: the expansions of the fields one after another, each
primitive with its resource in place.
-/

namespace CardDrawing.Proofs

variable {c : Collaborators} {template : Template} {card : Card}

/-- The value that a field is drawn with; a line is drawn without any. -/
def effective (card : Card) (field : Field) : Except Error Value :=
  if field.requiresData then resolveValue field card else .ok .null

lemma resolveAndExpand_eq (palettes : Palettes) (card : Card) (field : Field) :
    resolveAndExpand palettes card field =
      effective card field >>= expandField palettes field := by
  unfold resolveAndExpand effective
  split <;> rfl

/-- The primitive waits for a load: it has a request and nothing inline. -/
def Waits (p : Primitive) (r : ResourceRequest) : Prop := p.request? = some r ∧ r.inline = .null

lemma Waits.unique {p : Primitive} {r r' : ResourceRequest} (h : Waits p r) (h' : Waits p r') :
    r = r' :=
  Option.some.inj (h.1.symm.trans h'.1)

/-- The load of a request is asked of the loader of its kind, under its url. -/
structure LoadOf (r : ResourceRequest) (call : Fetch) : Prop where
  kind : call.kind = r.kind
  url : r.url = some call.url

/-- A request can be loaded when it has a url and a loader of its kind. -/
lemma checkFetchable_eq_ok {p : Primitive} {r : ResourceRequest} {call : Fetch} :
    checkFetchable c p r = .ok call ↔ (c.loader? r.kind).isSome ∧ LoadOf r call := by
  have hload : LoadOf r call ↔ call.kind = r.kind ∧ r.url = some call.url :=
    ⟨fun h => ⟨h.kind, h.url⟩, fun h => ⟨h.1, h.2⟩⟩
  obtain ⟨kind, url⟩ := call
  rw [hload, checkFetchable]
  cases r.url with
  | none => simp
  | some url' => cases r.kind <;> cases c.loader? _ <;> simp [eq_comm]

/-- A primitive with its resource in place, loaded if nothing is inline. -/
def resolved (c : Collaborators) (p : Primitive) : Except Error Primitive :=
  match p.request? with
  | none => .ok p
  | some r =>
    match r.inline with
    | .null => do return p.attach (← c.answer (← checkFetchable c p r))
    | inline => .ok (p.attach (.value inline))

lemma resolved_of_waits {p : Primitive} {r : ResourceRequest} (h : Waits p r) :
    resolved c p = do return p.attach (← c.answer (← checkFetchable c p r)) := by
  simp only [resolved, h.1, h.2]

lemma resolved_of_none {p : Primitive} (h : p.request? = none) : resolved c p = .ok p := by
  simp only [resolved, h]

lemma resolved_of_inline {p : Primitive} {r : ResourceRequest} (h : p.request? = some r)
    (hr : r.inline ≠ .null) : resolved c p = .ok (p.attach (.value r.inline)) := by
  simp only [resolved, h]

lemma resolved_eq_ok_of_waits {p q : Primitive} {r : ResourceRequest} (h : Waits p r) :
    resolved c p = .ok q ↔ ∃ call resource, checkFetchable c p r = .ok call ∧
      c.answer call = .ok resource ∧ q = p.attach resource := by
  rw [resolved_of_waits h, bind_eq_ok]
  constructor
  · rintro ⟨call, hcall, h⟩
    obtain ⟨resource, hresource, h⟩ := bind_eq_ok.mp h
    exact ⟨call, resource, hcall, hresource, (pure_eq_ok.mp h).symm⟩
  · rintro ⟨call, resource, hcall, hresource, rfl⟩
    exact ⟨call, hcall, bind_eq_ok.mpr ⟨resource, hresource, rfl⟩⟩

lemma request?_attach (p : Primitive) (resource : Resource) :
    (p.attach resource).request? = none := by
  cases p <;> rfl

/-- A primitive with its resource in place asks for nothing any more. -/
lemma request?_resolved {p q : Primitive} (h : resolved c p = .ok q) : q.request? = none := by
  unfold resolved at h
  split at h
  · rename_i hp
    cases h
    exact hp
  · split at h
    · obtain ⟨call, -, h⟩ := bind_eq_ok.mp h
      obtain ⟨resource, -, h⟩ := bind_eq_ok.mp h
      rw [← pure_eq_ok.mp h]
      exact request?_attach p resource
    · cases h
      exact request?_attach p _

lemma outcome_fetch (call : Fetch) :
    Additive (fetch c call) ∧ (fetch c call).run.1 = c.answer call := by
  obtain ⟨ha, ho⟩ := outcome_bind (run_record call).1 fun _ => (run_lift (c.answer call)).1
  exact ⟨ha, by rw [fetch, ho, (run_record call).2, (run_lift (c.answer call)).2]; rfl⟩

lemma outcome_settle (p : Primitive) :
    Additive (settle c p) ∧ (settle c p).run.1 = resolved c p := by
  unfold settle
  split
  · rename_i hp
    rw [resolved_of_none hp]
    exact outcome_pure Fetch p
  · rename_i r hr
    split
    · rename_i hnull
      have hload (call : Fetch) := outcome_bind (outcome_fetch (c := c) call).1
        fun resource => (outcome_pure Fetch (p.attach resource)).1
      obtain ⟨ha, ho⟩ := outcome_bind (run_lift (checkFetchable c p r)).1
        fun call => (hload call).1
      refine ⟨ha, ho.trans ?_⟩
      rw [resolved_of_waits ⟨hr, hnull⟩, (run_lift (checkFetchable c p r)).2]
      simp only [(hload _).2, (outcome_fetch _).2, (outcome_pure Fetch _).2]
      rfl
    · rename_i hinline
      rw [resolved_of_inline hr hinline]
      exact outcome_pure Fetch _

lemma outcome_buildField (palettes : Palettes) (field : Field) :
    Additive (buildField c palettes card field) ∧
      (buildField c palettes card field).run.1 =
        resolveAndExpand palettes card field >>= List.mapM (resolved c) := by
  have hall (primitives : List Primitive) :=
    outcome_mapM (fun p => (outcome_settle (c := c) p).1) primitives
  obtain ⟨ha, ho⟩ := outcome_bind (run_lift (resolveAndExpand palettes card field)).1
    fun primitives => (hall primitives).1
  refine ⟨ha, ho.trans ?_⟩
  rw [(run_lift _).2]
  simp only [(hall _).2, (outcome_settle _).2]

lemma outcome_buildFields (palettes : Palettes) (fields : List Field) :
    Additive (buildFields c palettes card fields) ∧
      (buildFields c palettes card fields).run.1 = List.flatten <$> fields.mapM fun field =>
        resolveAndExpand palettes card field >>= List.mapM (resolved c) := by
  induction fields with
  | nil => exact outcome_pure Fetch []
  | cons field rest ih =>
    have hrest (first : List Primitive) := outcome_bind ih.1
      fun others => (outcome_pure Fetch (first ++ others)).1
    obtain ⟨ha, ho⟩ := outcome_bind (outcome_buildField palettes field).1
      fun first => (hrest first).1
    refine ⟨ha, ho.trans ?_⟩
    simp only [(hrest _).2, (outcome_pure Fetch _).2, (outcome_buildField _ _).2, ih.2,
      List.mapM_cons]
    cases resolveAndExpand palettes card field >>= List.mapM (resolved c) with
    | error why => rfl
    | ok first =>
      cases rest.mapM fun field =>
        resolveAndExpand palettes card field >>= List.mapM (resolved c) <;> rfl

lemma outcome_build : (build c template card).1 = openSession template card >>=
    fun session => (buildFields c session.1 card session.2).run.1 := by
  have hfields (session : Palettes × List Field) :
      Additive (buildFields c session.1 card session.2) :=
    (outcome_buildFields session.1 session.2).1
  obtain ⟨-, ho⟩ := outcome_bind (run_lift (openSession template card)).1 hfields
  rw [(run_lift _).2] at ho
  exact ho

/-- A build comes to a list when every field expands and every resource loads. -/
theorem build_eq_ok {ps : List Primitive} : (build c template card).1 = .ok ps ↔
    ∃ palettes fields expanded, openSession template card = .ok (palettes, fields) ∧
      fields.mapM (resolveAndExpand palettes card) = .ok expanded ∧
      expanded.flatten.mapM (resolved c) = .ok ps := by
  rw [outcome_build, bind_eq_ok]
  constructor
  · rintro ⟨⟨palettes, fields⟩, hopen, h⟩
    rw [(outcome_buildFields palettes fields).2] at h
    obtain ⟨expanded, he, hps⟩ := mapM_bind_flatten_eq_ok.mp h
    exact ⟨palettes, fields, expanded, hopen, he, hps⟩
  · rintro ⟨palettes, fields, expanded, hopen, he, hps⟩
    refine ⟨(palettes, fields), hopen, ?_⟩
    rw [(outcome_buildFields palettes fields).2]
    exact mapM_bind_flatten_eq_ok.mpr ⟨expanded, he, hps⟩

end CardDrawing.Proofs
