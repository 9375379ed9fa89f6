import CardDrawing.Proofs.BuildAgreement
import CardDrawing.Proofs.FieldRequests

/-!
# The shape of a card

A card is what its fields expand to, one field after another, with every picture and every
document completed by what is given inline or by what its own collaborator loads.
-/

namespace CardDrawing.Proofs

variable {c : Collaborators} {template : Template} {card : Card} {palettes : Palettes}

/-! ## Completed primitives -/

/-- A request is met by what it has inline, else by what is loaded from its url. -/
inductive Supplies (load? : Option (String → Except Error Resource)) (r : ResourceRequest) :
    Resource → Prop where
  | inline : r.inline ≠ .null → Supplies load? r (.value r.inline)
  | loaded {load : String → Except Error Resource} {url : String} {resource : Resource} :
      r.inline = .null → load? = some load → r.url = some url → load url = .ok resource →
      Supplies load? r resource

/-- A primitive as it is expanded, and as it is drawn: a picture has what the image fetcher and a
document what the document loader supplies for its url, and nothing else is changed. -/
inductive Completed (c : Collaborators) : Primitive → Primitive → Prop where
  | color (p : ColorPrimitive) : Completed c (.color p) (.color p)
  | line (p : LinePrimitive) : Completed c (.line p) (.line p)
  | text (p : TextPrimitive) : Completed c (.text p) (.text p)
  | image {p : ImagePrimitive} {r : ResourceRequest} {resource : Resource} :
      p.request = some r → r.url = p.url → Supplies c.images r resource →
      Completed c (.image p) (.image { p with resource, request := none })
  | svg {p : SvgPrimitive} {r : ResourceRequest} {resource : Resource} :
      p.request = some r → r.url = p.url → Supplies c.svgs r resource →
      Completed c (.svg p) (.svg { p with resource, request := none })

lemma answer_of_loader {load : String → Except Error Resource} {call : Fetch}
    (h : c.loader? call.kind = some load) : c.answer call = load call.url := by
  rw [Collaborators.answer, h]

lemma resolved_eq_ok {p q : Primitive} {r : ResourceRequest} (hp : p.request? = some r) :
    resolved c p = .ok q ↔
      ∃ resource, Supplies (c.loader? r.kind) r resource ∧ q = p.attach resource := by
  by_cases hr : r.inline = .null
  · rw [resolved_eq_ok_of_waits ⟨hp, hr⟩]
    constructor
    · rintro ⟨call, resource, hcall, hload, rfl⟩
      obtain ⟨hsome, hkind, hurl⟩ := checkFetchable_eq_ok.mp hcall
      obtain ⟨load, hl⟩ := Option.isSome_iff_exists.mp hsome
      rw [answer_of_loader (hkind ▸ hl)] at hload
      exact ⟨resource, .loaded hr hl hurl hload, rfl⟩
    · rintro ⟨resource, hs, rfl⟩
      cases hs with
      | inline hne => exact (hne hr).elim
      | @loaded load url _ _ hl hurl hload =>
        have hcall : checkFetchable c p r = .ok ⟨r.kind, url⟩ :=
          checkFetchable_eq_ok.mpr ⟨by simp [hl], rfl, hurl⟩
        have hanswer : c.answer ⟨r.kind, url⟩ = load url := answer_of_loader hl
        exact ⟨_, resource, hcall, hanswer.trans hload, rfl⟩
  · rw [resolved_of_inline hp hr]
    constructor
    · intro h
      cases h
      exact ⟨_, .inline hr, rfl⟩
    · rintro ⟨resource, hs, rfl⟩
      cases hs with
      | inline => rfl
      | loaded hnull => exact (hr hnull).elim

/-- Putting the resource of a primitive in place completes it. -/
lemma resolved_eq_ok_iff_completed {p q : Primitive} (h : Asks p) :
    resolved c p = .ok q ↔ Completed c p q := by
  cases p with
  | image p =>
    obtain ⟨inline, hr⟩ := h
    rw [resolved_eq_ok (show (Primitive.image p).request? = _ from hr)]
    constructor
    · rintro ⟨resource, hs, rfl⟩
      exact .image hr rfl hs
    · intro hq
      cases hq with
      | @image _ r resource hr' _ hs =>
        cases hr.symm.trans hr'
        exact ⟨resource, hs, rfl⟩
  | svg p =>
    rw [resolved_eq_ok (show (Primitive.svg p).request? = _ from h)]
    constructor
    · rintro ⟨resource, hs, rfl⟩
      exact .svg h rfl hs
    · intro hq
      cases hq with
      | @svg _ r resource hr' _ hs =>
        cases h.symm.trans hr'
        exact ⟨resource, hs, rfl⟩
  | _ =>
    rw [resolved_of_none rfl]
    constructor
    · intro he
      cases he
      constructor
    · intro hq
      cases hq
      rfl

/-! ## Fields -/

/-- What a field contributes to a card: its expansion, completed. -/
def Draws (c : Collaborators) (palettes : Palettes) (card : Card) (field : Field)
    (part : List Primitive) : Prop :=
  ∃ primitives, resolveAndExpand palettes card field = .ok primitives ∧
    List.Forall₂ (Completed c) primitives part

lemma asks_resolveAndExpand {field : Field} {ps : List Primitive}
    (h : resolveAndExpand palettes card field = .ok ps) : ∀ p ∈ ps, Asks p := by
  unfold resolveAndExpand at h
  split at h
  · obtain ⟨value, -, h⟩ := bind_eq_ok.mp h
    exact asks_expandField h
  · exact asks_expandField h

lemma mapM_resolved_eq_ok {ps qs : List Primitive} (h : ∀ p ∈ ps, Asks p) :
    ps.mapM (resolved c) = .ok qs ↔ List.Forall₂ (Completed c) ps qs := by
  have hsame : (fun p q => Asks p ∧ resolved c p = .ok q) =
      fun p q => Asks p ∧ Completed c p q := by
    funext p q
    exact propext (and_congr_right resolved_eq_ok_iff_completed)
  calc ps.mapM (resolved c) = .ok qs
    _ ↔ (∀ p ∈ ps, Asks p) ∧ List.Forall₂ (fun p q => resolved c p = .ok q) ps qs := by
      rw [mapM_eq_ok, and_iff_right h]
    _ ↔ (∀ p ∈ ps, Asks p) ∧ List.Forall₂ (Completed c) ps qs := by
      rw [← List.forall₂_and_left, hsame, List.forall₂_and_left]
    _ ↔ List.Forall₂ (Completed c) ps qs := and_iff_right h

lemma draws_iff {field : Field} {part : List Primitive} :
    (resolveAndExpand palettes card field >>= List.mapM (resolved c)) = .ok part ↔
      Draws c palettes card field part := by
  rw [bind_eq_ok]
  exact exists_congr fun primitives => and_congr_right fun h =>
    mapM_resolved_eq_ok (asks_resolveAndExpand h)

lemma openSession_eq_ok {fields : List Field} :
    openSession template card = .ok (palettes, fields) ↔
      Palettes.build (template.orderedFields.filter Field.isColorScheme) card = .ok palettes ∧
      fields = template.orderedFields.filter (!·.isColorScheme) := by
  rw [openSession, partitionFields, List.partition_eq_filter_filter, bind_eq_ok]
  constructor
  · rintro ⟨palettes', hp, h⟩
    cases pure_eq_ok.mp h
    exact ⟨hp, rfl⟩
  · rintro ⟨hp, rfl⟩
    exact ⟨palettes, hp, rfl⟩

/-- A build comes to a list when the color schemes give palettes and every other field can be
drawn with them; the list is then what these fields contribute, in the order in which they are
declared, and nothing in it is pending. -/
theorem build_shape (c : Collaborators) (template : Template) (card : Card)
    (ps : List Primitive) :
    ((build c template card).1 = .ok ps ↔ ∃ palettes parts,
      Palettes.build (template.orderedFields.filter Field.isColorScheme) card = .ok palettes ∧
      List.Forall₂ (Draws c palettes card)
        (template.orderedFields.filter (!·.isColorScheme)) parts ∧
      ps = parts.flatten) ∧
    ((build c template card).1 = .ok ps → ∀ p ∈ ps, p.request? = none) := by
  refine ⟨?_, fun h q hq => ?_⟩
  · rw [outcome_build, bind_eq_ok]
    simp only [(outcome_buildFields _ _).2, map_eq_ok, mapM_eq_ok, draws_iff]
    constructor
    · rintro ⟨⟨palettes, fields⟩, hopen, parts, hparts, rfl⟩
      obtain ⟨hp, rfl⟩ := openSession_eq_ok.mp hopen
      exact ⟨palettes, parts, hp, hparts, rfl⟩
    · rintro ⟨palettes, parts, hp, hparts, rfl⟩
      exact ⟨(palettes, _), openSession_eq_ok.mpr ⟨hp, rfl⟩, parts, hparts, rfl⟩
  · obtain ⟨palettes, fields, expanded, -, -, hps⟩ := build_eq_ok.mp h
    obtain ⟨i, hi⟩ := List.mem_iff_getElem?.mp hq
    obtain ⟨p, -, hp⟩ := (mapM_getElem? hps).mp hi
    exact request?_resolved hp

theorem atlas_shape : (build atlasLoader atlas atlasCard).1 = .ok atlasDrawing ∧
    (∃ palettes parts, Palettes.build [] atlasCard = .ok palettes ∧
      List.Forall₂ (Draws atlasLoader palettes atlasCard)
        [atlasMap "north" "n.svg", atlasPhoto, atlasMap "south" "s.svg"] parts ∧
      atlasDrawing = parts.flatten) ∧
    ∀ p ∈ atlasDrawing, p.request? = none := by
  have hshape := build_shape atlasLoader atlas atlasCard atlasDrawing
  exact ⟨atlas_built, hshape.1.mp atlas_built, hshape.2 atlas_built⟩

end CardDrawing.Proofs
