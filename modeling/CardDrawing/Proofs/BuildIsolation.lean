import CardDrawing.Proofs.BuildColors
import CardDrawing.Proofs.BuildShape
import CardDrawing.Proofs.BuildLoads
import CardDrawing.Proofs.PaletteTable
import CardDrawing.Proofs.TemplateFields

/-!
# The data of one field

A field is drawn from what the card holds under its id and from nothing else of the card, the
palettes apart. So a card that is changed under one id is drawn as before but for the segment of
that field.
-/

namespace CardDrawing.Proofs

variable {c : Collaborators} {template : Template} {card card' : Card} {palettes : Palettes}
  {g : String} {field : Field} {why : Error}

/-! ## What a field reads of a card -/

/-- Two cards hold the same under an id: data, default data and choices. -/
structure AgreeAt (id : String) (card card' : Card) : Prop where
  data : Keyed.get? card.data id = Keyed.get? card'.data id
  defaults : (card.defaultData.bind fun defaults => Keyed.get? defaults id) =
    card'.defaultData.bind fun defaults => Keyed.get? defaults id
  choices : Keyed.get? card.choices id = Keyed.get? card'.choices id

/-- Two cards hold the same under every other id. -/
def AgreeExcept (g : String) (card card' : Card) : Prop :=
  ∀ id, id ≠ g → AgreeAt id card card'

lemma AgreeAt.symm {id : String} (h : AgreeAt id card card') : AgreeAt id card' card :=
  ⟨h.data.symm, h.defaults.symm, h.choices.symm⟩

lemma AgreeExcept.symm (h : AgreeExcept g card card') : AgreeExcept g card' card :=
  fun id hid => (h id hid).symm

/-- The card with another entry for one field. -/
def withEntry (card : Card) (g : String) (entry : DataEntry) : Card :=
  { card with data := Keyed.put card.data g entry }

lemma agreeExcept_withEntry (g : String) (card : Card) (entry : DataEntry) :
    AgreeExcept g card (withEntry card g entry) := by
  intro id hid
  refine ⟨?_, rfl, rfl⟩
  rw [withEntry, Keyed.get?_put, if_neg hid]

lemma resolveValue_congr (h : AgreeAt field.id card card') :
    resolveValue field card = resolveValue field card' := by
  rw [resolveValue, resolveValue, selectSource, selectSource, h.data, h.defaults, h.choices]

lemma effective_congr (h : AgreeAt field.id card card') :
    effective card field = effective card' field := by
  rw [effective, effective, resolveValue_congr h]

lemma effective_line (h : field.type = .line) : effective card field = effective card' field := by
  simp [effective, Field.requiresData, h]

/-! ## What a field contributes -/

/-- A field that is drawn: its primitives with their resources in place. -/
def drawn (c : Collaborators) (palettes : Palettes) (card : Card) (field : Field) :
    Except Error (List Primitive) :=
  resolveAndExpand palettes card field >>= List.mapM (resolved c)

lemma drawn_eq_ok {part : List Primitive} :
    drawn c palettes card field = .ok part ↔ Draws c palettes card field part :=
  draws_iff

lemma drawn_congr (h : effective card field = effective card' field) :
    drawn c palettes card field = drawn c palettes card' field := by
  rw [drawn, drawn, resolveAndExpand_eq, resolveAndExpand_eq, h]

lemma buildField_effective (h : effective card field = effective card' field) :
    buildField c palettes card field = buildField c palettes card' field := by
  rw [buildField, buildField, resolveAndExpand_eq, resolveAndExpand_eq, h]

lemma resolved_eq_error {p : Primitive} (h : resolved c p = .error why) :
    ∃ calls, Fails c p why calls :=
  ⟨_, fails_settle ((outcome_settle p).2.trans h)⟩

/-- Why a field cannot be drawn: its value cannot be resolved, or does not expand, or something
that it needs cannot be loaded. -/
inductive Undrawable (c : Collaborators) (palettes : Palettes) (card : Card) (field : Field)
    (why : Error) : Prop where
  | resolving : effective card field = .error why → Undrawable c palettes card field why
  | expanding {value : Value} : effective card field = .ok value →
      expandField palettes field value = .error why → Undrawable c palettes card field why
  | loading {value : Value} {done rest : List Primitive} {p : Primitive} {calls : List Fetch} :
      effective card field = .ok value →
      expandField palettes field value = .ok (done ++ p :: rest) → Fails c p why calls →
      Undrawable c palettes card field why

lemma undrawable_of_drawn (h : drawn c palettes card field = .error why) :
    Undrawable c palettes card field why := by
  rw [drawn, resolveAndExpand_eq] at h
  rcases bind_eq_error.mp h with h | ⟨primitives, he, h⟩
  · rcases bind_eq_error.mp h with h | ⟨value, hv, h⟩
    · exact .resolving h
    · exact .expanding hv h
  · obtain ⟨value, hv, he⟩ := bind_eq_ok.mp he
    obtain ⟨done, p, rest, rfl, -, hp⟩ := mapM_eq_error.mp h
    obtain ⟨calls, hfails⟩ := resolved_eq_error hp
    exact .loading hv he hfails

/-! ## Builds of cards that agree -/

/-- The fields of a template that draw. -/
def drawnFields (template : Template) : List Field :=
  template.orderedFields.filter (!·.isColorScheme)

lemma outcome_session (h : openSession template card = .ok (palettes, drawnFields template)) :
    (build c template card).1 =
      List.flatten <$> (drawnFields template).mapM (drawn c palettes card) := by
  rw [run_build h]
  exact (outcome_buildFields palettes _).2

lemma openSession_congr
    (h : ∀ field ∈ template.orderedFields, field.isColorScheme = true →
      AgreeAt field.id card card') :
    openSession template card = openSession template card' := by
  have hschemes : Palettes.build (template.orderedFields.filter Field.isColorScheme) card =
      Palettes.build (template.orderedFields.filter Field.isColorScheme) card' := by
    rw [palettes_build_eq, palettes_build_eq]
    refine congrArg _ (mapM_congr fun field hm => ?_)
    obtain ⟨hm, hs⟩ := List.mem_filter.mp hm
    rw [schemeEntry, schemeEntry, Palettes.ofField, Palettes.ofField,
      resolveValue_congr (h field hm hs)]
  rw [openSession, openSession, partitionFields, List.partition_eq_filter_filter]
  dsimp only
  rw [hschemes]

lemma build_congr (hsession : openSession template card = openSession template card')
    (h : ∀ field ∈ drawnFields template, effective card field = effective card' field) :
    build c template card = build c template card' := by
  cases ho : openSession template card with
  | error why => rw [run_build_error ho, run_build_error (hsession ▸ ho)]
  | ok session =>
    obtain ⟨palettes, fields⟩ := session
    obtain ⟨-, rfl⟩ := openSession_eq_ok.mp ho
    have hall : (drawnFields template).mapM (buildField c palettes card) =
        (drawnFields template).mapM (buildField c palettes card') :=
      mapM_congr fun field hm => buildField_effective (h field hm)
    rw [run_build ho, run_build (hsession ▸ ho), buildFields_eq, buildFields_eq]
    exact congrArg (fun steps => Trace.run (List.flatten <$> steps)) hall

/-! ## A card that is changed under one id -/

/-- The field contributes the same to both cards. -/
def DrawsBoth (c : Collaborators) (palettes : Palettes) (card card' : Card) (field : Field)
    (part : List Primitive) : Prop :=
  Draws c palettes card field part ∧ Draws c palettes card' field part

/-- Two drawings of the same fields that differ at most in the one segment of the field `g`. -/
inductive SameOutside (c : Collaborators) (palettes : Palettes) (card card' : Card) (g : String) :
    List Field → List Primitive → List Primitive → Prop where
  | absent {fields : List Field} {parts : List (List Primitive)} :
      (∀ field ∈ fields, field.id ≠ g) →
      List.Forall₂ (DrawsBoth c palettes card card') fields parts →
      SameOutside c palettes card card' g fields parts.flatten parts.flatten
  | segment {before after : List Field} {field : Field} {first last : List (List Primitive)}
      {own own' : List Primitive} :
      field.id = g → (∀ other ∈ before ++ after, other.id ≠ g) →
      List.Forall₂ (DrawsBoth c palettes card card') before first →
      Draws c palettes card field own → Draws c palettes card' field own' →
      List.Forall₂ (DrawsBoth c palettes card card') after last →
      SameOutside c palettes card card' g (before ++ field :: after)
        (first.flatten ++ own ++ last.flatten) (first.flatten ++ own' ++ last.flatten)

/-- The build of a card stops at the field `g`, after everything before it has been drawn. -/
def StopsAt (c : Collaborators) (template : Template) (card : Card) (g : String) (why : Error) :
    Prop :=
  ∃ palettes before field after,
    openSession template card = .ok (palettes, before ++ field :: after) ∧ field.id = g ∧
    (∀ other ∈ before, ∃ part, Draws c palettes card other part) ∧
    Undrawable c palettes card field why

lemma id_ne_of_nodup {before after : List Field}
    (hids : ((before ++ field :: after).map Field.id).Nodup) :
    ∀ other ∈ before ++ after, other.id ≠ field.id := by
  intro other hm heq
  rw [List.map_append, List.map_cons, List.nodup_middle, ← List.map_append] at hids
  exact (List.nodup_cons.mp hids).1 (List.mem_map.mpr ⟨other, hm, heq⟩)

section

variable (h : AgreeExcept g card card')
include h

lemma drawsBoth_of_drawn {fields : List Field} {parts parts' : List (List Primitive)}
    (hg : ∀ field ∈ fields, field.id ≠ g) (hd : fields.mapM (drawn c palettes card) = .ok parts)
    (hd' : fields.mapM (drawn c palettes card') = .ok parts') :
    parts = parts' ∧ List.Forall₂ (DrawsBoth c palettes card card') fields parts := by
  have hsame : fields.mapM (drawn c palettes card) = fields.mapM (drawn c palettes card') :=
    mapM_congr fun field hm => drawn_congr (effective_congr (h field.id (hg field hm)))
  obtain rfl : parts = parts' := Except.ok.inj (hd.symm.trans (hsame.trans hd'))
  refine ⟨rfl, ?_⟩
  exact List.Forall₂.mp (fun _ _ hp hp' => ⟨drawn_eq_ok.mp hp, drawn_eq_ok.mp hp'⟩)
    (mapM_eq_ok.mp hd) (mapM_eq_ok.mp hd')

lemma sameOutside_of_drawn {fields : List Field} {parts parts' : List (List Primitive)}
    (hids : (fields.map Field.id).Nodup) (hd : fields.mapM (drawn c palettes card) = .ok parts)
    (hd' : fields.mapM (drawn c palettes card') = .ok parts') :
    SameOutside c palettes card card' g fields parts.flatten parts'.flatten := by
  by_cases hg : ∃ field ∈ fields, field.id = g
  · -- no id comes twice, so only this field can differ, and not those before and after it
    obtain ⟨field, hm, hid⟩ := hg
    obtain ⟨before, after, rfl⟩ := List.append_of_mem hm
    have hothers := hid ▸ id_ne_of_nodup hids
    obtain ⟨hbefore, hafter⟩ := List.forall_mem_append.mp hothers
    obtain ⟨first, others, hfirst, hothers', rfl⟩ := mapM_append_eq_ok.mp hd
    obtain ⟨first', others', hfirst', hothers'', rfl⟩ := mapM_append_eq_ok.mp hd'
    obtain ⟨own, last, hown, hlast, rfl⟩ :=
      List.forall₂_cons_left_iff.mp (mapM_eq_ok.mp hothers')
    obtain ⟨own', last', hown', hlast', rfl⟩ :=
      List.forall₂_cons_left_iff.mp (mapM_eq_ok.mp hothers'')
    obtain ⟨rfl, hsame⟩ := drawsBoth_of_drawn h hbefore hfirst hfirst'
    obtain ⟨rfl, hsame'⟩ :=
      drawsBoth_of_drawn h hafter (mapM_eq_ok.mpr hlast) (mapM_eq_ok.mpr hlast')
    simp only [List.flatten_append, List.flatten_cons, ← List.append_assoc]
    exact .segment hid hothers hsame (drawn_eq_ok.mp hown) (drawn_eq_ok.mp hown') hsame'
  · push Not at hg
    obtain ⟨rfl, hsame⟩ := drawsBoth_of_drawn h hg hd hd'
    exact .absent hg hsame

lemma id_of_drawn {part : List Primitive} (hd : drawn c palettes card field = .ok part)
    (hd' : drawn c palettes card' field = .error why) : field.id = g := by
  by_contra hne
  rw [drawn_congr (effective_congr (h field.id hne))] at hd
  cases hd.symm.trans hd'

variable (hg : ∀ field ∈ template.orderedFields, field.isColorScheme = true → field.id ≠ g)
include hg

lemma openSession_agree : openSession template card = openSession template card' :=
  openSession_congr fun field hm hs => h field.id (hg field hm hs)

lemma sameOutside_of_built (hw : WellFormed template) {ps ps' : List Primitive}
    (hb : (build c template card).1 = .ok ps) (hb' : (build c template card').1 = .ok ps') :
    ∃ palettes, openSession template card = .ok (palettes, drawnFields template) ∧
      openSession template card' = .ok (palettes, drawnFields template) ∧
      SameOutside c palettes card card' g (drawnFields template) ps ps' := by
  obtain ⟨palettes, fields, -, ho, -, -⟩ := build_eq_ok.mp hb
  obtain ⟨-, rfl⟩ := openSession_eq_ok.mp ho
  have ho' := (openSession_agree h hg).symm.trans ho
  rw [outcome_session ho] at hb
  rw [outcome_session ho'] at hb'
  obtain ⟨parts, hd, rfl⟩ := map_eq_ok.mp hb
  obtain ⟨parts', hd', rfl⟩ := map_eq_ok.mp hb'
  exact ⟨palettes, ho, ho', sameOutside_of_drawn h (hw.filter_ids_nodup _) hd hd'⟩

lemma stopsAt_of_failed {ps : List Primitive} (hb : (build c template card).1 = .ok ps)
    (hb' : (build c template card').1 = .error why) : StopsAt c template card' g why := by
  obtain ⟨palettes, fields, -, ho, -, -⟩ := build_eq_ok.mp hb
  obtain ⟨-, rfl⟩ := openSession_eq_ok.mp ho
  have ho' := (openSession_agree h hg).symm.trans ho
  rw [outcome_session ho] at hb
  rw [outcome_session ho'] at hb'
  obtain ⟨parts, hd, -⟩ := map_eq_ok.mp hb
  -- the first field that fails is drawn on the other card, so that the two differ in it
  obtain ⟨before, field, after, hfields, hbefore, hfails⟩ := mapM_eq_error.mp (map_eq_error.mp hb')
  obtain ⟨part, hpart⟩ := ok_of_mapM hd (hfields ▸ List.mem_append_right _ List.mem_cons_self)
  refine ⟨palettes, before, field, after, hfields ▸ ho', id_of_drawn h hpart hfails, ?_,
    undrawable_of_drawn hfails⟩
  exact fun other hm => (hbefore other hm).imp fun part => drawn_eq_ok.mp

lemma build_of_line
    (hline : ∀ field ∈ template.orderedFields, field.id = g → field.type = .line) :
    build c template card = build c template card' := by
  refine build_congr (openSession_agree h hg) fun field hm => ?_
  by_cases hid : field.id = g
  · exact effective_line (hline field (List.mem_filter.mp hm).1 hid)
  · exact effective_congr (h field.id hid)

end

/-- The data of a field is that field's only. When a card is changed under the id of one field
that is not a color scheme, the drawings differ at most in the segment of this field; if one of
the two cards cannot be drawn, it fails at this field; and if there is no such field, or it is a
line, the card is built as before, to the same outcome and with the same loads. -/
theorem field_data_isolated (hw : WellFormed template)
    (hg : ∀ field ∈ template.orderedFields, field.isColorScheme = true → field.id ≠ g)
    (h : AgreeExcept g card card') (c : Collaborators) :
    (∀ ps ps', (build c template card).1 = .ok ps → (build c template card').1 = .ok ps' →
      ∃ palettes, openSession template card = .ok (palettes, drawnFields template) ∧
        openSession template card' = .ok (palettes, drawnFields template) ∧
        SameOutside c palettes card card' g (drawnFields template) ps ps') ∧
    (∀ ps why, (build c template card).1 = .ok ps → (build c template card').1 = .error why →
      StopsAt c template card' g why) ∧
    (∀ ps why, (build c template card').1 = .ok ps → (build c template card).1 = .error why →
      StopsAt c template card g why) ∧
    ((∀ field ∈ template.orderedFields, field.id = g → field.type = .line) →
      build c template card = build c template card') :=
  ⟨fun _ _ hb hb' => sameOutside_of_built h hg hw hb hb',
    fun _ _ hb hb' => stopsAt_of_failed h hg hb hb',
    fun _ _ hb' hb => stopsAt_of_failed h.symm hg hb' hb,
    build_of_line h hg⟩

lemma legend_wellFormed : WellFormed legend where
  distinct := by decide
  keyed := by simp [legend, Field.id, Field.identity]

lemma legend_schemes {g : String} (hg : "ink" ≠ g) :
    ∀ field ∈ legend.orderedFields, field.isColorScheme = true → field.id ≠ g := by
  simpa [legend, Template.orderedFields, Field.isColorScheme, Field.id, Field.identity] using hg

def legendRetitled : Card := withEntry legendCard "title" { value := .text "Moor" }

def legendRedrawing : List Primitive :=
  [.text { x := 0, y := 4, text := "Moor", color := .text "#203020" },
    .line { startX := 0, startY := 6, endX := 16, endY := 6, width := 1, color := .text "black" }]

lemma legend_retitled : (build {} legend legendRetitled).1 = .ok legendRedrawing := by
  cbv

def legendUntitled : Card := withEntry legendCard "title" { choiceIndex := some (.one 2) }

lemma legend_untitled :
    (build {} legend legendUntitled).1 = .error (.choiceOfField "title" .noChoices) := by
  cbv

/-- Another title is drawn in the place of the title, a title that cannot be resolved stops the
build there, and data for the rule changes nothing. -/
theorem legend_title_isolated :
    (∃ palettes, SameOutside {} palettes legendCard legendRetitled "title" (drawnFields legend)
      legendDrawing legendRedrawing) ∧
    StopsAt {} legend legendUntitled "title" (.choiceOfField "title" .noChoices) ∧
    build {} legend legendCard =
      build {} legend (withEntry legendCard "rule" { value := .text "none" }) := by
  have hagree := agreeExcept_withEntry "title" legendCard
  refine ⟨?_, ?_, ?_⟩
  · obtain ⟨palettes, -, -, hsame⟩ := (field_data_isolated legend_wellFormed
      (legend_schemes (by decide)) (hagree _) {}).1 _ _ legend_built legend_retitled
    exact ⟨palettes, hsame⟩
  · exact (field_data_isolated legend_wellFormed (legend_schemes (by decide))
      (hagree _) {}).2.1 _ _ legend_built legend_untitled
  · refine (field_data_isolated legend_wellFormed (legend_schemes (by decide))
      (agreeExcept_withEntry "rule" legendCard _) {}).2.2.2 ?_
    simp [legend, Template.orderedFields, Field.id, Field.identity, Field.type]

end CardDrawing.Proofs
