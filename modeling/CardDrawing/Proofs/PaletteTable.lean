import CardDrawing.Palette
import CardDrawing.Proofs.KeyedEntries
import CardDrawing.Proofs.Outcomes

/-!
# The palettes of a card

Which palettes the color-scheme fields give, one after another, and what is found among them.
-/

namespace CardDrawing.Proofs
open Keyed

variable {card : Card} {fields : List Field} {palettes : Palettes}

/-- The palette of a field, under the id of the field. -/
def schemeEntry (card : Card) (field : Field) : Except Error (String × Palette) :=
  (field.id, ·) <$> Palettes.ofField field card

lemma schemeEntry_eq_ok {field : Field} {entry : String × Palette} :
    schemeEntry card field = .ok entry ↔
      Palettes.ofField field card = .ok entry.2 ∧ field.id = entry.1 := by
  obtain ⟨key, palette⟩ := entry
  rw [schemeEntry, map_eq_ok]
  constructor
  · rintro ⟨palette', hp, he⟩
    obtain ⟨rfl, rfl⟩ := Prod.mk.inj he
    exact ⟨hp, rfl⟩
  · rintro ⟨hp, rfl⟩
    exact ⟨palette, hp, rfl⟩

lemma foldlM_put (fields : List Field) (base : Palettes) :
    (fields.foldlM (fun palettes field =>
      return put palettes field.id (← Palettes.ofField field card)) base :
      Except Error Palettes) = overlay base <$> fields.mapM (schemeEntry card) := by
  induction fields generalizing base with
  | nil => rfl
  | cons field rest ih =>
    rw [List.foldlM_cons, List.mapM_cons, schemeEntry]
    cases Palettes.ofField field card with
    | error why => rfl
    | ok palette =>
      refine (ih _).trans ?_
      cases rest.mapM (schemeEntry card) <;> rfl

/-- Palettes are built by resolving the fields in order and keeping the last under each id. -/
lemma palettes_build_eq (fields : List Field) (card : Card) :
    Palettes.build fields card = ofEntries <$> fields.mapM (schemeEntry card) :=
  foldlM_put fields []

lemma field_of_palette (h : Palettes.build fields card = .ok palettes) {scheme : String}
    {palette : Palette} (hp : get? palettes scheme = some palette) :
    ∃ field ∈ fields, field.id = scheme ∧ Palettes.ofField field card = .ok palette := by
  rw [palettes_build_eq, map_eq_ok] at h
  obtain ⟨entries, he, rfl⟩ := h
  obtain ⟨field, hm, hf⟩ := mem_of_mapM he (mem_of_get?_ofEntries hp)
  obtain ⟨hpalette, hid⟩ := schemeEntry_eq_ok.mp hf
  exact ⟨field, hm, hid, hpalette⟩

/-- A color-scheme field has a palette if it resolves to an object, or to nothing. -/
lemma ofField_eq_ok {field : Field} {palette : Palette} :
    Palettes.ofField field card = .ok palette ↔
      resolveValue field card = .ok (.object palette) ∨
        resolveValue field card = .ok .null ∧ palette = [] := by
  rw [Palettes.ofField, bind_eq_ok]
  constructor
  · rintro ⟨value, hv, h⟩
    split at h
    · exact .inr ⟨hv, (pure_eq_ok.mp h).symm⟩
    · obtain rfl := pure_eq_ok.mp h
      exact .inl hv
    · cases h
  · rintro (hv | ⟨hv, rfl⟩)
    · exact ⟨_, hv, rfl⟩
    · exact ⟨_, hv, rfl⟩

/-- The field resolves to an object or to nothing. -/
def HasPalette (card : Card) (field : Field) : Prop :=
  resolveValue field card = .ok .null ∨ ∃ palette, resolveValue field card = .ok (.object palette)

lemma hasPalette_iff {field : Field} :
    HasPalette card field ↔ ∃ palette, Palettes.ofField field card = .ok palette := by
  simp only [ofField_eq_ok, HasPalette, exists_or, exists_and_left, exists_eq, and_true, or_comm]

lemma palettes_build_isOk : (∃ palettes, Palettes.build fields card = .ok palettes) ↔
    ∀ field ∈ fields, HasPalette card field := by
  simp only [hasPalette_iff]
  constructor
  · rintro ⟨palettes, h⟩ field hm
    rw [palettes_build_eq, map_eq_ok] at h
    obtain ⟨entries, he, -⟩ := h
    obtain ⟨entry, hf⟩ := ok_of_mapM he hm
    exact ⟨entry.2, (schemeEntry_eq_ok.mp hf).1⟩
  · intro h
    cases hb : Palettes.build fields card with
    | ok palettes => exact ⟨palettes, rfl⟩
    | error why =>
      rw [palettes_build_eq, map_eq_error, mapM_eq_error] at hb
      obtain ⟨before, field, after, rfl, -, hf⟩ := hb
      obtain ⟨palette, hp⟩ := h field (List.mem_append_right before List.mem_cons_self)
      rw [schemeEntry, hp] at hf
      cases hf

/-- Color-scheme fields under ids of their own give the same palettes in any order. -/
lemma palettes_build_perm {fields' : List Field} {palettes' : Palettes}
    (hd : (fields.map Field.id).Nodup) (hp : fields.Perm fields')
    (h : Palettes.build fields card = .ok palettes)
    (h' : Palettes.build fields' card = .ok palettes') (scheme : String) :
    get? palettes scheme = get? palettes' scheme := by
  rw [palettes_build_eq, map_eq_ok] at h h'
  obtain ⟨entries, he, rfl⟩ := h
  obtain ⟨entries', he', rfl⟩ := h'
  have hkeys : Distinct entries := by
    rwa [Distinct, keys, mapM_map_eq he fun _ _ hf => (schemeEntry_eq_ok.mp hf).2]
  rw [get?_ofEntries, get?_ofEntries]
  refine get?_eq_of_perm (Distinct.perm hkeys (List.reverse_perm entries).symm) ?_ scheme
  exact ((List.reverse_perm entries).trans (mapM_perm hp he he')).trans
    (List.reverse_perm entries').symm

end CardDrawing.Proofs
