import CardDrawing.Proofs.BuildShape
import CardDrawing.Proofs.ColorReferences
import CardDrawing.Proofs.FieldColors
import CardDrawing.Proofs.PaletteTable

/-!
# The colors of a card

Every color of a card is one that a field declares, or the entry of a palette that the declared
color refers to; no reference is left.
-/

namespace CardDrawing.Proofs
open Schedule

variable {c : Collaborators} {template : Template} {card : Card} {palettes : Palettes}
  {ps : List Primitive}

/-- What a declared color is drawn as: no color and a literal one as they are, a reference as the
entry under its key of what the color-scheme field of its name resolves to. -/
inductive DrawnAs (template : Template) (card : Card) : Option String → Value → Prop where
  | none : DrawnAs template card none .null
  | literal {s : String} : s.startsWith "$" = false → DrawnAs template card (some s) (.text s)
  | entry {reference scheme key : String} {identity : Identity} {palette : Palette}
      {color : Value} : Spells reference scheme key →
      .colorScheme identity ∈ template.orderedFields → identity.id = scheme →
      resolveValue (.colorScheme identity) card = .ok (.object palette) →
      Keyed.get? palette key = some color →
      DrawnAs template card (some reference) color

/-- The field resolves to a value with which it declares these colors. -/
def Declares (card : Card) (field : Field) (declared : List (Option String)) : Prop :=
  ∃ value, effective card field = .ok value ∧ declared = declaredColors value field

/-- The colors of a drawing, none of which is a reference, are what the fields declare, field by
field and one after another. -/
structure LiteralColors (template : Template) (card : Card) (ps : List Primitive) : Prop where
  literal : ∀ s, .text s ∈ colorsOf ps → s.startsWith "$" = false
  declared : ∃ declared,
    List.Forall₂ (Declares card) (template.orderedFields.filter (!·.isColorScheme)) declared ∧
    List.Forall₂ (DrawnAs template card) declared.flatten (colorsOf ps)

/-! ## Colors out of the palettes -/

lemma not_reference_of_resolved {raw : Option String} {color : Value}
    (h : resolveFieldColor palettes raw = .ok color) : isReference color = false := by
  cases raw with
  | none =>
    cases h
    rfl
  | some s =>
    by_cases hs : s.startsWith "$" = true
    · obtain ⟨scheme, key, palette, -, -, -, hliteral⟩ := (resolveColor_eq_ok hs).mp h
      exact hliteral
    · rw [Bool.not_eq_true] at hs
      simp only [resolveFieldColor, resolveColor, hs, Bool.false_eq_true, if_false] at h
      cases h
      exact hs

lemma scheme_of_palette
    (h : Palettes.build (template.orderedFields.filter Field.isColorScheme) card = .ok palettes)
    {scheme key : String} {palette : Palette} {color : Value}
    (hs : Keyed.get? palettes scheme = some palette) (hk : Keyed.get? palette key = some color) :
    ∃ identity, .colorScheme identity ∈ template.orderedFields ∧ identity.id = scheme ∧
      resolveValue (.colorScheme identity) card = .ok (.object palette) := by
  obtain ⟨field, hm, hid, hf⟩ := field_of_palette h hs
  obtain ⟨hm, hscheme⟩ := List.mem_filter.mp hm
  have hv : resolveValue field card = .ok (.object palette) := by
    rcases ofField_eq_ok.mp hf with hv | ⟨-, rfl⟩
    · exact hv
    · cases hk
  cases field with
  | colorScheme identity => exact ⟨identity, hm, hid, hv⟩
  | _ => cases hscheme

lemma drawnAs_of_resolved
    (h : Palettes.build (template.orderedFields.filter Field.isColorScheme) card = .ok palettes)
    {raw : Option String} {color : Value} (hr : resolveFieldColor palettes raw = .ok color) :
    DrawnAs template card raw color := by
  cases raw with
  | none =>
    cases hr
    exact .none
  | some s =>
    by_cases hs : s.startsWith "$" = true
    · obtain ⟨scheme, key, palette, hspell, hp, hk, -⟩ := (resolveColor_eq_ok hs).mp hr
      obtain ⟨identity, hm, hid, hv⟩ := scheme_of_palette h hp hk
      exact .entry hspell hm hid hv hk
    · rw [Bool.not_eq_true] at hs
      simp only [resolveFieldColor, resolveColor, hs, Bool.false_eq_true, if_false] at hr
      cases hr
      exact .literal hs

/-! ## Colors of a drawing -/

lemma color?_attach (p : Primitive) (resource : Resource) :
    color? (p.attach resource) = color? p := by
  cases p <;> rfl

lemma color?_resolved {p q : Primitive} (h : resolved c p = .ok q) : color? q = color? p := by
  cases hp : p.request? with
  | none =>
    rw [resolved_of_none hp] at h
    cases h
    rfl
  | some r =>
    obtain ⟨resource, -, rfl⟩ := (resolved_eq_ok hp).mp h
    exact color?_attach p resource

lemma colorsOf_resolved {qs : List Primitive} (h : ps.mapM (resolved c) = .ok qs) :
    colorsOf qs = colorsOf ps := by
  have hcolors := mapM_map_eq h fun _ _ hq => (color?_resolved hq).symm
  have hids (l : List Primitive) : colorsOf l = (l.map color?).filterMap id := by
    rw [List.filterMap_map]
    rfl
  rw [hids, hids, hcolors]

lemma colored_of_expanded {fields : List Field} {expanded : List (List Primitive)}
    (h : fields.mapM (resolveAndExpand palettes card) = .ok expanded) :
    ∃ declared, List.Forall₂ (Declares card) fields declared ∧
      Colored palettes declared.flatten expanded.flatten := by
  have hall := mapM_eq_ok.mp h
  clear h
  induction hall with
  | nil => exact ⟨[], .nil, colored_nil⟩
  | cons he _ ih =>
    rw [resolveAndExpand_eq] at he
    obtain ⟨value, hv, he⟩ := bind_eq_ok.mp he
    obtain ⟨declared, hdeclared, hrest⟩ := ih
    exact ⟨_ :: declared, .cons ⟨value, hv, rfl⟩ hdeclared, (colored_expandField he).append hrest⟩

lemma literalColors_of_built (h : (build c template card).1 = .ok ps) :
    LiteralColors template card ps := by
  obtain ⟨palettes, fields, expanded, hopen, he, hps⟩ := build_eq_ok.mp h
  obtain ⟨hp, rfl⟩ := openSession_eq_ok.mp hopen
  obtain ⟨declared, hdeclared, hcolored⟩ := colored_of_expanded he
  rw [Colored, ← colorsOf_resolved hps] at hcolored
  refine ⟨fun s hs => ?_, declared, hdeclared, hcolored.imp fun _ _ => drawnAs_of_resolved hp⟩
  obtain ⟨raw, -, hr⟩ := mem_of_mapM (mapM_eq_ok.mpr hcolored) hs
  exact not_reference_of_resolved hr

/-- No reference to a palette is left in a card: every color of a block, a line or a text, however
the card is built, is a literal one that a field declares, or the literal entry that the declared
reference names in the palette of the color-scheme field before its first dot. -/
theorem no_reference_is_drawn (c : Collaborators) (template : Template) (card : Card) :
    (∀ ps, (build c template card).1 = .ok ps → LiteralColors template card ps) ∧
    (∀ bound ps history,
      ConcurrentBuild c (fun p => c.answer p.fetch) bound template card (.ok ps) history →
      LiteralColors template card ps) ∧
    ∀ (τ : Type) [Add τ] [LT τ] [DecidableLT τ] (start : τ) (delay : Fetch → τ) bound ps,
      1 ≤ bound → (buildConcurrently start delay c bound template card).1 = .ok ps →
      LiteralColors template card ps := by
  refine ⟨fun ps h => literalColors_of_built h, fun bound ps history h => ?_,
    fun τ _ _ _ start delay bound ps hb h => ?_⟩
  · exact literalColors_of_built ((concurrentBuild_eq_ok h).mp rfl)
  · exact literalColors_of_built
      ((concurrentBuild_eq_ok (buildConcurrently_schedule start delay hb)).mp h)

/-- A map with a legend, whose ink is chosen by the card. -/
def legend : Template where
  name := "legend"
  width := 16
  height := 8
  fields := [
    ("ink", .colorScheme { id := "ink" }),
    ("title", .text {
      id := "title", x := 0, y := 4, style := { color := some "$ink.title.dark" } }),
    ("rule", .line {
      id := "rule", startX := 0, startY := 6, endX := 16, endY := 6, width := 1
      color := some "black" })]

def legendCard : Card where
  templateName := "legend"
  data := [("ink", { choiceIndex := some (.one 1) }), ("title", { value := .text "Woods" })]
  choices := [("ink", [.null, .object [("title.dark", .text "#203020")]])]

def legendDrawing : List Primitive :=
  [.text { x := 0, y := 4, text := "Woods", color := .text "#203020" },
    .line { startX := 0, startY := 6, endX := 16, endY := 6, width := 1, color := .text "black" }]

lemma legend_built : (build {} legend legendCard).1 = .ok legendDrawing := by
  cbv

theorem legend_literal : (build {} legend legendCard).1 = .ok legendDrawing ∧
    LiteralColors legend legendCard legendDrawing :=
  ⟨legend_built, (no_reference_is_drawn {} legend legendCard).1 _ legend_built⟩

end CardDrawing.Proofs
