import CardDrawing.Color.Reader
import CardDrawing.Proofs.BuildColors

/-!
# Which values are drawn as colors

Palettes are free-form data, and an entry that is no reference is drawn as it is. The colors of a
card are null or texts just if those entries are that its fields refer to.
-/

namespace CardDrawing.Proofs

/-- The values that a painter can read as colors: null and texts. -/
def IsColor : Value → Prop
  | .null | .text _ => True
  | _ => False

instance : DecidablePred IsColor
  | .null | .text _ => .isTrue trivial
  | .bool _ | .int _ | .float _ | .list _ | .object _ => .isFalse id

/-- The declared color is a reference, and the palettes have this entry for it. -/
def EntryOf (palettes : Palettes) (raw : Option String) (color : Value) : Prop :=
  ∃ reference scheme key palette, raw = some reference ∧ Spells reference scheme key ∧
    Keyed.get? palettes scheme = some palette ∧ Keyed.get? palette key = some color

/-- A field that is drawn declares a color. -/
def DeclaredBy (template : Template) (card : Card) (raw : Option String) : Prop :=
  ∃ field ∈ template.orderedFields.filter (!·.isColorScheme), ∃ value,
    effective card field = .ok value ∧ raw ∈ declaredColors value field

variable {c : Collaborators} {template : Template} {card : Card} {palettes : Palettes}
  {ps : List Primitive} {raw : Option String} {color : Value}

/-! ## Entries of palettes -/

/-- An entry is handed out as it is, whatever it is, unless it is a reference again. -/
lemma resolved_of_entry (h : EntryOf palettes raw color) (hc : isReference color = false) :
    resolveFieldColor palettes raw = .ok color := by
  obtain ⟨reference, scheme, key, palette, rfl, hspell, hs, hk⟩ := h
  exact (resolveColor_eq_ok hspell.startsWith).mpr ⟨scheme, key, palette, hspell, hs,
    hk, hc⟩

/-- A color that is not an entry of a palette is none at all or a text. -/
lemma isColor_or_entry (h : resolveFieldColor palettes raw = .ok color) :
    IsColor color ∨ EntryOf palettes raw color := by
  cases raw with
  | none =>
    cases h
    exact .inl trivial
  | some s =>
    by_cases hs : s.startsWith "$" = true
    · obtain ⟨scheme, key, palette, hspell, hp, hk, -⟩ := (resolveColor_eq_ok hs).mp h
      exact .inr ⟨s, scheme, key, palette, rfl, hspell, hp, hk⟩
    · rw [Bool.not_eq_true] at hs
      simp only [resolveFieldColor, resolveColor, hs, Bool.false_eq_true, if_false] at h
      cases h
      exact .inl trivial

lemma isReference_eq_false (h : ¬ IsColor color) : isReference color = false := by
  cases color with
  | text s => exact absurd trivial h
  | _ => rfl

/-! ## Colors of a drawing -/

/-- The colors of a drawing are what the colors that its fields declare come to. -/
lemma colors_of_built (h : (build c template card).1 = .ok ps) : ∃ palettes,
    Palettes.build (template.orderedFields.filter Field.isColorScheme) card = .ok palettes ∧
    ∀ color, color ∈ colorsOf ps ↔
      ∃ raw, DeclaredBy template card raw ∧ resolveFieldColor palettes raw = .ok color := by
  obtain ⟨palettes, fields, expanded, hopen, he, hps⟩ := build_eq_ok.mp h
  obtain ⟨hp, rfl⟩ := openSession_eq_ok.mp hopen
  obtain ⟨declared, hdeclared, hcolored⟩ := colored_of_expanded he
  rw [Colored, ← colorsOf_resolved hps] at hcolored
  refine ⟨palettes, hp, fun color => ⟨fun hmem => ?_, ?_⟩⟩
  · obtain ⟨raw, hraw, hr⟩ := exists_of_forall₂ hcolored.flip hmem
    obtain ⟨raws, hraws, hin⟩ := List.mem_flatten.mp hraw
    obtain ⟨field, hfield, value, hv, rfl⟩ := exists_of_forall₂ hdeclared.flip hraws
    exact ⟨raw, ⟨field, hfield, value, hv, hin⟩, hr⟩
  · rintro ⟨raw, ⟨field, hfield, value, hv, hin⟩, hr⟩
    obtain ⟨raws, hraws, value', hv', rfl⟩ := exists_of_forall₂ hdeclared hfield
    obtain rfl := Except.ok.inj (hv.symm.trans hv')
    obtain ⟨color', hmem, hr'⟩ :=
      exists_of_forall₂ hcolored (List.mem_flatten.mpr ⟨_, hraws, hin⟩)
    obtain rfl := Except.ok.inj (hr.symm.trans hr')
    exact hmem

/-- What is neither null nor a text is handed out by the palettes like any other entry, and the
colors of a card are all null or texts if and only if every entry is that one of its drawn fields
refers to. -/
theorem drawn_values_are_colors_iff (c : Collaborators) (template : Template) (card : Card)
    (ps : List Primitive) (h : (build c template card).1 = .ok ps) : ∃ palettes,
      Palettes.build (template.orderedFields.filter Field.isColorScheme) card = .ok palettes ∧
      (∀ raw color, EntryOf palettes raw color → ¬ IsColor color →
        resolveFieldColor palettes raw = .ok color) ∧
      ((∀ color ∈ colorsOf ps, IsColor color) ↔
        ∀ raw color, DeclaredBy template card raw → EntryOf palettes raw color →
          IsColor color) := by
  obtain ⟨palettes, hp, hcolors⟩ := colors_of_built h
  have hhanded (raw : Option String) (color : Value) (hentry : EntryOf palettes raw color)
      (hc : ¬ IsColor color) : resolveFieldColor palettes raw = .ok color :=
    resolved_of_entry hentry (isReference_eq_false hc)
  refine ⟨palettes, hp, hhanded, fun hall raw color hraw hentry => ?_, fun hall color hmem => ?_⟩
  · by_contra hc
    exact hc (hall color ((hcolors color).mpr ⟨raw, hraw, hhanded raw color hentry hc⟩))
  · obtain ⟨raw, hraw, hr⟩ := (hcolors color).mp hmem
    rcases isColor_or_entry hr with hc | hentry
    · exact hc
    · exact hall raw color hraw hentry

/-- A rule in the ink of the card. -/
def inkwell : Template where
  name := "inkwell"
  width := 16
  height := 8
  fields := [
    ("ink", .colorScheme { id := "ink" }),
    ("rule", .line {
      id := "rule", startX := 0, startY := 0, endX := 16, endY := 0, width := 1
      color := some "$ink.dark" })]

def inkwellCard (dark : Value) : Card where
  templateName := "inkwell"
  data := [("ink", { value := .object [("dark", dark)] })]

def inkwellDrawing (color : Value) : List Primitive :=
  [.line { startX := 0, startY := 0, endX := 16, endY := 0, width := 1, color }]

lemma text_ink_built :
    (build {} inkwell (inkwellCard (.text "navy"))).1 = .ok (inkwellDrawing (.text "navy")) := by
  cbv

lemma number_ink_built :
    (build {} inkwell (inkwellCard (.int 5))).1 = .ok (inkwellDrawing (.int 5)) := by
  cbv

theorem text_ink_is_color :
    (build {} inkwell (inkwellCard (.text "navy"))).1 = .ok (inkwellDrawing (.text "navy")) ∧
    ∃ palettes, Palettes.build [.colorScheme { id := "ink" }] (inkwellCard (.text "navy")) =
        .ok palettes ∧
      (∀ raw color, EntryOf palettes raw color → ¬ IsColor color →
        resolveFieldColor palettes raw = .ok color) ∧
      ((∀ color ∈ colorsOf (inkwellDrawing (.text "navy")), IsColor color) ↔
        ∀ raw color, DeclaredBy inkwell (inkwellCard (.text "navy")) raw →
          EntryOf palettes raw color → IsColor color) :=
  ⟨text_ink_built, drawn_values_are_colors_iff {} inkwell _ _ text_ink_built⟩

/-- A number in a palette is drawn as a color, which no painter can read. -/
theorem number_ink_drawn :
    (build {} inkwell (inkwellCard (.int 5))).1 = .ok (inkwellDrawing (.int 5)) ∧
    (∀ default, Color.read (.int 5) default = .error (.noAttribute "int" "strip")) ∧
    ¬ ∀ c template card ps, (build c template card).1 = .ok ps →
      ∀ color ∈ colorsOf ps, IsColor color := by
  refine ⟨number_ink_built, fun _ => rfl, fun h => ?_⟩
  exact h {} inkwell _ _ number_ink_built (.int 5) List.mem_cons_self

end CardDrawing.Proofs
