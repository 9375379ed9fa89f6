import CardDrawing.Palette
import CardDrawing.Proofs.Failures

/-!
# References to palettes

How a reference to a palette is spelled, and when a color comes to an entry of a palette.
-/

namespace CardDrawing.Proofs

/-- Cutting at a separator finds what stands before and after its first occurrence. -/
lemma cutAt?_eq_some {separator : Char} {cs before after : List Char} :
    Text.cutAt? separator cs = some (before, after) ↔
      cs = before ++ separator :: after ∧ separator ∉ before := by
  induction cs generalizing before with
  | nil => simp [Text.cutAt?]
  | cons c rest ih =>
    rw [Text.cutAt?]
    by_cases hc : c = separator
    · rw [if_pos hc, Option.some.injEq, Prod.mk.injEq]
      constructor
      · rintro ⟨rfl, rfl⟩
        exact ⟨by rw [hc, List.nil_append], List.not_mem_nil⟩
      · rintro ⟨he, hn⟩
        cases before with
        | nil => exact ⟨rfl, (List.cons.inj he).2⟩
        | cons b before =>
          obtain ⟨rfl, -⟩ := List.cons.inj he
          exact (hn (hc ▸ List.mem_cons_self)).elim
    · rw [if_neg hc, Option.map_eq_some_iff]
      constructor
      · rintro ⟨⟨before', after'⟩, hcut, he⟩
        obtain ⟨rfl, rfl⟩ := Prod.mk.inj he
        obtain ⟨rfl, hn⟩ := ih.mp hcut
        refine ⟨rfl, ?_⟩
        rw [List.mem_cons, not_or]
        exact ⟨Ne.symm hc, hn⟩
      · rintro ⟨he, hn⟩
        cases before with
        | nil => exact (hc (List.cons.inj he).1).elim
        | cons b before =>
          obtain ⟨rfl, rfl⟩ := List.cons.inj he
          exact ⟨(before, after), ih.mpr ⟨rfl, fun hm => hn (List.mem_cons_of_mem _ hm)⟩, rfl⟩

lemma startsWith_dollar {s : String} :
    s.startsWith "$" = true ↔ ∃ rest, s.toList = '$' :: rest := by
  have hone : ("$" : String).toList = ['$'] := rfl
  rw [String.startsWith_string_iff, hone]
  constructor
  · rintro ⟨rest, h⟩
    exact ⟨rest, h.symm⟩
  · rintro ⟨rest, h⟩
    exact ⟨rest, h.symm⟩

/-- The reference is spelled by the name of a palette, which has no dot, and by a key. -/
structure Spells (reference scheme key : String) : Prop where
  text : reference = "$" ++ scheme ++ "." ++ key
  dotless : '.' ∉ scheme.toList
  scheme : scheme ≠ ""
  key : key ≠ ""

lemma spelled_iff {reference scheme key : String} :
    reference = "$" ++ scheme ++ "." ++ key ↔
      reference.toList = '$' :: (scheme.toList ++ '.' :: key.toList) := by
  have hdollar : ("$" : String).toList = ['$'] := rfl
  have hdot : (".": String).toList = ['.'] := rfl
  rw [← String.toList_inj]
  simp [hdollar, hdot]

/-- A reference is read as the palette and the key that spell it. -/
lemma parseReference_eq_ok {reference scheme key : String}
    (h : reference.startsWith "$" = true) :
    parseReference reference = .ok (scheme, key) ↔ Spells reference scheme key := by
  obtain ⟨rest, hrest⟩ := startsWith_dollar.mp h
  have hdrop : reference.toList.drop 1 = rest := by rw [hrest, List.drop_one, List.tail_cons]
  rw [parseReference, hdrop]
  constructor
  · intro hp
    split at hp
    · rename_i before after hcut
      obtain ⟨rfl, hdotless⟩ := cutAt?_eq_some.mp hcut
      split at hp
      · cases hp
      · rename_i hne
        cases hp
        simp only [Bool.or_eq_true, List.isEmpty_iff, not_or] at hne
        refine ⟨spelled_iff.mpr ?_, ?_, ?_, ?_⟩
        · rw [hrest, String.toList_ofList, String.toList_ofList]
        · rwa [String.toList_ofList]
        · simpa [String.ext_iff] using hne.1
        · simpa [String.ext_iff] using hne.2
    · cases hp
  · rintro ⟨htext, hdotless, hscheme, hkey⟩
    have hlist := spelled_iff.mp htext
    rw [hrest] at hlist
    have hcut := cutAt?_eq_some.mpr ⟨(List.cons.inj hlist).2, hdotless⟩
    simp [hcut, hscheme, hkey]

/-- A reference comes to the entry that it names, unless that is a reference again. -/
lemma resolveColor_eq_ok {palettes : Palettes} {reference : String} {color : Value}
    (h : reference.startsWith "$" = true) :
    resolveColor palettes (.text reference) = .ok color ↔
      ∃ scheme key palette, Spells reference scheme key ∧
        Keyed.get? palettes scheme = some palette ∧ Keyed.get? palette key = some color ∧
        isReference color = false := by
  simp only [resolveColor, h, if_true, bind_eq_ok]
  constructor
  · rintro ⟨⟨scheme, key⟩, hp, hlook⟩
    refine ⟨scheme, key, ?_⟩
    cases hs : Keyed.get? palettes scheme with
    | none => simp [hs] at hlook
    | some palette =>
      cases hk : Keyed.get? palette key with
      | none => simp [hs, hk] at hlook
      | some found =>
        simp only [hs, hk] at hlook
        split at hlook
        · cases hlook
        · rename_i hlit
          obtain rfl := pure_eq_ok.mp hlook
          exact ⟨palette, (parseReference_eq_ok h).mp hp, rfl, hk, by simpa using hlit⟩
  · rintro ⟨scheme, key, palette, hspell, hs, hk, hlit⟩
    refine ⟨(scheme, key), (parseReference_eq_ok h).mpr hspell, ?_⟩
    simp [hs, hk, hlit, pure, Except.pure]

/-! ## What is spelled and what is not -/

section

variable {palettes palettes' : Palettes} {reference scheme key : String}

lemma Spells.startsWith (h : Spells reference scheme key) : reference.startsWith "$" = true :=
  startsWith_dollar.mpr ⟨_, spelled_iff.mp h.text⟩

lemma parseReference_of_not_ok (h : ∀ scheme key, parseReference reference ≠ .ok (scheme, key)) :
    parseReference reference = .error (.referenceForm reference) := by
  rw [parseReference] at h ⊢
  split
  · rename_i before after hcut
    split
    · rfl
    · rename_i hne
      have hok := h (String.ofList before) (String.ofList after)
      rw [hcut] at hok
      exact (hok (if_neg hne)).elim
  · rfl

lemma parseReference_fails (reference : String) :
    FailsOnly (Told .missingReference) (parseReference reference) := by
  intro why h
  have hform : parseReference reference = .error (.referenceForm reference) :=
    parseReference_of_not_ok fun scheme key hok => by cases h.symm.trans hok
  cases h.symm.trans hform
  exact ⟨rfl, rfl⟩

lemma resolveColor_fails (palettes : Palettes) (raw : Value) :
    FailsOnly (Told .missingReference) (resolveColor palettes raw) := by
  unfold resolveColor
  split
  · refine .ite (fun _ => .bind (parseReference_fails _) fun spelled _ => ?_) fun _ => .ok
    dsimp only
    split
    · exact .error ⟨rfl, rfl⟩
    · split
      · exact .error ⟨rfl, rfl⟩
      · exact .ite (fun _ => .error ⟨rfl, rfl⟩) fun _ => .ok
  · exact .ok

lemma resolveColor_literal (h : reference.startsWith "$" = false) :
    resolveColor palettes (.text reference) = .ok (.text reference) := by
  simp [resolveColor, h]

/-- References look nowhere but in palettes whose names have no dot. -/
lemma resolveColor_of_dotless
    (h : ∀ id : String, '.' ∉ id.toList → Keyed.get? palettes id = Keyed.get? palettes' id)
    (raw : Value) : resolveColor palettes raw = resolveColor palettes' raw := by
  cases raw with
  | text reference =>
    cases hs : reference.startsWith "$" with
    | true =>
      simp only [resolveColor, hs, if_true]
      cases hp : parseReference reference with
      | error why => rfl
      | ok spelled =>
        obtain ⟨scheme, key⟩ := spelled
        have hspell : Spells reference scheme key := (parseReference_eq_ok hs).mp hp
        have hsame := h scheme hspell.dotless
        simp only [bind, Except.bind, hsame]
    | false => rw [resolveColor_literal hs, resolveColor_literal hs]
  | _ => rfl

end

/-- A reference is read as what it spells, and refused if it spells nothing. It comes to the entry
under its key in the palette that it names, unless that is missing or a reference again, and never
to a palette with a dot in its name. What is no reference stands for itself. -/
theorem references_read_exactly :
    (∀ scheme key : String, scheme ≠ "" → '.' ∉ scheme.toList → key ≠ "" →
      parseReference ("$" ++ scheme ++ "." ++ key) = .ok (scheme, key)) ∧
    (∀ reference : String, reference.startsWith "$" = true →
      (∀ scheme key, parseReference reference = .ok (scheme, key) →
        Spells reference scheme key) ∧
      ((∀ scheme key, ¬ Spells reference scheme key) →
        ∃ why, parseReference reference = .error why ∧ why.kind = .missingReference)) ∧
    (∀ (palettes : Palettes) (reference : String), reference.startsWith "$" = true →
      (∀ color, resolveColor palettes (.text reference) = .ok color ↔
        ∃ scheme key palette, Spells reference scheme key ∧
          Keyed.get? palettes scheme = some palette ∧ Keyed.get? palette key = some color ∧
          isReference color = false) ∧
      ∀ why, resolveColor palettes (.text reference) = .error why →
        why.kind = .missingReference) ∧
    (∀ palettes palettes' : Palettes,
      (∀ id : String, '.' ∉ id.toList → Keyed.get? palettes id = Keyed.get? palettes' id) →
      ∀ raw, resolveColor palettes raw = resolveColor palettes' raw) ∧
    ∀ palettes : Palettes, resolveColor palettes .null = .ok .null ∧
      ∀ s : String, s.startsWith "$" = false →
        resolveColor palettes (.text s) = .ok (.text s) := by
  refine ⟨?_, ?_, ?_, ?_, ?_⟩
  · intro scheme key hscheme hdot hkey
    have hspell : Spells ("$" ++ scheme ++ "." ++ key) scheme key := ⟨rfl, hdot, hscheme, hkey⟩
    exact (parseReference_eq_ok hspell.startsWith).mpr hspell
  · intro reference hs
    refine ⟨fun scheme key => (parseReference_eq_ok hs).mp, fun hnone => ?_⟩
    have hform := parseReference_of_not_ok fun scheme key hok =>
      hnone scheme key ((parseReference_eq_ok hs).mp hok)
    exact ⟨_, hform, rfl⟩
  · intro palettes reference hs
    refine ⟨fun color => resolveColor_eq_ok hs, fun why hwhy => ?_⟩
    exact (resolveColor_fails palettes (.text reference) why hwhy).kind
  · intro palettes palettes' h raw
    exact resolveColor_of_dotless h raw
  · intro palettes
    exact ⟨rfl, fun s => resolveColor_literal⟩

/-- One palette has a key with a dot in it, the other a name. -/
def swatches : Palettes :=
  [("ink", [("dark.$1", .text "navy")]), ("ink.dark", [("$1", .text "red")])]

/-- Nothing comes before the dot. -/
lemma nameless_not_spelled (scheme key : String) : ¬ Spells "$.dark" scheme key := by
  intro h
  have hlist := (List.cons.inj (spelled_iff.mp h.text)).2
  cases hs : scheme.toList with
  | nil => exact h.scheme (String.toList_eq_nil_iff.mp hs)
  | cons c rest =>
    rw [hs] at hlist
    have hc : '.' = c := (List.cons.inj hlist).1
    exact h.dotless (hs ▸ hc ▸ List.mem_cons_self)

theorem swatches_read :
    parseReference "$ink.dark.$1" = .ok ("ink", "dark.$1") ∧
    resolveColor swatches (.text "$ink.dark.$1") = .ok (.text "navy") ∧
    resolveColor (swatches.drop 1) (.text "$ink.dark.$1") =
      resolveColor [] (.text "$ink.dark.$1") ∧
    (∃ why, parseReference "$.dark" = .error why ∧ why.kind = .missingReference) ∧
    resolveColor swatches (.text "ink.dark") = .ok (.text "ink.dark") := by
  obtain ⟨hprinted, hread, hresolved, hdotless, hliteral⟩ := references_read_exactly
  have hspell : Spells "$ink.dark.$1" "ink" "dark.$1" := ⟨rfl, by decide, by decide, by decide⟩
  refine ⟨hprinted "ink" "dark.$1" (by decide) (by decide) (by decide), ?_, ?_, ?_, ?_⟩
  · apply ((hresolved swatches _ hspell.startsWith).1 _).mpr
    exact ⟨"ink", "dark.$1", _, hspell, rfl, rfl, by cbv⟩
  · apply hdotless
    intro id hid
    have hne : id ≠ "ink.dark" := by
      rintro rfl
      exact hid (by decide)
    rw [swatches, List.drop_succ_cons, List.drop_zero, Keyed.get?_cons, if_neg hne]
  · exact (hread "$.dark" (by cbv)).2 nameless_not_spelled
  · exact (hliteral swatches).2 _ (by cbv)

end CardDrawing.Proofs
