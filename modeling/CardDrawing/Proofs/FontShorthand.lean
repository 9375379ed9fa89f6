import CardDrawing.Paint.Plan
import CardDrawing.Proofs.NearestDoubles
import CardDrawing.Proofs.SizeWords
import CardDrawing.Proofs.SpacedTexts

/-!
# Fonts in one line

The first word that is a size decides how a font is read. What is before it does not count, and
what is after it is the family. An explicit family and an explicit size come first, and a size that
no double can hold is the only thing that is refused.
-/

namespace CardDrawing

namespace Font
open Text (isBlank Separated)

/-- Reads a font whose explicit size is any number. -/
def parse (font family : Option String) (size : Option Number) : Except Error Font :=
  (size.mapM Number.toFloat).map (read font family)

def IsSize (word : String) : Prop := ∃ number, SpellsSize word number

/-- What is found among words: the number of the first size and the words after it, or nothing. -/
inductive Finds : List String → Option (String × List String) → Prop where
  | size {before : List String} {word number : String} (after : List String)
      (hbefore : ∀ word ∈ before, ¬ IsSize word) (h : SpellsSize word number) :
      Finds (before ++ word :: after) (some (number, after))
  | none {words : List String} (h : ∀ word ∈ words, ¬ IsSize word) : Finds words none

/-- The family that the words after a size name. -/
def familyAfter (after : List String) : String := (familyOf? after).getD defaultFamily

/-- Where the size of a font comes from. -/
inductive HasSize (found : Option (String × List String)) : Option Number → Float → Prop where
  | given {size : Number} {x : Float} (h : size.toFloat = .ok x) : HasSize found (some size) x
  | written {number : String} {after : List String} {x : Float}
      (hfound : found = some (number, after)) (h : Text.toFloat? number = some x) :
      HasSize found none x
  | absent (hfound : found = none) : HasSize found none 10

/-- Where the family of a font comes from. An empty one is as good as none. -/
inductive HasFamily (found : Option (String × List String)) : Option String → String → Prop where
  | given {name : String} (hname : name ≠ "") : HasFamily found (some name) name
  | written {family : Option String} {number : String} {after : List String}
      (hfamily : family.getD "" = "") (hfound : found = some (number, after)) :
      HasFamily found family (familyAfter after)
  | absent {family : Option String} (hfamily : family.getD "" = "") (hfound : found = none) :
      HasFamily found family "DejaVu Sans"

/-- A word that is no size is put in front of the first size. -/
inductive Prefaces : List String → List String → Prop where
  | put {before : List String} {other : String} (hbefore : ∀ word ∈ before, ¬ IsSize word)
      (hother : ¬ IsSize other) (words : List String) :
      Prefaces (before ++ words) (before ++ other :: words)

/-- How a font comes from its words and from what is found among them. -/
structure ShorthandJudged (font family : Option String) (size : Option Number)
    (words : List String) (found : Option (String × List String)) : Prop where
  returned : (∃ f, parse font family size = .ok f) ↔
    ∀ n : ℤ, size = some (.int n) → n.natAbs + 2 ^ 970 < 2 ^ 1024
  refused : ∀ why, parse font family size = .error why → why = .intTooLarge
  read : ∀ f, parse font family size = .ok f →
    HasSize found size f.size ∧ HasFamily found family f.family
  rewritten : ∀ font' words', Separated isBlank words' (font'.getD "").toList →
    Relation.EqvGen Prefaces words words' → parse font' family size = parse font family size

/-! ## The first size -/

variable {font family : Option String} {size : Option Number} {words words' before : List String}
  {word number : String} {found : Option (String × List String)}

lemma SpellsSize.exists_toFloat? (h : SpellsSize word number) :
    ∃ x, Text.toFloat? number = some x := by
  obtain ⟨⟨digits, places, hdecimal⟩, -⟩ := h
  exact ⟨_, Text.toFloat?_decimal hdecimal⟩

lemma sizeOf?_eq_none_iff : sizeOf? word = none ↔ ¬ IsSize word := by
  constructor
  · rintro hnone ⟨number, hspells⟩
    obtain ⟨x, hx⟩ := hspells.exists_toFloat?
    rw [sizeOf?_eq_some_iff.mpr ⟨number, hspells, hx⟩] at hnone
    cases hnone
  · intro h
    cases hsize : sizeOf? word with
    | none => rfl
    | some x =>
      obtain ⟨number, hspells, -⟩ := sizeOf?_eq_some_iff.mp hsize
      exact absurd ⟨number, hspells⟩ h

lemma firstSize_append (h : ∀ word ∈ before, ¬ IsSize word) (words : List String) :
    firstSize (before ++ words) = firstSize words := by
  induction before with
  | nil => rfl
  | cons word before ih =>
    obtain ⟨hword, hbefore⟩ := List.forall_mem_cons.mp h
    rw [List.cons_append, firstSize, sizeOf?_eq_none_iff.mpr hword]
    exact ih hbefore

lemma firstSize_prefaces (h : Prefaces words words') : firstSize words' = firstSize words := by
  obtain ⟨hbefore, hother, words⟩ := h
  rw [firstSize_append hbefore, firstSize_append hbefore, firstSize, sizeOf?_eq_none_iff.mpr hother]

lemma firstSize_prefaced (h : Relation.EqvGen Prefaces words words') :
    firstSize words' = firstSize words := by
  have hkept : Relation.EqvGen.setoid Prefaces ≤ Setoid.ker firstSize :=
    Setoid.eqvGen_le fun _ _ h => (firstSize_prefaces h).symm
  exact (hkept h).symm

lemma exists_finds (words : List String) : ∃ found, Finds words found := by
  induction words with
  | nil => exact ⟨none, .none (by simp)⟩
  | cons word words ih =>
    by_cases hword : IsSize word
    · obtain ⟨number, hspells⟩ := hword
      have hnothing : ∀ word ∈ ([] : List String), ¬ IsSize word := by simp
      exact ⟨some (number, words), .size words hnothing hspells⟩
    · obtain ⟨found, hfound⟩ := ih
      cases hfound with
      | size after hbefore hspells =>
        exact ⟨_, .size after (List.forall_mem_cons.mpr ⟨hword, hbefore⟩) hspells⟩
      | none hnone => exact ⟨none, .none (List.forall_mem_cons.mpr ⟨hword, hnone⟩)⟩

/-- The size that is found can be read. -/
lemma firstSize_of_finds (h : Finds words found) :
    (found = none ∧ firstSize words = none) ∨ ∃ number after x, found = some (number, after) ∧
      Text.toFloat? number = some x ∧ firstSize words = some (x, after) := by
  cases h with
  | none hnone =>
    have hwords := firstSize_append hnone []
    rw [List.append_nil] at hwords
    exact .inl ⟨rfl, hwords⟩
  | @size before word number after hbefore hspells =>
    obtain ⟨x, hx⟩ := hspells.exists_toFloat?
    refine .inr ⟨number, after, x, rfl, hx, ?_⟩
    rw [firstSize_append hbefore, firstSize, sizeOf?_eq_some_iff.mpr ⟨number, hspells, hx⟩]

/-! ## Reading a font -/

lemma parse_congr {font' : Option String}
    (h : firstSize (Text.words (font'.getD "")) = firstSize (Text.words (font.getD "")))
    (family : Option String) (size : Option Number) :
    parse font' family size = parse font family size := by
  unfold parse read
  rw [h]

lemma parse_given (font family : Option String) (n : Number) :
    parse font family (some n) = n.toFloat.map fun x => read font family (some x) := by
  rw [parse, Option.mapM_some]
  cases n.toFloat with
  | ok x => rfl
  | error why => rfl

lemma hasFamily_read (hwords : Text.words (font.getD "") = words) (h : Finds words found)
    (size : Option Float) : HasFamily found family (read font family size).family := by
  have hread : (read font family size).family = (family.filter (!·.isEmpty)).getD
      (((firstSize words).bind fun found => familyOf? found.2).getD defaultFamily) := by
    rw [← hwords]
    rfl
  rw [hread]
  by_cases hfamily : family.getD "" = ""
  · -- without an explicit family, or with an empty one
    have hfilter : family.filter (!·.isEmpty) = none := by
      cases family with
      | none => rfl
      | some name => simpa using hfamily
    rw [hfilter, Option.getD_none]
    rcases firstSize_of_finds h with ⟨rfl, hfirst⟩ | ⟨number, after, x, rfl, -, hfirst⟩
    · rw [hfirst, Option.bind_none, Option.getD_none]
      exact .absent hfamily rfl
    · rw [hfirst, Option.bind_some]
      change HasFamily _ family (familyAfter after)
      exact .written hfamily rfl
  · cases family with
    | none => exact absurd rfl hfamily
    | some name =>
      have hname : name ≠ "" := hfamily
      have hfilter : (some name).filter (!·.isEmpty) = some name := by simp [hname]
      rw [hfilter]
      exact .given hname

lemma hasSize_absent (hwords : Text.words (font.getD "") = words) (h : Finds words found) :
    HasSize found none (read font family none).size := by
  have hread : (read font family none).size =
      ((firstSize words).map Prod.fst).getD defaultSize := by
    rw [← hwords]
    rfl
  rw [hread]
  rcases firstSize_of_finds h with ⟨rfl, hfirst⟩ | ⟨number, after, x, rfl, hx, hfirst⟩
  · rw [hfirst, Option.map_none, Option.getD_none]
    exact .absent rfl
  · rw [hfirst, Option.map_some, Option.getD_some]
    exact .written rfl hx

lemma parse_judged (hwords : Text.words (font.getD "") = words) (h : Finds words found) {f : Font}
    (hparse : parse font family size = .ok f) :
    HasSize found size f.size ∧ HasFamily found family f.family := by
  cases size with
  | none =>
    obtain rfl := Except.ok.inj hparse
    exact ⟨hasSize_absent hwords h, hasFamily_read hwords h none⟩
  | some n =>
    rw [parse_given] at hparse
    cases hx : n.toFloat with
    | error why =>
      rw [hx] at hparse
      cases hparse
    | ok x =>
      rw [hx] at hparse
      obtain rfl := Except.ok.inj hparse
      exact ⟨.given hx, hasFamily_read hwords h (some x)⟩

/-! ## Sizes that no double can hold -/

lemma parse_large {n : ℤ} (h : 2 ^ 1024 ≤ n.natAbs + 2 ^ 970) (font family : Option String) :
    parse font family (some (.int n)) = .error .intTooLarge := by
  rw [parse_given, Number.toFloat, Number.floatOfInt, Proofs.ofInt?_eq_none.mpr h]
  rfl

lemma exists_parse (h : ∀ n : ℤ, size = some (.int n) → n.natAbs + 2 ^ 970 < 2 ^ 1024)
    (font family : Option String) : ∃ f, parse font family size = .ok f := by
  cases size with
  | none => exact ⟨_, rfl⟩
  | some n =>
    rw [parse_given]
    cases n with
    | real x => exact ⟨_, rfl⟩
    | int n =>
      have hsmall : Decimal.ofInt? n ≠ none := by
        intro hnone
        exact absurd (h n rfl) (not_lt.mpr (Proofs.ofInt?_eq_none.mp hnone))
      obtain ⟨x, hx⟩ := Option.ne_none_iff_exists'.mp hsmall
      rw [Number.toFloat, Number.floatOfInt, hx]
      exact ⟨_, rfl⟩

lemma exists_parse_iff : (∃ f, parse font family size = .ok f) ↔
    ∀ n : ℤ, size = some (.int n) → n.natAbs + 2 ^ 970 < 2 ^ 1024 := by
  refine ⟨?_, fun h => exists_parse h font family⟩
  rintro ⟨f, hparse⟩ n rfl
  by_contra hlarge
  rw [parse_large (not_lt.mp hlarge)] at hparse
  cases hparse

lemma eq_intTooLarge_of_parse {why : Error} (h : parse font family size = .error why) :
    why = .intTooLarge := by
  by_cases hheld : ∀ n : ℤ, size = some (.int n) → n.natAbs + 2 ^ 970 < 2 ^ 1024
  · obtain ⟨f, hparse⟩ := exists_parse hheld font family
    rw [h] at hparse
    cases hparse
  · push Not at hheld
    obtain ⟨n, rfl, hlarge⟩ := hheld
    rw [parse_large hlarge] at h
    exact (Except.error.inj h).symm

/-! ## Plain families -/

lemma withoutQuotes_eq {s : String} (htrimmed : Text.Trimmed s) (h : ∀ c ∈ s.toList, c ∉ quotes) :
    withoutQuotes s = s := by
  have hstay {cs : List Char} (h : ∀ c ∈ cs, c ∉ quotes) : cs.dropWhile quotes.contains = cs := by
    cases cs with
    | nil => rfl
    | cons c cs => exact List.dropWhile_cons_of_neg (by simpa using h c List.mem_cons_self)
  have hstrip : Text.strip s = s :=
    Text.strip_eq_iff.mpr ⟨htrimmed, [], [], by simp, by simp, by simp⟩
  have hreverse : ∀ c ∈ s.toList.reverse, c ∉ quotes := fun c hc => h c (List.mem_reverse.mp hc)
  rw [withoutQuotes, hstrip, Text.stripOf, hstay h, hstay hreverse, List.reverse_reverse,
    String.ofList_toList]

/-- Words without quotes and commas are the family, sizes among them as well. -/
lemma familyAfter_plain {after : List String} (hne : after ≠ [])
    (h : ∀ word ∈ after, word ≠ "" ∧ ∀ c ∈ word.toList, isBlank c = false ∧ c ∉ ',' :: quotes) :
    familyAfter after = " ".intercalate after := by
  have hwords : ∀ word ∈ after, word ≠ "" ∧ ∀ c ∈ word.toList, isBlank c = false := by
    intro word hword
    obtain ⟨hempty, hchars⟩ := h word hword
    exact ⟨hempty, fun c hc => (hchars c hc).1⟩
  obtain ⟨htrimmed, hempty⟩ := Text.trimmed_intercalate hne hwords
  have hchars : ∀ c ∈ (" ".intercalate after).toList, c ∉ ',' :: quotes := by
    intro c hc
    rcases Text.mem_intercalate hc with rfl | ⟨word, hword, hc⟩
    · decide
    · exact ((h word hword).2 c hc).2
  have hplain : withoutQuotes (" ".intercalate after) = " ".intercalate after :=
    withoutQuotes_eq htrimmed fun c hc hquote => hchars c hc (List.mem_cons_of_mem _ hquote)
  have hcomma : Text.splitOn ',' (" ".intercalate after) = [" ".intercalate after] := by
    have hfree : ∀ piece ∈ [" ".intercalate after], ',' ∉ piece.toList :=
      List.forall_mem_singleton.mpr fun hc => hchars ',' hc List.mem_cons_self
    have hwhole := Text.splitOn_intercalate (List.cons_ne_nil _ _) hfree
    rwa [String.intercalate_singleton] at hwhole
  rw [familyAfter, familyOf?]
  simp [hplain, hempty, hcomma]

/-! ## Drawing a text -/

/-- A text that is not empty is drawn in the font that is read for it. -/
lemma text_eq_parse (metrics : Font → Metrics) {p : TextPrimitive} (h : p.rendered ≠ "") :
    Plan.text metrics p = (do
      let font ← Trace.lift (parse p.font p.fontFamily p.fontSize)
      Plan.call (.loadFont font)
      let color ← Trace.lift (Color.read p.color)
      let x ← Trace.lift p.x.toFloat
      let y ← Trace.lift p.y.toFloat
      (Plan.pieces (metrics font) font.size p x y).forM (Plan.piece (metrics font) color)) := by
  have hempty : p.rendered.isEmpty = false := by simpa using h
  unfold Plan.text parse
  rw [hempty]
  cases p.fontSize.mapM Number.toFloat with
  | ok size => rfl
  | error why => rfl

end Font

namespace Proofs
open Font
open Text (isBlank Separated)

/-- A font in one line is read as its first size and the words after it say, however its words are
separated and whatever is before that size, unless the explicit size is too large for a double. -/
theorem font_shorthand_judged (font family : Option String) (size : Option Number) :
    (∃ words found, Separated isBlank words (font.getD "").toList ∧ Finds words found) ∧
    (∀ words found, Separated isBlank words (font.getD "").toList → Finds words found →
      ShorthandJudged font family size words found) ∧
    familyAfter [] = "DejaVu Sans" ∧
    (∀ after ≠ [], (∀ word ∈ after, word ≠ "" ∧ ∀ c ∈ word.toList,
      isBlank c = false ∧ c ∉ ',' :: quotes) → familyAfter after = " ".intercalate after) ∧
    ∀ (metrics : Font → Metrics) (p : TextPrimitive), p.rendered ≠ "" → ∃ draw : Font → Plan Unit,
      Plan.text metrics p = (do
        let font ← Trace.lift (parse p.font p.fontFamily p.fontSize)
        Plan.call (.loadFont font)
        draw font) := by
  refine ⟨?_, fun words found hwords hfound => ?_, rfl, fun _ => familyAfter_plain,
    fun metrics p hp => ⟨_, text_eq_parse metrics hp⟩⟩
  · obtain ⟨words, hwords⟩ := Text.exists_separated isBlank (font.getD "").toList
    obtain ⟨found, hfound⟩ := exists_finds words
    exact ⟨words, found, hwords, hfound⟩
  · have hcut : Text.words (font.getD "") = words := Text.words_eq_iff.mpr hwords
    constructor
    · exact exists_parse_iff
    · exact fun why => eq_intTooLarge_of_parse
    · exact fun f => parse_judged hcut hfound
    · intro font' words' hwords' hprefaced
      apply parse_congr
      rw [Text.words_eq_iff.mpr hwords', hcut, firstSize_prefaced hprefaced]

/-- A font with two sizes, the first of them in digits of another script. -/
def sloganFont : String := "  bold\t१२.५pX Open  Sans 8px"

theorem slogan_font_read :
    Separated isBlank ["bold", "१२.५pX", "Open", "Sans", "8px"] sloganFont.toList ∧
    Finds ["bold", "१२.५pX", "Open", "Sans", "8px"] (some ("१२.५", ["Open", "Sans", "8px"])) ∧
    ∃ f, parse (some sloganFont) (some "") none = .ok f ∧
      Text.toFloat? "१२.५" = some f.size ∧ f.family = "Open Sans 8px" := by
  have hwords : Separated isBlank ["bold", "१२.५pX", "Open", "Sans", "8px"] sloganFont.toList :=
    Text.words_eq_iff.mp (by decide)
  have hbold : ¬ IsSize "bold" := sizeOf?_eq_none_iff.mp rfl
  have hspells : SpellsSize "१२.५pX" "१२.५" := by
    have hdigits : ['१', '२'].all Text.isDigit = true := by decide
    have hplaces : ['५'].all Text.isDigit = true := by decide
    rw [List.all_eq_true] at hdigits hplaces
    exact ⟨⟨_, _, .pointed (by simp) hdigits (by simp) hplaces⟩, 'p', by simp, 'X', by simp, rfl⟩
  have hfound : Finds ["bold", "१२.५pX", "Open", "Sans", "8px"]
      (some ("१२.५", ["Open", "Sans", "8px"])) :=
    .size _ (List.forall_mem_singleton.mpr hbold) hspells
  obtain ⟨-, hjudged, -, hplain, -⟩ := font_shorthand_judged (some sloganFont) (some "") none
  have hslogan := hjudged _ _ hwords hfound
  obtain ⟨f, hf⟩ := hslogan.returned.mpr fun n hn => by cases hn
  obtain ⟨hsize, hfamily⟩ := hslogan.read f hf
  refine ⟨hwords, hfound, f, hf, ?_, ?_⟩
  · generalize f.size = x at hsize
    cases hsize with
    | written hfound hx =>
      cases hfound
      exact hx
    | absent hfound => cases hfound
  · generalize f.family = name at hfamily
    cases hfamily with
    | given hname => exact absurd rfl hname
    | written _ hfound =>
      cases hfound
      have hwhole : (["Open", "Sans", "8px"].all fun word => word ≠ "" &&
          word.toList.all fun c => !isBlank c && !(',' :: quotes).contains c) = true := by
        decide
      have hnamed := hplain ["Open", "Sans", "8px"] (by simp) (by simpa using hwhole)
      rw [hnamed]
      rfl
    | absent _ hfound => cases hfound

theorem oversized_font_refused :
    parse (some "12px Arial") none (some (.int (10 ^ 400))) = .error .intTooLarge := by
  have hlarge : 2 ^ 1024 ≤ (10 ^ 400 : ℤ).natAbs + 2 ^ 970 := by decide +kernel
  exact parse_large hlarge (some "12px Arial") none

end Proofs

end CardDrawing
