import CardDrawing.Paint.Plan
import CardDrawing.Proofs.Outcomes

/-!
# Wrapped texts

The lines of a wrapped text hold its words, one after another, and each line holds as many of them
as end in time.
-/

namespace CardDrawing

/-! ## Words -/

namespace Text

variable {separator : Char}

lemma splitAt_eq_splitOn (separator : Char) (cs : List Char) :
    splitAt separator cs = cs.splitOn separator := by
  induction cs with
  | nil => rfl
  | cons c rest ih =>
    rw [splitAt, List.splitOn_cons_eq_if_modifyHead, ih]
    by_cases h : c = separator
    · rw [if_pos h, if_pos (beq_iff_eq.mpr h)]
    · rw [if_neg h, if_neg (by simpa using h)]
      cases hrest : rest.splitOn separator with
      | nil => exact absurd hrest (List.splitOn_ne_nil separator rest)
      | cons word words => rfl

lemma notMem_of_mem_splitAt {cs word : List Char} (h : word ∈ splitAt separator cs) :
    separator ∉ word := by
  induction cs generalizing word with
  | nil =>
    obtain rfl := List.mem_singleton.mp h
    exact List.not_mem_nil
  | cons c rest ih =>
    rw [splitAt] at h
    by_cases hc : c = separator
    · rw [if_pos hc] at h
      rcases List.mem_cons.mp h with rfl | h
      · exact List.not_mem_nil
      · exact ih h
    · rw [if_neg hc] at h
      cases hrest : splitAt separator rest with
      | nil =>
        rw [hrest] at h
        obtain rfl := List.mem_singleton.mp h
        exact fun hmem => hc (List.mem_singleton.mp hmem).symm
      | cons first words =>
        rw [hrest] at h ih
        rcases List.mem_cons.mp h with rfl | h
        · rw [List.mem_cons, not_or]
          exact ⟨Ne.symm hc, ih List.mem_cons_self⟩
        · exact ih (List.mem_cons_of_mem _ h)

lemma splitOn_ne_nil (separator : Char) (s : String) : splitOn separator s ≠ [] := by
  rw [splitOn, splitAt_eq_splitOn, Ne, List.map_eq_nil_iff]
  exact List.splitOn_ne_nil separator s.toList

lemma notMem_of_mem_splitOn {s word : String} (h : word ∈ splitOn separator s) :
    separator ∉ word.toList := by
  obtain ⟨cs, hcs, rfl⟩ := List.mem_map.mp h
  rw [String.toList_ofList]
  exact notMem_of_mem_splitAt hcs

/-- Joining what a text has been cut into gives the text again. -/
lemma intercalate_splitOn (separator : Char) (s : String) :
    (String.singleton separator).intercalate (splitOn separator s) = s := by
  rw [← String.toList_inj, String.toList_intercalate, splitOn, List.map_map]
  have hid : String.toList ∘ String.ofList = id := funext fun _ => String.toList_ofList
  rw [hid, List.map_id, splitAt_eq_splitOn, String.toList_singleton]
  exact List.intercalate_splitOn separator

/-- Joining parts of a list and then what they have been joined to is joining the whole list. -/
lemma intercalate_flatten (s : String) {parts : List (List String)} (h : [] ∉ parts) :
    s.intercalate (parts.map s.intercalate) = s.intercalate parts.flatten := by
  induction parts with
  | nil => rfl
  | cons part rest ih =>
    rw [List.mem_cons, not_or] at h
    cases rest with
    | nil => simp
    | cons next rest =>
      have hnext : (next :: rest).flatten ≠ [] := by
        have hne : next ≠ [] := fun hnil => h.2 (hnil ▸ List.mem_cons_self)
        simp [hne]
      have hmap : (next :: rest).map s.intercalate ≠ [] := List.cons_ne_nil _ _
      have hflat : (part :: next :: rest).flatten = part ++ (next :: rest).flatten :=
        List.flatten_cons
      rw [List.map_cons, String.intercalate_cons_of_ne_nil hmap, ih h.2, hflat,
        String.intercalate_append_of_ne_nil (Ne.symm h.1) hnext]

end Text

/-! ## Lines -/

namespace Wrap
open Proofs

variable {α : Type} [Add α]

/-- Where a piece ends. -/
def Piece.stop (m : Measure α) (p : Piece α) : α := p.x + m.width p.text

/-- A piece goes on the line of another one: it begins where that one ends, and ends in time. -/
def Adjoins (m : Measure α) (p q : Piece α) : Prop :=
  q.x = p.stop m ∧ m.fits (q.stop m) = true

/-- The first word of the next line would not have ended in time on this one. -/
def Full (m : Measure α) (line next : List (Piece α)) : Prop :=
  ∃ p ∈ line.getLast?, ∃ q ∈ next.head?, m.fits (p.stop m + m.width (" " ++ q.text)) = false

/-- A line shows words: the first one as it is, the others with a space before them. -/
def Shows (words : List String) (line : List (Piece α)) : Prop :=
  ∃ first rest, words = first :: rest ∧ line.map Piece.text = first :: rest.map (" " ++ ·)

/-- The first line is at `y`, and every other one a step below the one before it. -/
def AtLevels (m : Measure α) (y : α) (lines : List (List (Piece α))) : Prop :=
  ∀ k line, lines[k]? = some line → ∀ p ∈ line, p.y = (· + m.step)^[k] y

/-- Words, line by line, that a text is made of when they are joined by spaces. -/
structure MakesUp (parts : List (List String)) (text : String) : Prop where
  words : parts.flatten = Text.splitOn ' ' text
  spaceless : ∀ part ∈ parts, ∀ word ∈ part, ' ' ∉ word.toList
  joined : " ".intercalate (parts.map " ".intercalate) = text

/-- How the words of a text stand in lines that begin at `(x, y)`. -/
structure Wrapped (m : Measure α) (x y : α) (text : String) (lines : List (List (Piece α))) :
    Prop where
  shows : ∃ parts, MakesUp parts text ∧ List.Forall₂ Shows parts lines
  starts : ∀ line ∈ lines, ∃ p ∈ line.head?, p.x = x
  levels : AtLevels m y lines
  adjoining : ∀ line ∈ lines, line.IsChain (Adjoins m)
  greedy : lines.IsChain (Full m)

/-- How words go on after a piece: on its line, and on the lines after it. -/
structure Continued (m : Measure α) (x : α) (p : Piece α) (words : List String)
    (line : List (Piece α)) (others : List (List (Piece α))) : Prop where
  shows : ∃ part parts, part ++ parts.flatten = words ∧
    line.map Piece.text = part.map (" " ++ ·) ∧ List.Forall₂ Shows parts others
  starts : ∀ l ∈ others, ∃ q ∈ l.head?, q.x = x
  levels : AtLevels m p.y ((p :: line) :: others)
  adjoining : ∀ l ∈ (p :: line) :: others, l.IsChain (Adjoins m)
  greedy : ((p :: line) :: others).IsChain (Full m)

variable {m : Measure α} {x y : α} {p : Piece α} {word : String} {words : List String}
  {line : List (Piece α)} {others : List (List (Piece α))}

lemma atLevels_cons : AtLevels m y (line :: others) ↔
    (∀ q ∈ line, q.y = y) ∧ AtLevels m (y + m.step) others := by
  constructor
  · intro h
    exact ⟨h 0 line rfl, fun k l hl => h (k + 1) l hl⟩
  · rintro ⟨hline, hothers⟩ k l hl
    cases k with
    | zero =>
      obtain rfl := Option.some.inj hl
      exact hline
    | succ k => exact hothers k l hl

lemma continued_nil (m : Measure α) (x : α) (p : Piece α) : Continued m x p [] [] [] where
  shows := ⟨[], [], rfl, rfl, .nil⟩
  starts := fun _ h => absurd h List.not_mem_nil
  levels := atLevels_cons.mpr ⟨List.forall_mem_singleton.mpr rfl, fun _ _ h => nomatch h⟩
  adjoining := by
    intro l hl
    obtain rfl := List.mem_singleton.mp hl
    exact .singleton p
  greedy := .singleton [p]

/-- A word that ends in time goes on the line. -/
lemma Continued.beside (hfit : m.fits (p.stop m + m.width (" " ++ word)) = true)
    (h : Continued m x ⟨" " ++ word, p.stop m, p.y⟩ words line others) :
    Continued m x p (word :: words) (⟨" " ++ word, p.stop m, p.y⟩ :: line) others where
  shows := by
    obtain ⟨part, parts, hwords, htexts, hparts⟩ := h.shows
    refine ⟨word :: part, parts, ?_, ?_, hparts⟩
    · rw [List.cons_append, hwords]
    · rw [List.map_cons, List.map_cons, htexts]
  starts := h.starts
  levels := by
    obtain ⟨hline, hothers⟩ := atLevels_cons.mp h.levels
    exact atLevels_cons.mpr ⟨List.forall_mem_cons.mpr ⟨rfl, hline⟩, hothers⟩
  adjoining := by
    obtain ⟨hline, hothers⟩ := List.forall_mem_cons.mp h.adjoining
    exact List.forall_mem_cons.mpr ⟨.cons_cons ⟨rfl, hfit⟩ hline, hothers⟩
  greedy := by
    refine h.greedy.imp_head fun {next} hfull => ?_
    unfold Full at hfull ⊢
    rwa [List.getLast?_cons_cons]

/-- A word that would end too late begins the next line. -/
lemma Continued.below (hfit : m.fits (p.stop m + m.width (" " ++ word)) = false)
    (h : Continued m x ⟨word, x, p.y + m.step⟩ words line others) :
    Continued m x p (word :: words) [] ((⟨word, x, p.y + m.step⟩ :: line) :: others) where
  shows := by
    obtain ⟨part, parts, hwords, htexts, hparts⟩ := h.shows
    refine ⟨[], (word :: part) :: parts, ?_, rfl, .cons ⟨word, part, rfl, ?_⟩ hparts⟩
    · rw [List.nil_append, List.flatten_cons, List.cons_append, hwords]
    · rw [List.map_cons, htexts]
  starts := List.forall_mem_cons.mpr ⟨⟨_, rfl, rfl⟩, h.starts⟩
  levels := atLevels_cons.mpr ⟨List.forall_mem_singleton.mpr rfl, h.levels⟩
  adjoining := List.forall_mem_cons.mpr ⟨.singleton p, h.adjoining⟩
  greedy := .cons_cons ⟨p, rfl, _, rfl, hfit⟩ h.greedy

lemma continued_fill (m : Measure α) (x : α) (p : Piece α) (words : List String) :
    Continued m x p words (fill m x (p.stop m) p.y words).1 (fill m x (p.stop m) p.y words).2 := by
  induction words generalizing p with
  | nil => exact continued_nil m x p
  | cons word words ih =>
    cases hfit : m.fits (p.stop m + m.width (" " ++ word)) with
    | true =>
      simp only [fill, hfit, if_true]
      exact (ih ⟨" " ++ word, p.stop m, p.y⟩).beside hfit
    | false =>
      simp only [fill, hfit, Bool.false_eq_true, if_false]
      exact (ih ⟨word, x, p.y + m.step⟩).below hfit

omit [Add α] in
lemma makesUp_of_shows {parts : List (List String)} {text : String}
    (hwords : parts.flatten = Text.splitOn ' ' text) (h : List.Forall₂ Shows parts others) :
    MakesUp parts text where
  words := hwords
  spaceless := by
    intro part hpart word hword
    have hmem : word ∈ Text.splitOn ' ' text := hwords ▸ List.mem_flatten_of_mem hpart hword
    exact Text.notMem_of_mem_splitOn hmem
  joined := by
    have hnil : [] ∉ parts := by
      intro hmem
      obtain ⟨line, -, first, rest, hcons, -⟩ := exists_of_forall₂ h hmem
      cases hcons
    rw [Text.intercalate_flatten _ hnil, hwords]
    exact Text.intercalate_splitOn ' ' text

lemma wrapped_lines (m : Measure α) (x y : α) (text : String) :
    Wrapped m x y text (lines m x y (Text.splitOn ' ' text)) := by
  obtain ⟨word, words, htext⟩ := List.exists_cons_of_ne_nil (Text.splitOn_ne_nil ' ' text)
  have hc := continued_fill m x ⟨word, x, y⟩ words
  obtain ⟨part, parts, hwords, htexts, hparts⟩ := hc.shows
  rw [htext]
  exact {
    shows := by
      have hflat : ((word :: part) :: parts).flatten = Text.splitOn ' ' text := by
        rw [List.flatten_cons, List.cons_append, hwords, htext]
      have hshows :
          Shows (word :: part) (⟨word, x, y⟩ :: (fill m x (x + m.width word) y words).1) :=
        ⟨word, part, rfl, congrArg _ htexts⟩
      have hall := List.Forall₂.cons hshows hparts
      exact ⟨_, makesUp_of_shows hflat hall, hall⟩
    starts := List.forall_mem_cons.mpr ⟨⟨_, rfl, rfl⟩, hc.starts⟩
    levels := hc.levels
    adjoining := hc.adjoining
    greedy := hc.greedy }

example : lines { width := String.length, fits := (· ≤ 5), step := 1 } 0 0
    ["to", "be", "", "or", "perhaps", "not"] =
      [[⟨"to", 0, 0⟩, ⟨" be", 2, 0⟩], [⟨"", 0, 1⟩, ⟨" or", 0, 1⟩], [⟨"perhaps", 0, 2⟩],
        [⟨"not", 0, 3⟩]] := by
  rfl

end Wrap

namespace Proofs
open Wrap

/-- How a wrapped text is measured: in its font, up to a limit, line by line. -/
def textMeasure (metrics : Metrics) (font : Font) (limit : Number) : Measure Float where
  width := metrics.width
  fits := fun pen => Number.le (.real pen) limit
  step := font.size * 1.12

/-- However wide texts are, a wrapped text is drawn word after word, in lines that lose no word and
hold as many as end in time. Nothing is drawn before its numbers and its color are read. -/
theorem text_wrapped_greedily (metrics : Font → Metrics) {p : TextPrimitive} {limit : Number}
    (hlimit : p.wrapAt = some limit) (htext : p.rendered ≠ "") :
    ∃ lines : Font → Float → Float → List (List (Piece Float)),
      (∀ font x y, Wrapped (textMeasure (metrics font) font limit) x y p.rendered
        (lines font x y)) ∧
      Plan.text metrics p = (do
        let size ← Trace.lift (p.fontSize.mapM Number.toFloat)
        let font := Font.read p.font p.fontFamily size
        Plan.call (.loadFont font)
        let color ← Trace.lift (Color.read p.color)
        let x ← Trace.lift p.x.toFloat
        let y ← Trace.lift p.y.toFloat
        (lines font x y).flatten.forM (Plan.piece (metrics font) color)) := by
  refine ⟨fun font x y => lines (textMeasure (metrics font) font limit) x y
    (Text.splitOn ' ' p.rendered), fun font x y => wrapped_lines _ x y p.rendered, ?_⟩
  have hfull : ¬ p.rendered.isEmpty = true := fun h => htext (String.isEmpty_iff.mp h)
  unfold Plan.text
  rw [if_neg hfull]
  simp only [Plan.pieces, hlimit]
  rfl

/-- Every character is one wide. -/
def typewriter : Metrics where
  advance? := fun text => some (Float.ofNat text.length)
  box := fun text => ⟨0, 0, Float.ofNat text.length, 1⟩

def proverb : TextPrimitive where
  x := .real 3
  y := .real 12
  text := "to be or not to be"
  leading := some "> "
  wrapAt := some (.int 10)

theorem proverb_wrapped : ∃ lines : List (List (Piece Float)),
    Wrapped (textMeasure typewriter ⟨"DejaVu Sans", 10⟩ (.int 10)) 3 12 "> to be or not to be"
      lines ∧
    Plan.text (fun _ => typewriter) proverb = (do
      Plan.call (.loadFont ⟨"DejaVu Sans", 10⟩)
      lines.flatten.forM (Plan.piece typewriter ⟨0, 0, 0, 255⟩)) := by
  have hlimit : proverb.wrapAt = some (.int 10) := rfl
  have htext : proverb.rendered ≠ "" := by decide
  obtain ⟨lines, hlines, hplan⟩ :=
    text_wrapped_greedily (fun _ => typewriter) hlimit htext
  refine ⟨lines ⟨"DejaVu Sans", 10⟩ 3 12, hlines _ _ _, ?_⟩
  rw [hplan]
  rfl

end Proofs

end CardDrawing
