import CardDrawing.Svg.Reader
import CardDrawing.Proofs.SpacedTexts

/-!
# Points in pairs

The numbers of a list of points are taken two at a time, whatever separates them. A word that is no
number takes its pair with it and leaves all others as they are.
-/

namespace CardDrawing

namespace Svg

/-- What separates the numbers of a list. -/
def isListGap (c : Char) : Bool := c = ',' || Text.isBlank c

/-- The point that two words stand for, if both are numbers. -/
def pointOf? (x y : String) : Option (Float × Float) :=
  (Text.toFloat? x).bind fun a => (Text.toFloat? y).map fun b => (a, b)

/-- The point that the words at the places `2 * i` and `2 * i + 1` stand for. -/
def pointAt? (words : List String) (i : ℕ) : Option (Float × Float) :=
  words[2 * i]?.bind fun x => words[2 * i + 1]?.bind fun y => pointOf? x y

/-- The points that words stand for, in the order of the words. -/
def pointsOf (words : List String) : List (Float × Float) :=
  (List.range (words.length / 2)).filterMap (pointAt? words)

/-- The points that are read from words. -/
structure PointsJudged (words : List String) (points : List (Float × Float)) : Prop where
  paired : points = pointsOf words
  /-- Two words are a point or none, and nothing else changes with them. -/
  pair : ∀ before x y after, words = before ++ x :: y :: after → Even before.length →
    points = pointsOf before ++ (pointOf? x y).toList ++ pointsOf after
  unpaired : ∀ before x, words = before ++ [x] → Even before.length → points = pointsOf before
  /-- Words that spell the coordinates of some points stand for just these. -/
  spelled : ∀ written : List (Float × Float),
    words.map Text.toFloat? = written.flatMap (fun p => [some p.1, some p.2]) → points = written

end Svg

namespace Proofs
open Svg

variable {words : List String} {cs : List Char} {s : String}

/-! ## Separators -/

lemma isBlank_of_isListGap {c : Char} (h : isListGap c = true) :
    Text.isBlank (if c = ',' then ' ' else c) = true := by
  by_cases hcomma : c = ','
  · rw [if_pos hcomma]
    decide
  · simpa [isListGap, hcomma] using h

lemma separated_replaceChar (h : Text.Separated isListGap words cs) :
    Text.Separated Text.isBlank words (cs.map fun c => if c = ',' then ' ' else c) := by
  have hgaps {gap : List Char} (hgap : ∀ c ∈ gap, isListGap c = true) :
      ∀ c ∈ gap.map fun c => if c = ',' then ' ' else c, Text.isBlank c = true := by
    intro c hc
    obtain ⟨d, hd, rfl⟩ := List.mem_map.mp hc
    exact isBlank_of_isListGap (hgap d hd)
  induction h with
  | nil hgap => exact .nil (hgaps hgap)
  | @cons gap hgap word hne hword words rest hrest _ ih =>
    have hletters : ∀ c ∈ word.toList, c ≠ ',' ∧ Text.isBlank c = false := by
      intro c hc
      simpa [isListGap] using hword c hc
    have hstay : word.toList.map (fun c => if c = ',' then ' ' else c) = word.toList := by
      rw [List.map_congr_left (g := id) fun c hc => by simp [(hletters c hc).1], List.map_id]
    rw [List.map_append, List.map_append, hstay]
    refine .cons (hgaps hgap) hne (fun c hc => (hletters c hc).2) (fun c hc => ?_) ih
    rw [List.head?_map] at hc
    obtain ⟨d, hd, rfl⟩ := Option.map_eq_some_iff.mp hc
    exact isBlank_of_isListGap (hrest d hd)

/-- Cutting a list at its commas and blanks finds the words that it is made of. -/
lemma listWords_eq_iff : Text.words (Text.replaceChar ',' ' ' s) = words ↔
    Text.Separated isListGap words s.toList := by
  have hcut {words : List String} (h : Text.Separated isListGap words s.toList) :
      Text.words (Text.replaceChar ',' ' ' s) = words := by
    rw [Text.words_eq_iff, Text.replaceChar, String.toList_ofList]
    exact separated_replaceChar h
  constructor
  · rintro rfl
    obtain ⟨words, h⟩ := Text.exists_separated isListGap s.toList
    rwa [hcut h]
  · exact hcut

lemma numbers_of_separated (h : Text.Separated isListGap words s.toList) :
    numbers s = words.map Text.toFloat? := by
  rw [numbers, listWords_eq_iff.mpr h]

/-! ## Pairs -/

lemma pairs_cons {α : Type} (x y : Option α) (rest : List (Option α)) :
    pairs (x :: y :: rest) = (x.bind fun a => y.map fun b => (a, b)).toList ++ pairs rest := by
  cases x with
  | none => rfl
  | some a => cases y <;> rfl

lemma pointsOf_cons (x y : String) (rest : List String) :
    pointsOf (x :: y :: rest) = (pointOf? x y).toList ++ pointsOf rest := by
  have hcount : (x :: y :: rest).length / 2 = rest.length / 2 + 1 := by
    simp only [List.length_cons]
    omega
  have hfirst : pointAt? (x :: y :: rest) 0 = pointOf? x y := by simp [pointAt?]
  have hnext : pointAt? (x :: y :: rest) ∘ Nat.succ = pointAt? rest := by
    funext i
    simp [pointAt?, Nat.mul_add]
  rw [pointsOf, hcount, List.range_succ_eq_map, List.filterMap_cons, List.filterMap_map, hnext,
    hfirst]
  cases pointOf? x y <;> rfl

lemma pointsOf_singleton (x : String) : pointsOf [x] = [] := by simp [pointsOf]

lemma pairs_eq_pointsOf : (words : List String) → pairs (words.map Text.toFloat?) = pointsOf words
  | [] => rfl
  | [x] => by
    rw [pointsOf_singleton, List.map_singleton]
    cases Text.toFloat? x <;> rfl
  | x :: y :: rest => by
    rw [List.map_cons, List.map_cons, pairs_cons, pairs_eq_pointsOf rest, pointsOf_cons, pointOf?]

/-- An even number of words stands for its points, whatever comes after it. -/
lemma pointsOf_append : {words : List String} → Even words.length → (rest : List String) →
    pointsOf (words ++ rest) = pointsOf words ++ pointsOf rest
  | [], _, _ => rfl
  | [_], h, _ => absurd h (by simp)
  | x :: y :: words, h, rest => by
    have heven : Even words.length := by simpa [Nat.even_add_one] using h
    rw [List.cons_append, List.cons_append, pointsOf_cons, pointsOf_cons, pointsOf_append heven,
      List.append_assoc]

lemma pairs_written {α : Type} (written : List (α × α)) :
    pairs (written.flatMap fun p => [some p.1, some p.2]) = written := by
  induction written with
  | nil => rfl
  | cons p written ih =>
    rw [List.flatMap_cons, List.cons_append, List.cons_append, List.nil_append, pairs, ih]

/-! ## Points -/

/-- Words between commas and blanks are read as points two at a time. -/
theorem points_keep_pairing (h : Text.Separated isListGap words s.toList) :
    PointsJudged words (points s) := by
  have hpoints : points s = pointsOf words := by
    rw [points, numbers_of_separated h, pairs_eq_pointsOf]
  constructor
  · exact hpoints
  · intro before x y after hwords heven
    rw [hpoints, hwords, pointsOf_append heven, pointsOf_cons, List.append_assoc]
  · intro before x hwords heven
    rw [hpoints, hwords, pointsOf_append heven, pointsOf_singleton, List.append_nil]
  · intro written hwritten
    rw [points, numbers_of_separated h, hwritten, pairs_written]

/-- The two ends of a roof, with a word between them that is no number, and with a number too
many. -/
def roofWords : List String := ["0", "4", "x", "9", "8", "0", "4"]

theorem roof_keeps_pairing : Text.Separated isListGap roofWords ",0 4, x,9\t8,,0 4".toList ∧
    points ",0 4, x,9\t8,,0 4" = (pointOf? "0" "4").toList ++ (pointOf? "8" "0").toList ∧
    (points ",0 4, x,9\t8,,0 4").length = 2 := by
  have hwords : Text.Separated isListGap roofWords ",0 4, x,9\t8,,0 4".toList :=
    listWords_eq_iff.mp (by decide +kernel)
  have hpoints :=
    (points_keep_pairing hwords).pair ["0", "4"] "x" "9" ["8", "0", "4"] rfl (by decide)
  have hnone : pointOf? "x" "9" = none := Option.isNone_iff_eq_none.mp (by decide +kernel)
  have hnil : pointsOf [] = [] := rfl
  simp only [hnone, pointsOf_cons, pointsOf_singleton, hnil, Option.toList_none,
    List.append_nil] at hpoints
  refine ⟨hwords, hpoints, ?_⟩
  rw [hpoints]
  decide +kernel

end Proofs

end CardDrawing
