import CardDrawing.Proofs.WordWrapping
import CardDrawing.Text.Blank
import Mathlib

/-!
# Spaced texts

Texts with blanks around them, and words with separators between them: what is left when the blanks
are taken away, and that cutting at the separators finds the words again.
-/

namespace CardDrawing.Text

variable {s t : String} {cs before after : List Char} {c : Char} {words : List String}

/-! ## Blanks around a text -/

/-- A text without blanks at its ends. -/
structure Trimmed (s : String) : Prop where
  first : ∀ c ∈ s.toList.head?, isBlank c = false
  last : ∀ c ∈ s.toList.getLast?, isBlank c = false

/-- A text with blanks around it, or without any. -/
def Padded (s : String) (cs : List Char) : Prop :=
  ∃ before after : List Char, (∀ c ∈ before, isBlank c = true) ∧ (∀ c ∈ after, isBlank c = true) ∧
    cs = before ++ s.toList ++ after

lemma stripStart_append (h : ∀ c ∈ before, isBlank c = true) (cs : List Char) :
    stripStart (before ++ cs) = stripStart cs :=
  List.dropWhile_append_of_pos h

lemma stripEnd_append (h : ∀ c ∈ after, isBlank c = true) (cs : List Char) :
    stripEnd (cs ++ after) = stripEnd cs := by
  have hreverse : ∀ c ∈ after.reverse, isBlank c = true := fun c hc => h c (List.mem_reverse.mp hc)
  rw [stripEnd, List.reverse_append, List.dropWhile_append_of_pos hreverse, stripEnd]

lemma stripStart_of_head? (h : ∀ c ∈ cs.head?, isBlank c = false) : stripStart cs = cs := by
  cases cs with
  | nil => rfl
  | cons c rest => exact List.dropWhile_cons_of_neg (by simp [h c rfl])

lemma stripEnd_of_getLast? (h : ∀ c ∈ cs.getLast?, isBlank c = false) : stripEnd cs = cs := by
  have hstay : cs.reverse.dropWhile isBlank = cs.reverse :=
    stripStart_of_head? (by rwa [List.head?_reverse])
  rw [stripEnd, hstay, List.reverse_reverse]

lemma exists_stripStart (cs : List Char) :
    ∃ before, (∀ c ∈ before, isBlank c = true) ∧ cs = before ++ stripStart cs ∧
      ∀ c ∈ (stripStart cs).head?, isBlank c = false := by
  refine ⟨cs.takeWhile isBlank, fun c => List.mem_takeWhile_imp,
    List.takeWhile_append_dropWhile.symm, fun c hc => ?_⟩
  have hfirst := List.head?_dropWhile_not isBlank cs
  rw [show cs.dropWhile isBlank = stripStart cs from rfl, hc] at hfirst
  exact eq_false_of_ne_true (by simpa using hfirst)

lemma exists_stripEnd (cs : List Char) :
    ∃ after, (∀ c ∈ after, isBlank c = true) ∧ cs = stripEnd cs ++ after ∧
      ∀ c ∈ (stripEnd cs).getLast?, isBlank c = false := by
  obtain ⟨after, hafter, hreverse, hlast⟩ := exists_stripStart cs.reverse
  refine ⟨after.reverse, fun c hc => hafter c (List.mem_reverse.mp hc), ?_, ?_⟩
  · rw [← List.reverse_inj, List.reverse_append, List.reverse_reverse, stripEnd,
      List.reverse_reverse]
    exact hreverse
  · rw [stripEnd, List.getLast?_reverse]
    exact hlast

/-- Taking away the blanks around a text leaves the trimmed text within. -/
lemma strip_eq_iff : strip s = t ↔ Trimmed t ∧ Padded t s.toList := by
  constructor
  · rintro rfl
    obtain ⟨before, hbefore, hstart, hfirst⟩ := exists_stripStart s.toList
    obtain ⟨after, hafter, hend, hlast⟩ := exists_stripEnd (stripStart s.toList)
    have htext : (strip s).toList = stripEnd (stripStart s.toList) := String.toList_ofList
    refine ⟨⟨fun c hc => hfirst c ?_, ?_⟩, before, after, hbefore, hafter, ?_⟩
    · rw [htext] at hc
      rw [hend, List.head?_append, hc]
      rfl
    · rwa [htext]
    · rw [htext, List.append_assoc, ← hend]
      exact hstart
  · rintro ⟨ht, before, after, hbefore, hafter, hs⟩
    rw [strip, hs, List.append_assoc, stripStart_append hbefore]
    by_cases hempty : t.toList = []
    · have hnone : stripStart after = [] := List.dropWhile_eq_nil_iff.mpr hafter
      rw [hempty, List.nil_append, hnone, ← String.ofList_toList (s := t), hempty]
      rfl
    · have hfirst : ∀ c ∈ (t.toList ++ after).head?, isBlank c = false := by
        rw [List.head?_append_of_ne_nil _ hempty]
        exact ht.first
      rw [stripStart_of_head? hfirst, stripEnd_append hafter, stripEnd_of_getLast? ht.last,
        String.ofList_toList]

/-! ## Spaces between words -/

lemma Trimmed.append (hs : Trimmed s) (ht : Trimmed t) (hs' : s ≠ "") (ht' : t ≠ "")
    (gap : String) : Trimmed (s ++ gap ++ t) := by
  have hslist : s.toList ≠ [] := by simpa using hs'
  have htlist : t.toList ≠ [] := by simpa using ht'
  rw [String.append_assoc]
  constructor
  · rw [String.toList_append, List.head?_append_of_ne_nil _ hslist]
    exact hs.first
  · rw [String.toList_append, String.toList_append, ← List.append_assoc,
      List.getLast?_append_of_ne_nil _ htlist]
    exact ht.last

/-- Words with a space between them are a text without blanks at its ends. -/
lemma trimmed_intercalate (hne : words ≠ [])
    (h : ∀ word ∈ words, word ≠ "" ∧ ∀ c ∈ word.toList, isBlank c = false) :
    Trimmed (" ".intercalate words) ∧ " ".intercalate words ≠ "" := by
  induction words with
  | nil => exact absurd rfl hne
  | cons word words ih =>
    obtain ⟨⟨hword, hblank⟩, hwords⟩ := List.forall_mem_cons.mp h
    have htrimmed : Trimmed word :=
      ⟨fun c hc => hblank c (List.mem_of_mem_head? hc),
        fun c hc => hblank c (List.mem_of_mem_getLast? hc)⟩
    by_cases hnil : words = []
    · subst hnil
      rw [String.intercalate_singleton]
      exact ⟨htrimmed, hword⟩
    · obtain ⟨hrest, hrest'⟩ := ih hnil hwords
      rw [String.intercalate_cons_of_ne_nil hnil]
      exact ⟨htrimmed.append hrest hword hrest' " ", by simp [hword]⟩

lemma mem_intercalate (hc : c ∈ (" ".intercalate words).toList) :
    c = ' ' ∨ ∃ word ∈ words, c ∈ word.toList := by
  induction words with
  | nil => simp at hc
  | cons word words ih =>
    by_cases hnil : words = []
    · subst hnil
      rw [String.intercalate_singleton] at hc
      exact .inr ⟨word, by simp, hc⟩
    · rw [String.intercalate_cons_of_ne_nil hnil, String.toList_append, String.toList_append] at hc
      simp only [List.mem_append] at hc
      rcases hc with (hc | hc) | hc
      · exact .inr ⟨word, by simp, hc⟩
      · exact .inl (by simpa using hc)
      · rcases ih hc with hspace | ⟨other, hother, hc⟩
        · exact .inl hspace
        · exact .inr ⟨other, by simp [hother], hc⟩

/-- Cutting what has been joined gives the pieces again, if none holds the separator. -/
lemma splitOn_intercalate {separator : Char} {pieces : List String} (hne : pieces ≠ [])
    (h : ∀ piece ∈ pieces, separator ∉ piece.toList) :
    splitOn separator ((String.singleton separator).intercalate pieces) = pieces := by
  have hlists : ∀ cs ∈ pieces.map String.toList, separator ∉ cs := by
    intro cs hcs
    obtain ⟨piece, hpiece, rfl⟩ := List.mem_map.mp hcs
    exact h piece hpiece
  have hid : String.ofList ∘ String.toList = id := funext fun _ => String.ofList_toList
  rw [splitOn, splitAt_eq_splitOn, String.toList_intercalate, String.toList_singleton]
  rw [List.splitOn_intercalate separator hlists (by simpa using hne), List.map_map, hid,
    List.map_id]

/-! ## Separators between words -/

/-- Words with separators between them: at least one between two words, and any number of them
before the first word and after the last one. -/
inductive Separated (isSeparator : Char → Bool) : List String → List Char → Prop where
  | nil {gap : List Char} (hgap : ∀ c ∈ gap, isSeparator c = true) : Separated isSeparator [] gap
  | cons {gap : List Char} (hgap : ∀ c ∈ gap, isSeparator c = true) {word : String}
      (hne : word ≠ "") (hword : ∀ c ∈ word.toList, isSeparator c = false) {words : List String}
      {rest : List Char} (hrest : ∀ c ∈ rest.head?, isSeparator c = true)
      (h : Separated isSeparator words rest) :
      Separated isSeparator (word :: words) (gap ++ (word.toList ++ rest))

lemma wordsOf_gap (hc : isBlank c = true) (cs : List Char) : wordsOf (c :: cs) = wordsOf cs := by
  cases cs <;> simp [wordsOf, hc]

lemma wordsOf_last (hc : isBlank c = false) (hcs : ∀ d ∈ cs.head?, isBlank d = true) :
    wordsOf (c :: cs) = [c] :: wordsOf cs := by
  cases cs with
  | nil => simp [wordsOf, hc]
  | cons d rest =>
    have hd : isBlank d = true := hcs d rfl
    simp [wordsOf, hc, hd]

lemma wordsOf_more {d : Char} {word : List Char} {words : List (List Char)}
    (hc : isBlank c = false) (hd : isBlank d = false) (h : wordsOf (d :: cs) = word :: words) :
    wordsOf (c :: d :: cs) = (c :: word) :: words := by
  rw [wordsOf.eq_def]
  simp [hc, hd, h]

lemma wordsOf_append_gap {gap : List Char} (h : ∀ c ∈ gap, isBlank c = true) (cs : List Char) :
    wordsOf (gap ++ cs) = wordsOf cs := by
  induction gap with
  | nil => rfl
  | cons c gap ih =>
    obtain ⟨hc, hgap⟩ := List.forall_mem_cons.mp h
    rw [List.cons_append, wordsOf_gap hc, ih hgap]

lemma wordsOf_append_word {word : List Char} (hne : word ≠ [])
    (hword : ∀ c ∈ word, isBlank c = false) (hcs : ∀ d ∈ cs.head?, isBlank d = true) :
    wordsOf (word ++ cs) = word :: wordsOf cs := by
  induction word with
  | nil => exact absurd rfl hne
  | cons c word ih =>
    obtain ⟨hc, hword⟩ := List.forall_mem_cons.mp hword
    cases word with
    | nil => exact wordsOf_last hc hcs
    | cons d word => exact wordsOf_more hc (hword d List.mem_cons_self) (ih (by simp) hword)

lemma Separated.gap {isSeparator : Char → Bool} (hc : isSeparator c = true)
    (h : Separated isSeparator words cs) : Separated isSeparator words (c :: cs) := by
  cases h with
  | nil hgap => exact .nil (List.forall_mem_cons.mpr ⟨hc, hgap⟩)
  | cons hgap hne hword hrest h =>
    exact .cons (List.forall_mem_cons.mpr ⟨hc, hgap⟩) hne hword hrest h

lemma wordsOf_of_separated (h : Separated isBlank words cs) :
    (wordsOf cs).map String.ofList = words := by
  induction h with
  | @nil gap hgap =>
    have hnone : wordsOf gap = wordsOf [] := by simpa using wordsOf_append_gap hgap []
    rw [hnone]
    rfl
  | @cons gap hgap word hne hword words rest hrest _ ih =>
    have hlist : word.toList ≠ [] := by simpa using hne
    rw [wordsOf_append_gap hgap, wordsOf_append_word hlist hword hrest, List.map_cons, ih,
      String.ofList_toList]

/-- A character that is no separator begins the first word, or a word of its own. -/
lemma Separated.letter {isSeparator : Char → Bool} (hc : isSeparator c = false)
    (h : Separated isSeparator words cs) :
    ∃ words', Separated isSeparator words' (c :: cs) := by
  have hgapless : ∀ d ∈ ([] : List Char), isSeparator d = true := by simp
  by_cases hcs : ∀ d ∈ cs.head?, isSeparator d = true
  · have hword : ∀ d ∈ (String.ofList [c]).toList, isSeparator d = false := by simp [hc]
    have hword := Separated.cons hgapless (by simp) hword hcs h
    rw [String.toList_ofList] at hword
    exact ⟨_, hword⟩
  · cases h with
    | nil hgap => exact absurd (fun d hd => hgap d (List.mem_of_mem_head? hd)) hcs
    | @cons gap hgap word hne hword words rest hrest h =>
      -- a separator cannot follow, so the character goes in front of the first word
      cases gap with
      | cons d gap =>
        refine absurd (fun d hd => hgap d ?_) hcs
        obtain rfl := Option.some.inj hd
        exact List.mem_cons_self
      | nil =>
        have hletters : ∀ d ∈ (String.ofList (c :: word.toList)).toList, isSeparator d = false := by
          simpa [hc] using hword
        have hword := Separated.cons hgapless (by simp) hletters hrest h
        rw [String.toList_ofList] at hword
        exact ⟨_, hword⟩

/-- Every text is made of words. -/
lemma exists_separated (isSeparator : Char → Bool) (cs : List Char) :
    ∃ words, Separated isSeparator words cs := by
  induction cs with
  | nil => exact ⟨[], .nil (by simp)⟩
  | cons c cs ih =>
    obtain ⟨words, h⟩ := ih
    cases hc : isSeparator c with
    | true => exact ⟨words, h.gap hc⟩
    | false => exact h.letter hc

/-- Cutting a text at its blanks finds the words that it is made of. -/
lemma words_eq_iff : Text.words s = words ↔ Separated isBlank words s.toList := by
  constructor
  · rintro rfl
    obtain ⟨words, h⟩ := exists_separated isBlank s.toList
    rwa [Text.words, wordsOf_of_separated h]
  · exact wordsOf_of_separated

end CardDrawing.Text
