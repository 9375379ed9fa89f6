import CardDrawing.Font
import CardDrawing.Value.Conversion
import Mathlib

/-!
# Words that are sizes

A word is a size if it is made of a decimal number, with digits of any script, and of `px` in any
letter case. Whatever such a word is, its number can be read.
-/

namespace CardDrawing

namespace Text

/-- A decimal number is written with digits of any script, and perhaps with places after a point. -/
inductive IsDecimal : List Char → List Char → List Char → Prop where
  | whole {digits : List Char} (hne : digits ≠ []) (hdigits : ∀ c ∈ digits, isDigit c = true) :
      IsDecimal digits digits []
  | pointed {digits places : List Char} (hne : digits ≠ [])
      (hdigits : ∀ c ∈ digits, isDigit c = true) (hne' : places ≠ [])
      (hplaces : ∀ c ∈ places, isDigit c = true) :
      IsDecimal (digits ++ '.' :: places) digits places

variable {c d : Char} {digits places rest before cs number : List Char}

/-! ## Digits of every script -/

lemma isDigit_iff :
    isDigit c = true ↔ ∃ first ∈ digitZeros, first ≤ c.toNat ∧ c.toNat < first + 10 := by
  simp [isDigit, digitValue?, List.find?_isSome]

lemma isDigit_eq_false {low high : ℕ}
    (h : ∀ first ∈ digitZeros, first + 10 ≤ low ∨ high < first) (hle : low ≤ c.toNat)
    (hlt : c.toNat ≤ high) : isDigit c = false := by
  refine eq_false_of_ne_true fun hc => ?_
  obtain ⟨first, hfirst, hfrom, hto⟩ := isDigit_iff.mp hc
  have hapart := h first hfirst
  omega

lemma isDigit_of_letter (hle : 0x41 ≤ c.toNat) (hlt : c.toNat ≤ 0x7a) : isDigit c = false :=
  isDigit_eq_false (by decide) hle hlt

/-- Signs and letters that mean something else in a number than a digit does. -/
def numberMarks : List Char := ['-', '+', '_', '.', 'i', 'n']

lemma notMem_numberMarks (hc : isDigit c = true) : c ∉ numberMarks := by
  intro hmark
  have hcodes : ∀ mark ∈ numberMarks,
      mark.toNat ≤ 0x2e ∨ 0x41 ≤ mark.toNat ∧ mark.toNat ≤ 0x7a := by simp [numberMarks]
  have hother : isDigit c = false := by
    rcases hcodes c hmark with hsign | ⟨hle, hlt⟩
    · exact isDigit_eq_false (by decide) (Nat.zero_le _) hsign
    · exact isDigit_of_letter hle hlt
  rw [hother] at hc
  cases hc

lemma isAround_of_isDigit (hc : isDigit c = true) : isAround c = false := by
  have hapart : ∀ first ∈ digitZeros, 0x20 < first ∧ (first + 10 ≤ 0x85 ∨ 0xa0 < first) ∧
      (first + 10 ≤ 0x1680 ∨ 0x1680 < first) ∧ (first + 10 ≤ 0x2000 ∨ 0x205f < first) ∧
      (first + 10 ≤ 0x3000 ∨ 0x3000 < first) := by decide
  obtain ⟨first, hfirst, hfrom, hto⟩ := isDigit_iff.mp hc
  have hblanks := hapart first hfirst
  have hblank : isBlank c = false := by
    simp only [isBlank, Bool.or_eq_false_iff, Bool.and_eq_false_iff, decide_eq_false_iff_not,
      beq_eq_false_iff_ne]
    omega
  rw [isAround, hblank, Bool.false_and]

/-! ## Letter case -/

lemma toNat_toLower (c : Char) : c.toLower.toNat =
    if 0x41 ≤ c.toNat ∧ c.toNat ≤ 0x5a then c.toNat + 0x20 else c.toNat := by
  have hletter : (c.val ≥ 'A'.val ∧ c.val ≤ 'Z'.val) ↔ 0x41 ≤ c.toNat ∧ c.toNat ≤ 0x5a :=
    and_congr UInt32.le_iff_toNat_le UInt32.le_iff_toNat_le
  unfold Char.toLower
  by_cases h : 0x41 ≤ c.toNat ∧ c.toNat ≤ 0x5a
  · rw [dif_pos (hletter.mpr h), if_pos h]
    change (c.val + 0x20).toNat = _
    rw [UInt32.toNat_add]
    exact Nat.mod_eq_of_lt (Nat.lt_of_le_of_lt (Nat.add_le_add_right h.2 0x20) (by decide))
  · rw [dif_neg (mt hletter.mp h), if_neg h]

lemma toLower_eq_self (h : c.toNat < 0x41 ∨ 0x5a < c.toNat) : c.toLower = c := by
  rw [← Char.toNat_inj, toNat_toLower, if_neg (by omega)]

lemma toLower_of_isDigit (hc : isDigit c = true) : c.toLower = c := by
  apply toLower_eq_self
  by_contra hletter
  rw [isDigit_of_letter (by omega) (by omega)] at hc
  cases hc

/-- Digits are the small form of no other character, nor is the point. -/
lemma toLower_of_plain (h : isDigit c.toLower = true ∨ c.toLower = '.') : c.toLower = c := by
  apply toLower_eq_self
  by_contra hletter
  have hcode := toNat_toLower c
  rw [if_pos (by omega)] at hcode
  rcases h with hdigit | hpoint
  · rw [isDigit_of_letter (by omega) (by omega)] at hdigit
    cases hdigit
  · rw [hpoint] at hcode
    have hpoint : '.'.toNat = 0x2e := rfl
    omega

lemma toLower_eq_iff {small capital : Char} (h : small.toNat = capital.toNat + 0x20)
    (hle : 0x41 ≤ capital.toNat) (hlt : capital.toNat ≤ 0x5a) :
    c.toLower = small ↔ c ∈ [small, capital] := by
  rw [List.mem_cons, List.mem_singleton, ← Char.toNat_inj, ← Char.toNat_inj, ← Char.toNat_inj,
    toNat_toLower]
  split_ifs <;> omega

/-! ## Sizes in lower case -/

/-- The characters that sizes are made of, as runs of code points. -/
def sizeRuns : List (Nat × Nat) :=
  [(0x2e, 0x2e), (0x50, 0x50), (0x58, 0x58), (0x70, 0x70), (0x78, 0x78)] ++
    digitZeros.map fun first => (first, first + 9)

def isOfSizes (c : Char) : Bool := isWithin sizeRuns c

lemma isOfSizes_iff : isOfSizes c = true ↔ isDigit c = true ∨ c ∈ ['.', 'P', 'X', 'p', 'x'] := by
  have hcode (a : Char) : c = a ↔ a.toNat ≤ c.toNat ∧ c.toNat ≤ a.toNat := by
    rw [← Char.toNat_inj]
    omega
  rw [isOfSizes, isWithin, sizeRuns, List.any_append, Bool.or_eq_true, or_comm, isDigit_iff]
  refine or_congr ?_ ?_
  · simp only [List.any_map, List.any_eq_true, Function.comp, Bool.and_eq_true, decide_eq_true_eq,
      Nat.lt_succ_iff]
  · simp [hcode]

lemma toNat_ofNat_or (n : ℕ) : (Char.ofNat n).toNat = n ∨ (Char.ofNat n).toNat = 0 := by
  by_cases hn : n.isValidChar
  · left
    simp [Char.ofNat, hn, Char.toNat, Char.ofNatAux]
  · right
    simp [Char.ofNat, hn]

/-- Whether two runs of code points have none in common. -/
def apart (a b : Nat × Nat) : Bool := Nat.blt a.2 b.1 || Nat.blt b.2 a.1

/-- Other capital letters than those of ASCII are not among them, nor are their small letters. -/
lemma capitals_apart : (capitalRuns.all fun run => Nat.blt run.2.1 0x80 || sizeRuns.all fun size =>
    apart (run.1, run.2.1) size &&
      apart ((run.1 + run.2.2.2).toNat, (run.2.1 + run.2.2.2).toNat) size) = true := by
  decide +kernel

lemma isOfSizes_eq_false (h : ∀ size ∈ sizeRuns, c.toNat < size.1 ∨ size.2 < c.toNat) :
    isOfSizes c = false := by
  refine eq_false_of_ne_true fun hc => ?_
  simp only [isOfSizes, isWithin, List.any_eq_true, Bool.and_eq_true, decide_eq_true_eq] at hc
  obtain ⟨size, hsize, hle, hlt⟩ := hc
  have hout := h size hsize
  omega

lemma isOfSizes_capital {run : ℕ × ℕ × ℕ × ℤ} (hrun : run ∈ capitalRuns) (hc : 0x80 ≤ c.toNat)
    (hle : run.1 ≤ c.toNat) (hlt : c.toNat ≤ run.2.1) :
    isOfSizes c = false ∧ isOfSizes (Char.ofNat (c.toNat + run.2.2.2).toNat) = false := by
  have hapart := List.all_eq_true.mp capitals_apart run hrun
  simp only [Bool.or_eq_true, Nat.blt_eq, List.all_eq_true, Bool.and_eq_true, apart] at hapart
  rcases hapart with hrange | hapart
  · omega
  · constructor
    · refine isOfSizes_eq_false fun size hsize => ?_
      have hout := (hapart size hsize).1
      omega
    · refine isOfSizes_eq_false fun size hsize => ?_
      have hout := (hapart size hsize).2
      have hsizes : ∀ size ∈ sizeRuns, 0 < size.1 := by decide
      have hpositive : 0 < size.1 := hsizes size hsize
      rcases toNat_ofNat_or (c.toNat + run.2.2.2).toNat with hcode | hcode
      · omega
      · omega

lemma isOfSizes_toLower (c : Char) : isOfSizes c.toLower = isOfSizes c := by
  by_cases hletter : 0x41 ≤ c.toNat ∧ c.toNat ≤ 0x5a
  · have hcode := toNat_toLower c
    rw [if_pos hletter] at hcode
    have hcapital : isDigit c = false := isDigit_of_letter (by omega) (by omega)
    have hsmall : isDigit c.toLower = false := isDigit_of_letter (by omega) (by omega)
    rw [Bool.eq_iff_iff, isOfSizes_iff, isOfSizes_iff, hcapital, hsmall]
    simp [← Char.toNat_inj, hcode]
    omega
  · rw [toLower_eq_self (by omega)]

/-- A character that sizes are made of has one small letter, and any other character has one that
is not among them. -/
lemma lowerChar_sizes (c : Char) : (isOfSizes c = true ∧ lowerChar c = [c.toLower]) ∨
    (isOfSizes c = false ∧ ∃ d ∈ lowerChar c, isOfSizes d = false) := by
  unfold lowerChar
  split_ifs with hc hdotted
  · -- a character of ASCII
    have hsame : isOfSizes c.toLower = isOfSizes c := isOfSizes_toLower c
    cases hsize : isOfSizes c with
    | true => exact .inl ⟨rfl, rfl⟩
    | false => exact .inr ⟨rfl, c.toLower, by simp, hsame.trans hsize⟩
  · -- the dotted capital I
    have hcapital : isOfSizes c = false := isOfSizes_eq_false (by rw [hdotted]; decide)
    have hsmall : isOfSizes 'i' = false := isOfSizes_eq_false (by decide)
    exact .inr ⟨hcapital, 'i', by simp, hsmall⟩
  · split
    · -- another capital letter
      next run hrun =>
      have hfound := List.find?_some hrun
      simp only [Bool.and_eq_true, decide_eq_true_eq] at hfound
      obtain ⟨⟨hle, hlt⟩, -⟩ := hfound
      obtain ⟨hcapital, hsmall⟩ :=
        isOfSizes_capital (List.mem_of_find?_eq_some hrun) (not_lt.mp hc) hle hlt
      exact .inr ⟨hcapital, _, List.mem_singleton_self _, hsmall⟩
    · cases hsize : isOfSizes c with
      | true => exact .inl ⟨rfl, by rw [toLower_eq_self (by omega)]⟩
      | false => exact .inr ⟨rfl, c, by simp, hsize⟩

lemma lowerAfter_of_sizes (h : ∀ c ∈ cs, isOfSizes c = true) (before : List Char) :
    lowerAfter before cs = cs.map Char.toLower := by
  induction cs generalizing before with
  | nil => rfl
  | cons c cs ih =>
    obtain ⟨hc, hcs⟩ := List.forall_mem_cons.mp h
    have hsigma : c.toNat ≠ 0x3a3 := by
      intro hcode
      rw [isOfSizes_eq_false (by rw [hcode]; decide)] at hc
      cases hc
    have hsmall : lowerChar c = [c.toLower] := by
      rcases lowerChar_sizes c with ⟨-, hsmall⟩ | ⟨hother, -⟩
      · exact hsmall
      · rw [hother] at hc
        cases hc
    rw [lowerAfter, ih hcs]
    simp [hsigma, hsmall]

lemma forall_isOfSizes (h : ∀ d ∈ lowerAfter before cs, isOfSizes d = true) :
    ∀ c ∈ cs, isOfSizes c = true := by
  induction cs generalizing before with
  | nil => simp
  | cons c cs ih =>
    rw [lowerAfter] at h
    obtain ⟨hsmall, hrest⟩ := List.forall_mem_append.mp h
    refine List.forall_mem_cons.mpr ⟨?_, ih hrest⟩
    rcases lowerChar_sizes c with ⟨hc, -⟩ | ⟨-, d, hd, hother⟩
    · exact hc
    · split_ifs at hsmall
      · -- a sigma at the end of a word has a small form of its own
        have hsigma : isOfSizes (Char.ofNat 0x3c2) = false := isOfSizes_eq_false (by decide)
        rw [hsmall _ List.mem_cons_self] at hsigma
        cases hsigma
      · rw [hsmall d hd] at hother
        cases hother

/-- What sizes are made of stands in a text in lower case just if it stands there letter by
letter. -/
lemma toList_lower_eq_iff {s : String} (h : ∀ d ∈ cs, isOfSizes d = true) :
    (lower s).toList = cs ↔ s.toList.map Char.toLower = cs := by
  rw [lower, String.toList_ofList]
  constructor
  · rintro rfl
    exact (lowerAfter_of_sizes (forall_isOfSizes h) []).symm
  · rintro rfl
    refine lowerAfter_of_sizes (fun c hc => ?_) []
    rw [← isOfSizes_toLower]
    exact h c.toLower (List.mem_map_of_mem hc)

/-! ## Decimal numbers -/

lemma IsDecimal.digit_or_point (h : IsDecimal number digits places) (hc : c ∈ number) :
    isDigit c = true ∨ c = '.' := by
  cases h with
  | whole _ hdigits => exact .inl (hdigits c hc)
  | pointed _ hdigits _ hplaces =>
    rcases List.mem_append.mp hc with hc | hc
    · exact .inl (hdigits c hc)
    · rcases List.mem_cons.mp hc with hpoint | hc
      · exact .inr hpoint
      · exact .inl (hplaces c hc)

lemma IsDecimal.map_toLower_eq_iff (h : IsDecimal number digits places) :
    cs.map Char.toLower = number ↔ cs = number := by
  have hstay {cs : List Char} (hcs : ∀ c ∈ cs, c.toLower = c) : cs.map Char.toLower = cs :=
    (List.map_congr_left hcs).trans (List.map_id' cs)
  constructor
  · rintro rfl
    refine (hstay fun c hc => ?_).symm
    exact toLower_of_plain (h.digit_or_point (List.mem_map_of_mem hc))
  · rintro rfl
    refine hstay fun c hc => ?_
    rcases h.digit_or_point hc with hdigit | rfl
    · exact toLower_of_isDigit hdigit
    · rfl

/-- A number and `px` are in lower case what they are in any letter case. -/
lemma toList_lower_iff {s : String} (h : IsDecimal number digits places) :
    (lower s).toList = number ++ ['p', 'x'] ↔
      ∃ p ∈ ['p', 'P'], ∃ x ∈ ['x', 'X'], s.toList = number ++ [p, x] := by
  have hsizes : ∀ c ∈ number ++ ['p', 'x'], isOfSizes c = true := by
    refine List.forall_mem_append.mpr ⟨fun c hc => ?_, by simp [isOfSizes_iff]⟩
    rcases h.digit_or_point hc with hdigit | hpoint
    · exact isOfSizes_iff.mpr (.inl hdigit)
    · exact isOfSizes_iff.mpr (.inr (by simp [hpoint]))
  have hp {p : Char} : p.toLower = 'p' ↔ p ∈ ['p', 'P'] :=
    toLower_eq_iff rfl (by decide) (by decide)
  have hx {x : Char} : x.toLower = 'x' ↔ x ∈ ['x', 'X'] :=
    toLower_eq_iff rfl (by decide) (by decide)
  rw [toList_lower_eq_iff hsizes]
  constructor
  · intro hword
    obtain ⟨digits', unit, hs, hdigits, hunit⟩ := List.map_eq_append_iff.mp hword
    obtain ⟨p, rest, rfl, hpsmall, hrest⟩ := List.map_eq_cons_iff.mp hunit
    obtain ⟨x, rest, rfl, hxsmall, hrest⟩ := List.map_eq_cons_iff.mp hrest
    obtain rfl := List.map_eq_nil_iff.mp hrest
    rw [h.map_toLower_eq_iff.mp hdigits] at hs
    exact ⟨p, hp.mp hpsmall, x, hx.mp hxsmall, hs⟩
  · rintro ⟨p, hpmem, x, hxmem, hs⟩
    rw [hs, List.map_append, h.map_toLower_eq_iff.mpr rfl, List.map_cons, List.map_singleton,
      hp.mpr hpmem, hx.mpr hxmem]

lemma moreDigits_append (hdigits : ∀ c ∈ digits, isDigit c = true)
    (hrest : ∀ c ∈ rest.head?, isDigit c = false ∧ c ≠ '_') :
    moreDigits (digits ++ rest) = (digits, rest) := by
  induction digits with
  | nil =>
    cases rest with
    | nil => rfl
    | cons c rest =>
      obtain ⟨hc, hne⟩ := hrest c rfl
      simp [moreDigits, hc, hne]
  | cons c digits ih =>
    obtain ⟨hc, hdigits⟩ := List.forall_mem_cons.mp hdigits
    have hne : c ≠ '_' := fun h => notMem_numberMarks hc (by simp [h, numberMarks])
    simp [moreDigits, hc, hne, ih hdigits]

lemma digitRun_append (hdigits : ∀ c ∈ digits, isDigit c = true)
    (hrest : ∀ c ∈ rest.head?, isDigit c = false ∧ c ≠ '_') :
    digitRun (digits ++ rest) = (digits, rest) := by
  cases digits with
  | nil =>
    cases rest with
    | nil => rfl
    | cons c rest => simp [digitRun, (hrest c rfl).1]
  | cons c digits =>
    obtain ⟨hc, hdigits⟩ := List.forall_mem_cons.mp hdigits
    simp [digitRun, hc, moreDigits_append hdigits hrest]

lemma decimalOf_decimal (h : IsDecimal number digits places) : decimalOf false number =
    some (Decimal.ofScientific false (digitsValue (digits ++ places)) (-places.length)) := by
  have hnothing : ∀ c ∈ ([] : List Char).head?, isDigit c = false ∧ c ≠ '_' := by simp
  cases h with
  | whole hne hdigits =>
    have hrun := digitRun_append hdigits hnothing
    rw [List.append_nil] at hrun
    simp [decimalOf, hrun, hne, exponentOf]
  | pointed hne hdigits hne' hplaces =>
    have hpoint : ∀ c ∈ ('.' :: places).head?, isDigit c = false ∧ c ≠ '_' := by
      rintro _ ⟨rfl⟩
      decide
    have hrun := digitRun_append hdigits hpoint
    have hplacesRun := digitRun_append hplaces hnothing
    rw [List.append_nil] at hplacesRun
    simp [decimalOf, hrun, hplacesRun, hne, exponentOf]

lemma numberBody_eq {s : String} (h : ∀ c ∈ s.toList, isAround c = false) :
    numberBody s = s.toList := by
  have hstay {cs : List Char} (h : ∀ c ∈ cs, isAround c = false) :
      cs.dropWhile isAround = cs := by
    cases cs with
    | nil => rfl
    | cons c cs => exact List.dropWhile_cons_of_neg (by simp [h c List.mem_cons_self])
  rw [numberBody, hstay h, hstay (fun c hc => h c (List.mem_reverse.mp hc)), List.reverse_reverse]

lemma signOf_cons (hc : isDigit c = true) : signOf (c :: cs) = (false, c :: cs) := by
  have hminus : c ≠ '-' := fun h => notMem_numberMarks hc (by simp [h, numberMarks])
  have hplus : c ≠ '+' := fun h => notMem_numberMarks hc (by simp [h, numberMarks])
  simp [signOf, hminus, hplus]

lemma IsDecimal.exists_cons (h : IsDecimal number digits places) :
    ∃ c cs, number = c :: cs ∧ isDigit c = true := by
  obtain ⟨hne, hdigits, rest, rfl⟩ : digits ≠ [] ∧ (∀ c ∈ digits, isDigit c = true) ∧
      ∃ rest, number = digits ++ rest := by
    cases h with
    | whole hne hdigits => exact ⟨hne, hdigits, [], (List.append_nil _).symm⟩
    | pointed hne hdigits => exact ⟨hne, hdigits, _, rfl⟩
  obtain ⟨c, cs, rfl⟩ := List.exists_cons_of_ne_nil hne
  exact ⟨c, cs ++ rest, rfl, hdigits c List.mem_cons_self⟩

/-- A decimal number can be read, whatever script its digits are of. -/
lemma toFloat?_decimal {s : String} (h : IsDecimal s.toList digits places) : toFloat? s =
    some (Decimal.ofScientific false (digitsValue (digits ++ places)) (-places.length)) := by
  have haround : ∀ c ∈ s.toList, isAround c = false := by
    intro c hc
    rcases h.digit_or_point hc with hdigit | rfl
    · exact isAround_of_isDigit hdigit
    · decide
  obtain ⟨c, cs, hs, hc⟩ := h.exists_cons
  have hsign : signOf (numberBody s) = (false, s.toList) := by
    rw [numberBody_eq haround, hs, signOf_cons hc]
  -- what begins with a digit is no infinity and not no number
  have hword {first : Char} (hmark : first ∈ numberMarks) (others : List Char) :
      String.ofList (s.toList.map Char.toLower) ≠ String.ofList (first :: others) := by
    intro heq
    rw [String.ofList_inj, hs, List.map_cons, toLower_of_isDigit hc] at heq
    obtain ⟨rfl, -⟩ := List.cons.inj heq
    exact notMem_numberMarks hc hmark
  have hinf : String.ofList (s.toList.map Char.toLower) ≠ "inf" := hword (by decide) ['n', 'f']
  have hinfinity : String.ofList (s.toList.map Char.toLower) ≠ "infinity" :=
    hword (by decide) ['n', 'f', 'i', 'n', 'i', 't', 'y']
  have hnan : String.ofList (s.toList.map Char.toLower) ≠ "nan" := hword (by decide) ['a', 'n']
  unfold toFloat?
  rw [hsign]
  simp only [hinf, hinfinity, hnan, Bool.or_self, decide_false, Bool.false_eq_true,
    ite_false, decimalOf_decimal h]

end Text

namespace Font
open Text (IsDecimal)

variable {word number : String} {x : Float}

/-- The word is a size whose number is written like this. -/
def SpellsSize (word number : String) : Prop :=
  (∃ digits places, IsDecimal number.toList digits places) ∧
    ∃ p ∈ ['p', 'P'], ∃ x ∈ ['x', 'X'], word.toList = number.toList ++ [p, x]

lemma cut_digits {digits rest : List Char} (hdigits : ∀ c ∈ digits, Text.isDigit c = true)
    (hrest : ∀ c ∈ rest.head?, Text.isDigit c = false) :
    (digits ++ rest).takeWhile Text.isDigit = digits ∧
      (digits ++ rest).dropWhile Text.isDigit = rest := by
  rw [List.takeWhile_append_of_pos hdigits, List.dropWhile_append_of_pos hdigits]
  cases rest with
  | nil => simp
  | cons c rest =>
    have hc : Text.isDigit c = false := hrest c rfl
    simp [hc]

lemma sizeOf?_decimal {digits places : List Char} (h : IsDecimal number.toList digits places)
    (hword : (Text.lower word).toList = number.toList ++ ['p', 'x']) : sizeOf? word =
      some (Decimal.ofScientific false (Text.digitsValue (digits ++ places)) (-places.length)) := by
  have hunit : ∀ c ∈ ['p', 'x'].head?, Text.isDigit c = false := by
    rintro _ ⟨rfl⟩
    exact Text.isDigit_of_letter (by decide) (by decide)
  generalize hn : number.toList = cs at h hword
  cases h with
  | whole hne hdigits =>
    obtain ⟨htake, hdrop⟩ := cut_digits hdigits hunit
    rw [← hword] at htake hdrop
    unfold sizeOf?
    simp [htake, hdrop, hne]
  | pointed hne hdigits hne' hplaces =>
    obtain ⟨htake, hdrop⟩ := cut_digits hplaces hunit
    have hpoint : ∀ c ∈ ('.' :: (places ++ ['p', 'x'])).head?, Text.isDigit c = false := by
      rintro _ ⟨rfl⟩
      decide
    obtain ⟨htake', hdrop'⟩ := cut_digits hdigits hpoint
    rw [List.append_assoc, List.cons_append] at hword
    rw [← hword] at htake' hdrop'
    unfold sizeOf?
    simp [htake, hdrop, htake', hdrop', hne, hne']

lemma exists_decimal (h : sizeOf? word = some x) : ∃ number digits places,
    IsDecimal number digits places ∧ (Text.lower word).toList = number ++ ['p', 'x'] := by
  unfold sizeOf? at h
  dsimp only at h
  have hcut {cs : List Char} : cs.takeWhile Text.isDigit ++ cs.dropWhile Text.isDigit = cs :=
    List.takeWhile_append_dropWhile
  have hdigits {cs : List Char} : ∀ c ∈ cs.takeWhile Text.isDigit, Text.isDigit c = true :=
    fun c => List.mem_takeWhile_imp
  split_ifs at h with hempty
  have hne : (Text.lower word).toList.takeWhile Text.isDigit ≠ [] := by simpa using hempty
  split at h
  · next hrest => exact ⟨_, _, _, .whole hne hdigits, by rw [← hrest, hcut]⟩
  · next more hrest =>
    split_ifs at h with hplaces
    simp only [Bool.and_eq_true, Bool.not_eq_true', List.isEmpty_eq_false_iff,
      decide_eq_true_eq] at hplaces
    refine ⟨_, _, _, .pointed hne hdigits hplaces.1 hdigits, ?_⟩
    rw [List.append_assoc, List.cons_append, ← hplaces.2, hcut, ← hrest, hcut]
  · cases h

/-- A word is read as a size just if it is one, and as the size that its number stands for. -/
lemma sizeOf?_eq_some_iff : sizeOf? word = some x ↔
    ∃ number, SpellsSize word number ∧ Text.toFloat? number = some x := by
  constructor
  · intro h
    obtain ⟨number, digits, places, hdecimal, hword⟩ := exists_decimal h
    have hnumber : (String.ofList number).toList = number := String.toList_ofList
    rw [← hnumber] at hdecimal hword
    refine ⟨String.ofList number, ⟨⟨digits, places, hdecimal⟩, ?_⟩, ?_⟩
    · exact (Text.toList_lower_iff hdecimal).mp hword
    · rw [Text.toFloat?_decimal hdecimal, ← sizeOf?_decimal hdecimal hword, h]
  · rintro ⟨number, ⟨⟨digits, places, hdecimal⟩, hword⟩, hread⟩
    rw [sizeOf?_decimal hdecimal ((Text.toList_lower_iff hdecimal).mpr hword),
      ← Text.toFloat?_decimal hdecimal, hread]

end Font

end CardDrawing
