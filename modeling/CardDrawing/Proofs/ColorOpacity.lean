import CardDrawing.Color.Reader
import CardDrawing.Proofs.NearestDoubles

/-!
# Opacities of colors

The opacity of a color is taken as it is written, and may be larger than a byte. A text that can be
a color is so short that a double holds it all the same.
-/

namespace CardDrawing.Proofs
open Color

/-! ## Numbers that doubles hold -/

lemma ten_pow_le {m n : ℕ} (h : m ≤ n) : 10 ^ m ≤ 10 ^ n := Nat.pow_le_pow_right (by decide) h

lemma byte_lt : 255 < 10 ^ 200 := (by decide : 255 < 10 ^ 3).trans_le (ten_pow_le (by decide))

/-- Numbers with at most 200 decimal digits are held by doubles. -/
lemma exists_floatOfInt {n : ℤ} (h : n.natAbs < 10 ^ 200) : ∃ x, Number.floatOfInt n = .ok x := by
  have hdigits : 10 ^ 200 ≤ 2 ^ 1023 := by
    calc 10 ^ 200 ≤ (2 ^ 5) ^ 200 := Nat.pow_le_pow_left (by decide) 200
      _ = 2 ^ (5 * 200) := (pow_mul ..).symm
      _ ≤ 2 ^ 1023 := pow_le_pow_right₀ one_le_two (by decide)
  obtain ⟨x, hx⟩ := exists_ofInt? (h.trans_le hdigits)
  unfold Number.floatOfInt
  rw [hx]
  exact ⟨x, rfl⟩

/-! ## Numbers as they are written -/

lemma digitValue?_lt {c : Char} {n : ℕ} (h : Text.digitValue? c = some n) : n < 10 := by
  obtain ⟨first, hfirst, rfl⟩ := Option.map_eq_some_iff.mp h
  have hrange := List.find?_some hfirst
  simp only [Bool.and_eq_true, decide_eq_true_eq] at hrange
  omega

/-- A number that gets at most one digit longer with every character. -/
lemma foldl_lt {step : ℕ → Char → ℕ} (hstep : ∀ n c, step n c < 10 * (n + 1)) (cs : List Char)
    (n : ℕ) : cs.foldl step n < (n + 1) * 10 ^ cs.length := by
  induction cs generalizing n with
  | nil => simp
  | cons c cs ih =>
    rw [List.foldl_cons, List.length_cons, Nat.pow_succ', ← Nat.mul_assoc, Nat.mul_comm (n + 1)]
    exact (ih _).trans_le (Nat.mul_le_mul_right _ (hstep n c))

lemma digitsValue_lt (cs : List Char) : Text.digitsValue cs < 10 ^ cs.length := by
  refine (foldl_lt (fun n c => ?_) cs 0).trans_eq (by rw [Nat.zero_add, Nat.one_mul])
  cases hd : Text.digitValue? c with
  | some d =>
    have := digitValue?_lt hd
    simp only
    omega
  | none =>
    simp only
    omega

lemma toNat_le_toNat {c d : Char} (h : c ≤ d) : c.toNat ≤ d.toNat := UInt32.le_iff_toNat_le.mp h

lemma hexValue?_lt {c : Char} {n : ℕ} (h : Text.hexValue? c = some n) : n < 16 := by
  unfold Text.hexValue? Text.isAsciiDigit at h
  simp only [Bool.and_eq_true, decide_eq_true_eq] at h
  split_ifs at h with hdigit hsmall hcapital
  · have hle : c.toNat ≤ 57 := toNat_le_toNat hdigit.2
    have hzero : '0'.toNat = 48 := rfl
    obtain rfl := Option.some.inj h
    omega
  · have hle : c.toNat ≤ 102 := toNat_le_toNat hsmall.2
    have ha : 'a'.toNat = 97 := rfl
    obtain rfl := Option.some.inj h
    omega
  · have hle : c.toNat ≤ 70 := toNat_le_toNat hcapital.2
    have ha : 'A'.toNat = 65 := rfl
    obtain rfl := Option.some.inj h
    omega

lemma hexNumber?_lt {a b : Char} {n : ℕ} (h : Text.hexNumber? [a, b] = some n) : n < 256 := by
  rw [Text.hexNumber?, List.foldlM_cons] at h
  obtain ⟨high, hhigh, h⟩ := Option.bind_eq_some_iff.mp h
  rw [List.foldlM_cons] at h
  obtain ⟨low, hlow, h⟩ := Option.bind_eq_some_iff.mp h
  obtain ⟨m, hm, rfl⟩ := Option.map_eq_some_iff.mp hhigh
  obtain ⟨m', hm', rfl⟩ := Option.map_eq_some_iff.mp hlow
  obtain rfl := Option.some.inj h
  have := hexValue?_lt hm
  have := hexValue?_lt hm'
  omega

/-- What is read is bounded by the length of its text, and what follows is no longer. -/
def Bounded (read : Reading ℕ) : Prop :=
  ∀ ⦃cs n rest⦄, read cs = some (n, rest) → n < 10 ^ cs.length ∧ rest.length ≤ cs.length

lemma bounded_whole : Bounded whole := by
  intro cs n rest h
  unfold whole at h
  split at h
  · cases h
  · obtain ⟨rfl, rfl⟩ := Prod.mk.inj (Option.some.inj h)
    exact ⟨(digitsValue_lt _).trans_le (ten_pow_le (List.takeWhile_sublist _).length_le),
      List.length_dropWhile_le ..⟩

lemma length_stripStart (cs : List Char) : (Text.stripStart cs).length ≤ cs.length :=
  List.length_dropWhile_le ..

lemma bounded_spaced {read : Reading ℕ} (h : Bounded read) : Bounded (spaced read) := by
  intro cs n rest hread
  obtain ⟨⟨m, after⟩, hm, hread⟩ := Option.bind_eq_some_iff.mp hread
  obtain ⟨rfl, rfl⟩ := Prod.mk.inj (Option.some.inj hread)
  obtain ⟨hn, hrest⟩ := h hm
  exact ⟨hn.trans_le (ten_pow_le (length_stripStart cs)),
    (length_stripStart after).trans (hrest.trans (length_stripStart cs))⟩

lemma lt_of_arguments? {reads : List (Reading ℕ)} (hreads : ∀ read ∈ reads, Bounded read)
    {cs : List Char} {ns : List ℕ} (h : arguments? reads cs = some ns) {n : ℕ} (hn : n ∈ ns) :
    n < 10 ^ cs.length := by
  induction reads, cs using arguments?.induct generalizing ns with
  | case1 => cases h
  | case2 read cs m hm =>
    simp only [arguments?, hm] at h
    obtain rfl := Option.some.inj h
    obtain rfl := List.mem_singleton.mp hn
    exact (bounded_spaced (hreads read List.mem_cons_self) hm).1
  | case3 read cs hclosed =>
    simp only [arguments?] at h
    cases h
  | case4 read others cs hothers m rest hm ih =>
    simp only [arguments?, hm] at h
    obtain ⟨ms, hms, rfl⟩ := Option.map_eq_some_iff.mp h
    obtain ⟨hfirst, hrest⟩ := bounded_spaced (hreads read List.mem_cons_self) hm
    rcases List.mem_cons.mp hn with rfl | hn
    · exact hfirst
    · have hlater := ih (fun read hread => hreads read (List.mem_cons_of_mem _ hread)) hms hn
      exact hlater.trans_le (ten_pow_le (Nat.le_of_succ_le hrest))
  | case5 read others cs hothers hcomma =>
    simp only [arguments?] at h
    cases h

lemma lt_of_call? {name : String} {reads : List (Reading ℕ)} (hreads : ∀ read ∈ reads, Bounded read)
    {cs : List Char} {ns : List ℕ} (h : call? name reads cs = some ns) {n : ℕ} (hn : n ∈ ns) :
    n < 10 ^ cs.length := by
  unfold call? at h
  dsimp only at h
  split_ifs at h
  exact (lt_of_arguments? hreads h hn).trans_le (ten_pow_le (List.drop_sublist ..).length_le)

/-! ## Colors -/

lemma length_lowerChar (c : Char) : (Text.lowerChar c).length ≤ 2 := by
  unfold Text.lowerChar
  split_ifs
  · exact one_le_two
  · exact le_rfl
  · split
    · exact one_le_two
    · exact one_le_two

lemma length_lowerAfter (before cs : List Char) :
    (Text.lowerAfter before cs).length ≤ 2 * cs.length := by
  induction cs generalizing before with
  | nil => exact le_rfl
  | cons c cs ih =>
    have hrest := ih (c :: before)
    have hsmall := length_lowerChar c
    rw [Text.lowerAfter, List.length_append, List.length_cons]
    split_ifs
    · rw [List.length_singleton]
      omega
    · omega

lemma length_lower (s : String) : (Text.lower s).toList.length ≤ 2 * s.length := by
  rw [Text.lower, String.toList_ofList]
  exact length_lowerAfter [] s.toList

/-- An opacity that doubles hold: that of opaque colors, or one that is written in a text of some
length. -/
def Held (length : ℕ) (c : Rgba) : Prop := c.a.natAbs < max 256 (10 ^ length)

lemma held_opaque {length : ℕ} {c : Rgba} (h : c.a = 255) : Held length c := by
  rw [Held, h]
  exact lt_max_of_lt_left (by decide)

lemma held_named {name : String} {c : Rgba} (h : named? name = some c) (length : ℕ) :
    Held length c := by
  obtain ⟨n, -, rfl⟩ := Option.map_eq_some_iff.mp h
  exact held_opaque rfl

/-- The opacity does not depend on the other channels. -/
lemma exists_channels {r? g? b? : Option ℤ} {f : ℤ → ℤ → ℤ → Option Rgba} {c : Rgba}
    (h : (do f (← r?) (← g?) (← b?)) = some c) : ∃ r g b, f r g b = some c := by
  obtain ⟨r, -, h⟩ := Option.bind_eq_some_iff.mp h
  obtain ⟨g, -, h⟩ := Option.bind_eq_some_iff.mp h
  obtain ⟨b, -, h⟩ := Option.bind_eq_some_iff.mp h
  exact ⟨r, g, b, h⟩

lemma held_ofShares {shares : Float × Float × Float} {c : Rgba} (h : ofShares shares = some c)
    (length : ℕ) : Held length c := by
  obtain ⟨r, g, b, h⟩ := exists_channels h
  obtain rfl := Option.some.inj h
  exact held_opaque rfl

lemma held_hexadecimal {digits : List Char} {c : Rgba} (h : hexadecimal? digits = some c)
    (length : ℕ) : Held length c := by
  unfold hexadecimal? at h
  dsimp only at h
  split at h
  · obtain ⟨r, g, b, h⟩ := exists_channels h
    obtain rfl := Option.some.inj h
    exact held_opaque rfl
  · obtain ⟨r, g, b, h⟩ := exists_channels h
    obtain ⟨a, ha, h⟩ := Option.bind_eq_some_iff.mp h
    obtain rfl := Option.some.inj h
    obtain ⟨digit, hdigit, rfl⟩ := Option.map_eq_some_iff.mp ha
    obtain ⟨n, hn, hdigit⟩ := Option.bind_eq_some_iff.mp hdigit
    obtain rfl := Option.some.inj hdigit
    have hlt := hexValue?_lt hn
    have hbyte : (17 * (n : ℤ)).natAbs < 256 := by omega
    exact lt_max_of_lt_left hbyte
  · obtain ⟨r, g, b, h⟩ := exists_channels h
    obtain rfl := Option.some.inj h
    exact held_opaque rfl
  · obtain ⟨r, g, b, h⟩ := exists_channels h
    obtain ⟨a, ha, h⟩ := Option.bind_eq_some_iff.mp h
    obtain rfl := Option.some.inj h
    obtain ⟨n, hn, rfl⟩ := Option.map_eq_some_iff.mp ha
    exact lt_max_of_lt_left (hexNumber?_lt hn)
  · cases h

lemma held_called {cs : List Char} {c : Rgba} (h : called? cs = some c) : Held cs.length c := by
  unfold called? at h
  split at h
  · obtain rfl := Option.some.inj h
    exact held_opaque rfl
  split at h
  · obtain ⟨r, g, b, h⟩ := exists_channels h
    obtain rfl := Option.some.inj h
    exact held_opaque rfl
  split at h
  next r g b a harguments =>
    obtain rfl := Option.some.inj h
    have hbounded : ∀ read ∈ [whole, whole, whole, whole], Bounded read := by
      simp [bounded_whole]
    exact lt_max_of_lt_right (lt_of_call? hbounded harguments (by simp))
  split at h
  · exact held_ofShares h cs.length
  split at h
  · exact held_ofShares h cs.length
  · cases h

/-- The opacity of a color that a text stands for is held by a double. -/
lemma exists_opacity {s : String} {c : Rgba} (h : ofText? s = some c) :
    ∃ x, Number.floatOfInt c.a = .ok x := by
  unfold ofText? at h
  split_ifs at h with hlength
  have hheld : Held (Text.lower s).toList.length c := by
    dsimp only at h
    split at h
    · exact held_hexadecimal h _
    · cases hnamed : named? (Text.lower s) with
      | some named =>
        rw [hnamed] at h
        obtain rfl := Option.some.inj h
        exact held_named hnamed _
      | none =>
        rw [hnamed] at h
        exact held_called h
  have hlower : (Text.lower s).toList.length ≤ 200 := by
    have := length_lower s
    unfold lengthLimit at hlength
    omega
  exact exists_floatOfInt (hheld.trans_le (max_le byte_lt (ten_pow_le hlower)))

end CardDrawing.Proofs
