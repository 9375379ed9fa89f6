import CardDrawing.Text.Utf8
import Mathlib

/-!
# Texts as bytes

The bytes of a text are those of its characters, one after another, and reading them gives the
characters back.
-/

namespace CardDrawing.Text

/-! ## Writing bytes -/

lemma toList_loop (bytes : ByteArray) (i : ℕ) (before : List UInt8) :
    ByteArray.toList.loop bytes i before = before.reverse ++ bytes.data.toList.drop i := by
  fun_induction ByteArray.toList.loop bytes i before with
  | case1 i before hi ih =>
    have hlength : i < bytes.data.toList.length := by simpa using hi
    rw [ih, List.drop_eq_getElem_cons hlength]
    simp [ByteArray.get!, hi]
  | case2 i before hi =>
    have hnone : bytes.data.toList.drop i = [] := List.drop_eq_nil_of_le (by simpa using hi)
    simp [hnone]

lemma encodeUtf8_eq (s : String) : encodeUtf8 s = s.toList.flatMap String.utf8EncodeChar := by
  have hbytes : s.toByteArray = (s.toList.flatMap String.utf8EncodeChar).toByteArray := by
    conv_lhs => rw [← String.ofList_toList (s := s)]
    rfl
  rw [encodeUtf8, String.toUTF8_eq_toByteArray, hbytes, ByteArray.toList, toList_loop]
  simp

/-! ## Reading them -/

variable {n v : ℕ}

lemma toNat_byte (hn : n < 256) : (UInt8.ofNat n).toNat = n := by
  simp [Nat.mod_eq_of_lt hn]

lemma utf8Lead?_two (hlow : 0xc2 ≤ n) (hhigh : n < 0xe0) :
    utf8Lead? n = some ⟨1, n - 0xc0, 0x80, 0xbf⟩ := by
  unfold utf8Lead?
  rw [if_neg (by omega), if_neg (by omega), if_pos hhigh]

/-- The first of three bytes: those below `0x800` and those kept for surrogates are left out by the
second one. -/
lemma utf8Lead?_three (hlow : 0xe0 ≤ n) (hhigh : n < 0xf0) :
    utf8Lead? n = some ⟨2, n - 0xe0, if n = 0xe0 then 0xa0 else 0x80,
      if n = 0xed then 0x9f else 0xbf⟩ := by
  unfold utf8Lead?
  rw [if_neg (by omega), if_neg (by omega), if_neg (by omega)]
  by_cases hfirst : n = 0xe0
  · subst hfirst
    rfl
  · by_cases hsurrogate : n = 0xed
    · subst hsurrogate
      rfl
    · rw [if_neg hfirst, if_neg hsurrogate, if_pos hhigh, if_neg hfirst, if_neg hsurrogate]

/-- The first of four bytes: those below `0x10000` and those above the last character are left out
by the second one. -/
lemma utf8Lead?_four (hlow : 0xf0 ≤ n) (hhigh : n ≤ 0xf4) :
    utf8Lead? n = some ⟨3, n - 0xf0, if n = 0xf0 then 0x90 else 0x80,
      if n = 0xf4 then 0x8f else 0xbf⟩ := by
  interval_cases n <;> rfl

lemma utf8Continue_succ {size bits count least largest : ℕ} (hn : n < 256) (hleast : least ≤ n)
    (hlargest : n ≤ largest) (rest : Bytes) :
    utf8Continue size bits (count + 1) least largest (UInt8.ofNat n :: rest) =
      utf8Continue (size + 1) (bits * 64 + (n - 0x80)) count 0x80 0xbf rest := by
  rw [utf8Continue, toNat_byte hn]
  simp [hleast, hlargest]

lemma utf8Continue_six {size bits count : ℕ} (hv : v < 64) (rest : Bytes) :
    utf8Continue size bits (count + 1) 0x80 0xbf (UInt8.ofNat (v + 0x80) :: rest) =
      utf8Continue (size + 1) (bits * 64 + v) count 0x80 0xbf rest := by
  rw [utf8Continue_succ (by omega) (by omega) (by omega), Nat.add_sub_cancel]

lemma utf8Piece_one (hv : v ≤ 0x7f) (rest : Bytes) :
    utf8Piece (UInt8.ofNat v) rest = .char (Char.ofNat v) 1 := by
  have hlead : utf8Lead? v = some ⟨0, v, 0, 0⟩ := if_pos (by omega)
  rw [utf8Piece, toNat_byte (by omega), hlead]
  rfl

lemma utf8Piece_two (hlow : 0x7f < v) (hhigh : v ≤ 0x7ff) (rest : Bytes) :
    utf8Piece (UInt8.ofNat (v / 64 % 0x20 + 0xc0)) (UInt8.ofNat (v % 0x40 + 0x80) :: rest) =
      .char (Char.ofNat v) 2 := by
  have hbits : (v / 64 % 0x20 + 0xc0 - 0xc0) * 64 + v % 0x40 = v := by omega
  rw [utf8Piece, toNat_byte (by omega), utf8Lead?_two (by omega) (by omega)]
  dsimp only
  rw [utf8Continue_six (by omega), utf8Continue, hbits]

lemma utf8Piece_three (hlow : 0x7ff < v) (hhigh : v ≤ 0xffff) (hvalid : v < 0xd800 ∨ 0xdfff < v)
    (rest : Bytes) :
    utf8Piece (UInt8.ofNat (v / 4096 % 0x10 + 0xe0))
        (UInt8.ofNat (v / 64 % 0x40 + 0x80) :: UInt8.ofNat (v % 0x40 + 0x80) :: rest) =
      .char (Char.ofNat v) 3 := by
  have hbits : ((v / 4096 % 0x10 + 0xe0 - 0xe0) * 64 + (v / 64 % 0x40 + 0x80 - 0x80)) * 64 +
      v % 0x40 = v := by omega
  rw [utf8Piece, toNat_byte (by omega), utf8Lead?_three (by omega) (by omega)]
  dsimp only
  rw [utf8Continue_succ (by omega) (by split_ifs <;> omega) (by split_ifs <;> omega),
    utf8Continue_six (by omega), utf8Continue, hbits]

lemma utf8Piece_four (hlow : 0xffff < v) (hhigh : v < 0x110000) (rest : Bytes) :
    utf8Piece (UInt8.ofNat (v / 262144 % 0x08 + 0xf0))
        (UInt8.ofNat (v / 4096 % 0x40 + 0x80) :: UInt8.ofNat (v / 64 % 0x40 + 0x80) ::
          UInt8.ofNat (v % 0x40 + 0x80) :: rest) = .char (Char.ofNat v) 4 := by
  have hbits : (((v / 262144 % 0x08 + 0xf0 - 0xf0) * 64 + (v / 4096 % 0x40 + 0x80 - 0x80)) * 64 +
      v / 64 % 0x40) * 64 + v % 0x40 = v := by omega
  rw [utf8Piece, toNat_byte (by omega), utf8Lead?_four (by omega) (by omega)]
  dsimp only
  rw [utf8Continue_succ (by omega) (by split_ifs <;> omega) (by split_ifs <;> omega),
    utf8Continue_six (by omega), utf8Continue_six (by omega), utf8Continue, hbits]

/-- The bytes of a character are read as that character, whatever comes after them. -/
lemma utf8Piece_utf8EncodeChar (c : Char) (rest : Bytes) :
    ∃ first others, String.utf8EncodeChar c = first :: others ∧
      utf8Piece first (others ++ rest) = .char c (others.length + 1) := by
  have hvalid : c.val.toNat < 0xd800 ∨ 0xdfff < c.val.toNat ∧ c.val.toNat < 0x110000 := c.valid
  have hchar : Char.ofNat c.val.toNat = c := Char.ofNat_toNat c
  unfold String.utf8EncodeChar
  dsimp only
  split_ifs with hone htwo hthree
  · refine ⟨_, _, rfl, ?_⟩
    rw [utf8Piece_one hone, hchar]
    rfl
  · refine ⟨_, _, rfl, ?_⟩
    rw [List.cons_append, List.nil_append, utf8Piece_two (by omega) htwo, hchar]
    rfl
  · refine ⟨_, _, rfl, ?_⟩
    rw [List.cons_append, List.cons_append, List.nil_append,
      utf8Piece_three (by omega) hthree (by omega), hchar]
    rfl
  · refine ⟨_, _, rfl, ?_⟩
    rw [List.cons_append, List.cons_append, List.cons_append, List.nil_append,
      utf8Piece_four (by omega) (by omega), hchar]
    rfl

lemma decodeUtf8Lossy_utf8EncodeChar (c : Char) (rest : Bytes) :
    decodeUtf8Lossy (String.utf8EncodeChar c ++ rest) = c :: decodeUtf8Lossy rest := by
  obtain ⟨first, others, hbytes, hpiece⟩ := utf8Piece_utf8EncodeChar c rest
  rw [hbytes, List.cons_append, decodeUtf8Lossy, hpiece]
  simp

/-- The bytes of a text are read as its characters. -/
lemma decodeUtf8Lossy_encodeUtf8 (s : String) : decodeUtf8Lossy (encodeUtf8 s) = s.toList := by
  rw [encodeUtf8_eq]
  induction s.toList with
  | nil => simp [decodeUtf8Lossy]
  | cons c rest ih => rw [List.flatMap_cons, decodeUtf8Lossy_utf8EncodeChar, ih]

end CardDrawing.Text
