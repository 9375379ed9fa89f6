import CardDrawing.Proofs.UrlParts
import CardDrawing.Proofs.Utf8Coding

/-!
# Urls of files

A `file` url names the file whose path it spells, whichever characters of the path are escaped
beyond those that have to be, and the bare path names the same file.
-/

namespace CardDrawing

namespace Url

/-- What the path of a url may show as it is, besides slashes. -/
def isPlain (c : Char) : Bool :=
  Text.isAsciiLetter c || Text.isAsciiDigit c || ['_', '.', '-', '~'].contains c

/-- The two hexadecimal digits of a byte, each with a capital or a small letter. -/
structure SpellsByte (b : UInt8) (high low : Char) : Prop where
  high : high.toLower = Nat.digitChar (b.toNat / 16)
  low : low.toLower = Nat.digitChar (b.toNat % 16)

/-- Bytes as the path of a url spells them: a slash stays, a plain character may stay, and every
other byte is escaped. -/
inductive Escapes : Text.Bytes → List Char → Prop where
  | nil : Escapes [] []
  | slash {bytes : Text.Bytes} {cs : List Char} (h : Escapes bytes cs) :
      Escapes (0x2f :: bytes) ('/' :: cs)
  | shown {b : UInt8} {c : Char} (hc : isPlain c = true) (hb : b.toNat = c.toNat)
      {bytes : Text.Bytes} {cs : List Char} (h : Escapes bytes cs) : Escapes (b :: bytes) (c :: cs)
  | escaped {b : UInt8} {high low : Char} (hslash : b ≠ 0x2f) (hb : SpellsByte b high low)
      {bytes : Text.Bytes} {cs : List Char} (h : Escapes bytes cs) :
      Escapes (b :: bytes) ('%' :: high :: low :: cs)

/-- What the path of a url is made of. -/
def isPathChar (c : Char) : Bool := isPlain c || c = '/' || c = '%'

end Url

namespace Proofs
open Url

/-! ## Characters of a path -/

variable {c : Char} {cs : List Char} {bytes : Text.Bytes} {k : ℕ}

lemma toNat_lt_of_toLower (h : c.toLower.toNat < 0x80) : c.toNat < 0x80 := by
  unfold Char.toLower at h
  split at h
  · rename_i hcapital
    have hZ : c.toNat ≤ 'Z'.toNat := hcapital.2
    exact lt_of_le_of_lt hZ (by decide)
  · exact h

/-- A digit or a letter, capital or small, counts for the digit that it spells. -/
lemma hexDigit_spelled (hk : k < 16) (h : c.toLower = Nat.digitChar k) :
    Text.hexValue? c = some k ∧ isPlain c = true := by
  have htable : ∀ n < 0x80, ∀ k < 16, (Char.ofNat n).toLower = Nat.digitChar k →
      Text.hexValue? (Char.ofNat n) = some k ∧ isPlain (Char.ofNat n) = true := by
    decide +kernel
  have hascii : ∀ k < 16, (Nat.digitChar k).toNat < 0x80 := by decide
  have hc : c.toNat < 0x80 := toNat_lt_of_toLower (h ▸ hascii k hk)
  have hread := htable c.toNat hc k hk
  rw [Char.ofNat_toNat] at hread
  exact hread h

lemma isAscii_of_isPathChar (h : isPathChar c = true) : isAscii c = true := by
  have hletter (low high : Char) (hhigh : high.toNat < 0x80) (hc : low ≤ c ∧ c ≤ high) :
      c.toNat < 0x80 := lt_of_le_of_lt (show c.toNat ≤ high.toNat from hc.2) hhigh
  refine decide_eq_true ?_
  simp only [isPathChar, isPlain, Text.isAsciiLetter, Text.isAsciiDigit, Bool.or_eq_true,
    Bool.and_eq_true, decide_eq_true_eq, List.contains_iff_mem, List.mem_cons, List.not_mem_nil,
    or_false] at h
  rcases h with ((((hc | hc) | hc) | rfl | rfl | rfl | rfl) | rfl) | rfl
  · exact hletter _ _ (by decide) hc
  · exact hletter _ _ (by decide) hc
  · exact hletter _ _ (by decide) hc
  all_goals decide

/-- What a path is made of is no delimiter of a url. -/
lemma ne_of_isPathChar {d : Char} (h : isPathChar c = true) (hd : isPathChar d = false) :
    c ≠ d := by
  rintro rfl
  rw [h] at hd
  cases hd

lemma isPathChar_of_escapes (h : Escapes bytes cs) : ∀ c ∈ cs, isPathChar c = true := by
  have hplain {c : Char} (hc : isPlain c = true) : isPathChar c = true := by
    simp [isPathChar, hc]
  induction h with
  | nil => simp
  | slash _ ih => exact List.forall_mem_cons.mpr ⟨by decide, ih⟩
  | shown hc _ _ ih => exact List.forall_mem_cons.mpr ⟨hplain hc, ih⟩
  | @escaped b high low _ hb _ _ _ ih =>
    have hhigh : high.toLower = Nat.digitChar (b.toNat / 16) := hb.high
    have hlow : low.toLower = Nat.digitChar (b.toNat % 16) := hb.low
    have hlt := b.toNat_lt
    refine List.forall_mem_cons.mpr ⟨by decide, List.forall_mem_cons.mpr ⟨?_, ?_⟩⟩
    · exact hplain (hexDigit_spelled (by omega) hhigh).2
    · exact List.forall_mem_cons.mpr ⟨hplain (hexDigit_spelled (by omega) hlow).2, ih⟩

/-! ## Undoing the escapes -/

lemma unescape_cons (hc : c ≠ '%') (cs : List Char) :
    unescape (c :: cs) = UInt8.ofNat c.toNat :: unescape cs := by
  rw [unescape]
  simp [hc]

lemma unescape_escaped {b : UInt8} {high low : Char} (h : SpellsByte b high low)
    (cs : List Char) : unescape ('%' :: high :: low :: cs) = b :: unescape cs := by
  have hlt := b.toNat_lt
  obtain ⟨hhigh, -⟩ := hexDigit_spelled (by omega) h.high
  obtain ⟨hlow, -⟩ := hexDigit_spelled (by omega) h.low
  have hvalue : 16 * (b.toNat / 16) + b.toNat % 16 = b.toNat := Nat.div_add_mod _ _
  have hnumber : Text.hexNumber? [high, low] = some b.toNat := by
    simp [Text.hexNumber?, hhigh, hlow, hvalue]
  rw [unescape, hnumber]
  simp

lemma unescape_of_escapes (h : Escapes bytes cs) : unescape cs = bytes := by
  induction h with
  | nil => rfl
  | slash _ ih =>
    rw [unescape_cons (by decide), ih]
    rfl
  | @shown b c hc hb _ _ _ ih =>
    have hne : c ≠ '%' := by
      rintro rfl
      cases hc
    rw [unescape_cons hne, ih, ← hb, UInt8.ofNat_toNat]
  | escaped _ hb _ ih => rw [unescape_escaped hb, ih]

lemma decode_of_isAscii (h : ∀ c ∈ cs, isAscii c = true) :
    decode cs = Text.decodeUtf8Lossy (unescape cs) := by
  cases cs with
  | nil => simp [decode, unescape, Text.decodeUtf8Lossy]
  | cons c rest =>
    obtain ⟨hc, hrest⟩ := List.forall_mem_cons.mp h
    have hrun : rest.takeWhile isAscii = rest := List.takeWhile_eq_self_iff.mpr hrest
    have hnone : rest.dropWhile isAscii = [] := List.dropWhile_eq_nil_iff.mpr hrest
    rw [decode, if_pos hc, hrun, hnone]
    simp [decode]

/-- Undoing the escapes of a text gives the text, however it has been escaped. -/
lemma decode_of_escapes {p : String} (h : Escapes (Text.encodeUtf8 p) cs) :
    decode cs = p.toList := by
  have hascii : ∀ c ∈ cs, isAscii c = true := fun c hc =>
    isAscii_of_isPathChar (isPathChar_of_escapes h c hc)
  rw [decode_of_isAscii hascii, unescape_of_escapes h, Text.decodeUtf8Lossy_encodeUtf8]

/-! ## Splitting the url -/

lemma splitMark_of_notMem {mark : Char} (h : mark ∉ cs) : splitMark mark cs = (cs, []) := by
  have hnone : Text.cutAt? mark cs = none := by
    cases hcut : Text.cutAt? mark cs with
    | none => rfl
    | some parts =>
      obtain ⟨rfl, -⟩ := cutAt?_eq_some.mp (show _ = some (parts.1, parts.2) from hcut)
      simp at h
  rw [splitMark, hnone]
  rfl

/-- An absolute path after `file://` is the path of the url. -/
lemma split_file (hpath : ∀ c ∈ cs, isPathChar c = true) (hslash : cs.head? = some '/') :
    split ("file://".toList ++ cs) =
      .ok { scheme := "file".toList, host := [], path := cs, query := [], fragment := [] } := by
  have hfree {d : Char} (hd : isPathChar d = false) : d ∉ cs := fun hmem =>
    ne_of_isPathChar (hpath d hmem) hd rfl
  have hfilter : cs.filter (fun c => c ≠ '\t' && c ≠ '\r' && c ≠ '\n') = cs := by
    refine List.filter_eq_self.mpr fun c hc => ?_
    have htab : c ≠ '\t' := ne_of_isPathChar (hpath c hc) (by decide)
    have hreturn : c ≠ '\r' := ne_of_isPathChar (hpath c hc) (by decide)
    have hline : c ≠ '\n' := ne_of_isPathChar (hpath c hc) (by decide)
    simp [htab, hreturn, hline]
  have hclean : clean ("file://".toList ++ cs) = "file://".toList ++ cs := by
    have hdrop : ("file://".toList ++ cs).dropWhile (fun c => c.toNat ≤ 0x20) =
        "file://".toList ++ cs := rfl
    rw [clean, hdrop, List.filter_append, hfilter]
    rfl
  have hscheme : splitScheme ("file://".toList ++ cs) = ("file".toList, '/' :: '/' :: cs) := rfl
  have hhost : splitHost ('/' :: '/' :: cs) = ([], cs) := by
    obtain ⟨rest, rfl⟩ := List.head?_eq_some_iff.mp hslash
    rfl
  have hcheck : Host.check [] = .ok () := rfl
  rw [split, hclean, hscheme]
  dsimp only
  rw [hhost]
  dsimp only
  rw [hcheck, splitMark_of_notMem (hfree (d := '#') (by decide))]
  dsimp only
  rw [splitMark_of_notMem (hfree (d := '?') (by decide))]
  rfl

lemma head?_of_isAbsolute {p : String} (h : (Path.ofText p).isAbsolute = true) :
    p.toList.head? = some '/' := by
  have hslashes : Path.leadingSlashes p.toList ≠ 0 := of_decide_eq_true h
  cases hp : p.toList with
  | nil => exact absurd (hp ▸ rfl) hslashes
  | cons c rest =>
    by_cases hc : c = '/'
    · rw [hc, List.head?_cons]
    · refine absurd ?_ hslashes
      simp [hp, Path.leadingSlashes, hc]

lemma head?_of_escapes (h : Escapes bytes cs) (hslash : bytes.head? = some 0x2f) :
    cs.head? = some '/' := by
  cases h with
  | nil => cases hslash
  | slash => rfl
  | @shown b c hc hb =>
    have hbyte : b = 0x2f := Option.some.inj hslash
    have hchar : c = '/' := by
      rw [← Char.ofNat_toNat c, ← hb, hbyte]
      rfl
    rw [hchar, List.head?_cons]
  | escaped hne => exact absurd (Option.some.inj hslash) hne

/-- A url whose text begins with a slash has no scheme. -/
lemma splitScheme_clean_of_slash {cs : List Char} (hslash : cs.head? = some '/') :
    (splitScheme (clean cs)).1 = [] := by
  obtain ⟨rest, rfl⟩ := List.head?_eq_some_iff.mp hslash
  have hclean : clean ('/' :: rest) =
      '/' :: rest.filter fun c => c ≠ '\t' && c ≠ '\r' && c ≠ '\n' := by
    rw [clean, List.dropWhile_cons_of_neg (by decide), List.filter_cons_of_pos (by decide)]
  rw [hclean]
  unfold splitScheme
  cases Text.cutAt? ':' ('/' :: rest.filter fun c => c ≠ '\t' && c ≠ '\r' && c ≠ '\n') with
  | none => rfl
  | some parts => rfl

/-! ## Paths -/

/-- A `file` url leads to the path that it spells, however that is escaped, and the bare path leads
there as well unless it is refused. -/
theorem file_url_names_path {p e : String} (habsolute : (Path.ofText p).isAbsolute = true)
    (he : Escapes (Text.encodeUtf8 p) e.toList) :
    localPath ("file://" ++ e) = .ok (Path.ofText p) ∧
      ∀ path, localPath p = .ok path → path = Path.ofText p := by
  have hslash := head?_of_isAbsolute habsolute
  constructor
  · have hbytes : (Text.encodeUtf8 p).head? = some 0x2f := by
      obtain ⟨rest, hrest⟩ := List.head?_eq_some_iff.mp hslash
      rw [Text.encodeUtf8_eq, hrest]
      rfl
    have hsplit := split_file (isPathChar_of_escapes he) (head?_of_escapes he hbytes)
    rw [localPath, ofText, String.toList_append, hsplit]
    change Except.ok (Path.ofText (String.ofList (decode e.toList))) = _
    rw [decode_of_escapes he, String.ofList_toList]
  · intro path h
    obtain ⟨parts, hparts, h⟩ := bind_eq_ok.mp h
    have hscheme : parts.scheme = [] := by
      rw [scheme_ofText hparts, splitScheme_clean_of_slash hslash]
    rw [hscheme] at h
    exact (pure_eq_ok.mp h).symm

theorem spaced_path_named : (Path.ofText "/a ?é").isAbsolute = true ∧
    Escapes (Text.encodeUtf8 "/a ?é") "/%61%20%3f%C3%a9".toList ∧
    localPath "file:///%61%20%3f%C3%a9" = .ok ⟨1, ["a ?é"]⟩ := by
  have hbytes : Text.encodeUtf8 "/a ?é" = [0x2f, 0x61, 0x20, 0x3f, 0xc3, 0xa9] := by
    decide +kernel
  have he : Escapes (Text.encodeUtf8 "/a ?é") "/%61%20%3f%C3%a9".toList := by
    rw [hbytes]
    refine .slash (.escaped (by decide) ⟨by decide, by decide⟩ ?_)
    refine .escaped (by decide) ⟨by decide, by decide⟩ ?_
    refine .escaped (by decide) ⟨by decide, by decide⟩ ?_
    refine .escaped (by decide) ⟨by decide, by decide⟩ ?_
    exact .escaped (by decide) ⟨by decide, by decide⟩ .nil
  exact ⟨by decide +kernel, he, (file_url_names_path (by decide +kernel) he).1⟩

end Proofs

end CardDrawing
