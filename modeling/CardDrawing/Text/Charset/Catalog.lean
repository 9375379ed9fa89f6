import CardDrawing.Text.Blank
import CardDrawing.Text.Charset.Dos
import CardDrawing.Text.Charset.Macintosh
import CardDrawing.Text.Charset.Regional
import CardDrawing.Text.Charset.Standard
import CardDrawing.Text.Charset.Windows
import CardDrawing.Text.Classes

/-!
# A catalog of encodings

What the names of encodings stand for, as far as bytes are looked at one by one.
-/

namespace CardDrawing.Text

/-- How an encoding goes from bytes to characters. -/
inductive Coding where
  | charset (c : Charset)
  /-- some bytes mean a character only together with others -/
  | wide
  /-- the characters of ASCII are not at their numbers -/
  | displaced
  /-- no text, but other bytes -/
  | binary
  /-- texts that are not written in all bytes, with the place of the first one that cannot be -/
  | asciiOnly (position : Nat)
  /-- nothing can be decoded -/
  | failing (why : String)

/-- Several encodings by their names, as they are in a charset. -/
structure CodingNames where
  own : List String
  aliases : List String := []

/-- Whether a name with underscores between its words is meant. -/
def CodingNames.contains (names : CodingNames) (name : String) : Bool :=
  names.own.contains name || names.aliases.contains name ||
    names.aliases.contains (replaceChar '.' '_' name)

def Charset.names (c : Charset) : CodingNames := ⟨[c.own], c.aliases⟩

namespace Coding

def charsets : List Charset :=
  Charset.ascii :: Charset.latin1 :: (Charset.ofStandards ++ Charset.ofWindows ++
    Charset.ofScreens ++ Charset.ofMacintosh ++ Charset.ofRegions)

/-- Encodings in which other characters than those of ASCII take several bytes, none of which
means anything alone. -/
def asciiLike : CodingNames where
  own := ["hz", "iso2022_jp", "iso2022_jp_1", "iso2022_jp_2", "iso2022_jp_2004", "iso2022_jp_3",
          "iso2022_jp_ext", "utf_8", "utf_8_sig"]
  aliases := ["cp65001", "csiso2022jp", "hz_gb", "hz_gb_2312", "hzgb", "iso2022jp", "iso2022jp_1",
              "iso2022jp_2", "iso2022jp_2004", "iso2022jp_3", "iso2022jp_ext", "iso_2022_jp",
              "iso_2022_jp_1", "iso_2022_jp_2", "iso_2022_jp_2004", "iso_2022_jp_3",
              "iso_2022_jp_ext", "u8", "utf", "utf8", "utf8_ucs2", "utf8_ucs4"]

/-- Encodings in which every byte may be the number of its character. -/
def latinLike : CodingNames where
  own := ["charmap", "raw_unicode_escape", "unicode_escape"]

def wideOnes : CodingNames where
  own := ["big5", "big5hkscs", "cp932", "cp949", "cp950", "euc_jis_2004", "euc_jisx0213",
          "euc_jp", "euc_kr", "gb18030", "gb2312", "gbk", "iso2022_kr", "johab", "shift_jis",
          "shift_jis_2004", "shift_jisx0213", "utf_16", "utf_16_be", "utf_16_le", "utf_32",
          "utf_32_be", "utf_32_le", "utf_7"]
  aliases := ["932", "936", "949", "950", "big5_hkscs", "big5_tw", "chinese", "cp1361", "cp936",
              "csbig5", "csiso2022kr", "csiso58gb231280", "csshiftjis", "euc_cn", "euc_jis2004",
              "euccn", "eucgb2312_cn", "eucjis2004", "eucjisx0213", "eucjp", "euckr",
              "gb18030_2000", "gb2312_1980", "gb2312_80", "hkscs", "iso2022kr", "iso_2022_kr",
              "iso_ir_58", "jisx0213", "korean", "ks_c_5601", "ks_c_5601_1987", "ks_x_1001",
              "ksc5601", "ksx1001", "ms1361", "ms932", "ms936", "ms949", "ms950", "ms_kanji",
              "mskanji", "s_jis", "s_jis_2004", "s_jisx0213", "shiftjis", "shiftjis2004",
              "shiftjisx0213", "sjis", "sjis_2004", "sjisx0213", "u16", "u32", "u7", "u_jis",
              "uhc", "ujis", "unicode_1_1_utf_7", "unicodebigunmarked", "unicodelittleunmarked",
              "utf16", "utf32", "utf7", "utf_16be", "utf_16le", "utf_32be", "utf_32le",
              "x_mac_japanese", "x_mac_korean", "x_mac_simp_chinese", "x_mac_trad_chinese"]

def displacedOnes : CodingNames where
  own := ["cp037", "cp1026", "cp1140", "cp273", "cp424", "cp500", "cp864", "cp875", "mac_arabic",
          "mac_farsi"]
  aliases := ["037", "1026", "1140", "273", "424", "500", "864", "csibm037", "csibm1026",
              "csibm273", "csibm424", "csibm500", "csibm864", "ebcdic_cp_be", "ebcdic_cp_ca",
              "ebcdic_cp_ch", "ebcdic_cp_he", "ebcdic_cp_nl", "ebcdic_cp_us", "ebcdic_cp_wt",
              "ibm037", "ibm039", "ibm1026", "ibm1140", "ibm273", "ibm424", "ibm500", "ibm864"]

def binaryOnes : CodingNames where
  own := ["base64_codec", "bz2_codec", "hex_codec", "quopri_codec", "rot_13", "uu_codec",
          "zlib_codec"]
  aliases := ["base64", "base_64", "bz2", "hex", "quopri", "quoted_printable", "quotedprintable",
              "rot13", "uu", "zip", "zlib"]

/-- The words of a name, with an underscore between two of them. -/
def normalName (name : String) : String :=
  let fold (c : Char) : Char :=
    if isAsciiLetter c || isAsciiDigit c || c = '.' then c.toLower else '_'
  let words := (splitAt '_' (name.toList.map fold)).filter (!·.isEmpty)
  String.ofList (['_'].intercalate words)

/-- What a name stands for. -/
def named? (name : String) : Option Coding :=
  let name := normalName name
  match charsets.find? (·.names.contains name) with
  | some c => some (.charset c)
  | none =>
    if asciiLike.contains name then some (.charset .ascii)
    else if latinLike.contains name then some (.charset .latin1)
    else if wideOnes.contains name then some .wide
    else if displacedOnes.contains name then some .displaced
    else if binaryOnes.contains name then some .binary
    else if name = "punycode" then some (.asciiOnly 82)
    else if name = "idna" then some (.failing "Unsupported error handling replace")
    else if name = "undefined" then some (.failing "undefined encoding")
    else none

end Coding

end CardDrawing.Text
