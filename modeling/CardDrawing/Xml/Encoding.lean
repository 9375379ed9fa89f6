import CardDrawing.Error
import CardDrawing.Text.Case
import CardDrawing.Text.Charset.Catalog
import CardDrawing.Text.Utf8

/-!
# Encodings of documents

How the bytes of a document stand for characters: the first bytes show it, and the document may
name it.
-/

namespace CardDrawing.Xml

open Text (Charset)

/-- How the bytes of a document stand for characters. -/
inductive Encoding where
  | utf8
  | charset (c : Charset)
  | utf16 (isBigEndian : Bool)

/-- The units of pairs of bytes; a byte that is left over at the end belongs to none. -/
def utf16Units (isBigEndian : Bool) : Text.Bytes → List Nat
  | a :: b :: rest =>
    let (high, low) := if isBigEndian then (a, b) else (b, a)
    (high.toNat * 256 + low.toNat) :: utf16Units isBigEndian rest
  | _ => []

/-- The characters of units: the last ten bits of a unit after a high one belong to the same
character. -/
def utf16Chars : List Nat → Option (List Char)
  | [] => some []
  | high :: rest =>
    if 0xd800 ≤ high && high < 0xdc00 then
      match rest with
      | low :: rest =>
        (utf16Chars rest).map
          (Char.ofNat (0x10000 + (high - 0xd800) * 0x400 + low % 0x400) :: ·)
      | [] => none
    else if 0xdc00 ≤ high && high < 0xe000 then none
    else (utf16Chars rest).map (Char.ofNat high :: ·)

def Encoding.decode? (bytes : Text.Bytes) : Encoding → Option (List Char)
  | utf8 => ((Text.decodeUtf8 bytes).toOption).map String.toList
  | charset c => c.decode? bytes
  | utf16 isBigEndian =>
    if bytes.length % 2 = 0 then utf16Chars (utf16Units isBigEndian bytes) else none

/-- The encoding that the first bytes show, UTF-8 unless another one, and the bytes after the mark
of it. A document starts with an ASCII character, so that a zero beside it shows pairs. -/
def marked : Text.Bytes → Encoding × Text.Bytes
  | 0xef :: 0xbb :: 0xbf :: rest => (.utf8, rest)
  | 0xfe :: 0xff :: rest => (.utf16 true, rest)
  | 0xff :: 0xfe :: rest => (.utf16 false, rest)
  | 0x00 :: b :: rest => (.utf16 true, 0x00 :: b :: rest)
  | a :: 0x00 :: rest => (.utf16 false, a :: 0x00 :: rest)
  | bytes => (.utf8, bytes)

/-! ## Names -/

/-- The names that a document in pairs of bytes may give its encoding. -/
def pairNames (isBigEndian : Bool) : List String :=
  ["utf-16", if isBigEndian then "utf-16be" else "utf-16le"]

/-- Encodings that need no catalog, by the names that documents give them. -/
def byteNames : List (String × Encoding) :=
  [("utf-8", .utf8), ("us-ascii", .charset .ascii), ("iso-8859-1", .charset .latin1)]

/-- The charset of a name, which must have the characters of ASCII at their numbers. -/
def charsetNamed (name : String) : Except Error Charset :=
  match Text.Coding.named? name with
  | some (.charset c) => .ok c
  | some .wide => .error .wideEncoding
  | some .displaced => .error (.outage .xmlSyntax)
  | some .binary => .error (.notTextEncoding name)
  | some (.asciiOnly position) => .error (.notAsciiByte 0x80 position)
  | some (.failing why) => .error (.encodingFails name why)
  | none => .error (.unknownEncoding name)

/-- The encoding of a document that shows one and names one: both must agree on how many bytes a
character has. -/
def Encoding.agreed (shown : Encoding) (name : String) : Except Error Encoding := do
  let small := Text.lowerAscii name
  let isOfPairs := (pairNames true ++ pairNames false).contains small
  match shown, byteNames.lookup small with
  | .utf16 isBigEndian, known =>
    if (pairNames isBigEndian).contains small then return shown
    if known.isNone && !isOfPairs then discard (charsetNamed name)
    throw (.outage .xmlSyntax)
  | _, some known => return known
  | _, none =>
    if isOfPairs then throw (.outage .xmlSyntax)
    return .charset (← charsetNamed name)

/-- A document in which every byte, or every pair of bytes, stands for a character of its own. Its
declaration, which is in ASCII, can be read in it whether or not what follows is well-formed. -/
def Encoding.outline (bytes : Text.Bytes) : Encoding → List Char
  | utf16 isBigEndian => (utf16Units isBigEndian bytes).map Char.ofNat
  | _ => bytes.map fun b => Char.ofNat b.toNat

end CardDrawing.Xml
