/-!
# Charsets

A charset tells which character every byte stands for. The bytes below 0x80 stand for the
characters of ASCII.
-/

namespace CardDrawing.Text

structure Charset where
  /-- its name, in which words are parted by underscores -/
  own : String
  /-- other names, in which words may be parted by points as well -/
  aliases : List String
  /-- the characters of the bytes from 0x80 on; U+FFFD stands for none -/
  upper : String

namespace Charset

def undefined : Char := Char.ofNat 0xfffd

/-- The character of a byte. -/
def char? (upper : Array Char) (b : UInt8) : Option Char :=
  if b < 0x80 then some (Char.ofNat b.toNat)
  else (upper[b.toNat - 0x80]?).filter (· ≠ undefined)

def decode? (c : Charset) (bytes : List UInt8) : Option (List Char) :=
  bytes.mapM (char? c.upper.toList.toArray)

/-- The characters from 0x80 on that have the numbers of their bytes. -/
def numbered (count : Nat) : String :=
  String.ofList ((List.range count).map fun n => Char.ofNat (0x80 + n))

/-- The control characters that many charsets have from 0x80 on. -/
def controls : String := numbered 0x20

/-- The charset in which no byte stands for a character outside ASCII. -/
def ascii : Charset where
  own := "ascii"
  aliases := ["646", "ansi_x3.4_1968", "ansi_x3.4_1986", "ansi_x3_4_1968", "cp367", "csascii",
              "ibm367", "iso646_us", "iso_646.irv_1991", "iso_ir_6", "us", "us_ascii"]
  upper := ""

/-- The charset in which bytes are the numbers of their characters. -/
def latin1 : Charset where
  own := "latin_1"
  aliases := ["8859", "cp819", "csisolatin1", "ibm819", "iso8859", "iso8859_1", "iso_8859_1",
              "iso_8859_1_1987", "iso_ir_100", "l1", "latin", "latin1"]
  upper := numbered 0x80

end Charset

end CardDrawing.Text
