import CardDrawing.Text.Classes
import CardDrawing.Text.Quoted
import CardDrawing.Text.Utf8

/-!
# Percent escapes

What the parts of a request show as it is; everything else is written as the percent escapes of its
bytes. A percent sign is always shown, so that escapes are kept.
-/

namespace CardDrawing.Web

/-- The escapes of the bytes of a character. -/
def escape (c : Char) : List Char :=
  (Text.encodeUtf8 (String.singleton c)).flatMap fun b =>
    '%' :: (Text.hex 2 b.toNat).map Char.toUpper

/-- A text with escapes for all characters but those that `isShown` holds of. -/
def escapedBut (isShown : Char → Bool) (cs : List Char) : List Char :=
  cs.flatMap fun c => if isShown c then [c] else escape c

/-- The ASCII characters with a form, but for blanks, the given ones, and those that could be taken
for quotes around a url. -/
def isShownBut (hidden : String) (c : Char) : Bool :=
  0x20 < c.toNat && c.toNat < 0x7f && !(['"', '<', '>'] ++ hidden.toList).contains c

def userMarks : Char → Bool := isShownBut "#?`\x7b\x7d/;=@[]\\^|"

def pathMarks : Char → Bool := isShownBut "#?`\x7b\x7d"

def queryMarks : Char → Bool := isShownBut "#"

def fragmentMarks : Char → Bool := isShownBut "`"

/-- Letters and digits, and the marks that hosts show. -/
def hostMarks (c : Char) : Bool :=
  Text.isAsciiLetter c || Text.isAsciiDigit c || "-._~!$&'()*+,;=\"`\x7b\x7d%|\\".toList.contains c

end CardDrawing.Web
