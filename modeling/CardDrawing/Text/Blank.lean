import CardDrawing.Text.Cut

/-!
# Blanks

White space of every script, and cutting a text at it.
-/

namespace CardDrawing.Text

/-- White space: the Unicode property, and the four ASCII separators U+001C to U+001F. -/
def isBlank (c : Char) : Bool :=
  let n := c.toNat
  (0x9 ≤ n && n ≤ 0xd) || (0x1c ≤ n && n ≤ 0x20) || n == 0x85 || n == 0xa0 || n == 0x1680 ||
    (0x2000 ≤ n && n ≤ 0x200a) || n == 0x2028 || n == 0x2029 || n == 0x202f || n == 0x205f ||
    n == 0x3000

def stripStart (cs : List Char) : List Char := cs.dropWhile isBlank

def stripEnd (cs : List Char) : List Char := (cs.reverse.dropWhile isBlank).reverse

/-- The text without the blanks at both ends. -/
def strip (s : String) : String := String.ofList (stripEnd (stripStart s.toList))

def isBlankText (s : String) : Bool := s.toList.all isBlank

/-- The runs of characters between blanks. -/
def wordsOf : List Char → List (List Char)
  | [] => []
  | c :: rest =>
    if isBlank c then wordsOf rest
    else
      match rest, wordsOf rest with
      | [], _ => [[c]]
      | d :: _, words =>
        if isBlank d then [c] :: words
        else
          match words with
          | word :: others => (c :: word) :: others
          | [] => [[c]]

def words (s : String) : List String := (wordsOf s.toList).map String.ofList

/-- Removes any of the given characters from both ends. -/
def stripOf (unwanted : List Char) (s : String) : String :=
  let kept := s.toList.dropWhile unwanted.contains
  String.ofList (kept.reverse.dropWhile unwanted.contains).reverse

def replaceChar (old new : Char) (s : String) : String :=
  String.ofList (s.toList.map fun c => if c = old then new else c)

/-- Whether `needle` occurs in the text as consecutive characters. -/
def occursIn (needle : List Char) : List Char → Bool
  | [] => needle.isEmpty
  | c :: rest => needle.isPrefixOf (c :: rest) || occursIn needle rest

end CardDrawing.Text
