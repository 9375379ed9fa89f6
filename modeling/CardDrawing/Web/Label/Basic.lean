import CardDrawing.Web.Label.Composition
import CardDrawing.Web.Label.Direction
import CardDrawing.Web.Label.Joining
import CardDrawing.Web.Label.Letters
import CardDrawing.Web.Label.Punycode
import CardDrawing.Web.Label.Scripts

/-!
# Labels

The parts of a host name between its dots. A label is valid if it is composed, starts with no mark,
has hyphens in the right places only, holds nothing but letters, digits and what their context
allows, and is written in one direction. In ASCII it has a prefix that tells it from others.
-/

namespace CardDrawing.Web.Label

/-! ## Characters that need a context -/

/-- The first character beyond those that letters are joined across. -/
def acrossBridges (cs : List Char) : Option Char := (cs.dropWhile isBridge).head?

/-- Whether a vowel is suppressed just before; `before` is what stands before, last character
first. -/
def followsVirama (before : List Char) : Bool := before.head?.any (combiningClass · = viramaClass)

/-- Whether a sign without a form of its own may keep letters apart: between two letters that would
be joined, or after a suppressed vowel. -/
def mayPart (before after : List Char) : Bool :=
  followsVirama before ||
    ((acrossBridges before).any joinsForward && (acrossBridges after).any joinsBackward)

def arabicDigits : List (Nat × Nat) := [(0x660, 0x669)]

def persianDigits : List (Nat × Nat) := [(0x6f0, 0x6f9)]

/-- Whether punctuation may stand in a label between what is before it, last character first, and
what follows it. Two kinds of digits may not be mixed. -/
def mayPunctuate (label before after : List Char) (c : Char) : Option Bool :=
  match c.toNat with
  | 0xb7 => some (before.head? = some 'l' && after.head? = some 'l')
  | 0x375 => some (after.head?.any (Text.isWithin greekRuns))
  | 0x5f3 | 0x5f4 => some (before.head?.any (Text.isWithin hebrewRuns))
  | 0x30fb => some (label.any (Text.isWithin japaneseRuns))
  | _ =>
    if Text.isWithin arabicDigits c then some !label.any (Text.isWithin persianDigits)
    else if Text.isWithin persianDigits c then some !label.any (Text.isWithin arabicDigits)
    else none

/-- Whether a character may stand in its place. -/
def checkLetter (label before after : List Char) (c : Char) : Except LabelFault Unit :=
  let place := before.length + 1
  let require (fault : Char → Nat → String → LabelFault) (isFine : Bool) :=
    if isFine then .ok () else .error (fault c place (String.ofList label))
  if isLabelLetter c then .ok ()
  else if c.toNat = 0x200c then require .joiner (mayPart before after)
  else if c.toNat = 0x200d then require .joiner (followsVirama before)
  else
    match mayPunctuate label before after c with
    | some isFine => require .context isFine
    | none => require .letter false

/-- The characters of a label from left to right; `before` is what has been seen, last character
first. -/
def checkLetters (label before : List Char) : List Char → Except LabelFault Unit
  | [] => .ok ()
  | c :: rest => do
    checkLetter label before rest c
    checkLetters label (c :: before) rest

def check (label : List Char) : Except LabelFault Unit := do
  if label.isEmpty then throw .empty
  if composed label ≠ label then throw .notComposed
  if (label.drop 2).take 2 = ['-', '-'] then throw .hyphensInside
  if label.head? = some '-' || label.getLast? = some '-' then throw .hyphenAtEdge
  if label.head?.any isMark then throw .startsWithMark
  checkLetters label [] label
  checkDirections label

/-! ## Labels in ASCII -/

def asciiMark : List Char := "xn--".toList

/-- The most characters of a label in ASCII. -/
def sizeLimit : Nat := 63

def isAscii (label : List Char) : Bool := label.all Punycode.isBasic

/-- A label in ASCII is valid if the label that it stands for is. -/
def checkAscii (label : List Char) : Except LabelFault Unit := do
  let small := label.map Char.toLower
  if asciiMark.isPrefixOf small then
    let digits := small.drop asciiMark.length
    if digits.isEmpty then throw .nothingEncoded
    if digits.getLast? = some '-' then throw .finalHyphen
    match Punycode.decode? digits with
    | some decoded => check decoded
    | none => throw .notEncoded
  else check small

/-- A valid label in ASCII. -/
def toAscii (label : List Char) : Except LabelFault (List Char) := do
  if isAscii label then checkAscii label else check label
  let written := if isAscii label then label else asciiMark ++ Punycode.encode label
  if sizeLimit < written.length then throw .tooLong
  return written

end CardDrawing.Web.Label
