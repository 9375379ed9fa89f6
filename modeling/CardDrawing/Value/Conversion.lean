import CardDrawing.Number
import CardDrawing.Text.Blank
import CardDrawing.Text.Case
import CardDrawing.Text.Classes

/-!
# Reading numbers from values

Number texts admit the decimal digits of every script, single underscores between digits, and
white space at both ends.
-/

namespace CardDrawing

namespace Text

/-- White space around a number. The four ASCII separators are none. -/
def isAround (c : Char) : Bool := isBlank c && !(0x1c ≤ c.toNat && c.toNat ≤ 0x1f)

/-- The text of a number without the white space around it. -/
def numberBody (s : String) : List Char :=
  ((s.toList.dropWhile isAround).reverse.dropWhile isAround).reverse

/-- The digits that go on a run: each may have one underscore before it. -/
def moreDigits : List Char → List Char × List Char
  | '_' :: d :: rest =>
    if isDigit d then
      let (digits, after) := moreDigits rest
      (d :: digits, after)
    else ([], '_' :: d :: rest)
  | c :: rest =>
    if isDigit c then
      let (digits, after) := moreDigits rest
      (c :: digits, after)
    else ([], c :: rest)
  | [] => ([], [])

/-- A run of decimal digits in which single underscores may stand between two digits, and what
follows it. -/
def digitRun : List Char → List Char × List Char
  | [] => ([], [])
  | c :: rest =>
    if isDigit c then
      let (digits, after) := moreDigits rest
      (c :: digits, after)
    else ([], c :: rest)

/-- A sign, if there is one, and what follows it. -/
def signOf : List Char → Bool × List Char
  | '-' :: rest => (true, rest)
  | '+' :: rest => (false, rest)
  | cs => (false, cs)

/-- The exponent after an `e`, with nothing left over; no exponent reads as zero. -/
def exponentOf : List Char → Option Int
  | [] => some 0
  | c :: rest =>
    if c = 'e' || c = 'E' then
      let (negative, body) := signOf rest
      match digitRun body with
      | ([], _) => none
      | (digits, []) =>
        some (if negative then -(digitsValue digits : Int) else digitsValue digits)
      | _ => none
    else none

/-- An unsigned decimal number: digits, perhaps a point, perhaps an exponent. -/
def decimalOf (negative : Bool) (cs : List Char) : Option Float :=
  let (whole, rest) := digitRun cs
  let (fraction, after) :=
    match rest with
    | '.' :: tail => digitRun tail
    | _ => ([], rest)
  if whole.isEmpty && fraction.isEmpty then none
  else
    (exponentOf after).map fun exponent =>
      Decimal.ofScientific negative (digitsValue (whole ++ fraction)) (exponent - fraction.length)

/-- The floating number that a text spells, if it spells one. -/
def toFloat? (s : String) : Option Float :=
  let (negative, body) := signOf (numberBody s)
  let word := String.ofList (body.map Char.toLower)
  if word = "inf" || word = "infinity" then
    some (Decimal.ofRatio negative (Nat.pow 10 400) 1)
  else if word = "nan" then
    some (Float.ofBits (if negative then 0xfff8000000000000 else 0x7ff8000000000000))
  else decimalOf negative body

/-- The whole number that characters without blanks spell, if they spell one. -/
def wholeNumber? (cs : List Char) : Option Int :=
  let (negative, body) := signOf cs
  match digitRun body with
  | ([], _) => none
  | (digits, []) => some (if negative then -(digitsValue digits : Int) else digitsValue digits)
  | _ => none

/-- The whole number that a text spells, if it spells one. Every number of digits is read: the limit
of 4300 digits that is customary between texts and whole numbers is left out. -/
def toInt? (s : String) : Option Int := wholeNumber? (numberBody s)

end Text

namespace Value

def toFloat : Value → Except Error Float
  | float x => .ok x
  | int n => Number.floatOfInt n
  | bool b => .ok (if b then 1 else 0)
  | text s =>
    match Text.toFloat? s with
    | some x => .ok x
    | none => .error (.floatText s)
  | v => .error (.floatOfType v.typeName)

def toInt : Value → Except Error Int
  | int n => .ok n
  | float x => Number.truncate (.real x)
  | bool b => .ok (if b then 1 else 0)
  | text s =>
    match Text.toInt? s with
    | some n => .ok n
    | none => .error (.intText s)
  | v => .error (.intOfType v.typeName)

/-- The floating number of a value, with null as none. -/
def toFloat? : Value → Except Error (Option Float)
  | null => .ok none
  | v => v.toFloat.map some

end Value

end CardDrawing
