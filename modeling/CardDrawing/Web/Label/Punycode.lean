import CardDrawing.Text.Cut
import CardDrawing.Text.Classes

/-!
# Labels in ASCII

A label with characters outside ASCII is written as its ASCII characters, a hyphen, and the others
as distances: each says how far its place and code point are from those of the character before it
in order of code points. Distances are numbers of variable length in base 36, whose digit thresholds
adapt to the distances so far.
-/

namespace CardDrawing.Web.Punycode

/-- The digits are the letters and then `0` to `9`. -/
def digitChar (d : Nat) : Char :=
  if d < 26 then Char.ofNat (d + 'a'.toNat) else Char.ofNat (d - 26 + '0'.toNat)

def digitValue? (c : Char) : Option Nat :=
  if Text.isAsciiLetter c then some (c.toLower.toNat - 'a'.toNat)
  else if Text.isAsciiDigit c then some (c.toNat - '0'.toNat + 26)
  else none

/-- The least value of a digit that another one follows; `place` counts in steps of 36. -/
def threshold (place bias : Nat) : Nat :=
  if place ≤ bias then 1 else if bias + 26 ≤ place then 26 else place - bias

theorem threshold_pos (place bias : Nat) : 1 ≤ threshold place bias := by
  unfold threshold
  split
  · omega
  · split <;> omega

/-- Divides until the distance is small; `steps` counts the divisions in steps of 36. -/
def scaleDown (distance steps : Nat) : Nat × Nat :=
  if 455 < distance then scaleDown (distance / 35) (steps + 36) else (distance, steps)
termination_by distance
decreasing_by exact Nat.div_lt_self (by omega) (by omega)

/-- The bias after a distance, with `count` characters placed so far. -/
def adapt (distance count : Nat) (isFirst : Bool) : Nat :=
  let damped := if isFirst then distance / 700 else distance / 2
  let (left, steps) := scaleDown (damped + damped / count) 0
  steps + 36 * left / (left + 38)

def firstBias : Nat := 72

/-- The code point from which distances are counted. -/
def firstCode : Nat := 0x80

def isBasic (c : Char) : Bool := c.toNat < firstCode

/-! ## Writing -/

def writeNumber (bias place n : Nat) : List Char :=
  let least := threshold place bias
  if n < least then [digitChar n]
  else
    digitChar (least + (n - least) % (36 - least)) ::
      writeNumber bias (place + 36) ((n - least) / (36 - least))
termination_by n
decreasing_by
  have h := threshold_pos place bias
  calc (n - threshold place bias) / (36 - threshold place bias)
      ≤ n - threshold place bias := Nat.div_le_self _ _
    _ < n := by omega

/-- What has been written: the distance since the last character, the bias, and how many characters
are placed. -/
structure Writer where
  out : List Char := []
  distance : Nat := 0
  bias : Nat := firstBias
  placed : Nat
  isFirst : Bool := true

/-- Passes one character of the label while those with the code point `code` are placed. -/
def Writer.pass (code : Nat) (w : Writer) (c : Char) : Writer :=
  if c.toNat < code then { w with distance := w.distance + 1 }
  else if c.toNat = code then
    { out := w.out ++ writeNumber w.bias 36 w.distance
      distance := 0
      bias := adapt w.distance (w.placed + 1) w.isFirst
      placed := w.placed + 1
      isFirst := false }
  else w

/-- Places the characters of one code point after another; `next` is the least that is left. -/
def Writer.place (label : List Char) (next : Nat) (w : Writer) : List Nat → Writer
  | [] => w
  | code :: rest =>
    let start := { w with distance := w.distance + (code - next) * (w.placed + 1) }
    let passed := label.foldl (Writer.pass code) start
    Writer.place label (code + 1) { passed with distance := passed.distance + 1 } rest

/-- Adds a number to ascending ones. -/
def insertCode (n : Nat) : List Nat → List Nat
  | [] => [n]
  | m :: rest =>
    if n < m then n :: m :: rest else if n = m then m :: rest else m :: insertCode n rest

def encode (label : List Char) : List Char :=
  let basic := label.filter isBasic
  let codes := ((label.filter (!isBasic ·)).map Char.toNat).foldr insertCode []
  let start : Writer := { placed := basic.length }
  (if basic.isEmpty then [] else basic ++ ['-']) ++ (start.place label firstCode codes).out

/-! ## Reading -/

/-- Reads a number: adds its digits, each with its weight, to `sum`. -/
def readNumber (bias : Nat) : List Char → (place weight sum : Nat) → Option (Nat × List Char)
  | [], _, _, _ => none
  | c :: rest, place, weight, sum => do
    let d ← digitValue? c
    let least := threshold place bias
    if d < least then return (sum + d * weight, rest)
    else readNumber bias rest (place + 36) (weight * (36 - least)) (sum + d * weight)

/-- Places the characters that the distances stand for; every distance takes a digit at least. -/
def readWithin (code position bias : Nat) (isFirst : Bool) (placed : List Char) :
    Nat → List Char → Option (List Char)
  | _, [] => some placed
  | 0, _ => none
  | fuel + 1, digits => do
    let (distance, rest) ← readNumber bias digits 36 1 0
    let count := placed.length + 1
    let moved := position + distance
    let code := code + moved / count
    let place := moved % count
    if !code.isValidChar then none
    else
      readWithin code (place + 1) (adapt distance count isFirst) false
        (placed.take place ++ Char.ofNat code :: placed.drop place) fuel rest

/-- The label that an ASCII text stands for: the characters before its last hyphen, and the ones
that the digits after it place among them. -/
def decode? (cs : List Char) : Option (List Char) :=
  let digits := (cs.reverse.takeWhile (· ≠ '-')).reverse
  let basic := (cs.take (cs.length - digits.length)).dropLast
  readWithin firstCode 0 firstBias true basic (digits.length + 1) digits

end CardDrawing.Web.Punycode
