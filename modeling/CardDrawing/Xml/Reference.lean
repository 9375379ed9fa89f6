import CardDrawing.Text.Classes
import CardDrawing.Xml.Name

/-!
# References

A text refers to characters by their numbers and to entities by their names.
-/

namespace CardDrawing.Xml

/-- A piece of a text: a character, or a reference to an entity. -/
inductive Piece where
  | char (c : Char)
  | reference (name : List Char)
deriving DecidableEq, Repr

/-- A character that may be written by its number. -/
def isReferable (n : Nat) : Bool := n.isValidChar && isAllowed (Char.ofNat n)

def characterOf? (number : Option Nat) : Option Piece := do
  let n ← number
  if isReferable n then return .char (Char.ofNat n) else none

def decimal? (digits : List Char) : Option Nat :=
  if digits.all Char.isDigit then some (Text.digitsValue digits) else none

/-- What stands between `&` and `;`. -/
def referent? : List Char → Option Piece
  | ['#'] | ['#', 'x'] => none
  | '#' :: 'x' :: digits => characterOf? (Text.hexNumber? digits)
  | '#' :: digits => characterOf? (decimal? digits)
  | name =>
    match name? name with
    | some (name, []) => some (.reference name)
    | _ => none

/-- The pieces of a text; `pending` holds an open reference, last character first. -/
def piecesAfter? (pending : Option (List Char)) : List Char → Option (List Piece)
  | [] => if pending.isNone then some [] else none
  | c :: rest =>
    match pending with
    | none =>
      if c = '&' then piecesAfter? (some []) rest
      else do return .char c :: (← piecesAfter? none rest)
    | some reference =>
      if c = ';' then do
        return (← referent? reference.reverse) :: (← piecesAfter? none rest)
      else piecesAfter? (some (c :: reference)) rest

def pieces? (text : List Char) : Option (List Piece) := piecesAfter? none text

/-- The text of a piece whose characters need no numbers. -/
def Piece.text : Piece → List Char
  | char c => [c]
  | reference name => '&' :: name ++ [';']

/-- The names of the entities that a text may refer to. -/
def mentions (text : List Char) : List (List Char) :=
  ((Text.splitAt '&' text).drop 1).filterMap fun rest => (Text.cutAt? ';' rest).map Prod.fst

end CardDrawing.Xml
