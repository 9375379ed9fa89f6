import CardDrawing.Text.Classes
import CardDrawing.Xml.Name

/-!
# The declaration of a document

A document may begin with a declaration, which tells the version of the language, then perhaps the
encoding of the document, and then perhaps whether it stands alone.
-/

namespace CardDrawing.Xml

structure Declaration where
  encoding : Option String := none
  standsAlone : Bool := false

/-- A character of a setting. -/
def isPlain (c : Char) : Bool :=
  Text.isAsciiLetter c || Text.isAsciiDigit c || c = '.' || c = '-' || c = '_'

/-- One setting of a declaration after its white space: its name and its value. -/
def setting? (cs : List Char) : Option ((String × String) × List Char) := do
  let start ← space? cs
  let name := start.takeWhile Text.isAsciiLetter
  let rest ← Text.after? "=" (skipSpace (start.dropWhile Text.isAsciiLetter))
  match skipSpace rest with
  | quote :: rest =>
    if quote ≠ '"' && quote ≠ '\'' then none
    let (value, rest) ← Text.cutAt? quote rest
    if value.all isPlain then return ((String.ofList name, String.ofList value), rest) else none
  | [] => none

def settings? : Nat → List Char → Option (List (String × String))
  | 0, _ => none
  | fuel + 1, cs =>
    if (skipSpace cs).isEmpty then some []
    else do
      let (first, rest) ← setting? cs
      return first :: (← settings? fuel rest)

/-- The last setting, which may be missing. -/
def standsAlone? : List (String × String) → Option Bool
  | [] | [("standalone", "no")] => some false
  | [("standalone", "yes")] => some true
  | _ => none

def Declaration.ofSettings? : List (String × String) → Option Declaration
  | ("version", _) :: ("encoding", encoding) :: rest => do
    if encoding.toList.head?.any Text.isAsciiLetter then
      return ⟨some encoding, ← standsAlone? rest⟩
    else none
  | ("version", _) :: rest => do return ⟨none, ← standsAlone? rest⟩
  | _ => none

/-- The declaration of a document, which may be missing, and what follows it. -/
def declaration? (cs : List Char) : Option (Declaration × List Char) :=
  match (Text.after? "<?xml" cs).filter startsWithSpace with
  | some rest => do
    let (body, rest) ← Text.cutAtWord? ['?', '>'] rest
    return (← Declaration.ofSettings? (← settings? (body.length + 1) body), rest)
  | none => some ({}, cs)

end CardDrawing.Xml
