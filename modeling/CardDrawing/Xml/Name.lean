import CardDrawing.Text.Cut
import CardDrawing.Xml.Characters

/-!
# Names and blanks

Names as they are written, and the white space between them. Line ends are line feeds here,
whatever the document ends its lines with.
-/

namespace CardDrawing.Xml

/-- A name as it is written, with what stands before its colon. -/
structure RawName where
  qualifier : Option String
  label : String
deriving DecidableEq, Repr

/-- Every line end as one line feed. -/
def normalLines : List Char → List Char
  | [] => []
  | '\r' :: '\n' :: rest => '\n' :: normalLines rest
  | '\r' :: rest => '\n' :: normalLines rest
  | c :: rest => c :: normalLines rest

def skipSpace (cs : List Char) : List Char := cs.dropWhile isSpace

def startsWithSpace : List Char → Bool
  | [] => false
  | c :: _ => isSpace c

/-- What follows white space that has to be there. -/
def space? (cs : List Char) : Option (List Char) :=
  if startsWithSpace cs then some (skipSpace cs) else none

/-- A name without a colon. -/
def name? : List Char → Option (List Char × List Char)
  | [] => none
  | c :: rest =>
    if isNameStart c then some (c :: rest.takeWhile isNameChar, rest.dropWhile isNameChar)
    else none

/-- A name, perhaps with another one and a colon before it. -/
def rawName? (cs : List Char) : Option (RawName × List Char) := do
  match ← name? cs with
  | (qualifier, ':' :: rest) =>
    let (label, rest) ← name? rest
    return (⟨some (String.ofList qualifier), String.ofList label⟩, rest)
  | (label, rest) => return (⟨none, String.ofList label⟩, rest)

/-! ## Asides -/

/-- What follows a comment, from after its `<!--` on; it holds no two hyphens. -/
def afterComment? (cs : List Char) : Option (List Char) := do
  let (body, rest) ← Text.cutAtWord? ['-', '-'] cs
  if body.all isAllowed then Text.after? ">" rest else none

/-- What follows an instruction, from after its `<?` on; it is not for the reader of the markup
itself. -/
def afterInstruction? (cs : List Char) : Option (List Char) := do
  let (target, rest) ← name? cs
  if target.map Char.toLower = "xml".toList then none
  let (body, after) ← Text.cutAtWord? ['?', '>'] rest
  if (body.isEmpty || startsWithSpace body) && body.all isAllowed then some after else none

end CardDrawing.Xml
