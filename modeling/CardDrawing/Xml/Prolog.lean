import CardDrawing.Xml.DocumentType.Declaration

/-!
# The prolog of a document

What may stand between the declaration of a document and its root: comments, instructions, and a
document type.
-/

namespace CardDrawing.Xml

/-- The document type with what is declared in it up to its closing bracket, and what follows. A
reference to a parameter stands for declarations that are elsewhere. -/
def subset? : Nat → DocumentType → List Char → Option (DocumentType × List Char)
  | 0, _, _ => none
  | fuel + 1, d, cs => do
    match ← lexeme? cs with
    | (.closesSubset, rest) => return (d, rest)
    | (.aside, rest) => subset? fuel d rest
    | (.parameter, rest) =>
      subset? fuel { d with isPartial := true, isDone := !d.standsAlone } rest
    | (.keyword word, rest) =>
      let (lexemes, _, rest) ← lexemesTo? (· = .ends) fuel rest
      subset? fuel (← d.declare? word lexemes) rest
    | _ => none

/-- A document type after its `<!DOCTYPE`. -/
def doctype? (standsAlone : Bool) (cs : List Char) : Option (DocumentType × List Char) := do
  let isStop (l : Lexeme) : Bool := l = .opensSubset || l = .ends
  let (lexemes, stop, rest) ← lexemesTo? isStop (cs.length + 1) cs
  let isPartial ← match lexemes with
    | [.name _] => some false
    | .name _ :: place => if afterPlace? place = some [] then some true else none
    | _ => none
  let d : DocumentType := { standsAlone, isPartial }
  if stop = .ends then return (d, rest)
  let (d, rest) ← subset? (cs.length + 1) d rest
  return (d, ← Text.after? ">" (skipSpace rest))

/-- Comments, instructions and at most one document type, and what follows them. -/
def prologWithin? (standsAlone : Bool) :
    Nat → Option DocumentType → List Char → Option (DocumentType × List Char)
  | 0, _, _ => none
  | fuel + 1, found, cs =>
    match skipSpace cs with
    | '<' :: '?' :: rest => do prologWithin? standsAlone fuel found (← afterInstruction? rest)
    | '<' :: '!' :: rest => do
      match ← keyword? rest with
      | (.aside, rest) => prologWithin? standsAlone fuel found rest
      | (.keyword "DOCTYPE", rest) =>
        if found.isSome then none
        let (d, rest) ← doctype? standsAlone rest
        prologWithin? standsAlone fuel (some d) rest
      | _ => none
    | rest => some (found.getD { standsAlone }, rest)

/-- The document type of a document, and the document from its root on. -/
def prolog? (standsAlone : Bool) (cs : List Char) : Option (DocumentType × List Char) :=
  prologWithin? standsAlone (cs.length + 1) none cs

end CardDrawing.Xml
