import CardDrawing.Xml.Content
import CardDrawing.Xml.Declaration
import CardDrawing.Xml.Encoding
import CardDrawing.Xml.Prolog

/-!
# Reading documents

A document is a declaration, a prolog and a root. Bytes are decoded as the document itself tells.
-/

namespace CardDrawing.Xml

/-- The root of a document. -/
def document? (cs : List Char) : Option Element := do
  let (declaration, rest) ← declaration? (normalLines cs)
  let (d, rest) ← prolog? declaration.standsAlone rest
  if d.isModest (DocumentType.size cs) rest then root? d rest else none

/-- A byte order mark at the start is no part of the text. -/
def withoutMark (cs : List Char) : List Char :=
  match cs with
  | c :: rest => if c.toNat = 0xfeff then rest else cs
  | [] => []

/-- Reads a text; the encoding that it names does not count. -/
def read (text : String) : Except Error Element :=
  match document? (withoutMark text.toList) with
  | some root => .ok root
  | none => .error (.outage .xmlSyntax)

/-- The encoding that bytes name in a declaration. -/
def namedEncoding? (shown : Encoding) (bytes : Text.Bytes) : Option String := do
  let (declaration, _) ← declaration? (normalLines (withoutMark (shown.outline bytes)))
  declaration.encoding

/-- Reads bytes. -/
def readBytes (bytes : Text.Bytes) : Except Error Element := do
  let (shown, body) := marked bytes
  let encoding ← match namedEncoding? shown body with
    | some name => shown.agreed name
    | none => pure shown
  match (encoding.decode? body).bind document? with
  | some root => return root
  | none => throw (.outage .xmlSyntax)

end CardDrawing.Xml
