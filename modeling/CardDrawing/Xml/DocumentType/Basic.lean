import CardDrawing.Xml.Reference

/-!
# Document types

What a document type tells about the document: the texts that entities stand for, and the
attributes that elements have. Parts of a document type may be elsewhere, and are not looked at.
-/

namespace CardDrawing.Xml

/-- What an entity stands for. -/
inductive Entity where
  | text (text : List Char)
  /-- something outside the document -/
  | outside

/-- Entities by name; the first of a name counts. -/
abbrev Entities := List (List Char × Entity)

/-- The characters that every document may refer to by name. -/
def commonEntities : List (List Char × Char) :=
  [("amp".toList, '&'), ("lt".toList, '<'), ("gt".toList, '>'), ("quot".toList, '"'),
    ("apos".toList, '\'')]

/-- What is declared of an attribute of the elements with a tag. -/
structure AttributeRule where
  tag : RawName
  name : RawName
  /-- a sequence of tokens, in which the number of blanks does not matter -/
  isTokens : Bool
  /-- the value that it has by default -/
  value : Option String

structure DocumentType where
  standsAlone : Bool := false
  /-- part of it is elsewhere -/
  isPartial : Bool := false
  /-- what is declared does not count any more, because parts before it may declare it otherwise -/
  isDone : Bool := false
  entities : Entities := []
  rules : List AttributeRule := []

namespace DocumentType

/-- Whether every entity must be declared: no part that is elsewhere can declare it. -/
def isComplete (d : DocumentType) : Bool := d.standsAlone || !d.isPartial

/-! ## Values of attributes -/

/-- All white space is blanks in the value of an attribute. -/
def blankSpace (c : Char) : Char := if isSpace c then ' ' else c

/-- The pieces of a text in the value of an attribute, which holds no markup. -/
def valuePieces? (text : List Char) : Option (List Piece) :=
  if text.contains '<' then none else pieces? (text.map blankSpace)

/-- The text that pieces stand for, with entities in entities up to a depth. An entity without a
declaration stands for nothing if it may be declared elsewhere. -/
def substitute? (d : DocumentType) : Nat → List Piece → Option (List Char)
  | _, [] => some []
  | depth, .char c :: rest => do return c :: (← substitute? d depth rest)
  | depth, .reference name :: rest =>
    match commonEntities.lookup name, d.entities.lookup name, depth with
    | some c, _, depth => do return c :: (← substitute? d depth rest)
    | none, none, depth => if d.isComplete then none else substitute? d depth rest
    | none, some .outside, _ | none, some (.text _), 0 => none
    | none, some (.text text), depth + 1 => do
      let inner ← substitute? d depth (← valuePieces? text)
      return inner ++ (← substitute? d (depth + 1) rest)
termination_by depth pieces => (depth, pieces.length)

/-- How deep entities may be nested: an entity does not refer to itself, not even through others. -/
def depth (d : DocumentType) : Nat := d.entities.length

/-- Tokens with single blanks between them. -/
def tokens (value : List Char) : List Char :=
  [' '].intercalate ((Text.splitAt ' ' value).filter (!·.isEmpty))

/-- The value of an attribute as it is meant. -/
def value? (d : DocumentType) (isTokens : Bool) (text : List Char) : Option String := do
  let value ← d.substitute? d.depth (← valuePieces? text)
  return String.ofList (if isTokens then tokens value else value)

/-- The attributes of an element: those that are written in its tag, and then those that it has by
default. -/
def attributes? (d : DocumentType) (tag : RawName) (written : List (RawName × List Char)) :
    Option (List (RawName × String)) := do
  let rules := d.rules.filter (·.tag = tag)
  let given ← written.mapM fun (name, text) => do
    let rule := rules.find? (·.name = name)
    return (name, ← d.value? (rule.any (·.isTokens)) text)
  let missing := rules.filter fun rule => !(written.map Prod.fst).contains rule.name
  return given ++ missing.filterMap fun rule => rule.value.map (rule.name, ·)

/-! ## How much entities stand for -/

def size (text : List Char) : Nat := text.foldl (fun n c => n + c.utf8Size) 0

/-- The size of what a text mentions, by the sizes of entities. -/
def mentioned (sizes : List (List Char × Nat)) (text : List Char) : Nat :=
  (mentions text).foldl (fun n name => n + (sizes.lookup name).getD 0) 0

/-- The sizes of entities with what they mention, as far as a number of steps leads. -/
def sizesWithin (d : DocumentType) : Nat → List (List Char × Nat)
  | 0 => []
  | steps + 1 =>
    let sizes := sizesWithin d steps
    d.entities.map fun (name, entity) =>
      match entity with
      | .text text => (name, size text + mentioned sizes text)
      | .outside => (name, 0)

/-- Whether a part of what is written does not make it huge through entities: larger than eight
megabytes and than a hundred times what is written. -/
def isModest (d : DocumentType) (written : Nat) (part : List Char) : Bool :=
  written + mentioned (d.sizesWithin d.depth) part ≤ max (8 * Nat.pow 2 20) (100 * written)

end DocumentType

end CardDrawing.Xml
