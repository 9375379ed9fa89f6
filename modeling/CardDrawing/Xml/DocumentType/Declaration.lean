import CardDrawing.Text.Classes
import CardDrawing.Xml.DocumentType.Basic
import CardDrawing.Xml.DocumentType.Lexeme

/-!
# Declarations

What may be declared in a document type, as lexemes: entities, attributes, elements and notations.
-/

namespace CardDrawing.Xml

/-- Whether a text may be the public name of something: letters, digits, blanks and a few signs. -/
def isPublicName (text : List Char) : Bool :=
  text.all fun c =>
    Text.isAsciiLetter c || Text.isAsciiDigit c || " \n\r-'()+,./:=?;!*#@$_%".toList.contains c

/-- What follows the place of something that is elsewhere. -/
def afterPlace? : List Lexeme → Option (List Lexeme)
  | .name ⟨none, "SYSTEM"⟩ :: .literal _ :: rest => some rest
  | .name ⟨none, "PUBLIC"⟩ :: .literal text :: .literal _ :: rest =>
    if isPublicName text then some rest else none
  | _ => none

/-! ## Elements and notations -/

/-- Whether lexemes are the content of elements from its first parenthesis on. `groups` holds the
separator of every open group, the innermost first, which is the same throughout a group; `isDue`
tells whether an element must come next. -/
def isContent (groups : List (Option Lexeme)) (isDue : Bool) : List Lexeme → Bool
  | [] => false
  | .opensGroup :: rest => isDue && isContent (none :: groups) true rest
  | .name _ :: rest | .counted :: rest => isDue && isContent groups false rest
  | .closesGroup _ :: rest =>
    !isDue &&
      match groups with
      | [] => false
      | [_] => rest.isEmpty
      | _ :: outer => isContent outer false rest
  | separator :: rest =>
    !isDue && (separator = .bar || separator = .comma) &&
      match groups with
      | [] => false
      | group :: outer =>
        group.all (· = separator) && isContent (some separator :: outer) true rest

/-- Whether lexemes are the elements that text may be mixed with, with a bar before each. -/
def isMixture : List Lexeme → Bool
  | [.closesGroup mark] => mark = some '*'
  | .bar :: .name _ :: rest => isMixture rest
  | _ => false

/-- Whether lexemes declare an element. -/
def isElement : List Lexeme → Bool
  | [.name _, .name ⟨none, "EMPTY"⟩] | [.name _, .name ⟨none, "ANY"⟩] => true
  | [.name _, .opensGroup, .hash "PCDATA", .closesGroup none] => true
  | .name _ :: .opensGroup :: .hash "PCDATA" :: rest => isMixture rest
  | .name _ :: .opensGroup :: rest => isContent [none] true rest
  | _ => false

/-- Whether lexemes declare a notation. -/
def isNotation : List Lexeme → Bool
  | [.name ⟨none, _⟩, .name ⟨none, "PUBLIC"⟩, .literal text] => isPublicName text
  | .name ⟨none, _⟩ :: rest => afterPlace? rest = some []
  | _ => false

/-! ## Entities -/

/-- An entity as it is declared. -/
structure EntityDeclaration where
  /-- none for a parameter, which no document refers to -/
  name : Option (List Char)
  /-- its text as it is written, if it is not elsewhere -/
  text : Option (List Char)

/-- The text that an entity has, if it is not elsewhere. -/
def definition? (mayBeData : Bool) : List Lexeme → Option (Option (List Char))
  | [.literal text] => some (some text)
  | lexemes =>
    match afterPlace? lexemes with
    | some [] => some none
    | some [.name ⟨none, "NDATA"⟩, .name ⟨none, _⟩] => if mayBeData then some none else none
    | _ => none

def entity? : List Lexeme → Option EntityDeclaration
  | .percent :: .name ⟨none, _⟩ :: rest => (definition? false rest).map (⟨none, ·⟩)
  | .name ⟨none, name⟩ :: rest => (definition? true rest).map (⟨some name.toList, ·⟩)
  | _ => none

/-- The text that an entity stands for: characters that are written by their numbers are part of it
as markup, references are left for later, and no parameters are put in. -/
def entityText? (text : List Char) : Option (List Char) := do
  if text.contains '%' then none
  return (← pieces? text).flatMap Piece.text

/-- The document type after the declaration of an entity. -/
def DocumentType.withEntity? (d : DocumentType) (e : EntityDeclaration) : Option DocumentType := do
  if d.isDone then return d
  let entity ← match e.text with
    | some text => (entityText? text).map Entity.text
    | none => some .outside
  match e.name with
  | some name => return { d with entities := d.entities ++ [(name, entity)] }
  | none => return d

/-! ## Attributes -/

/-- An attribute as it is declared. -/
structure AttributeDeclaration where
  name : RawName
  isTokens : Bool
  isIdentity : Bool
  /-- the value that it has by default, as it is written -/
  text : Option (List Char)

/-- What follows a choice of one of several lexemes. -/
def afterChoice? (isOption : Lexeme → Bool) : List Lexeme → Option (List Lexeme)
  | first :: .bar :: rest => if isOption first then afterChoice? isOption rest else none
  | first :: .closesGroup none :: rest => if isOption first then some rest else none
  | _ => none

/-- The types of attributes that have a name: all but the first are made of tokens. -/
def attributeTypes : List String :=
  ["CDATA", "ID", "IDREF", "IDREFS", "ENTITY", "ENTITIES", "NMTOKEN", "NMTOKENS"]

/-- The type of an attribute, with nothing for a choice, and what follows it. -/
def attributeType? : List Lexeme → Option (Option String × List Lexeme)
  | .opensGroup :: rest =>
    let isOption (l : Lexeme) : Bool := l matches .name _ | .token
    (afterChoice? isOption rest).map (none, ·)
  | .name ⟨none, "NOTATION"⟩ :: .opensGroup :: rest =>
    let isOption (l : Lexeme) : Bool := l matches .name ⟨none, _⟩
    (afterChoice? isOption rest).map (none, ·)
  | .name ⟨none, type⟩ :: rest =>
    if attributeTypes.contains type then some (some type, rest) else none
  | _ => none

/-- What an attribute is by default, and what follows that. -/
def attributeDefault? : List Lexeme → Option (Option (List Char) × List Lexeme)
  | .hash "REQUIRED" :: rest | .hash "IMPLIED" :: rest => some (none, rest)
  | .hash "FIXED" :: .literal text :: rest | .literal text :: rest => some (some text, rest)
  | _ => none

def attributesWithin? : Nat → List Lexeme → Option (List AttributeDeclaration)
  | _, [] => some []
  | fuel + 1, .name name :: rest => do
    let (type, rest) ← attributeType? rest
    let (text, rest) ← attributeDefault? rest
    let first := ⟨name, type ≠ some "CDATA", type = some "ID", text⟩
    return first :: (← attributesWithin? fuel rest)
  | _, _ => none

/-- The tag of the elements that attributes are declared of, and the attributes. -/
def attributeList? : List Lexeme → Option (RawName × List AttributeDeclaration)
  | .name tag :: rest => (attributesWithin? rest.length rest).map (tag, ·)
  | _ => none

/-- The document type after the declaration of an attribute. One with a default, or which is the
identity of its element, counts only if it is the first of its name. -/
def DocumentType.withAttribute? (d : DocumentType) (tag : RawName) (a : AttributeDeclaration) :
    Option DocumentType := do
  if d.isDone then return d
  if !a.text.all fun text => d.isModest (DocumentType.size text) text then none
  let value ← a.text.mapM (d.value? a.isTokens)
  let isKnown := d.rules.any fun rule => rule.tag = tag && rule.name = a.name
  if (value.isSome || a.isIdentity) && isKnown then return d
  return { d with rules := d.rules ++ [⟨tag, a.name, a.isTokens, value⟩] }

/-! ## Every kind -/

/-- The document type after a declaration, which has the word of its kind and lexemes. -/
def DocumentType.declare? (d : DocumentType) (word : String) (lexemes : List Lexeme) :
    Option DocumentType := do
  match word with
  | "ELEMENT" => if isElement lexemes then return d else none
  | "NOTATION" => if isNotation lexemes then return d else none
  | "ENTITY" => d.withEntity? (← entity? lexemes)
  | "ATTLIST" =>
    let (tag, attributes) ← attributeList? lexemes
    attributes.foldlM (·.withAttribute? tag ·) d
  | _ => none

end CardDrawing.Xml
