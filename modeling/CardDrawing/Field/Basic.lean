import CardDrawing.Number

/-!
# Fields

A template places fields: each has an identity, and a shape that says what it draws and where.
-/

namespace CardDrawing

/-- One choice, or a list of choices in the order asked for. -/
inductive ChoiceIndex where
  | one (index : Int)
  | many (indices : List Int)
deriving DecidableEq, Repr

def ChoiceIndex.toValue : ChoiceIndex → Value
  | one index => .int index
  | many indices => .list (indices.map .int)

/-- The field types under their canonical names. -/
inductive FieldType where
  | color
  | line
  | text
  | keyValText
  | keyValList
  | image
  | multiImage
  | svg
  | colorScheme
deriving DecidableEq, Repr

namespace FieldType

def tag : FieldType → String
  | color => "color"
  | line => "line"
  | text => "text"
  | keyValText => "key-val-text"
  | keyValList => "key-val-list"
  | image => "image"
  | multiImage => "multi-image"
  | svg => "svg"
  | colorScheme => "color-scheme"

def all : List FieldType :=
  [color, line, text, keyValText, keyValList, image, multiImage, svg, colorScheme]

def ofTag? (tag : String) : Option FieldType :=
  all.find? fun type => type.tag = tag

end FieldType

/-- Names of field types in older templates. -/
def tagAliases : Keyed String :=
  [("labeled-choice-image", "image"), ("labeled-choice-svg", "svg")]

def canonicalTag (tag : String) : String :=
  (Keyed.get? tagAliases tag).getD tag

structure TextStyle where
  font : Option String := none
  fontFamily : Option String := none
  fontSize : Option Number := none
  color : Option String := none
  leading : Option String := none
  wrapAt : Option Number := none
  align : Option String := none

/-- What every field has: its id, and what a card may leave to it. A null value is none. -/
structure Identity where
  id : String
  label : Option String := none
  value : Value := .null
  choiceIndex : Option ChoiceIndex := none

/-- A rectangle by its corner and its extent. -/
structure Box where
  x : Number := .real 0
  y : Number := .real 0
  width : Number := .real 0
  height : Number := .real 0

structure BoxField extends Identity, Box

structure LineField extends Identity where
  startX : Number := .real 0
  startY : Number := .real 0
  endX : Number := .real 0
  endY : Number := .real 0
  width : Number := .real 1
  color : Option String := none

structure TextField extends Identity where
  x : Number := .real 0
  y : Number := .real 0
  style : TextStyle := {}

/-- A row of two texts, a key and a value, on one line. -/
structure RowField extends Identity where
  keyX : Number := .real 0
  valX : Number := .real 0
  y : Number := .real 0
  style : TextStyle := {}

structure ImageField extends Identity, Box where
  credit : Option TextField := none

inductive Field where
  | color (field : BoxField)
  | line (field : LineField)
  | text (field : TextField)
  | keyValText (field : RowField)
  | keyValList (identity : Identity) (y yIncr : Number) (row : RowField) (extras : List Field)
  | image (field : ImageField)
  | multiImage (identity : Identity) (specs : List (List ImageField))
  | svg (field : BoxField)
  | colorScheme (identity : Identity)

namespace Field

def identity : Field → Identity
  | color f | svg f => f.toIdentity
  | line f => f.toIdentity
  | text f => f.toIdentity
  | keyValText f => f.toIdentity
  | image f => f.toIdentity
  | keyValList i .. | multiImage i _ | colorScheme i => i

def id (f : Field) : String := f.identity.id

/-- A field with a label is shown for editing, also one with an empty label. -/
def editable (f : Field) : Bool := f.identity.label.isSome

def type : Field → FieldType
  | color _ => .color
  | line _ => .line
  | text _ => .text
  | keyValText _ => .keyValText
  | keyValList .. => .keyValList
  | image _ => .image
  | multiImage .. => .multiImage
  | svg _ => .svg
  | colorScheme _ => .colorScheme

def isColorScheme : Field → Bool
  | colorScheme _ => true
  | _ => false

def image? : Field → Option ImageField
  | image f => some f
  | _ => none

/-- Whether a card supplies data to the field; only lines draw without any. -/
def requiresData (f : Field) : Bool := f.type ≠ .line

end Field

end CardDrawing
