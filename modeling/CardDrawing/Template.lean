import CardDrawing.Field.Reader

/-!
# Templates

A template has a name, a positive extent, and fields under their ids in the order in which they
are declared.
-/

namespace CardDrawing

structure Template where
  name : String
  width : Number
  height : Number
  fields : Keyed Field

namespace Template

/-- Every field stands under its own id. -/
def checkKeys : Keyed Field → Except Error Unit
  | [] => .ok ()
  | (key, field) :: rest =>
    if field.id = key then checkKeys rest else .error (.keyMismatch key field.id)

/-- A template from its parts, refused if it has no area or a field under a wrong key. -/
def ofParts (name : String) (width height : Number) (fields : Keyed Field) :
    Except Error Template := do
  if Number.le width 0 || Number.le height 0 then throw .templateExtent
  checkKeys fields
  return { name, width, height, fields }

def orderedFields (t : Template) : List Field := t.fields.map Prod.snd

def editableFields (t : Template) : List Field := t.orderedFields.filter Field.editable

/-- The pictures that can be edited. -/
def imageFields (t : Template) : List ImageField := t.editableFields.filterMap Field.image?

def getField (t : Template) (id : String) : Except Error Field :=
  match Keyed.get? t.fields id with
  | some field => .ok field
  | none => .error (.noField t.name id)

/-- One side of the extent, cut to a whole number. -/
def readExtent (payload : Keyed Value) (key : String) : Except Error Int :=
  match Keyed.get? payload key with
  | some v => v.toInt
  | none => .error (.templateLacks key)

def readFields (raw : Keyed Value) : Except Error (Keyed Field) :=
  raw.mapM fun (id, v) => return (id, ← Field.read id v)

/-- Reads a template document; a given name replaces the document's own. -/
def read (payload : Value) (name? : Option String := none) : Except Error Template :=
  match payload with
  | .object entries => do
    let raw ← expectObject "fields" ((Keyed.get? entries "fields").getD (.object []))
    let name := name?.getD ((Keyed.get? entries "name").getD (.text "")).shown
    let width ← readExtent entries "width"
    let height ← readExtent entries "height"
    let fields ← readFields raw
    ofParts name (.int width) (.int height) fields
  | v => .error (.noAttribute v.typeName "get")

end Template

end CardDrawing
