import CardDrawing.Palette
import CardDrawing.Primitive

/-!
# Expansion

A field and its effective value expand to primitives in paint order. Colors are resolved on the
way, and pictures and vector documents leave pending requests behind.
-/

namespace CardDrawing

/-- The text of a text entry: a plain text, or the `text` of an object; none is empty. -/
def textOf : Value → Except Error String
  | .null => .ok ""
  | .text s => .ok s
  | .object entries =>
    match Value.getD entries "text" with
    | .null => .ok ""
    | v => .ok v.shown
  | v => .error (.notText v.typeName)

/-- The data of a field that cannot do without. -/
def requireObject (field : Field) : Value → Except Error (Keyed Value)
  | .null => .error (.noData field.type.tag field.id)
  | .object entries => .ok entries
  | _ => .error (.dataNotObject field.type.tag field.id)

/-- The data of a field that may have none. -/
def optionalObject (type : FieldType) (id : String) : Value → Except Error (Keyed Value)
  | .null => .ok []
  | .object entries => .ok entries
  | _ => .error (.dataNotObject type.tag id)

/-- The items of a field that takes a list; no value is no list. -/
def optionalList (type : FieldType) (id : String) : Value → Except Error (List Value)
  | .null => .ok []
  | .list items => .ok items
  | _ => .error (.dataNotList type.tag id)

def buildText (palettes : Palettes) (x y : Number) (style : TextStyle) (entry : Value) :
    Except Error Primitive := do
  let text ← textOf entry
  let color ← resolveFieldColor palettes style.color
  return .text {
    x, y, text, color
    font := style.font
    fontFamily := style.fontFamily
    fontSize := style.fontSize
    leading := style.leading
    wrapAt := style.wrapAt
    align := style.align }

def buildLine (palettes : Palettes) (field : LineField) : Except Error Primitive := do
  let color ← resolveFieldColor palettes field.color
  return .line {
    startX := field.startX
    startY := field.startY
    endX := field.endX
    endY := field.endY
    width := field.width
    color }

def LineField.offsetY (field : LineField) (dy : Number) : Except Error LineField := do
  return { field with startY := ← field.startY.add dy, endY := ← field.endY.add dy }

def RowField.offsetY (field : RowField) (dy : Number) : Except Error RowField := do
  return { field with y := ← field.y.add dy }

def optionalFlag : Value → Option Bool
  | .null => none
  | v => some v.holds

def imageUrl (id : String) : Value → Except Error (Option String)
  | .null => .ok none
  | .text url => .ok (some url)
  | _ => .error (.imageUrlNotText id)

/-- A picture in the place of `spec`, with the url, the inline picture and the transformation that
`data` asks for. -/
def buildImage (spec : ImageField) (data : Keyed Value) : Except Error Primitive := do
  let url ← imageUrl spec.id (Value.getD data "url")
  let panX ← Field.number? data "panX"
  let panY ← Field.number? data "panY"
  let zoomLevel ← Field.number? data "zoomLevel"
  let rotate ← Field.number? data "rotate"
  return .image {
    toBox := spec.toBox
    id := spec.id
    panX, panY, zoomLevel, rotate
    flipVert := optionalFlag (Value.getD data "flipVert")
    flipHoriz := optionalFlag (Value.getD data "flipHoriz")
    url
    request := some { kind := .image, url, inline := Value.getD data "image" } }

def expandRow (palettes : Palettes) (row : RowField) (entry : Value) :
    Except Error (List Primitive) := do
  let data ← requireObject (.keyValText row) entry
  let key ← buildText palettes row.keyX row.y row.style (Value.getD data "key")
  let val ← buildText palettes row.valX row.y row.style (Value.getD data "val")
  return [key, val]

/-- An additional element of a key-value list, moved to its row; only lines are drawn. -/
def expandExtra (palettes : Palettes) (dy : Number) : Field → Except Error Primitive
  | .line field => do buildLine palettes (← field.offsetY dy)
  | other => .error (.unsupportedTag other.type.tag)

/-- The distance of row `i` of a key-value list from the row's own place. -/
def rowOffset (y yIncr : Number) (i : Nat) : Except Error Number := do
  (← Number.mul (.int i) yIncr).add y

/-- Row `i` of a key-value list, followed by its additional elements. -/
def expandListRow (palettes : Palettes) (y yIncr : Number) (row : RowField) (extras : List Field)
    (i : Nat) (entry : Value) : Except Error (List Primitive) := do
  let dy ← rowOffset y yIncr i
  let texts ← expandRow palettes (← row.offsetY dy) entry
  let lines ← extras.mapM (expandExtra palettes dy)
  return texts ++ lines

def expandRows (palettes : Palettes) (y yIncr : Number) (row : RowField) (extras : List Field) :
    Nat → List Value → Except Error (List Primitive)
  | _, [] => .ok []
  | i, entry :: rest => do
    let first ← expandListRow palettes y yIncr row extras i entry
    let others ← expandRows palettes y yIncr row extras (i + 1) rest
    return first ++ others

/-- The spec row for as many items as there are: row `n` counted from one has `n` specs. -/
def specRow (id : String) (specs : List (List ImageField)) (count : Nat) :
    Except Error (List ImageField) :=
  match specs[count - 1]? with
  | none => .error (.moreItemsThanRows id count specs.length)
  | some row =>
    if row.length = count then .ok row
    else .error (.specRowLength id (count - 1) row.length count)

def expandItems (id : String) (specs : List (List ImageField)) (items : List Value) :
    Except Error (List Primitive) := do
  if items.isEmpty then return []
  let row ← specRow id specs items.length
  (row.zip items).mapM fun (spec, item) => do
    buildImage spec (← optionalObject .multiImage id item)

def expandImage (palettes : Palettes) (field : ImageField) (value : Value) :
    Except Error (List Primitive) := do
  let data ← optionalObject .image field.id value
  let credit ←
    match field.credit with
    | some credit => do
      let text ← buildText palettes credit.x credit.y credit.style (Value.getD data "credit")
      pure [text]
    | none => pure []
  let image ← buildImage field data
  return credit ++ [image]

def expandSvg (field : BoxField) (value : Value) : Except Error (List Primitive) := do
  let data ← optionalObject .svg field.id value
  let url := (Value.getD data "url").shown?
  return [.svg { toBox := field.toBox, url, request := some { kind := .svg, url } }]

/-- The primitives of a field whose effective value is `value`. -/
def expandField (palettes : Palettes) (field : Field) (value : Value) :
    Except Error (List Primitive) :=
  match field with
  | .color f => do
    let data ← requireObject field value
    let color ← resolveFieldColor palettes (Value.getD data "color").shown?
    return [.color { toBox := f.toBox, color }]
  | .line f => return [← buildLine palettes f]
  | .text f => return [← buildText palettes f.x f.y f.style value]
  | .keyValText f => expandRow palettes f value
  | .keyValList identity y yIncr row extras => do
    let entries ← optionalList .keyValList identity.id value
    expandRows palettes y yIncr row extras 0 entries
  | .image f => expandImage palettes f value
  | .multiImage identity specs => do
    let items ← optionalList .multiImage identity.id value
    expandItems identity.id specs items
  | .svg f => expandSvg f value
  | .colorScheme _ => .error (.invalidTag field.type.tag)

end CardDrawing
