import CardDrawing.Field.Basic
import CardDrawing.Value.Conversion

/-!
# Reading fields

A field is read from an object whose keys are its attributes. Nested fields get ids that spell
their path. Attributes are converted in a fixed order, so that of several bad ones the first is
reported, and an id is looked at after the attributes.
-/

namespace CardDrawing

/-- The entries of an object, or a complaint that names its place. -/
def expectObject (place : String) : Value → Except Error (Keyed Value)
  | .object entries => .ok entries
  | _ => .error (.notObject place)

def wholeNumber? : Value → Option Int
  | .int n => some n
  | _ => none

/-- A choice index is a whole number or a list of whole numbers; booleans are neither. -/
def readChoiceIndex (place : String) : Value → Except Error (Option ChoiceIndex)
  | .null => .ok none
  | .int n => .ok (some (.one n))
  | .list items =>
    match items.mapM wholeNumber? with
    | some indices => .ok (some (.many indices))
    | none => .error (.choiceIndexShape place)
  | _ => .error (.choiceIndexShape place)

namespace Field

/-- A coordinate, with an absent or null one read as `default`. -/
def coordinate (data : Keyed Value) (key : String) (default : Float := 0) :
    Except Error Number :=
  match Value.getD data key with
  | .null => .ok (.real default)
  | v => v.toFloat.map .real

/-- An optional number, with an absent or null one read as none. -/
def number? (data : Keyed Value) (key : String) : Except Error (Option Number) :=
  (Value.getD data key).toFloat?.map (·.map .real)

def text? (data : Keyed Value) (key : String) : Option String :=
  (Value.getD data key).shown?

def checkId (id : String) : Except Error Unit :=
  if Text.isBlankText id then .error .blankFieldId else .ok ()

/-- A key-value list needs a row to repeat. -/
def rowList (identity : Identity) (y yIncr : Number) (row? : Option RowField)
    (extras : List Field) : Except Error Field := do
  checkId identity.id
  match row? with
  | some row => return .keyValList identity y yIncr row extras
  | none => throw (.rowSpecRequired identity.id)

def readStyle (data : Keyed Value) : Except Error TextStyle := do
  let fontSize ← number? data "fontSize"
  let wrapAt ← number? data "wrapAt"
  return {
    font := text? data "font"
    fontFamily := text? data "fontFamily"
    fontSize
    color := text? data "color"
    leading := text? data "prefix"
    wrapAt
    align := text? data "textAlign" }

def readBox (data : Keyed Value) : Except Error Box := do
  let x ← coordinate data "x"
  let y ← coordinate data "y"
  let width ← coordinate data "width"
  let height ← coordinate data "height"
  return { x, y, width, height }

def readBoxField (identity : Identity) (data : Keyed Value) : Except Error BoxField := do
  let box ← readBox data
  checkId identity.id
  return { toIdentity := identity, toBox := box }

def readLine (identity : Identity) (data : Keyed Value) : Except Error LineField := do
  let startX ← coordinate data "startX"
  let startY ← coordinate data "startY"
  let endX ← coordinate data "endX"
  let endY ← coordinate data "endY"
  let width ← coordinate data "width" 1
  checkId identity.id
  return { toIdentity := identity, startX, startY, endX, endY, width, color := text? data "color" }

def readText (identity : Identity) (data : Keyed Value) : Except Error TextField := do
  let x ← coordinate data "x"
  let y ← coordinate data "y"
  let style ← readStyle data
  checkId identity.id
  return { toIdentity := identity, x, y, style }

def readRow (identity : Identity) (data : Keyed Value) : Except Error RowField := do
  let keyX ← coordinate data "keyX"
  let valX ← coordinate data "valX"
  let y ← coordinate data "y"
  let style ← readStyle data
  checkId identity.id
  return { toIdentity := identity, keyX, valX, y, style }

def readCredit (id : String) (data : Keyed Value) : Except Error (Option TextField) :=
  let raw := Value.getD data "credit"
  if raw.holds then do
    let entries ← expectObject s!"fields.{id}.credit" raw
    return some (← readText { id := s!"{id}.credit" } entries)
  else .ok none

/-- The `id` names the place in messages and begins the credit's id. -/
def readImage (id : String) (identity : Identity) (data : Keyed Value) :
    Except Error ImageField := do
  let credit ← readCredit id data
  let box ← readBox data
  checkId identity.id
  return { toIdentity := identity, toBox := box, credit }

/-- One picture of a multi-image row; it may bring an id of its own. -/
def readSpec (id : String) (row i : Nat) (raw : Value) : Except Error ImageField := do
  let data ← expectObject s!"fields.{id}.specs[{row}][{i}]" raw
  let given := Value.getD data "id"
  let specId := if given.holds then given.shown else s!"{id}.{i}"
  readImage specId { id := specId } data

def readSpecRow (id : String) (row : Nat) : Value → Except Error (List ImageField)
  | .list items => items.zipIdx.mapM fun (item, i) => readSpec id row i item
  | _ => .error (.notList s!"fields.{id}.specs[{row}]")

def readSpecs (id : String) (data : Keyed Value) : Except Error (List (List ImageField)) :=
  match (Keyed.get? data "specs").getD (.list []) with
  | .list rows => rows.zipIdx.mapM fun (row, i) => readSpecRow id i row
  | _ => .error (.notList s!"fields.{id}.specs")

/-- The type tag as it is written, and the type it names. -/
def readType (id : String) (data : Keyed Value) : Except Error FieldType :=
  match Value.getD data "type" with
  | .text tag =>
    if Text.isBlankText tag then .error (.noTypeTag s!"fields.{id}.type")
    else
      match FieldType.ofTag? (canonicalTag tag) with
      | some type => .ok type
      | none => .error (.unsupportedTag tag)
  | _ => .error (.noTypeTag s!"fields.{id}.type")

def readIdentity (id : String) (data : Keyed Value) : Except Error Identity := do
  let choiceIndex ←
    readChoiceIndex s!"fields.{id}.choiceIndex" (Value.getD data "choiceIndex")
  return { id, label := text? data "label", value := Value.getD data "value", choiceIndex }

/-- The row of a key-value list, which is read like a field of its own. -/
def readRowSpec (id : String) (data : Keyed Value) : Except Error RowField :=
  match Value.getD data "keyValSpec" with
  | .null => .error (.noRowSpec s!"fields.{id}.keyValSpec")
  | raw => do
    let entries ← expectObject s!"fields.{id}.keyValSpec" raw
    readRow { id := s!"{id}.keyValSpec" } entries

/-- The raw additional elements of a key-value list, which may themselves be lists. -/
def extrasOf (data : Keyed Value) : List Value :=
  match Keyed.get? data "additionalElements" with
  | some (.list items) => items
  | _ => []

def extrasAreList (data : Keyed Value) : Bool :=
  match Keyed.get? data "additionalElements" with
  | some (.list _) | none => true
  | _ => false

theorem sizeOf_lt_of_mem_extras {v : Value} {data : Keyed Value} (h : v ∈ extrasOf data) :
    sizeOf v < sizeOf (Value.object data) := by
  unfold extrasOf at h
  split at h
  · rename_i items hget
    exact Nat.lt_trans (Value.sizeOf_lt_of_mem h) (Value.sizeOf_lt_of_get? hget)
  · cases h

/-- Reads the field that is declared under `id`. -/
def read (id : String) (raw : Value) : Except Error Field :=
  match raw with
  | .object data => do
    let type ← readType id data
    let identity ← readIdentity id data
    match type with
    | .color => return .color (← readBoxField identity data)
    | .line => return .line (← readLine identity data)
    | .text => return .text (← readText identity data)
    | .keyValText => return .keyValText (← readRow identity data)
    | .keyValList => do
      let row ← readRowSpec id data
      if !extrasAreList data then throw (.notList s!"fields.{id}.additionalElements")
      let extras ← (extrasOf data).attach.zipIdx.mapM fun (⟨item, _⟩, i) =>
        read s!"{id}.additionalElements[{i}]" item
      let y ← coordinate data "y"
      let yIncr ← coordinate data "yIncr"
      rowList identity y yIncr (some row) extras
    | .image => return .image (← readImage id identity data)
    | .multiImage => do
      let specs ← readSpecs id data
      checkId id
      return .multiImage identity specs
    | .svg => return .svg (← readBoxField identity data)
    | .colorScheme => do
      checkId id
      return .colorScheme identity
  | _ => .error (.notObject s!"fields.{id}")
termination_by sizeOf raw
decreasing_by
  rename_i h
  exact sizeOf_lt_of_mem_extras h

end Field

end CardDrawing
