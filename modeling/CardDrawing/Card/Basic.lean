import CardDrawing.Field.Reader

/-!
# Cards

A card is sparse: it names a template and holds data for some of its fields. An entry holds a
value, a selection among the card's choices, or both.
-/

namespace CardDrawing

/-- One data source of a field. A null value is none. -/
structure DataEntry where
  value : Value := .null
  choiceIndex : Option ChoiceIndex := none

namespace DataEntry

/-- The keys of an entry beside `value` and `choiceIndex`; they are shorthand for a value. -/
def shorthand (raw : Keyed Value) : Keyed Value :=
  raw.filter fun entry => entry.1 ≠ "value" && entry.1 ≠ "choiceIndex"

/-- The value of an entry: shorthand keys first, then the explicit ones, which win. -/
def foldValue (place : String) (raw : Keyed Value) : Except Error Value :=
  let inline := shorthand raw
  let value := Value.getD raw "value"
  if inline.isEmpty then .ok value
  else
    match value with
    | .null => .ok (.object inline)
    | .object explicit => .ok (.object (Keyed.overlay inline explicit))
    | _ => .error (.mixedEntry place ((Keyed.keys inline).mergeSort (· ≤ ·)))

def read (place : String) (raw : Value) : Except Error DataEntry := do
  let entries ← expectObject place raw
  let value ← foldValue place entries
  let choiceIndex ← readChoiceIndex s!"{place}.choiceIndex" (Value.getD entries "choiceIndex")
  return { value, choiceIndex }

def toValue (e : DataEntry) : Value :=
  .object ((match e.value with | .null => [] | v => [("value", v)]) ++
    match e.choiceIndex with
    | none => []
    | some index => [("choiceIndex", index.toValue)])

end DataEntry

structure Card where
  templateName : String
  data : Keyed DataEntry := []
  choices : Keyed (List Value) := []
  defaultData : Option (Keyed DataEntry) := none

namespace Card

/-- A part of a card, with an absent or empty-looking one read as an empty object. -/
def partOf (payload : Keyed Value) (key : String) : Except Error (Keyed Value) :=
  let raw := Value.getD payload key
  if raw.holds then expectObject key raw else .ok []

def readChoices : Keyed Value → Except Error (Keyed (List Value))
  | [] => .ok []
  | (id, .list items) :: rest => return (id, items) :: (← readChoices rest)
  | (id, _) :: _ => .error (.notList s!"choices.{id}")

/-- Entries of the part called `place`; null entries are left out. -/
def readEntries (place : String) : Keyed Value → Except Error (Keyed DataEntry)
  | [] => .ok []
  | (_, .null) :: rest => readEntries place rest
  | (id, raw) :: rest => do
    let entry ← DataEntry.read s!"{place}.{id}" raw
    return (id, entry) :: (← readEntries place rest)

def readDefaults : Value → Except Error (Option (Keyed DataEntry))
  | .null => .ok none
  | raw => do
    let entries ← expectObject "defaultData" raw
    return some (← readEntries "defaultData" entries)

def read (payload : Value) : Except Error Card :=
  match payload with
  | .object entries => do
    let data ← partOf entries "data"
    let choices ← partOf entries "choices"
    let choices ← readChoices choices
    let defaultData ← readDefaults (Value.getD entries "defaultData")
    let data ← readEntries "data" data
    let templateName := ((Keyed.get? entries "templateName").getD (.text "")).shown
    return { templateName, data, choices, defaultData }
  | v => .error (.noAttribute v.typeName "get")

def entriesValue (entries : Keyed DataEntry) : Value :=
  .object (Keyed.mapValues DataEntry.toValue entries)

def toValue (card : Card) : Value :=
  .object (
    [("templateName", .text card.templateName),
      ("data", entriesValue card.data),
      ("choices", .object (Keyed.mapValues Value.list card.choices))] ++
    match card.defaultData with
    | none => []
    | some entries => [("defaultData", entriesValue entries)])

end Card

end CardDrawing
