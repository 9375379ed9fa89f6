import CardDrawing.Renderer

/-!
# Editing a card

An editor gives access to the field data of one card, checked against its template. Watchers are
notified, in the order in which they registered, after every successful edit.
-/

namespace CardDrawing

/-- A notification: which watcher was told, and the card as it was then. -/
structure Notice where
  watcher : Nat
  card : Card

structure Editor where
  card : Card
  template : Template
  compiler : Compiler
  watchers : List Nat := []
  notices : List Notice := []

namespace Editor

/-- An editor for a card, with its template from a source that answers at once. -/
def start (source : TemplateSource) (collaborators : Collaborators) (card : Card) :
    Except Error Editor := do
  let template ←
    match source with
    | .absent => throw .editorNeedsSupplier
    | .deferred _ => throw .editorNeedsSyncSupplier
    | .direct supply => supply card.templateName
  return { card, template, compiler := ← Compiler.configure collaborators }

/-- Registers one more watcher; watchers are numbered from zero. -/
def watch (e : Editor) : Editor := { e with watchers := e.watchers ++ [e.watchers.length] }

def notify (e : Editor) : Editor :=
  { e with notices := e.notices ++ e.watchers.map fun watcher => { watcher, card := e.card } }

/-- The field called `name` is of the given type, under any of the type's names. -/
def checkFieldName (e : Editor) (name tag : String) : Except Error Field :=
  match Keyed.get? e.template.fields name with
  | some field =>
    if field.type.tag = canonicalTag tag then .ok field else .error (.notOfType name tag)
  | none => .error (.notOfType name tag)

/-- The entries of a field's data, for an edit of `attr`; no data is an empty object. -/
def editableData (e : Editor) (field attr : String) : Except Error (Keyed Value) :=
  match ((Keyed.get? e.card.data field).getD {}).value with
  | .null => .ok []
  | .object entries => .ok entries
  | _ => .error (.valueNotEditable field attr)

/-- Sets one attribute of a field's data; the entry's selection stays. -/
def setAttribute (e : Editor) (field attr : String) (value : Value) : Except Error Editor := do
  let _ ← e.template.getField field
  let entries ← e.editableData field attr
  let choiceIndex := (Keyed.get? e.card.data field).bind DataEntry.choiceIndex
  let entry : DataEntry := { value := .object (Keyed.put entries attr value), choiceIndex }
  return notify { e with card := { e.card with data := Keyed.put e.card.data field entry } }

/-- One attribute of a field's data, or `default` if it is absent or null. -/
def getAttribute (e : Editor) (field attr : String) (default : Value := .null) : Value :=
  match (Keyed.get? e.card.data field).bind fun entry => entry.value.get? attr with
  | none | some .null => default
  | some value => value

def fieldChoices (e : Editor) (id : String) : Option (List Value) :=
  Keyed.get? e.card.choices id

/-- The place of an image field. -/
def imageLocation (e : Editor) (name : String) : Except Error Box := do
  match ← e.checkFieldName name "image" with
  | .image field => return field.toBox
  | _ => throw (.notOfType name "image")

def fieldValue (e : Editor) (id : String) : Except Error Value := do
  resolveValue (← e.template.getField id) e.card

def build (e : Editor) : Except Error (List Primitive) := e.compiler.build e.template e.card

end Editor

end CardDrawing
