import CardDrawing.Card.Basic

/-!
# Effective values

The effective value of a field on a card: the first present source counts, a selection picks
among the card's choices, and a value beside a selection is laid over what was picked.
-/

namespace CardDrawing

/-- The choice at an index. A boolean counts as zero or one; an index is never counted from the
end. -/
def choiceAt (choices : List Value) (index : Value) : Except Error Value :=
  let outside := Error.choiceOutOfRange index choices.length
  let pick (n : Int) : Except Error Value :=
    if n < 0 then .error outside
    else
      match choices[n.toNat]? with
      | some choice => .ok choice
      | none => .error outside
  match index with
  | .int n => pick n
  | .bool b => pick (if b then 1 else 0)
  | .float x =>
    if Number.lt (.real x) 0 || Number.le (.int choices.length) (.real x) then .error outside
    else .error (.listIndexType "float")
  | v => .error (.notComparable v.typeName "int")

/-- One choice for a whole index, or the list of choices for a list of indices. -/
def resolveChoice (index : Value) (choices? : Option (List Value)) : Except Error Value :=
  match choices? with
  | none => .error .noChoices
  | some choices =>
    match index with
    | .int _ => choiceAt choices index
    | .list indices => (indices.mapM (choiceAt choices)).map .list
    | v => .error (.unsupportedChoiceIndex v)

mutual

/-- Lays a value over a chosen one: an object key by key over an object and into every item of a
list, a list position by position over a list, anything else in place of what was chosen. -/
def mergeOverride (chosen override : Value) : Value :=
  match chosen, override with
  | .list items, .object entries => .list (mergeInto items entries)
  | .list items, .list others => .list (others ++ items.drop others.length)
  | .object entries, .object others => .object (Keyed.overlay entries others)
  | _, _ => override

def mergeInto : List Value → Keyed Value → List Value
  | [], _ => []
  | item :: rest, entries => mergeOverride item (.object entries) :: mergeInto rest entries

end

/-- The source that counts for a field: the card's entry, then its default entry, then what the
field itself declares. -/
def selectSource (field : Field) (card : Card) : Option DataEntry :=
  match Keyed.get? card.data field.id with
  | some entry => some entry
  | none =>
    match card.defaultData.bind fun defaults => Keyed.get? defaults field.id with
    | some entry => some entry
    | none =>
      let own := field.identity
      if own.value.isNull && own.choiceIndex.isNone then none
      else some { value := own.value, choiceIndex := own.choiceIndex }

/-- The value of one source; `choices?` are the card's choices for the field `id`. -/
def DataEntry.resolve (source : DataEntry) (id : String) (choices? : Option (List Value)) :
    Except Error Value :=
  match source.choiceIndex with
  | none => .ok source.value
  | some index =>
    match resolveChoice index.toValue choices? with
    | .error why => .error (if why.kind = .choiceLookup then .choiceOfField id why else why)
    | .ok chosen =>
      .ok (match source.value with
        | .null => chosen
        | override => mergeOverride chosen override)

/-- The effective value of a field, null if the card leaves it open. -/
def resolveValue (field : Field) (card : Card) : Except Error Value :=
  match selectSource field card with
  | none => .ok .null
  | some source => source.resolve field.id (Keyed.get? card.choices field.id)

end CardDrawing
