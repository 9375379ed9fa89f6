import CardDrawing.Card.Resolution

/-!
# Palettes

Color-scheme fields resolve to palettes, and other fields refer to their entries as
`$scheme.key`. A palette entry is a literal color: one palette cannot refer to another.
-/

namespace CardDrawing

abbrev Palette := Keyed Value

abbrev Palettes := Keyed Palette

namespace Palettes

def ofField (field : Field) (card : Card) : Except Error Palette := do
  match ← resolveValue field card with
  | .null => return []
  | .object entries => return entries
  | _ => throw (.schemeNotObject field.id)

/-- The palettes of color-scheme fields under their ids. -/
def build (fields : List Field) (card : Card) : Except Error Palettes :=
  fields.foldlM (fun palettes field => return Keyed.put palettes field.id (← ofField field card)) []

end Palettes

def isReference : Value → Bool
  | .text s => s.startsWith "$"
  | _ => false

/-- The scheme and the key of a reference: what stands before and after the first dot, without
the leading character. -/
def parseReference (reference : String) : Except Error (String × String) :=
  match Text.cutAt? '.' (reference.toList.drop 1) with
  | some (scheme, key) =>
    if scheme.isEmpty || key.isEmpty then .error (.referenceForm reference)
    else .ok (String.ofList scheme, String.ofList key)
  | none => .error (.referenceForm reference)

/-- A color as it is drawn: a reference is replaced by the entry it names, anything else stands
for itself. -/
def resolveColor (palettes : Palettes) (raw : Value) : Except Error Value :=
  match raw with
  | .text reference =>
    if reference.startsWith "$" then do
      let (scheme, key) ← parseReference reference
      match Keyed.get? palettes scheme with
      | none => throw (.noScheme scheme reference)
      | some palette =>
        match Keyed.get? palette key with
        | none => throw (.noColor key scheme)
        | some color =>
          if isReference color then throw (.nestedReference scheme key color.shown)
          else return color
    else .ok raw
  | _ => .ok raw

/-- The color of a field, null if it has none. -/
def resolveFieldColor (palettes : Palettes) (color : Option String) : Except Error Value :=
  match color with
  | none => .ok .null
  | some s => resolveColor palettes (.text s)

end CardDrawing
