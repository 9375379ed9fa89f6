import CardDrawing.Value.Basic
import CardDrawing.Decimal.Shortest
import CardDrawing.Text.Quoted

/-!
# The text of a value

`Value.quoted` writes a value unambiguously; `Value.shown` is the same but for a text, which
stands for itself.
-/

namespace CardDrawing.Value

mutual

def quoted : Value → String
  | null => "None"
  | bool b => if b then "True" else "False"
  | int n => toString n
  | float x => Decimal.write x
  | text s => Text.quoted s
  | list items => "[" ++ ", ".intercalate (quotedItems items) ++ "]"
  | object entries => "\x7b" ++ ", ".intercalate (quotedEntries entries) ++ "\x7d"

def quotedItems : List Value → List String
  | [] => []
  | v :: rest => quoted v :: quotedItems rest

def quotedEntries : List (String × Value) → List String
  | [] => []
  | (k, v) :: rest => (Text.quoted k ++ ": " ++ quoted v) :: quotedEntries rest

end

/-- The text of a value. Whole numbers are written with all their digits: the customary limit of
4300 digits is left out. -/
def shown : Value → String
  | text s => s
  | v => quoted v

/-- The text of a value, with null as no text. -/
def shown? : Value → Option String
  | null => none
  | v => some (shown v)

end CardDrawing.Value
