import CardDrawing.Value.Conversion

/-!
# Items of a configuration document

A document is a table of items. Dates and times are only told apart by their kinds.
-/

namespace CardDrawing.Toml

inductive Moment where
  | dateTime
  | date
  | time
deriving DecidableEq, Repr

inductive Item where
  | text (s : String)
  | int (n : Int)
  | float (x : Float)
  | bool (b : Bool)
  | moment (kind : Moment)
  | array (items : List Item)
  | table (entries : List (String × Item))
deriving Inhabited

def Moment.typeName : Moment → String
  | dateTime => "datetime.datetime"
  | date => "datetime.date"
  | time => "datetime.time"

/-- The value that a number reads an item as; arrays and tables are told apart but not looked
into. -/
def Item.value? : Item → Except Moment Value
  | text s => .ok (.text s)
  | int n => .ok (.int n)
  | float x => .ok (.float x)
  | bool b => .ok (.bool b)
  | array _ => .ok (.list [])
  | table _ => .ok (.object [])
  | moment kind => .error kind

def Item.toInt (item : Item) : Except Error Int :=
  match item.value? with
  | .ok v => v.toInt
  | .error kind => .error (.intOfType kind.typeName)

def Item.toFloat (item : Item) : Except Error Float :=
  match item.value? with
  | .ok v => v.toFloat
  | .error kind => .error (.floatOfType kind.typeName)

end CardDrawing.Toml
