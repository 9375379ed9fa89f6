import CardDrawing.Keyed

/-!
# Free-form values

Card data is free-form: templates and cards carry values of any shape, and whole numbers stay
apart from floating ones on their way through.
-/

namespace CardDrawing

inductive Value where
  | null
  | bool (b : Bool)
  | int (n : Int)
  | float (x : Float)
  | text (s : String)
  | list (items : List Value)
  | object (entries : List (String × Value))
deriving Inhabited

namespace Value

/-- The entry under `key` of an object; nothing for other values. -/
def get? : Value → String → Option Value
  | object entries, key => Keyed.get? entries key
  | _, _ => none

/-- The entry under `key`, with an absent one read as null. -/
def getD (entries : Keyed Value) (key : String) : Value :=
  (Keyed.get? entries key).getD null

def isNull : Value → Bool
  | null => true
  | _ => false

/-- Null, as the absence of a value. -/
def toOption : Value → Option Value
  | null => none
  | v => some v

def ofOption : Option Value → Value
  | none => null
  | some v => v

/-- What a condition sees: null, false, zero and empty texts, lists and objects do not hold. -/
def holds : Value → Bool
  | null => false
  | bool b => b
  | int n => n ≠ 0
  | float x => !(x == 0)
  | text s => !s.isEmpty
  | list items => !items.isEmpty
  | object entries => !entries.isEmpty

/-- The name of a value's type, as messages print it. -/
def typeName : Value → String
  | null => "NoneType"
  | bool _ => "bool"
  | int _ => "int"
  | float _ => "float"
  | text _ => "str"
  | list _ => "list"
  | object _ => "dict"

mutual

/-- Equality with key order, whole and floating numbers kept apart, a NaN equal to itself. -/
def same : Value → Value → Bool
  | null, null => true
  | bool a, bool b => a == b
  | int a, int b => a == b
  | float a, float b => a.toBits == b.toBits
  | text a, text b => a == b
  | list as, list bs => sameItems as bs
  | object as, object bs => sameEntries as bs
  | _, _ => false

def sameItems : List Value → List Value → Bool
  | [], [] => true
  | a :: as, b :: bs => same a b && sameItems as bs
  | _, _ => false

def sameEntries : List (String × Value) → List (String × Value) → Bool
  | [], [] => true
  | (j, a) :: as, (k, b) :: bs => j == k && same a b && sameEntries as bs
  | _, _ => false

end

theorem sizeOf_lt_of_mem {v : Value} {items : List Value} (h : v ∈ items) :
    sizeOf v < sizeOf (list items) := by
  have := List.sizeOf_lt_of_mem h
  simp only [list.sizeOf_spec]
  omega

theorem sizeOf_lt_of_get? {v : Value} {entries : Keyed Value} {key : String}
    (h : Keyed.get? entries key = some v) : sizeOf v < sizeOf (object entries) := by
  have := List.sizeOf_lt_of_mem (Keyed.mem_of_get? h)
  simp only [object.sizeOf_spec, Prod.mk.sizeOf_spec] at this ⊢
  omega

end Value

end CardDrawing
