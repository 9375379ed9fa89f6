/-!
# Elements

The tree of elements that a document holds. Text between elements is left out.
-/

namespace CardDrawing.Xml

/-- A name within a name space, which is empty for a name that belongs to none. -/
structure Name where
  space : String
  label : String
deriving DecidableEq, Repr

abbrev Attributes := List (Name × String)

inductive Element where
  | node (name : Name) (attributes : Attributes) (children : List Element)

namespace Element

def name : Element → Name
  | node name _ _ => name

def attributes : Element → Attributes
  | node _ attributes _ => attributes

def children : Element → List Element
  | node _ _ children => children

mutual

/-- An element and all elements within it, in document order. -/
def all : Element → List Element
  | node name attributes children => node name attributes children :: allIn children

def allIn : List Element → List Element
  | [] => []
  | e :: rest => e.all ++ allIn rest

end

end Element

/-- The value of the attribute of a name that belongs to no name space. -/
def Attributes.get? (attributes : Attributes) (key : String) : Option String :=
  attributes.lookup ⟨"", key⟩

end CardDrawing.Xml
