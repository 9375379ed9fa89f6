import CardDrawing.Keyed
import CardDrawing.Toml.Item

/-!
# Building tables

Headers and dotted keys open tables one after the other. A table can be declared by a header once,
and only while no section has closed it: the tables on the way of a dotted key belong to the section
that the key stands in. Values are never opened again.
-/

namespace CardDrawing.Toml

/-- How a table came about. -/
inductive Status where
  /-- on the way of a header -/
  | implied
  /-- on the way of a dotted key in a section -/
  | dotted (sectionIndex : Nat)
  | declared
deriving DecidableEq, Repr

/-- Whether a table cannot be opened from a section again. -/
def Status.isClosed (now : Nat) : Status → Bool
  | implied => false
  | dotted sectionIndex => sectionIndex < now
  | declared => true

inductive Node where
  | leaf (item : Item)
  | table (status : Status) (entries : List (String × Node))
  /-- an array of tables, of which the last one is open -/
  | tables (earlier : List (List (String × Node))) (last : List (String × Node))

/-- A key on the way to a table: by a header, or by a dotted key. -/
structure Step where
  key : String
  isDotted : Bool

/-- Changes the entries of the table that a way leads to from a table with the given entries. -/
def editAt (now : Nat) (change : Keyed Node → Option (Keyed Node)) :
    List Step → Keyed Node → Option (Keyed Node)
  | [], entries => change entries
  | step :: rest, entries => do
    match Keyed.get? entries step.key with
    | none =>
      let status := if step.isDotted then .dotted now else .implied
      return Keyed.put entries step.key (.table status (← editAt now change rest []))
    | some (.table status inner) =>
      if step.isDotted && status.isClosed now then none
      let status := if step.isDotted then .dotted now else status
      return Keyed.put entries step.key (.table status (← editAt now change rest inner))
    | some (.tables earlier last) =>
      if step.isDotted then none
      return Keyed.put entries step.key (.tables earlier (← editAt now change rest last))
    | some (.leaf _) => none

/-- Puts a value under a key that is still free. -/
def addLeaf (key : String) (item : Item) (entries : Keyed Node) : Option (Keyed Node) :=
  if Keyed.has entries key then none else some (Keyed.put entries key (.leaf item))

/-- Declares the table under a key. -/
def declareTable (now : Nat) (key : String) (entries : Keyed Node) : Option (Keyed Node) :=
  match Keyed.get? entries key with
  | none => some (Keyed.put entries key (.table .declared []))
  | some (.table status inner) =>
    if status.isClosed now then none else some (Keyed.put entries key (.table .declared inner))
  | some _ => none

/-- Opens a new table at the end of the array under a key. -/
def appendTable (key : String) (entries : Keyed Node) : Option (Keyed Node) :=
  match Keyed.get? entries key with
  | none => some (Keyed.put entries key (.tables [] []))
  | some (.tables earlier last) =>
    some (Keyed.put entries key (.tables (earlier ++ [last]) []))
  | some _ => none

mutual

/-- The finished item of a node. -/
def Node.item : Node → Item
  | .leaf item => item
  | .table _ entries => .table (itemsOf entries)
  | .tables earlier last => .array (tablesOf earlier ++ [.table (itemsOf last)])

def itemsOf : List (String × Node) → List (String × Item)
  | [] => []
  | (key, node) :: rest => (key, node.item) :: itemsOf rest

def tablesOf : List (List (String × Node)) → List Item
  | [] => []
  | entries :: rest => .table (itemsOf entries) :: tablesOf rest

end

/-- A line of a document that says something. -/
inductive Statement where
  | entry (path : List String) (item : Item)
  | header (path : List String)
  | arrayHeader (path : List String)

/-- A document that is being built: its root, the header of the section at hand, and the number of
that section. -/
structure Draft where
  root : Keyed Node
  header : List String
  sectionIndex : Nat

def headerSteps (keys : List String) : List Step := keys.map (⟨·, false⟩)

def dottedSteps (keys : List String) : List Step := keys.map (⟨·, true⟩)

def Draft.empty : Draft := ⟨[], [], 0⟩

/-- Adds a statement, if it does not go against an earlier one. -/
def Draft.add (d : Draft) : Statement → Option Draft
  | .entry path item => do
    let steps := headerSteps d.header ++ dottedSteps path.dropLast
    let root ← editAt d.sectionIndex (addLeaf (← path.getLast?) item) steps d.root
    return { d with root }
  | .header path => do
    let now := d.sectionIndex + 1
    let root ← editAt now (declareTable now (← path.getLast?)) (headerSteps path.dropLast) d.root
    return { root, header := path, sectionIndex := now }
  | .arrayHeader path => do
    let now := d.sectionIndex + 1
    let root ← editAt now (appendTable (← path.getLast?)) (headerSteps path.dropLast) d.root
    return { root, header := path, sectionIndex := now }

/-- The table that statements make in their order. -/
def build (statements : List Statement) : Option (Keyed Item) :=
  (statements.foldlM Draft.add Draft.empty).map fun d => itemsOf d.root

/-- The table of the entries between two braces; its dotted keys share tables. -/
def inlineTable (entries : List (List String × Item)) : Option Item :=
  (build (entries.map fun entry => .entry entry.1 entry.2)).map .table

end CardDrawing.Toml
