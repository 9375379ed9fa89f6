import CardDrawing.Error

/-!
# Traces

Steps that may fail and that leave a record of what they did; a failure keeps the record made so
far.
-/

namespace CardDrawing

/-- Steps that may fail, with the record of what has been done. -/
abbrev Trace (κ α : Type) := ExceptT Error (StateM (List κ)) α

namespace Trace

variable {κ α : Type}

/-- The outcome of all steps, and the whole record. -/
def run (steps : Trace κ α) : Except Error α × List κ :=
  StateT.run (ExceptT.run steps) []

def lift (result : Except Error α) : Trace κ α := ExceptT.mk (pure result)

/-- The same steps with their record in another form. -/
def embed {κ' : Type} (f : κ → κ') (steps : Trace κ α) : Trace κ' α := do
  let (result, record) := steps.run
  modify (· ++ record.map f)
  lift result

def record (event : κ) : Trace κ Unit := modify (· ++ [event])

end Trace

end CardDrawing
