import CardDrawing.Build.Concurrent

/-!
# Compilers

A compiler knows the collaborators and how many loads may be in progress at a time.
-/

namespace CardDrawing

structure Compiler where
  collaborators : Collaborators
  bound : Nat

namespace Compiler

def defaultBound : Int := 4

/-- A compiler for the given collaborators; at least one load must be allowed at a time. -/
def configure (collaborators : Collaborators) (bound : Int := defaultBound) :
    Except Error Compiler :=
  if bound ≤ 0 then .error .fetchBound else .ok { collaborators, bound := bound.toNat }

def build (c : Compiler) (template : Template) (card : Card) : Except Error (List Primitive) :=
  (CardDrawing.build c.collaborators template card).1

/-- A concurrent build in which every load takes one unit of time. -/
def buildSteadily (c : Compiler) (template : Template) (card : Card) :
    Except Error (List Primitive) :=
  (buildConcurrently (0 : Nat) (fun _ => 1) c.collaborators c.bound template card).1

end Compiler

end CardDrawing
