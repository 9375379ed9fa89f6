import CardDrawing.Number

/-!
# Scalars

Arithmetic whose steps may fail, for geometry that works on whole and floating numbers alike.
-/

namespace CardDrawing

class Scalar (α : Type) where
  /-- a constant -/
  literal : Nat → α
  /-- a whole number that comes from the input -/
  ofInt : Int → α
  add : α → α → Except Error α
  sub : α → α → Except Error α
  mul : α → α → Except Error α
  div : α → α → Except Error α
  le : α → α → Bool
  lt : α → α → Bool
  isZero : α → Bool
  round : α → Except Error Int
  truncate : α → Except Error Int

namespace Scalar

/-- Constants of the program are floating. -/
instance : Scalar Number where
  literal n := .real (Float.ofNat n)
  ofInt := .int
  add := Number.add
  sub := Number.sub
  mul := Number.mul
  div := Number.div
  le := Number.le
  lt := Number.lt
  isZero := Number.isZero
  round := Number.round
  truncate := Number.truncate

variable {α : Type} [Scalar α]

/-- The first of two scalars unless the second is smaller. -/
def least (a b : α) : α := if lt b a then b else a

/-- The first of two scalars unless the second is larger. -/
def greatest (a b : α) : α := if lt a b then b else a

end Scalar

end CardDrawing
