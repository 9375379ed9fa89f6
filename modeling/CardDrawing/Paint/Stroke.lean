import CardDrawing.Scalar

/-!
# Strokes

A line is drawn on a mask of its own, which is large enough for the whole stroke, and then laid
over the surface.
-/

namespace CardDrawing

/-- The mask of a line: the width of its stroke, where the mask lies on the surface, and its last
column and row there. -/
structure Stroke where
  width : Int
  left : Int
  top : Int
  right : Int
  bottom : Int

namespace Stroke

variable {α : Type} [Scalar α]

open Scalar

/-- The mask of a line from `(x1, y1)` to `(x2, y2)`: its corners are cut to whole pixels and moved
outward by one more than the width. -/
def cover (x1 y1 x2 y2 width : α) : Except Error Stroke := do
  let width := max 1 (← round width)
  let margin := width + 1
  let left := (← truncate (least x1 x2)) - margin
  let top := (← truncate (least y1 y2)) - margin
  let right := (← truncate (greatest x1 x2)) + margin
  let bottom := (← truncate (greatest y1 y2)) + margin
  return { width, left, top, right, bottom }

def columns (s : Stroke) : Int := s.right - s.left + 1

def rows (s : Stroke) : Int := s.bottom - s.top + 1

/-- A point of the surface as seen from the corner of the mask. -/
def inside (s : Stroke) (x y : α) : Except Error (α × α) := do
  return (← sub x (ofInt s.left), ← sub y (ofInt s.top))

end Stroke

end CardDrawing
