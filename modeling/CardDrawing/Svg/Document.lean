import CardDrawing.Pixel

/-!
# Vector documents

A document holds flat shapes in document order, over any kind of coordinates.
-/

namespace CardDrawing.Svg

structure Style (α : Type) where
  fill : Option Rgba
  stroke : Option Rgba
  strokeWidth : α

inductive Shape (α : Type) where
  | rect (x y width height : α) (style : Style α)
  | ellipse (cx cy rx ry : α) (style : Style α)
  | line (x1 y1 x2 y2 : α) (style : Style α)
  | polygon (points : List (α × α)) (closed : Bool) (style : Style α)

def Shape.style {α : Type} : Shape α → Style α
  | rect _ _ _ _ s | ellipse _ _ _ _ s | line _ _ _ _ s | polygon _ _ s => s

/-- The part of the drawing plane that a document shows. -/
structure ViewBox (α : Type) where
  x : α
  y : α
  width : α
  height : α

structure Document (α : Type) where
  width : α
  height : α
  viewBox : ViewBox α
  shapes : List (Shape α)

end CardDrawing.Svg
