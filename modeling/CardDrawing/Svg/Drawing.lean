import CardDrawing.Number
import CardDrawing.Svg.Document
import CardDrawing.Trace

/-!
# Drawing vector documents

A document is drawn at a target size as marks in document order, over any kind of coordinates:
doubles when it runs, exact ratios when its laws are stated. Marks are made from the corners of
shapes, so that the units of the document do not show in them.
-/

namespace CardDrawing.Svg

class Coordinate (α : Type) extends Add α, Sub α, Mul α, Div α where
  ofInt : Int → α
  magnitude : α → α
  isZero : α → Bool
  /-- the nearest whole number, a half going to the even one -/
  round : α → Except Error Int

instance : Coordinate Float where
  ofInt := Float.ofInt
  magnitude := Float.abs
  isZero x := x == 0
  round x := Number.round (.real x)

structure Bounds (α : Type) where
  left : α
  top : α
  right : α
  bottom : α

/-- What is drawn on the canvas. Fills and outlines may be missing; an outline is drawn over its
fill. -/
inductive Mark (α : Type) where
  | rectangle (bounds : Bounds α) (fill outline : Option Rgba) (width : Int)
  | ellipse (bounds : Bounds α) (fill outline : Option Rgba) (width : Int)
  | polygon (points : List (α × α)) (fill outline : Option Rgba) (width : Int)
  | line (points : List (α × α)) (fill : Rgba) (width : Int)

variable {α : Type} [Coordinate α]

open Coordinate

/-- How the plane of a document is laid over a target. -/
structure Projection (α : Type) where
  originX : α
  originY : α
  scaleX : α
  scaleY : α

/-- The ratio of a side of the target to one of the view box; a side of zero is not scaled. -/
def ratio (target : Int) (side : α) : α :=
  if isZero side then ofInt 1 else ofInt target / side

/-- The projection that fills a target with what the view box shows. -/
def Projection.onto (viewBox : ViewBox α) (width height : Int) : Projection α where
  originX := viewBox.x
  originY := viewBox.y
  scaleX := ratio width viewBox.width
  scaleY := ratio height viewBox.height

namespace Projection

def point (p : Projection α) (x y : α) : α × α :=
  ((x - p.originX) * p.scaleX, (y - p.originY) * p.scaleY)

def bounds (p : Projection α) (left top right bottom : α) : Bounds α :=
  let first := p.point left top
  let last := p.point right bottom
  { left := first.1, top := first.2, right := last.1, bottom := last.2 }

/-- A stroke is scaled by the mean of both ratios, and at least one pixel wide. -/
def strokeWidth (p : Projection α) (style : Style α) : Except Error Int :=
  match style.stroke with
  | none => .ok 0
  | some _ =>
    let scale := (magnitude p.scaleX + magnitude p.scaleY) / ofInt 2
    (round (style.strokeWidth * scale)).map (max 1)

end Projection

/-- The bounds of a rectangle end one pixel before its far corner. -/
def Bounds.inner (b : Bounds α) : Bounds α :=
  { b with right := b.right - ofInt 1, bottom := b.bottom - ofInt 1 }

/-- The mark of a shape whose stroke is `width` pixels wide; lines without a stroke have none. -/
def Shape.mark? (p : Projection α) (width : Int) : Shape α → Option (Mark α)
  | rect x y w h style =>
    some (.rectangle (p.bounds x y (x + w) (y + h)).inner style.fill style.stroke width)
  | ellipse cx cy rx ry style =>
    some (.ellipse (p.bounds (cx - rx) (cy - ry) (cx + rx) (cy + ry)) style.fill style.stroke
      width)
  | line x1 y1 x2 y2 style =>
    style.stroke.map fun stroke => .line [p.point x1 y1, p.point x2 y2] stroke width
  | polygon points true style =>
    some (.polygon (points.map fun q => p.point q.1 q.2) style.fill style.stroke width)
  | polygon points false style =>
    style.stroke.map fun stroke => .line (points.map fun q => p.point q.1 q.2) stroke width

def Shape.draw (p : Projection α) (s : Shape α) : Trace (Mark α) Unit := do
  let width ← Trace.lift (p.strokeWidth s.style)
  match s.mark? p width with
  | some mark => Trace.record mark
  | none => pure ()

/-- Draws the shapes of a document in their order onto a target. -/
def Document.draw (d : Document α) (width height : Int) : Trace (Mark α) Unit :=
  d.shapes.forM (Shape.draw (.onto d.viewBox width height))

/-- A canvas has at least one pixel. -/
def canvasSide (side : Int) : Nat := (max 1 side).toNat

end CardDrawing.Svg
