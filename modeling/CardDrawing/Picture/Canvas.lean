import CardDrawing.Pixel
import CardDrawing.Svg.Drawing

/-!
# Drawing on canvases

Marks are drawn into the pixels of a canvas and replace what is there. Corners are cut to whole
pixels. Lines of one pixel and rectangles go from pixel to pixel; of every other shape those pixels
are drawn whose centers lie in it.
-/

namespace CardDrawing

/-- Why nothing can be drawn within bounds, if nothing can: their edges must be in order. -/
def Svg.Bounds.fault? {α : Type} [LT α] [DecidableLT α] (b : Svg.Bounds α) : Option Error :=
  if b.right < b.left then some .rectangleRight
  else if b.bottom < b.top then some .rectangleBottom
  else none

end CardDrawing

namespace CardDrawing.Canvas

abbrev Point := Int × Int

/-! ## Thin lines -/

/-- How a thin line goes on: the direction of its long side, that of its short side, and how much
of a step to the short side each pixel adds. -/
structure Course where
  along : Point
  aside : Point
  gain : Int
  full : Int

/-- The next pixels of a thin line: it steps aside whenever its error is not negative. -/
def walk (c : Course) (error : Int) (here : Point) : Nat → List Point
  | 0 => []
  | n + 1 =>
    let ahead := (here.1 + c.along.1, here.2 + c.along.2)
    here ::
      if 0 ≤ error then
        walk c (error - c.full + c.gain) (ahead.1 + c.aside.1, ahead.2 + c.aside.2) n
      else walk c (error + c.gain) ahead n

/-- The pixels of a thin line up to the last one, which is left out. -/
def thinLine (start stop : Point) : List Point :=
  let dx := stop.1 - start.1
  let dy := stop.2 - start.2
  let right : Point := (dx.sign, 0)
  let down : Point := (0, dy.sign)
  let (w, h) : Int × Int := (dx.natAbs, dy.natAbs)
  if h < w then walk ⟨right, down, 2 * h, 2 * w⟩ (2 * h - w) start w.toNat
  else walk ⟨down, right, 2 * w, 2 * h⟩ (2 * w - h) start h.toNat

/-- Thin lines through points, with the last point. -/
def thinPath : List Point → List Point
  | [] => []
  | [last] => [last]
  | start :: stop :: rest => thinLine start stop ++ thinPath (stop :: rest)

/-! ## Areas -/

/-- Whether a point lies within half a width of the segment between two points. -/
def nearSegment (half : Float) (a b : Float × Float) (x y : Float) : Bool :=
  let (dx, dy) := (b.1 - a.1, b.2 - a.2)
  let square := dx * dx + dy * dy
  let share := if square == 0 then 0 else ((x - a.1) * dx + (y - a.2) * dy) / square
  if share < 0 || 1 < share then false
  else
    let (ex, ey) := (x - (a.1 + share * dx), y - (a.2 + share * dy))
    ex * ex + ey * ey ≤ half * half

def nearPath (half : Float) (x y : Float) : List (Float × Float) → Bool
  | a :: b :: rest => nearSegment half a b x y || nearPath half x y (b :: rest)
  | _ => false

/-- Whether a ray from a point to the right crosses the segment between two points. -/
def crosses (a b : Float × Float) (x y : Float) : Bool :=
  (decide (a.2 ≤ y) != decide (b.2 ≤ y)) &&
    x < a.1 + (y - a.2) / (b.2 - a.2) * (b.1 - a.1)

/-- Whether a point lies within a closed path. -/
def inPolygon (points : List (Float × Float)) (x y : Float) : Bool :=
  match points with
  | [] => false
  | first :: _ =>
    let edges := points.zip (points.drop 1 ++ [first])
    (edges.filter fun edge => crosses edge.1 edge.2 x y).length % 2 = 1

/-- Whether a point lies within the ellipse that fills some bounds, `inset` from its edge. -/
def inEllipse (b : Svg.Bounds Float) (inset x y : Float) : Bool :=
  let rx := (b.right - b.left) / 2 - inset
  let ry := (b.bottom - b.top) / 2 - inset
  if rx ≤ 0 || ry ≤ 0 then false
  else
    let (dx, dy) := ((x - (b.left + b.right) / 2) / rx, (y - (b.top + b.bottom) / 2) / ry)
    dx * dx + dy * dy ≤ 1

/-! ## Drawing -/

def byteOf (channel : Int) : UInt8 := UInt8.ofNat (min 255 channel.toNat)

/-- A color as a pixel, with each channel brought into the range of bytes. -/
def inkOf (c : Rgba) : Pixel := ⟨byteOf c.r, byteOf c.g, byteOf c.b, byteOf c.a⟩

variable {α : Type}

def put (ink : α) (r : Raster α) (p : Point) : Raster α :=
  if 0 ≤ p.1 && 0 ≤ p.2 then r.set p.1.toNat p.2.toNat ink else r

def putAll (ink : α) (points : List Point) (r : Raster α) : Raster α := points.foldl (put ink) r

/-- Draws over the pixels whose centers pass a test. -/
def cover (ink : α) (test : Float → Float → Bool) (r : Raster α) : Raster α :=
  r.mapAt fun x y cell => if test (Float.ofNat x) (Float.ofNat y) then ink else cell

def cut (x : Float) : Except Error Int := Number.truncate (.real x)

def cutPoint (p : Float × Float) : Except Error Point := do return (← cut p.1, ← cut p.2)

/-- Draws a line through points. -/
def line (ink : α) (points : List (Float × Float)) (width : Int) (r : Raster α) :
    Except Error (Raster α) := do
  if width ≤ 1 then return putAll ink (thinPath (← points.mapM cutPoint)) r
  else return cover ink (fun x y => nearPath (Float.ofInt width / 2) x y points) r

/-- Fills the rectangle between two pixels, both included. -/
def fillRectangle (ink : α) (a b : Point) (r : Raster α) : Raster α :=
  r.mapAt fun x y cell =>
    if a.1 ≤ x && (x : Int) ≤ b.1 && a.2 ≤ y && (y : Int) ≤ b.2 then ink else cell

/-- The frame between two pixels, ring by ring: whole rows above and below, and the columns between
them, which are walked from the upper row to the lower one. -/
def frame (ink : α) (a b : Point) (width : Int) (r : Raster α) : Raster α :=
  (List.range width.toNat).foldl (fun r (ring : Nat) =>
    let i : Int := ring
    let row (y : Int) (r : Raster α) := fillRectangle ink (a.1, y) (b.1, y) r
    let column (x : Int) (r : Raster α) :=
      putAll ink (thinLine (x, a.2 + width) (x, b.2 - width + 1)) r
    column (a.1 + i) (column (b.1 - i) (row (b.2 - i) (row (a.2 + i) r)))) r

/-- What an outline is drawn with, if it shows beside the fill. -/
def outlineInk? (fill outline : Option Rgba) (width : Int) : Option Pixel :=
  match outline with
  | none => none
  | some c => if width = 0 || fill.map inkOf = some (inkOf c) then none else some (inkOf c)

/-- The corners of a rectangle in whole pixels; they must be in order. -/
def corners (b : Svg.Bounds Float) : Except Error (Point × Point) :=
  match b.fault? with
  | some why => .error why
  | none => do return (← cutPoint (b.left, b.top), ← cutPoint (b.right, b.bottom))

def rectangle (b : Svg.Bounds Float) (fill outline : Option Rgba) (width : Int) (p : Picture) :
    Except Error Picture := do
  let p ← match fill with
    | none => pure p
    | some c => do
      let (first, last) ← corners b
      pure (fillRectangle (inkOf c) first last p)
  match outlineInk? fill outline width with
  | none => return p
  | some ink =>
    let (first, last) ← corners b
    return frame ink first last width p

def ellipse (b : Svg.Bounds Float) (fill outline : Option Rgba) (width : Int) (p : Picture) :
    Except Error Picture :=
  match b.fault? with
  | some why => .error why
  | none =>
    let p := match fill with
      | none => p
      | some c => cover (inkOf c) (inEllipse b 0) p
    .ok (match outlineInk? fill outline width with
      | none => p
      | some ink =>
        cover ink (fun x y => inEllipse b 0 x y && !inEllipse b (Float.ofInt width) x y) p)

def polygon (points : List (Float × Float)) (fill outline : Option Rgba) (width : Int)
    (p : Picture) : Except Error Picture :=
  let p := match fill with
    | none => p
    | some c => cover (inkOf c) (inPolygon points) p
  match outlineInk? fill outline width with
  | none => .ok p
  | some ink => line ink (points ++ points.take 1) width p

/-- Draws a mark on a canvas. -/
def draw (p : Picture) : Svg.Mark Float → Except Error Picture
  | .rectangle b fill outline width => rectangle b fill outline width p
  | .ellipse b fill outline width => ellipse b fill outline width p
  | .polygon points fill outline width => polygon points fill outline width p
  | .line points fill width => line (inkOf fill) points width p

/-- A transparent canvas. -/
def empty (width height : Nat) : Picture := .fill width height default

end CardDrawing.Canvas

namespace CardDrawing

/-- A vector document drawn at a size. -/
def Svg.Document.rasterize (d : Document Float) (width height : Int) : Except Error Picture := do
  let (result, marks) := (d.draw width height).run
  let picture ← marks.foldlM Canvas.draw (Canvas.empty (canvasSide width) (canvasSide height))
  result
  return picture

end CardDrawing
