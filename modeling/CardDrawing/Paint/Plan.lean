import CardDrawing.Color.Reader
import CardDrawing.Paint.Call
import CardDrawing.Paint.Stroke
import CardDrawing.Paint.Wrap
import CardDrawing.Picture.Turn
import CardDrawing.Primitive

/-!
# Planning how to paint

The calls that a primitive is painted with. The plan depends on the measures of fonts and on the
sizes of pictures, and on nothing that has been painted before.
-/

namespace CardDrawing

open Trace

abbrev Plan := Trace Call

namespace Plan

def call (c : Call) : Plan Unit := record c

/-! ## Rectangles and lines -/

def color (p : ColorPrimitive) : Plan Unit := do
  let x ← lift p.x.round
  let y ← lift p.y.round
  let width ← lift p.width.round
  let height ← lift p.height.round
  call (.blendRect x y width height (← lift (Color.read p.color)))

def line (p : LinePrimitive) : Plan Unit := do
  let s ← lift (Stroke.cover p.startX p.startY p.endX p.endY p.width)
  call (.openMask s.columns s.rows)
  let start ← lift (s.inside p.startX p.startY)
  let stop ← lift (s.inside p.endX p.endY)
  call (.maskLine start stop s.width)
  call (.blendMask s.columns s.rows s.left s.top (← lift (Color.read p.color)))

/-! ## Texts -/

/-- The ratio of the distance of lines to the size of their font. -/
def lineHeight : Float := 1.12

/-- Draws a piece of text with its pen at `(x, y)`; blanks leave nothing to draw. -/
def piece (metrics : Metrics) (color : Rgba) (p : Wrap.Piece Float) : Plan Unit := do
  if Text.isBlankText p.text then return
  let box := metrics.box p.text
  let columns := max 1 (← lift (Number.truncate (.real (Metrics.inkWidth box))))
  let rows := max 1 (← lift (Number.truncate (.real (Metrics.inkHeight box))))
  call (.openMask columns rows)
  call (.maskText (-box.left) (-box.top) p.text)
  let x ← lift (Number.round (.real (p.x + Float.ofInt box.left)))
  let y ← lift (Number.round (.real (p.y + Float.ofInt box.top)))
  call (.blendMask columns rows x y color)

/-- Where a text starts that is not wrapped. -/
def alignedStart (metrics : Metrics) (align : Option String) (x : Float) (text : String) : Float :=
  match align with
  | some "center" => x - metrics.width text / 2.0
  | some "right" => x - metrics.width text
  | _ => x

/-- The pieces that a text is drawn in, from its first to its last line. -/
def pieces (metrics : Metrics) (size : Float) (p : TextPrimitive) (x y : Float) :
    List (Wrap.Piece Float) :=
  match p.wrapAt with
  | none => [⟨p.rendered, alignedStart metrics p.align x p.rendered, y⟩]
  | some limit =>
    let measure : Wrap.Measure Float :=
      { width := metrics.width, fits := fun pen => Number.le (.real pen) limit,
        step := size * lineHeight }
    (Wrap.lines measure x y (Text.splitOn ' ' p.rendered)).flatten

def text (metrics : Font → Metrics) (p : TextPrimitive) : Plan Unit := do
  if p.rendered.isEmpty then return
  let size ← lift (p.fontSize.mapM Number.toFloat)
  let font := Font.read p.font p.fontFamily size
  call (.loadFont font)
  let color ← lift (Color.read p.color)
  let x ← lift p.x.toFloat
  let y ← lift p.y.toFloat
  (pieces (metrics font) font.size p x y).forM (piece (metrics font) color)

/-! ## Pictures and documents -/

/-- The size of the target of a picture, unless it is empty. -/
def target? (b : Box) : Plan (Option (Nat × Nat)) := do
  let width ← lift b.width.round
  let height ← lift b.height.round
  return if width ≤ 0 || height ≤ 0 then none else some (width.toNat, height.toNat)

/-- Lays the finished picture over the surface. -/
def place (b : Box) (width height : Nat) : Plan Unit := do
  let x ← lift b.x.round
  let y ← lift b.y.round
  call (.blit width height x y)

/-- Turns the picture clockwise, if it is to be turned at all, and gives its size afterwards. -/
def rotate (rotation : Option Number) (width height : Nat) : Plan (Nat × Nat) := do
  match Crop.given? rotation with
  | none => return (width, height)
  | some rotation =>
    let degrees := -(← lift rotation.toFloat)
    let (width, height) ← lift (Turn.size degrees width height)
    call (.turn degrees width height)
    return (width, height)

def picture (p : ImagePrimitive) (width height : Nat) : Plan Unit := do
  match ← target? p.toBox with
  | none => return
  | some (columns, rows) =>
    call .convert
    let (width, height) ← rotate p.rotate width height
    if p.flipVert = some true then call .flipVertical
    if p.flipHoriz = some true then call .flipHorizontal
    let targetW ← lift p.width.toFloat
    let targetH ← lift p.height.toFloat
    let box ← lift (Crop.cover (.int width) (.int height) (.real targetW) (.real targetH)
      p.zoomLevel p.panX p.panY)
    call (.scale columns rows (some box))
    place p.toBox columns rows

/-- A picture that stands in for a vector document fills its target. -/
def stretched (b : Box) : Plan Unit := do
  match ← target? b with
  | none => return
  | some (columns, rows) =>
    call .convert
    call (.scale columns rows none)
    call .convert
    place b columns rows

def document (b : Box) (d : Svg.Document Float) : Plan Unit := do
  match ← target? b with
  | none => return
  | some (columns, rows) =>
    call (.openCanvas columns rows)
    embed Call.mark (d.draw columns rows)
    place b columns rows

end Plan

/-- The plan for a primitive; one without a resource that can be drawn is left out. -/
def Primitive.plan (metrics : Font → Metrics) (resource : Drawable) : Primitive → Plan Unit
  | color p => Plan.color p
  | line p => Plan.line p
  | text p => Plan.text metrics p
  | image p =>
    match resource with
    | .picture width height => Plan.picture p width height
    | _ => pure ()
  | svg p =>
    match resource with
    | .picture _ _ => Plan.stretched p.toBox
    | .document d => Plan.document p.toBox d
    | .nothing => discard (Plan.target? p.toBox)

/-- What a painter is handed: a primitive, or something else that goes by the name of its type. -/
inductive Subject where
  | primitive (p : Primitive)
  | other (typeName : String)

/-- The plan for a subject; nothing but primitives can be painted. -/
def Subject.plan (metrics : Font → Metrics) (resource : Drawable) : Subject → Plan Unit
  | primitive p => p.plan metrics resource
  | other typeName => lift (.error (.unsupportedPrimitive typeName))

end CardDrawing
