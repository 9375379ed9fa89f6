import CardDrawing.Field.Basic
import CardDrawing.Resource

/-!
# Primitives

The drawing instructions that a card compiles to, in paint order, and their wire records.
-/

namespace CardDrawing

structure ColorPrimitive extends Box where
  color : Value

structure LinePrimitive where
  startX : Number
  startY : Number
  endX : Number
  endY : Number
  width : Number
  color : Value

structure TextPrimitive where
  x : Number
  y : Number
  text : String
  font : Option String := none
  color : Value := .null
  fontFamily : Option String := none
  fontSize : Option Number := none
  leading : Option String := none
  wrapAt : Option Number := none
  align : Option String := none

/-- The text as it is painted, with what leads it. -/
def TextPrimitive.rendered (p : TextPrimitive) : String := p.leading.getD "" ++ p.text

structure ImagePrimitive extends Box where
  id : String
  panX : Option Number := none
  panY : Option Number := none
  zoomLevel : Option Number := none
  rotate : Option Number := none
  flipVert : Option Bool := none
  flipHoriz : Option Bool := none
  url : Option String := none
  resource : Resource := .value .null
  request : Option ResourceRequest := none

structure SvgPrimitive extends Box where
  url : Option String := none
  resource : Resource := .value .null
  request : Option ResourceRequest := none

inductive Primitive where
  | color (p : ColorPrimitive)
  | line (p : LinePrimitive)
  | text (p : TextPrimitive)
  | image (p : ImagePrimitive)
  | svg (p : SvgPrimitive)

namespace Primitive

def kind : Primitive → String
  | color _ => "color"
  | line _ => "line"
  | text _ => "text"
  | image _ => "image"
  | svg _ => "svg"

def request? : Primitive → Option ResourceRequest
  | image p => p.request
  | svg p => p.request
  | _ => none

/-- Settles the request of a primitive with its resource. -/
def attach (resource : Resource) : Primitive → Primitive
  | image p => image { p with resource, request := none }
  | svg p => svg { p with resource, request := none }
  | p => p

/-- How messages name the place of a pending primitive. -/
def place : Primitive → String
  | image p => s!"`{p.id}`"
  | svg p => s!"at ({p.x.toValue.shown}, {p.y.toValue.shown})"
  | _ => ""

end Primitive

/-- An entry of a record that is left out when there is no value. -/
def optionalEntry (key : String) (value? : Option Value) : Keyed Value :=
  match value? with
  | some v => [(key, v)]
  | none => []

def textOrNull (text? : Option String) : Value :=
  match text? with
  | some s => .text s
  | none => .null

def Box.toRecord (b : Box) : Keyed Value :=
  [("x", b.x.toValue), ("y", b.y.toValue), ("width", b.width.toValue),
    ("height", b.height.toValue)]

/-- The wire record of a primitive; optional attributes that are not set have no entry. -/
def Primitive.toRecord : Primitive → Keyed Value
  | color p => ("type", .text "color") :: p.toBox.toRecord ++ [("color", p.color)]
  | line p =>
    [("type", .text "line"), ("startX", p.startX.toValue), ("startY", p.startY.toValue),
      ("endX", p.endX.toValue), ("endY", p.endY.toValue), ("width", p.width.toValue),
      ("color", p.color)]
  | text p =>
    [("type", .text "text"), ("x", p.x.toValue), ("y", p.y.toValue), ("font", textOrNull p.font),
      ("color", p.color), ("text", .text p.text)] ++
    optionalEntry "fontFamily" (p.fontFamily.map .text) ++
    optionalEntry "fontSize" (p.fontSize.map Number.toValue) ++
    optionalEntry "prefix" (p.leading.map .text) ++
    optionalEntry "wrapAt" (p.wrapAt.map Number.toValue) ++
    optionalEntry "textAlign" (p.align.map .text)
  | image p =>
    ("type", .text "image") :: ("id", .text p.id) :: p.toBox.toRecord ++
    optionalEntry "panX" (p.panX.map Number.toValue) ++
    optionalEntry "panY" (p.panY.map Number.toValue) ++
    optionalEntry "zoomLevel" (p.zoomLevel.map Number.toValue) ++
    optionalEntry "rotate" (p.rotate.map Number.toValue) ++
    optionalEntry "flipVert" (p.flipVert.map .bool) ++
    optionalEntry "flipHoriz" (p.flipHoriz.map .bool) ++
    optionalEntry "url" (p.url.map .text) ++ [("resource", p.resource.describe)]
  | svg p =>
    ("type", .text "svg") :: p.toBox.toRecord ++ optionalEntry "url" (p.url.map .text) ++
      [("resource", p.resource.describe)]

end CardDrawing
