import CardDrawing.Color.Reader
import CardDrawing.Svg.Document
import CardDrawing.Value.Conversion
import CardDrawing.Xml.Element

/-!
# Reading vector documents

Shapes are taken from all elements of a document, whatever they are grouped in. A declaration in
the `style` attribute of an element wins over its other attributes, and of two declarations the
later one.
-/

namespace CardDrawing.Svg

open Xml (Attributes)

/-! ## Lengths and points -/

/-- The text without a final `px`. -/
def withoutUnit (s : String) : String :=
  if s.endsWith "px" then String.ofList (s.toList.take (s.length - 2)) else s

/-- A length in pixels; anything else is no length. -/
def length? (raw : String) : Option Float :=
  if raw.isEmpty then none else Text.toFloat? (withoutUnit (Text.strip raw))

/-- The numbers in a list that is cut by commas and blanks; a word that is no number is kept as its
place. -/
def numbers (raw : String) : List (Option Float) :=
  (Text.words (Text.replaceChar ',' ' ' raw)).map Text.toFloat?

/-- Two numbers at a time are a point; a pair with something else in it is left out. -/
def pairs {α : Type} : List (Option α) → List (α × α)
  | some x :: some y :: rest => (x, y) :: pairs rest
  | _ :: _ :: rest => pairs rest
  | _ => []

def points (raw : String) : List (Float × Float) := pairs (numbers raw)

def viewBox? (raw : String) : Option (ViewBox Float) :=
  match numbers raw with
  | [some x, some y, some width, some height] => some { x, y, width, height }
  | _ => none

/-! ## Styles -/

/-- The declarations of a style; what has no colon is none. -/
def declarations (style : String) : List (String × String) :=
  (Text.splitOn ';' style).filterMap fun declaration =>
    (Text.cutAt? ':' declaration.toList).map fun (key, value) =>
      (Text.strip (String.ofList key), Text.strip (String.ofList value))

/-- The value that counts for a property: that of its last declaration, or else its attribute. -/
def property? (attributes : Attributes) (key : String) : Option String :=
  let declared := declarations ((attributes.get? "style").getD "")
  (declared.reverse.lookup key).orElse fun _ => attributes.get? key

/-- What is not readable as a color is no color. -/
def color? (raw : String) : Option Rgba :=
  let stripped := Text.strip raw
  if stripped.isEmpty || stripped = "none" then none else Color.ofText? stripped

def clampByte (n : Int) : Int := max 0 (min 255 n)

/-- A color under an opacity; from one up it stays. -/
def withOpacity (color : Option Rgba) (opacity : Option Float) : Except Error (Option Rgba) :=
  match color, opacity with
  | some c, some share =>
    if 1.0 ≤ share then .ok (some c)
    else do
      let a ← (← Number.mul (.int c.a) (.real share)).truncate
      return some { c with a := clampByte a }
  | color, _ => .ok color

/-- The style of an element: black unless a fill is given, without a stroke unless one is. -/
def readStyle (attributes : Attributes) (strokeWidth : Float) : Except Error (Style Float) := do
  let fill := match property? attributes "fill" with
    | some raw => color? raw
    | none => some Rgba.black
  let stroke := (property? attributes "stroke").bind color?
  let opacity := (property? attributes "opacity").bind length?
  return {
    fill := ← withOpacity fill opacity
    stroke := ← withOpacity stroke opacity
    strokeWidth := ((property? attributes "stroke-width").bind length?).getD strokeWidth }

/-! ## Shapes -/

/-- The length in an attribute, or zero. -/
def lengthOf (attributes : Attributes) (key : String) : Float :=
  match (attributes.get? key).bind length? with
  | some x => if x == 0 then 0 else x
  | none => 0

def readLine? (attributes : Attributes) : Option (Style Float → Shape Float) := do
  let length (key : String) : Option Float := (attributes.get? key).bind length?
  return .line (← length "x1") (← length "y1") (← length "x2") (← length "y2")

def readPolygon? (attributes : Attributes) (closed : Bool) :
    Option (Style Float → Shape Float) :=
  let corners := points ((attributes.get? "points").getD "")
  if corners.length < 2 then none else some (.polygon corners closed)

/-- The shape that an element of a given name draws, but for its style. -/
def outline? (tag : String) (attributes : Attributes) : Option (Style Float → Shape Float) :=
  let length := lengthOf attributes
  match tag with
  | "rect" => some (.rect (length "x") (length "y") (length "width") (length "height"))
  | "circle" => some (.ellipse (length "cx") (length "cy") (length "r") (length "r"))
  | "ellipse" => some (.ellipse (length "cx") (length "cy") (length "rx") (length "ry"))
  | "line" => readLine? attributes
  | "polygon" => readPolygon? attributes true
  | "polyline" => readPolygon? attributes false
  | _ => none

/-- How wide a stroke is that does not tell its width. -/
def defaultStrokeWidth (tag : String) : Float := if tag = "rect" then 0 else 1

/-- The shape that an element draws, if it draws one. -/
def readShape? (e : Xml.Element) : Except Error (Option (Shape Float)) :=
  match outline? e.name.label e.attributes with
  | none => .ok none
  | some outline =>
    (readStyle e.attributes (defaultStrokeWidth e.name.label)).map fun style => some (outline style)

/-! ## Documents -/

/-- A side of a document that has no view box. -/
def defaultSide (side : Option Float) : Float :=
  match side with
  | some x => if x == 0 then 100 else x
  | none => 100

/-- The document of a root element. -/
def Document.ofElement (root : Xml.Element) : Except Error (Document Float) := do
  if root.name.label ≠ "svg" then throw (.svgRoot root.name.label)
  let width := (root.attributes.get? "width").bind length?
  let height := (root.attributes.get? "height").bind length?
  let viewBox := ((root.attributes.get? "viewBox").bind viewBox?).getD
    { x := 0, y := 0, width := defaultSide width, height := defaultSide height }
  let shapes ← root.all.mapM readShape?
  return {
    width := width.getD viewBox.width
    height := height.getD viewBox.height
    viewBox
    shapes := shapes.filterMap id }

end CardDrawing.Svg
