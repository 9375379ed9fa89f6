import CardDrawing.Primitive

/-!
# Reading primitives

Primitives are read back from their wire records: all of their attributes, without the resource,
of which a record holds a summary only.
-/

namespace CardDrawing

def numberIn? (record : Keyed Value) (key : String) : Option Number :=
  (Keyed.get? record key).bind Number.ofValue?

def textIn? (record : Keyed Value) (key : String) : Option String :=
  match Keyed.get? record key with
  | some (.text s) => some s
  | _ => none

def flagIn? (record : Keyed Value) (key : String) : Option Bool :=
  match Keyed.get? record key with
  | some (.bool b) => some b
  | _ => none

def Box.ofRecord? (record : Keyed Value) : Option Box := do
  return { x := ← numberIn? record "x", y := ← numberIn? record "y",
           width := ← numberIn? record "width", height := ← numberIn? record "height" }

def ColorPrimitive.ofRecord? (record : Keyed Value) : Option ColorPrimitive := do
  return { toBox := ← Box.ofRecord? record, color := Value.getD record "color" }

def LinePrimitive.ofRecord? (record : Keyed Value) : Option LinePrimitive := do
  return { startX := ← numberIn? record "startX", startY := ← numberIn? record "startY",
           endX := ← numberIn? record "endX", endY := ← numberIn? record "endY",
           width := ← numberIn? record "width", color := Value.getD record "color" }

def TextPrimitive.ofRecord? (record : Keyed Value) : Option TextPrimitive := do
  return { x := ← numberIn? record "x", y := ← numberIn? record "y",
           text := ← textIn? record "text", font := textIn? record "font",
           color := Value.getD record "color", fontFamily := textIn? record "fontFamily",
           fontSize := numberIn? record "fontSize", leading := textIn? record "prefix",
           wrapAt := numberIn? record "wrapAt", align := textIn? record "textAlign" }

def ImagePrimitive.ofRecord? (record : Keyed Value) : Option ImagePrimitive := do
  return { toBox := ← Box.ofRecord? record, id := ← textIn? record "id",
           panX := numberIn? record "panX", panY := numberIn? record "panY",
           zoomLevel := numberIn? record "zoomLevel", rotate := numberIn? record "rotate",
           flipVert := flagIn? record "flipVert", flipHoriz := flagIn? record "flipHoriz",
           url := textIn? record "url" }

def SvgPrimitive.ofRecord? (record : Keyed Value) : Option SvgPrimitive := do
  return { toBox := ← Box.ofRecord? record, url := textIn? record "url" }

/-- The primitive of a wire record, by the kind that the record names. -/
def Primitive.ofRecord? (record : Keyed Value) : Option Primitive :=
  match textIn? record "type" with
  | some "color" => (ColorPrimitive.ofRecord? record).map .color
  | some "line" => (LinePrimitive.ofRecord? record).map .line
  | some "text" => (TextPrimitive.ofRecord? record).map .text
  | some "image" => (ImagePrimitive.ofRecord? record).map .image
  | some "svg" => (SvgPrimitive.ofRecord? record).map .svg
  | _ => none

end CardDrawing
