import CardDrawing.Font
import CardDrawing.Paint.Crop
import CardDrawing.Svg.Drawing

/-!
# Drawing calls

What painting a primitive comes down to, in order. Calls work on a surface, on the mask and the
canvas that were opened last, and on the picture that the primitive shows.
-/

namespace CardDrawing

inductive Call where
  /-- lays a color over a rectangle of the surface -/
  | blendRect (x y width height : Int) (color : Rgba)
  /-- opens an empty coverage mask -/
  | openMask (columns rows : Int)
  /-- draws a line on the mask -/
  | maskLine (start stop : Number × Number) (width : Int)
  /-- draws a text on the mask with the font that was loaded last -/
  | maskText (x y : Int) (text : String)
  /-- lays a color over the surface through the mask -/
  | blendMask (columns rows x y : Int) (color : Rgba)
  | loadFont (font : Font)
  /-- opens a transparent canvas, which becomes the picture -/
  | openCanvas (width height : Nat)
  | mark (m : Svg.Mark Float)
  /-- gives the picture an opacity if it has none -/
  | convert
  /-- turns the picture against the clock; it has the given size afterwards -/
  | turn (degrees : Float) (width height : Nat)
  | flipVertical
  | flipHorizontal
  /-- brings a part of the picture, or all of it, to a size -/
  | scale (width height : Nat) (box : Option (Crop Number))
  /-- lays the picture over the surface -/
  | blit (width height : Nat) (x y : Int)

/-- What is known of a resource before it is painted. -/
inductive Drawable where
  | picture (width height : Nat)
  | document (d : Svg.Document Float)
  | nothing

/-- The box of the ink of a text about its pen. -/
structure InkBox where
  left : Int
  top : Int
  right : Float
  bottom : Float

/-- How texts are measured in a font. -/
structure Metrics where
  /-- how far a text moves the pen, where the font tells -/
  advance? : String → Option Float
  box : String → InkBox

namespace Metrics

def inkWidth (b : InkBox) : Float := b.right - Float.ofInt b.left

def inkHeight (b : InkBox) : Float := b.bottom - Float.ofInt b.top

/-- How far a text moves the pen, or else the width of its ink. -/
def width (m : Metrics) (text : String) : Float :=
  (m.advance? text).getD (inkWidth (m.box text))

end Metrics

end CardDrawing
