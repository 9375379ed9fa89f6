import CardDrawing.Raster

/-!
# Pixels and colors
-/

namespace CardDrawing

/-- A pixel of a surface or a picture: red, green, blue and opacity in bytes. -/
structure Pixel where
  r : UInt8
  g : UInt8
  b : UInt8
  a : UInt8
deriving DecidableEq, Repr, Inhabited

/-- A color as it is written; its channels need not fit into bytes. -/
structure Rgba where
  r : Int
  g : Int
  b : Int
  a : Int
deriving DecidableEq, Repr, Inhabited

namespace Rgba

def black : Rgba := ⟨0, 0, 0, 255⟩

def transparent : Rgba := ⟨0, 0, 0, 0⟩

/-- All channels fit into bytes. -/
def fits (c : Rgba) : Bool :=
  [c.r, c.g, c.b, c.a].all fun channel => 0 ≤ channel && channel ≤ 255

end Rgba

abbrev Picture := Raster Pixel

end CardDrawing
