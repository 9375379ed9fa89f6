import CardDrawing.Pixel

/-!
# Blending pixels

Source-over compositing, over any kind of intensities: singles when it runs, exact ratios when its
laws are stated.
-/

namespace CardDrawing

/-- Intensities from 0 to 255 and shares from 0 to 1. -/
class Tone (α : Type) extends Add α, Sub α, Mul α, Div α where
  ofInt : Int → α
  /-- clamped to the range of bytes, and cut -/
  toByte : α → UInt8
  /-- cut, with what does not fit into a byte dropped -/
  cutByte : α → UInt8
  /-- an opacity in bytes as a share, and what it leaves of one -/
  shares : Int → α × α
  /-- whether a share is large enough to divide by -/
  isNotable : α → Bool

namespace Tone

instance : Tone Float32 where
  ofInt n := (Float.ofInt n).toFloat32
  toByte x := x.toUInt8
  cutByte x := UInt8.ofNat (x.toInt64.toInt % 256).toNat
  shares a :=
    let share := Float.ofInt a / 255.0
    (share.toFloat32, (1.0 - share).toFloat32)
  isNotable x := 1e-6 < x

variable (α : Type) [Tone α]

def ofByte (b : UInt8) : α := ofInt b.toNat

/-- A color over a pixel, which is opaque afterwards. -/
def tint (color : Rgba) (under : Pixel) : Pixel :=
  let (share, rest) : α × α := shares color.a
  let mix (c : Int) (d : UInt8) : UInt8 := toByte (ofInt c * share + ofByte α d * rest)
  { r := mix color.r under.r, g := mix color.g under.g, b := mix color.b under.b, a := 255 }

/-- The opacity of a pixel as a share. -/
def opacity (p : Pixel) : α := ofByte α p.a / ofInt 255

/-- The opacity that a pixel and one under it have together, as a share. -/
def union (source under : Pixel) : α :=
  opacity α source + opacity α under * (ofInt 1 - opacity α source)

/-- What the colors of both are divided by: their opacity, unless it is too small. -/
def divisor (source under : Pixel) : α :=
  if isNotable (union α source under) then union α source under else ofInt 1

/-- A pixel over another one. -/
def cover (source under : Pixel) : Pixel :=
  let share : α := opacity α source
  let rest : α := ofInt 1 - share
  let mix (s d : UInt8) : UInt8 :=
    toByte ((ofByte α s * share + ofByte α d * opacity α under * rest) / divisor α source under)
  { r := mix source.r under.r
    g := mix source.g under.g
    b := mix source.b under.b
    a := toByte (union α source under * ofInt 255) }

/-- The opacity of a color under a coverage mask. -/
def coverage (mask : UInt8) (opacity : Int) : UInt8 :=
  cutByte (ofByte α mask * (shares opacity : α × α).1)

end Tone

end CardDrawing
