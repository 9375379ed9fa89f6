import CardDrawing.Color.Reader
import CardDrawing.Surface.Blend

/-!
# Surfaces

A surface is what a card is painted on. Whatever is painted is cut off at its edges, and blended in
singles unless another kind of intensities is asked for.
-/

namespace CardDrawing

structure Surface where
  pixels : Picture
  background : String

namespace Surface

def defaultBackground : String := "#ffffff"

def width (s : Surface) : Nat := s.pixels.width

def height (s : Surface) : Nat := s.pixels.height

/-- The four channels of a pixel as they are written to. -/
def channels : List ((Pixel → UInt8 → Pixel) × (Rgba → Int)) :=
  [(fun p v => { p with r := v }, Rgba.r), (fun p v => { p with g := v }, Rgba.g),
    (fun p v => { p with b := v }, Rgba.b), (fun p v => { p with a := v }, Rgba.a)]

/-- Writes one channel of every pixel. A negative value counts from the top of the range. -/
def fillChannel (set : Pixel → UInt8 → Pixel) (value : Int) (s : Surface) :
    Except Error Surface :=
  if 255 < value || value < -255 then .error .channelOverflow
  else
    .ok { s with pixels := s.pixels.map fun p => set p (UInt8.ofNat (value % 256).toNat) }

/-- Writes channel after channel up to the first that does not fit. -/
def fillChannels (color : Rgba) :
    List ((Pixel → UInt8 → Pixel) × (Rgba → Int)) → Surface → Except Error Unit × Surface
  | [], s => (.ok (), s)
  | (set, value) :: rest, s =>
    match fillChannel set (value color) s with
    | .ok next => fillChannels color rest next
    | .error why => (.error why, s)

/-- Fills the surface with a color, or with its background. -/
def clear (s : Surface) (color : String := "") : Except Error Unit × Surface :=
  match Color.read (.text (if color.isEmpty then s.background else color)) with
  | .ok c => fillChannels c channels s
  | .error why => (.error why, s)

/-- A surface that shows its background. -/
def create (width height : Int) (background : String := defaultBackground) :
    Except Error Surface :=
  if width ≤ 0 || height ≤ 0 then .error .surfaceExtent
  else
    match clear { pixels := .fill width.toNat height.toNat default, background } with
    | (.ok (), s) => .ok s
    | (.error why, _) => .error why

/-- The bounds of the part of a rectangle that lies on the surface, if there is one. -/
def clip? (s : Surface) (x y w h : Int) : Option Raster.Bounds :=
  if w ≤ 0 || h ≤ 0 then none
  else
    let left := max 0 x
    let top := max 0 y
    let right := min (s.width : Int) (x + w)
    let bottom := min (s.height : Int) (y + h)
    if right ≤ left || bottom ≤ top then none else some { left, top, right, bottom }

/-- Lays a color over a rectangle. -/
def blendRect (s : Surface) (x y w h : Int) (color : Rgba) (α : Type := Float32) [Tone α] :
    Surface :=
  match s.clip? x y w h with
  | some bounds =>
    if color.a ≤ 0 then s
    else
      let region := s.pixels.slice bounds
      { s with pixels := s.pixels.paste bounds (region.map (Tone.tint α color)) }
  | none => s

/-- Lays a patch over the surface with its corner at `(x, y)`. -/
def blit (s : Surface) (patch : Picture) (x y : Int) (α : Type := Float32) [Tone α] : Surface :=
  match s.clip? x y patch.width patch.height with
  | some bounds =>
    let source := patch.slice (bounds.seenFrom x y)
    if source.cells.all (·.a = 0) then s
    else
      let region := s.pixels.slice bounds
      { s with pixels := s.pixels.paste bounds (region.overlaid (Tone.cover α) source) }
  | none => s

/-- The value of a channel that is stored in a byte. -/
def byteChannel (value : Int) : Except Error UInt8 :=
  if 0 ≤ value && value ≤ 255 then .ok (UInt8.ofNat value.toNat)
  else .error (.channelOutOfBounds value)

/-- The patch of one color under a coverage mask. -/
def stencil (mask : Raster UInt8) (color : Rgba) (α : Type := Float32) [Tone α] :
    Except Error Picture := do
  let r ← byteChannel color.r
  let g ← byteChannel color.g
  let b ← byteChannel color.b
  return mask.map fun m => { r, g, b, a := Tone.coverage α m color.a }

/-- Lays a color over the surface through a coverage mask with its corner at `(x, y)`. -/
def blendMask (s : Surface) (mask : Raster UInt8) (x y : Int) (color : Rgba)
    (α : Type := Float32) [Tone α] : Except Error Surface :=
  (stencil mask color α).map fun patch => s.blit patch x y α

end Surface

end CardDrawing
