import CardDrawing.Error
import CardDrawing.Paint.Crop
import CardDrawing.Pixel

/-!
# Scaling pictures

A part of a picture is brought to another size by weighing, for each new pixel, the pixels around
the place that it comes from: first along the rows, then along the columns. Weights are whole
multiples of `2 ^ -22`, and colors are weighed by their opacity.
-/

namespace CardDrawing.Scale

/-- The pixels that one new pixel is made of, from the first on, by their weights. -/
structure Taps where
  first : Nat
  weights : List Int

/-- The weight of a pixel at a distance, counted in reaches. -/
def weight (distance : Float) : Float :=
  if distance.abs < 1.0 then 1.0 - distance.abs else 0.0

def cut (x : Float) : Int := x.toInt64.toInt

/-- The parts of one in a weight. -/
def one : Int := Nat.pow 2 22

/-- The weights for the new pixel `index` of `count` along a line of `length` pixels, of which the
part from `start` to `stop` is scaled. -/
def taps (length : Nat) (start stop : Float32) (count index : Nat) : Taps :=
  let scale := (stop - start).toFloat / Float.ofNat count
  let reach := if scale < 1.0 then 1.0 else scale
  let center := start.toFloat + (Float.ofNat index + 0.5) * scale
  let first := (max 0 (cut (center - reach + 0.5))).toNat
  let last := min length (cut (center + reach + 0.5)).toNat
  let raw := (List.range (last - first)).map fun k =>
    weight ((Float.ofNat (k + first) - center + 0.5) * (1.0 / reach))
  let total := raw.foldl (· + ·) 0.0
  { first
    weights := raw.map fun w =>
      cut (0.5 + (if total == 0 then w else w / total) * Float.ofInt one) }

def clamp (n : Int) : UInt8 := UInt8.ofNat (min 255 n.toNat)

/-- The weighted mean of one channel. -/
def mean (taps : Taps) (channel : Nat → UInt8) : UInt8 :=
  let terms := taps.weights.mapIdx fun k w => w * Int.ofNat (channel (taps.first + k)).toNat
  clamp ((terms.foldl (· + ·) (one / 2)).fdiv one)

def blend (taps : Taps) (cell : Nat → Pixel) : Pixel where
  r := mean taps fun i => (cell i).r
  g := mean taps fun i => (cell i).g
  b := mean taps fun i => (cell i).b
  a := mean taps fun i => (cell i).a

/-- Scales along the rows. -/
def alongRows (start stop : Float32) (count : Nat) (p : Picture) : Picture :=
  let all := Array.ofFn fun i : Fin count => taps p.width start stop count i
  .ofFn count p.height fun x y =>
    blend (all[x]?.getD ⟨0, []⟩) fun i => (p.get? i y).getD default

/-- Scales along the columns. -/
def alongColumns (start stop : Float32) (count : Nat) (p : Picture) : Picture :=
  let all := Array.ofFn fun i : Fin count => taps p.height start stop count i
  .ofFn p.width count fun x y =>
    blend (all[y]?.getD ⟨0, []⟩) fun i => (p.get? x i).getD default

/-- A share of 255 of a byte. -/
def shareOf (byte share : UInt8) : UInt8 :=
  let product := byte.toNat * share.toNat + 128
  UInt8.ofNat ((product / 256 + product) / 256)

/-- A pixel whose colors are weighed by its opacity. -/
def weighed (p : Pixel) : Pixel :=
  { p with r := shareOf p.r p.a, g := shareOf p.g p.a, b := shareOf p.b p.a }

/-- A pixel whose colors are no longer weighed by its opacity. -/
def unweighed (p : Pixel) : Pixel :=
  if p.a = 0 || p.a = 255 then p
  else
    let whole (v : UInt8) : UInt8 := clamp (255 * v.toNat / p.a.toNat)
    { p with r := whole p.r, g := whole p.g, b := whole p.b }

/-- Whether a part has an extent of `count` and starts at a whole number. -/
def isWhole (start stop : Float32) (count : Nat) : Bool :=
  start - start.floor == 0 && stop - start == Float32.ofNat count

/-- The part of a picture from a column and a row on. -/
def cropped (left top width height : Nat) (p : Picture) : Picture :=
  .ofFn width height fun x y => (p.get? (left + x) (top + y)).getD default

end Scale

/-- Why a box cannot be taken out of a picture of some size, if it cannot. -/
def Crop.fault? {α : Type} [LT α] [DecidableLT α] [Sub α] [OfNat α 0] (box : Crop α)
    (width height : α) : Option Error :=
  if box.left < 0 || box.top < 0 then some .boxOffset
  else if width < box.right || height < box.bottom then some .boxBeyondImage
  else if box.right - box.left < 0 || box.bottom - box.top < 0 then some .boxEmpty
  else none

/-- A box in singles. -/
def Crop.singles (box : Crop Float) : Crop Float32 where
  left := box.left.toFloat32
  top := box.top.toFloat32
  right := box.right.toFloat32
  bottom := box.bottom.toFloat32

/-- The part of a picture in a box, brought to a size. The box must lie within the picture. -/
def Picture.scale (width height : Nat) (box : Crop Float) (p : Picture) :
    Except Error Picture :=
  let ⟨left, top, right, bottom⟩ := box.singles
  let isAll := box.left == 0 && box.top == 0 && box.right == Float.ofNat p.width &&
    box.bottom == Float.ofNat p.height
  if isAll && width = p.width && height = p.height then .ok p
  else
    match box.singles.fault? (Float32.ofNat p.width) (Float32.ofNat p.height) with
    | some why => .error why
    | none =>
      let source := p.map Scale.weighed
      let scaled :=
        if Scale.isWhole left right width && Scale.isWhole top bottom height then
          Scale.cropped left.toUInt64.toNat top.toUInt64.toNat width height source
        else Scale.alongColumns top bottom height (Scale.alongRows left right width source)
      .ok (scaled.map Scale.unweighed)

/-- The box that holds a whole picture. -/
def Picture.whole (p : Picture) : Crop Float :=
  { left := 0, top := 0, right := Float.ofNat p.width, bottom := Float.ofNat p.height }

end CardDrawing
