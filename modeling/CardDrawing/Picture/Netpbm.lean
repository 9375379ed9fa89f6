import CardDrawing.Picture.Netpbm.Header
import CardDrawing.Pixel

/-!
# Portable pixmaps

Pictures in the two binary formats: `P5` holds a gray sample for every pixel, `P6` three samples.
Written pictures are colored.
-/

namespace CardDrawing.Netpbm

open Text (Bytes)

/-- The samples that the data hold: a byte each, or two with the larger one first. -/
def samples (isWide : Bool) : Bytes → List Nat
  | [] => []
  | b :: rest =>
    if isWide then
      match rest with
      | c :: more => (256 * b.toNat + c.toNat) :: samples isWide more
      | [] => []
    else b.toNat :: samples isWide rest

/-- The tone that the largest sample stands for. Wide gray samples are not brought down to bytes. -/
def Header.top (h : Header) : Nat := if !h.isColored && 255 < h.largest then 65535 else 255

/-- Whether samples are tones as they are. -/
def Header.isPlain (h : Header) : Bool := h.largest = h.top

/-- The tone of a sample; what does not fit into a byte is the brightest. -/
def Header.tone (h : Header) (sample : Nat) : UInt8 :=
  let scaled := (Number.roundRatio (sample * h.top) h.largest).toNat
  UInt8.ofNat (min scaled 255)

/-- The pixels of a list of tones. -/
def pixels (isColored : Bool) : List UInt8 → List Pixel
  | [] => []
  | v :: rest =>
    if isColored then
      match rest with
      | g :: b :: more => ⟨v, g, b, 255⟩ :: pixels isColored more
      | _ => []
    else ⟨v, v, v, 255⟩ :: pixels isColored rest

/-- Decodes a picture; data after its last pixel are ignored. Bytes without one of the two magic
numbers are unidentified, whatever other format they may be in. -/
def decode (bytes : Bytes) : Except Error Picture := do
  let (h, rest) ← header bytes
  let tones := (samples (255 < h.largest) rest).map h.tone
  let cells := ((pixels h.isColored tones).take (h.width * h.height)).toArray
  match Raster.ofCells? h.width h.height cells with
  | some picture => return picture
  | none => throw (if h.isPlain then .outage .readFailure else .pictureData)

/-- The picture without its transparency. -/
def encode (p : Picture) : Bytes :=
  Text.encodeUtf8 s!"P6\n{p.width} {p.height}\n255\n" ++
    p.cells.toList.flatMap fun pixel => [pixel.r, pixel.g, pixel.b]

end CardDrawing.Netpbm
