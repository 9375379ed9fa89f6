import CardDrawing.Error
import CardDrawing.Text.Classes
import CardDrawing.Value.Conversion

/-!
# Headers of portable pixmaps

A header has the magic number, the width, the height and the largest value, with blanks between
them. Its numbers are written as whole numbers are elsewhere, in ASCII.
-/

namespace CardDrawing.Netpbm

open Text (Bytes)

def isBlank (b : UInt8) : Bool := b = 0x20 || (0x09 ≤ b && b ≤ 0x0d)

def isLineEnd (b : UInt8) : Bool := b = 0x0a || b = 0x0d

/-- The most bytes of a field. -/
def fieldLimit : Nat := 10

/-- The next field of a header, and what follows the one blank after it. Comments run from `#` to
the end of their line, also inside a field. A field that is too long is cut right after the byte
that makes it so. -/
def fieldAfter (inComment : Bool) (read : Bytes) : Bytes → Bytes × Bytes
  | [] => (read, [])
  | b :: rest =>
    if fieldLimit < read.length then (read, b :: rest)
    else if inComment then fieldAfter (!isLineEnd b) read rest
    else if b = 0x23 then fieldAfter true read rest
    else if !isBlank b then fieldAfter false (read ++ [b]) rest
    else if read.isEmpty then fieldAfter false [] rest
    else (read, rest)

/-- A field that is neither missing nor too long, and what follows it. -/
def field (bytes : Bytes) : Except Error (Bytes × Bytes) :=
  let (read, rest) := fieldAfter false [] bytes
  if read.isEmpty then .error .pictureHeaderEnds
  else if fieldLimit < read.length then .error (.pictureFieldTooLong read)
  else .ok (read, rest)

/-- The number that a field spells. -/
def number (field : Bytes) : Except Error Int :=
  match Text.wholeNumber? (field.map fun b => Char.ofNat b.toNat) with
  | some n => .ok n
  | none => .error (.intBytes field)

def numberField (bytes : Bytes) : Except Error (Int × Bytes) := do
  let (read, rest) ← field bytes
  return (← number read, rest)

structure Header where
  isColored : Bool
  width : Nat
  height : Nat
  /-- the largest sample, which is never zero -/
  largest : Nat

/-- The magic number, and what follows the blank after it. -/
def magic? : Bytes → Option (Bool × Bytes)
  | 0x50 :: 0x35 :: rest => afterBlank false rest
  | 0x50 :: 0x36 :: rest => afterBlank true rest
  | _ => none
where
  afterBlank (isColored : Bool) : Bytes → Option (Bool × Bytes)
    | [] => some (isColored, [])
    | b :: rest => if isBlank b then some (isColored, rest) else none

/-- The most pixels of a picture. -/
def pixelLimit : Nat := 178956970

/-- The header of a picture with pixels, but not too many of them, and the data after it. -/
def header (bytes : Bytes) : Except Error (Header × Bytes) := do
  let some (isColored, rest) := magic? bytes | throw (.outage .unidentifiedImage)
  let (width, rest) ← numberField rest
  let (height, rest) ← numberField rest
  let (largest, rest) ← numberField rest
  if largest ≤ 0 || 0x10000 ≤ largest then throw .largestSample
  if width ≤ 0 || height ≤ 0 then throw (.outage .unidentifiedImage)
  let h : Header := ⟨isColored, width.toNat, height.toNat, largest.toNat⟩
  if pixelLimit < h.width * h.height then throw (.pictureTooLarge (h.width * h.height) pixelLimit)
  return (h, rest)

end CardDrawing.Netpbm
