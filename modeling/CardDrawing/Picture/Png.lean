import CardDrawing.Pixel
import CardDrawing.Text.Utf8

/-!
# Portable network graphics

Pictures are written row by row with eight bits for each of four channels. The rows are stored, not
compressed, in blocks of a bounded length.
-/

namespace CardDrawing.Png

open Text (Bytes)

/-- One bit of the cyclic redundancy check. -/
def checkBit (c : UInt32) : UInt32 :=
  if c &&& 1 = 1 then (c >>> 1) ^^^ 0xedb88320 else c >>> 1

def checkByte (c : UInt32) (b : UInt8) : UInt32 :=
  Nat.repeat checkBit 8 (c ^^^ b.toUInt32)

/-- The cyclic redundancy check of a chunk. -/
def check (bytes : Bytes) : UInt32 := bytes.foldl checkByte 0xffffffff ^^^ 0xffffffff

def checksumBase : Nat := 65521

/-- The two running sums over the stored bytes. -/
def sums (bytes : Bytes) : Nat × Nat :=
  bytes.foldl (fun (a, b) byte =>
    let a := (a + byte.toNat) % checksumBase
    (a, (b + a) % checksumBase)) (1, 0)

/-- Four bytes, the highest first. -/
def word (n : Nat) : Bytes :=
  [UInt8.ofNat (n / 0x1000000), UInt8.ofNat (n / 0x10000), UInt8.ofNat (n / 0x100), UInt8.ofNat n]

/-- Two bytes, the lowest first. -/
def halfWord (n : Nat) : Bytes := [UInt8.ofNat n, UInt8.ofNat (n / 0x100)]

def chunk (name : String) (data : Bytes) : Bytes :=
  let body := Text.encodeUtf8 name ++ data
  word data.length ++ body ++ word (check body).toNat

def blockLimit : Nat := 65535

def block (isLast : Bool) (bytes : Bytes) : Bytes :=
  (if isLast then 1 else 0) ::
    (halfWord bytes.length ++ halfWord (blockLimit - bytes.length) ++ bytes)

/-- Stored blocks, the last of which is marked. -/
def blocks (bytes : Bytes) : Bytes :=
  if bytes.length ≤ blockLimit then block true bytes
  else block false (bytes.take blockLimit) ++ blocks (bytes.drop blockLimit)
termination_by bytes.length
decreasing_by
  simp only [List.length_drop, blockLimit] at *
  omega

/-- A row of pixels, after the sign that it stands for itself. -/
def row (pixels : List Pixel) : Bytes := 0 :: pixels.flatMap fun p => [p.r, p.g, p.b, p.a]

def stream (bytes : Bytes) : Bytes :=
  let (a, b) := sums bytes
  [0x78, 0x01] ++ blocks bytes ++ word (b * 0x10000 + a)

def signature : Bytes := [0x89, 0x50, 0x4e, 0x47, 0x0d, 0x0a, 0x1a, 0x0a]

def encode (p : Picture) : Bytes :=
  signature ++ chunk "IHDR" (word p.width ++ word p.height ++ [8, 6, 0, 0, 0]) ++
    chunk "IDAT" (stream (p.rows.flatMap row)) ++ chunk "IEND" []

end CardDrawing.Png
