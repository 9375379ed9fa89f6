/-!
# UTF-8

Decoding bytes, one character or one ill-formed piece at a time. An ill-formed piece is as long as
the bytes that could still have begun a character.
-/

namespace CardDrawing.Text

abbrev Bytes := List UInt8

/-- Why a piece is ill-formed. -/
inductive Utf8Fault where
  | startByte
  | continuationByte
  | endOfData
deriving DecidableEq, Repr

def Utf8Fault.reason : Utf8Fault → String
  | startByte => "invalid start byte"
  | continuationByte => "invalid continuation byte"
  | endOfData => "unexpected end of data"

/-- The next piece of a text: a character or a fault, and the number of its bytes. -/
inductive Utf8Piece where
  | char (c : Char) (size : Nat)
  | fault (why : Utf8Fault) (size : Nat)

def Utf8Piece.size : Utf8Piece → Nat
  | char _ size => size
  | fault _ size => size

/-- How a first byte goes on: the number of continuation bytes, the bits that it brings, and the
least and largest first continuation byte. -/
structure Utf8Lead where
  count : Nat
  bits : Nat
  least : Nat
  largest : Nat

def utf8Lead? (n : Nat) : Option Utf8Lead :=
  if n < 0x80 then some ⟨0, n, 0, 0⟩
  else if n < 0xc2 then none
  else if n < 0xe0 then some ⟨1, n - 0xc0, 0x80, 0xbf⟩
  else if n = 0xe0 then some ⟨2, 0, 0xa0, 0xbf⟩
  else if n = 0xed then some ⟨2, 0xd, 0x80, 0x9f⟩
  else if n < 0xf0 then some ⟨2, n - 0xe0, 0x80, 0xbf⟩
  else if n = 0xf0 then some ⟨3, 0, 0x90, 0xbf⟩
  else if n < 0xf4 then some ⟨3, n - 0xf0, 0x80, 0xbf⟩
  else if n = 0xf4 then some ⟨3, 4, 0x80, 0x8f⟩
  else none

/-- Continues a character of which `size` bytes are read: `count` more are needed, the first of
them between `least` and `largest`. -/
def utf8Continue (size bits : Nat) : (count least largest : Nat) → Bytes → Utf8Piece
  | 0, _, _, _ => .char (Char.ofNat bits) size
  | _ + 1, _, _, [] => .fault .endOfData size
  | count + 1, least, largest, b :: rest =>
    if least ≤ b.toNat && b.toNat ≤ largest then
      utf8Continue (size + 1) (bits * 64 + (b.toNat - 0x80)) count 0x80 0xbf rest
    else .fault .continuationByte size

def utf8Piece (first : UInt8) (rest : Bytes) : Utf8Piece :=
  match utf8Lead? first.toNat with
  | none => .fault .startByte 1
  | some lead => utf8Continue 1 lead.bits lead.count lead.least lead.largest rest

/-- An ill-formed place in a text: where it starts, its bytes, and why. -/
structure Utf8Error where
  position : Nat
  bytes : Bytes
  why : Utf8Fault

/-- Decodes the bytes from `position` on, up to the first ill-formed place. -/
def decodeUtf8From (position : Nat) (bytes : Bytes) : Except Utf8Error (List Char) :=
  match bytes with
  | [] => .ok []
  | first :: rest =>
    match utf8Piece first rest with
    | .char c size => (decodeUtf8From (position + size) (rest.drop (size - 1))).map (c :: ·)
    | .fault why size => .error { position, bytes := (first :: rest).take size, why }
termination_by bytes.length
decreasing_by simp only [List.length_drop, List.length_cons]; omega

def decodeUtf8 (bytes : Bytes) : Except Utf8Error String :=
  (decodeUtf8From 0 bytes).map String.ofList

/-- Decodes with a replacement character for every ill-formed piece. -/
def decodeUtf8Lossy (bytes : Bytes) : List Char :=
  match bytes with
  | [] => []
  | first :: rest =>
    match utf8Piece first rest with
    | .char c size => c :: decodeUtf8Lossy (rest.drop (size - 1))
    | .fault _ size => Char.ofNat 0xfffd :: decodeUtf8Lossy (rest.drop (size - 1))
termination_by bytes.length
decreasing_by all_goals simp only [List.length_drop, List.length_cons]; omega

def encodeUtf8 (s : String) : Bytes := s.toUTF8.toList

end CardDrawing.Text
