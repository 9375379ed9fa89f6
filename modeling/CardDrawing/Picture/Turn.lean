import CardDrawing.Number
import CardDrawing.Pixel

/-!
# Turning pictures

Flips, and turns by any angle. A turned picture is as large as it has to be to hold its corners;
quarter turns move pixels, other turns take for each pixel the one that lies under its center.
-/

namespace CardDrawing

namespace Picture

def flipVertical (p : Picture) : Picture :=
  .ofFn p.width p.height fun x y => (p.get? x (p.height - 1 - y)).getD default

def flipHorizontal (p : Picture) : Picture :=
  .ofFn p.width p.height fun x y => (p.get? (p.width - 1 - x) y).getD default

/-- A quarter turn against the clock. -/
def quarterTurn (p : Picture) : Picture :=
  .ofFn p.height p.width fun x y => (p.get? (p.width - 1 - y) x).getD default

end Picture

namespace Turn

/-- A point `(x, y)` goes to `(a * x + b * y + c, d * x + e * y + f)`. -/
structure Affine where
  a : Float
  b : Float
  c : Float
  d : Float
  e : Float
  f : Float

def Affine.apply (m : Affine) (x y : Float) : Float × Float :=
  (m.a * x + m.b * y + m.c, m.d * x + m.e * y + m.f)

/-- The affine map that first moves by `(x, y)`. -/
def Affine.after (m : Affine) (x y : Float) : Affine :=
  let (c, f) := m.apply x y
  { m with c, f }

/-- What an angle in degrees leaves after full turns: at least 0 and less than 360. -/
def withinTurn (degrees : Float) : Float :=
  if degrees.isNaN || degrees.isInf then 0.0 / 0.0
  else
    let rest := (Number.scaled degrees).tmod (360 * Nat.pow 2 1074)
    let x := Decimal.ofRatio (rest < 0) rest.natAbs (Nat.pow 2 1074)
    if rest < 0 then x + 360.0 else x

/-- The nearest number with 15 decimal places. -/
def rounded (x : Float) : Float :=
  if x.isNaN || x.isInf then x
  else
    let n := Number.roundRatio (Number.scaled x * Nat.pow 10 15) (Nat.pow 2 1074)
    Decimal.ofScientific (n < 0) n.natAbs (-15)

def pi : Float := 3.141592653589793

/-- The turn of the plane by an angle about the center of a picture, as it maps points of the
turned picture back. -/
def about (degrees : Float) (w h : Nat) : Affine :=
  let angle := -(degrees * (pi / 180.0))
  let cosine := rounded angle.cos
  let x := Float.ofNat w / 2.0
  let y := Float.ofNat h / 2.0
  let turn : Affine :=
    ⟨cosine, rounded angle.sin, 0.0, rounded (-angle.sin), cosine, 0.0⟩
  let moved := turn.after (-x) (-y)
  { moved with c := moved.c + x, f := moved.f + y }

def largest (first : Float) (rest : List Float) : Float :=
  rest.foldl (fun m x => if m < x then x else m) first

def smallest (first : Float) (rest : List Float) : Float :=
  rest.foldl (fun m x => if x < m then x else m) first

/-- The extent of what lies between floating bounds, in whole pixels. -/
def extent (first : Float) (rest : List Float) : Except Error Nat := do
  let high ← Number.ceilFloat (largest first rest)
  let low ← Number.floorFloat (smallest first rest)
  return (high - low).toNat

/-- The size of a picture after a turn. -/
def size (degrees : Float) (w h : Nat) : Except Error (Nat × Nat) := do
  let rest := withinTurn degrees
  if rest == 0 || rest == 180 then return (w, h)
  else if rest == 90 || rest == 270 then return (h, w)
  else
    let m := about rest w h
    let (right, bottom) := (Float.ofNat w, Float.ofNat h)
    let corners := [m.apply right 0, m.apply right bottom, m.apply 0 bottom]
    let first := m.apply 0 0
    return (← extent first.1 (corners.map Prod.fst), ← extent first.2 (corners.map Prod.snd))

/-- A coordinate in units of `2 ^ -16`. -/
def fixed (x : Float) : Int := (x * 65536.0 + 0.5).floor.toInt64.toInt

/-- The pixels of the turned picture, each the one of the picture that the map finds. -/
def sample (m : Affine) (w h : Nat) (p : Picture) : Picture :=
  let startX := fixed (m.c + m.a * 0.5 + m.b * 0.5)
  let startY := fixed (m.f + m.d * 0.5 + m.e * 0.5)
  .ofFn w h fun x y =>
    let column := (startX + fixed m.a * x + fixed m.b * y).fdiv 65536
    let row := (startY + fixed m.d * x + fixed m.e * y).fdiv 65536
    if column < 0 || row < 0 then default
    else (p.get? column.toNat row.toNat).getD default

end Turn

/-- A picture turned by an angle in degrees against the clock. -/
def Picture.turn (degrees : Float) (p : Picture) : Except Error Picture := do
  let rest := Turn.withinTurn degrees
  if rest == 0 then return p
  else if rest == 90 then return p.quarterTurn
  else if rest == 180 then return p.flipVertical.flipHorizontal
  else if rest == 270 then return p.flipVertical.flipHorizontal.quarterTurn
  else
    let (w, h) ← Turn.size degrees p.width p.height
    let half (new old : Nat) : Float := (Float.ofNat old - Float.ofNat new) / 2.0
    let m := (Turn.about rest p.width p.height).after (half w p.width) (half h p.height)
    return Turn.sample m w h p

end CardDrawing
