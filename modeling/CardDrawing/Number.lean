import CardDrawing.Decimal.Nearest
import CardDrawing.Decimal.Shortest
import CardDrawing.Error

/-!
# Numbers

Coordinates are whole or floating numbers. Whole numbers are exact and unbounded; an operation
with a floating operand is done in doubles, which a whole operand may be too large for.
-/

namespace CardDrawing

inductive Number where
  | int (n : Int)
  | real (x : Float)
deriving Inhabited

namespace Number

def toValue : Number → Value
  | int n => .int n
  | real x => .float x

def ofValue? : Value → Option Number
  | .int n => some (int n)
  | .float x => some (real x)
  | .bool b => some (int (if b then 1 else 0))
  | _ => none

instance : OfNat Number n := ⟨int n⟩

/-- The double nearest to a whole number. -/
def floatOfInt (n : Int) : Except Error Float :=
  match Decimal.ofInt? n with
  | some x => .ok x
  | none => .error .intTooLarge

def toFloat : Number → Except Error Float
  | int n => floatOfInt n
  | real x => .ok x

/-- The exact value of a finite double as `(negative, mantissa, exponent)`. -/
def parts (x : Float) : Bool × Nat × Int :=
  let bits := x.toBits.toNat
  let m := Decimal.Magnitude.ofBits bits
  (Nat.pow 2 63 ≤ bits, m.mantissa, m.exponent)

/-- The number times `2 ^ 1074`: every finite double is a whole multiple of `2 ^ -1074`. -/
def scaled (x : Float) : Int :=
  let (negative, mantissa, exponent) := parts x
  let n : Int := mantissa * Nat.pow 2 (exponent + 1074).toNat
  if negative then -n else n

/-- A floating number cut to a whole one by `f`, given as a ratio. -/
def wholeWith (f : Int → Int → Int) (x : Float) : Except Error Int :=
  if x.isNaN then .error .nanToInt
  else if x.isInf then .error .infinityToInt
  else
    let (negative, mantissa, exponent) := parts x
    let n : Int := if negative then -mantissa else mantissa
    if 0 ≤ exponent then .ok (n * Nat.pow 2 exponent.toNat)
    else .ok (f n (Nat.pow 2 (-exponent).toNat))

/-- Nearest whole number to a ratio with positive denominator, a half going to the even one. -/
def roundRatio (n d : Int) : Int :=
  let q := n.fdiv d
  let twice := 2 * (n - q * d)
  if twice < d then q
  else if d < twice then q + 1
  else if q % 2 = 0 then q else q + 1

def round : Number → Except Error Int
  | int n => .ok n
  | real x => wholeWith roundRatio x

/-- Cut toward zero. -/
def truncate : Number → Except Error Int
  | int n => .ok n
  | real x => wholeWith Int.tdiv x

def floorFloat (x : Float) : Except Error Int := wholeWith Int.fdiv x

def ceilFloat (x : Float) : Except Error Int := (wholeWith Int.fdiv (-x)).map (- ·)

def withFloats (f : Float → Float → Float) (a b : Number) : Except Error Number := do
  return real (f (← a.toFloat) (← b.toFloat))

def add : Number → Number → Except Error Number
  | int a, int b => .ok (int (a + b))
  | a, b => withFloats (· + ·) a b

def sub : Number → Number → Except Error Number
  | int a, int b => .ok (int (a - b))
  | a, b => withFloats (· - ·) a b

def mul : Number → Number → Except Error Number
  | int a, int b => .ok (int (a * b))
  | a, b => withFloats (· * ·) a b

/-- The double nearest to the ratio of two whole numbers. -/
def divInts (a b : Int) : Except Error Number :=
  if b = 0 then .error .divisionByZero
  else
    let x := Decimal.ofRatio ((a < 0) != (b < 0)) a.natAbs b.natAbs
    if x.isInf then .error .ratioTooLarge else .ok (real x)

/-- Division always gives a floating number. -/
def div : Number → Number → Except Error Number
  | int a, int b => divInts a b
  | a, b => do
    let x ← a.toFloat
    let y ← b.toFloat
    if y == 0 then .error .floatDivisionByZero else return real (x / y)

def isZero : Number → Bool
  | int n => n = 0
  | real x => x == 0

/-- Exact comparison; a NaN is not comparable to anything. -/
def le : Number → Number → Bool
  | int a, int b => a ≤ b
  | real x, real y => x ≤ y
  | int a, real y =>
    if y.isNaN then false
    else if y.isInf then 0 < y
    else a * Nat.pow 2 1074 ≤ scaled y
  | real x, int b =>
    if x.isNaN then false
    else if x.isInf then x < 0
    else scaled x ≤ b * Nat.pow 2 1074

def lt : Number → Number → Bool
  | int a, int b => a < b
  | real x, real y => x < y
  | int a, real y =>
    if y.isNaN then false
    else if y.isInf then 0 < y
    else a * Nat.pow 2 1074 < scaled y
  | real x, int b =>
    if x.isNaN then false
    else if x.isInf then x < 0
    else scaled x < b * Nat.pow 2 1074

end Number

end CardDrawing
