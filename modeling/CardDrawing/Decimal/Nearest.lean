/-!
# Nearest doubles

The double nearest to an exact ratio, a half going to the even mantissa. Reading decimals,
turning integers into doubles and dividing integers are all this one rounding.
-/

namespace CardDrawing.Decimal

/-- A ratio rounded to the nearest natural number, a half going to the even one. -/
def roundHalfEven (n d : Nat) : Nat :=
  let q := n / d
  let twice := 2 * (n % d)
  if twice < d then q
  else if d < twice then q + 1
  else if q % 2 = 0 then q else q + 1

/-- The bits of the double nearest to the ratio `n / d`; beyond the largest one, those of
infinity. -/
def nearestBits (n d : Nat) : Nat :=
  if n = 0 then 0
  else
    let rough : Int := (n.log2 : Int) - d.log2 - 53
    let fits (e : Int) : Bool := n * Nat.pow 2 (-e).toNat < Nat.pow 2 53 * (d * Nat.pow 2 e.toNat)
    let e := max (-1074)
      (if fits rough then rough else if fits (rough + 1) then rough + 1 else rough + 2)
    let m := roundHalfEven (n * Nat.pow 2 (-e).toNat) (d * Nat.pow 2 e.toNat)
    min (0x7ff * Nat.pow 2 52) ((e + 1074).toNat * Nat.pow 2 52 + m)

def ofRatio (negative : Bool) (n d : Nat) : Float :=
  let magnitude := nearestBits n d
  Float.ofBits (UInt64.ofNat (if negative then Nat.pow 2 63 + magnitude else magnitude))

/-- The double nearest to `mantissa * 10 ^ exponent`. Exponents far outside the range of doubles
are cut off before any power is computed. -/
def ofScientific (negative : Bool) (mantissa : Nat) (exponent : Int) : Float :=
  let digits : Int := (Nat.toDigits 10 mantissa).length
  if mantissa = 0 ∨ exponent + digits < -400 then ofRatio negative 0 1
  else if 400 < exponent + digits then ofRatio negative (Nat.pow 10 400) 1
  else ofRatio negative (mantissa * Nat.pow 10 exponent.toNat) (Nat.pow 10 (-exponent).toNat)

/-- The double nearest to an integer, or nothing if it is out of range. -/
def ofInt? (n : Int) : Option Float :=
  if nearestBits n.natAbs 1 = 0x7ff * Nat.pow 2 52 then none
  else some (ofRatio (n < 0) n.natAbs 1)

end CardDrawing.Decimal
