/-!
# Shortest decimal digits

The decimal digits of a finite number: as few as possible such that the nearest double to the
written number is the given one, and of those the digits nearest to its exact value. All tests
are made in exact natural-number arithmetic.
-/

namespace CardDrawing.Decimal

/-- A finite double without its sign, as `mantissa * 2 ^ exponent`. -/
structure Magnitude where
  mantissa : Nat
  exponent : Int
deriving Repr, DecidableEq

def mantissaLimit : Nat := Nat.pow 2 52

def lowestExponent : Int := -1074

def Magnitude.ofBits (bits : Nat) : Magnitude :=
  let field := bits / mantissaLimit % 2048
  let fraction := bits % mantissaLimit
  if field = 0 then ⟨fraction, lowestExponent⟩
  else ⟨mantissaLimit + fraction, (field : Int) - 1075⟩

/-- Decimal digits without trailing zeros, read as `d.ddd * 10 ^ exponent`. -/
structure Digits where
  digits : List Char
  exponent : Int
deriving Repr, DecidableEq

/-- The numbers that round to a given one, over a common denominator. -/
structure RoundingInterval where
  low : Nat
  middle : Nat
  high : Nat
  denominator : Nat
  closed : Bool

/-- The interval of numbers whose nearest double is `m`; its ends belong to it exactly when the
mantissa is even, and below a power of two the lower half is half as wide. -/
def Magnitude.interval (m : Magnitude) : RoundingInterval :=
  let below := if m.mantissa = mantissaLimit ∧ lowestExponent < m.exponent then 1 else 2
  let shift := m.exponent - 2
  let scale := Nat.pow 2 shift.toNat
  { low := (4 * m.mantissa - below) * scale
    middle := 4 * m.mantissa * scale
    high := (4 * m.mantissa + 2) * scale
    denominator := Nat.pow 2 (-shift).toNat
    closed := m.mantissa % 2 = 0 }

def RoundingInterval.holds (i : RoundingInterval) (point : Nat) : Bool :=
  if i.closed then i.low ≤ point && point ≤ i.high else i.low < point && point < i.high

def digitCount (n : Nat) : Nat := (Nat.toDigits 10 n).length

/-- The decimal exponent of a positive ratio: the largest `e` with `10 ^ e ≤ n / d`. -/
def leadingExponent (n d : Nat) : Int :=
  if d ≤ n then (digitCount (n / d) : Int) - 1
  else -(digitCount ((d - 1) / n) : Int)

/-- The point of the grid `10 ^ k` nearest to the middle of the interval, if a neighbour of the
middle on that grid lies inside; an exact tie goes to the even digit. -/
def RoundingInterval.gridPoint? (i : RoundingInterval) (k : Int) : Option Nat :=
  let up := Nat.pow 10 (-k).toNat
  let unit := Nat.pow 10 k.toNat * i.denominator
  let scaled : RoundingInterval :=
    { i with low := i.low * up, middle := i.middle * up, high := i.high * up }
  let floor := scaled.middle / unit
  let before := scaled.middle - floor * unit
  let after := (floor + 1) * unit - scaled.middle
  match scaled.holds (floor * unit), scaled.holds ((floor + 1) * unit) with
  | true, true =>
    if before < after then some floor
    else if after < before then some (floor + 1)
    else if floor % 2 = 0 then some floor else some (floor + 1)
  | true, false => some floor
  | false, true => some (floor + 1)
  | false, false => none

/-- Strips trailing zeros, keeping one digit. -/
def trimZeros (digits : List Char) : List Char :=
  match (digits.reverse.dropWhile (· == '0')).reverse with
  | [] => ['0']
  | kept => kept

/-- The shortest digits of a positive magnitude: the first of the grids of 1, 2, … 17 digits that
has a point in the interval. -/
def Magnitude.shortest (m : Magnitude) : Digits :=
  let i := m.interval
  let top := leadingExponent i.middle i.denominator
  let grids := (List.range 17).map fun (places : Nat) => top - (places : Int)
  match grids.findSome? fun k => (i.gridPoint? k).map fun point => (point, k) with
  | some (point, k) =>
    let digits := Nat.toDigits 10 point
    ⟨trimZeros digits, k + digits.length - 1⟩
  | none => ⟨['0'], 0⟩

/-- How a number is laid out around its digits. -/
structure Layout where
  /-- the first decimal exponent of positional notation -/
  positionalFrom : Int
  /-- the first decimal exponent after it -/
  positionalBelow : Int
  exponentWidth : Nat

/-- Values are written positionally from `1e-4` below `1e16`, with at least one decimal, and an
exponent has a sign and at least two digits. -/
def valueLayout : Layout := ⟨-4, 16, 2⟩

def padLeft (width : Nat) (digits : List Char) : List Char :=
  List.replicate (width - digits.length) '0' ++ digits

def Layout.positional (d : Digits) : List Char :=
  if d.exponent < 0 then
    '0' :: '.' :: (List.replicate (-d.exponent - 1).toNat '0' ++ d.digits)
  else
    let whole := d.exponent.toNat + 1
    let padded := d.digits ++ List.replicate (whole - d.digits.length) '0'
    let decimals := padded.drop whole
    padded.take whole ++ '.' :: (if decimals.isEmpty then ['0'] else decimals)

def Layout.scientific (layout : Layout) (d : Digits) : List Char :=
  let decimals := d.digits.drop 1
  d.digits.take 1 ++ (if decimals.isEmpty then [] else '.' :: decimals) ++
    'e' :: (if d.exponent < 0 then '-' else '+') ::
      padLeft layout.exponentWidth (Nat.toDigits 10 d.exponent.natAbs)

def Layout.write (layout : Layout) (d : Digits) : List Char :=
  if layout.positionalFrom ≤ d.exponent ∧ d.exponent < layout.positionalBelow then
    Layout.positional d
  else layout.scientific d

/-- The text of a double: `nan`, `inf`, or its sign and its shortest digits. -/
def write (x : Float) : String :=
  let bits := x.toBits.toNat
  let sign := if bits < Nat.pow 2 63 then "" else "-"
  if x.isNaN then "nan"
  else if x.isInf then sign ++ "inf"
  else
    let m := Magnitude.ofBits bits
    if m.mantissa = 0 then sign ++ "0.0"
    else sign ++ String.ofList (valueLayout.write m.shortest)

end CardDrawing.Decimal
