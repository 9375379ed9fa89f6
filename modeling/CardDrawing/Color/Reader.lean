import CardDrawing.Color.Names
import CardDrawing.Number
import CardDrawing.Pixel
import CardDrawing.Text.Blank
import CardDrawing.Text.Case
import CardDrawing.Text.Classes

/-!
# Reading colors

Colors are written as in style sheets: by name, in hexadecimal, or as a call with numbers. The
numbers of a call are taken as they are, so that a channel need not fit into a byte.
-/

namespace CardDrawing.Color

/-- Reads something at the start of a text and gives what follows it. -/
abbrev Reading (α : Type) := List Char → Option (α × List Char)

def whole : Reading Nat := fun cs =>
  match cs.takeWhile Text.isDigit with
  | [] => none
  | digits => some (Text.digitsValue digits, cs.dropWhile Text.isDigit)

/-- Digits, perhaps followed by a point and more digits. -/
def decimal : Reading Float := fun cs =>
  match cs.takeWhile Text.isDigit, cs.dropWhile Text.isDigit with
  | [], _ => none
  | digits, '.' :: rest =>
    let places := rest.takeWhile Text.isDigit
    some (Decimal.ofScientific false (Text.digitsValue (digits ++ places)) (-places.length),
      rest.dropWhile Text.isDigit)
  | digits, rest => some (Decimal.ofScientific false (Text.digitsValue digits) 0, rest)

def percent {α : Type} (read : Reading α) : Reading α := fun cs =>
  match read cs with
  | some (x, '%' :: rest) => some (x, rest)
  | _ => none

/-- Something with blanks around it. -/
def spaced {α : Type} (read : Reading α) : Reading α := fun cs => do
  let (x, rest) ← read (Text.stripStart cs)
  return (x, Text.stripStart rest)

/-- Arguments between commas, up to the closing parenthesis that ends the text. -/
def arguments? {α : Type} : List (Reading α) → List Char → Option (List α)
  | [], _ => none
  | [read], cs =>
    match spaced read cs with
    | some (x, [')']) => some [x]
    | _ => none
  | read :: others, cs =>
    match spaced read cs with
    | some (x, ',' :: rest) => (arguments? others rest).map (x :: ·)
    | _ => none

/-- The arguments of a call of `name`. -/
def call? {α : Type} (name : String) (reads : List (Reading α)) (cs : List Char) :
    Option (List α) :=
  let opening := (name ++ "(").toList
  if opening.isPrefixOf cs then arguments? reads (cs.drop opening.length) else none

/-- A share of the full intensity as a channel. -/
def channel (share : Float) : Option Int :=
  (Number.truncate (.real (share * 255 + 0.5))).toOption

/-- The part of a number after its whole part. -/
def fraction (x : Float) : Float := x - x.floor

def hueShare (m1 m2 hue : Float) : Float :=
  let hue := fraction hue
  if hue < 1.0 / 6.0 then m1 + (m2 - m1) * hue * 6.0
  else if hue < 0.5 then m2
  else if hue < 2.0 / 3.0 then m1 + (m2 - m1) * (2.0 / 3.0 - hue) * 6.0
  else m1

/-- Red, green and blue from hue, saturation and lightness. -/
def ofLightness (hue saturation lightness : Float) : Float × Float × Float :=
  if saturation == 0 then (lightness, lightness, lightness)
  else
    let m2 :=
      if lightness ≤ 0.5 then lightness * (1.0 + saturation)
      else lightness + saturation - lightness * saturation
    let m1 := 2.0 * lightness - m2
    (hueShare m1 m2 (hue + 1.0 / 3.0), hueShare m1 m2 hue, hueShare m1 m2 (hue - 1.0 / 3.0))

/-- Red, green and blue from hue, saturation and value. -/
def ofValue (hue saturation value : Float) : Float × Float × Float :=
  if saturation == 0 then (value, value, value)
  else
    let sector := (hue * 6.0).floor
    let f := hue * 6.0 - sector
    let p := value * (1.0 - saturation)
    let q := value * (1.0 - saturation * f)
    let t := value * (1.0 - saturation * (1.0 - f))
    match ((Number.truncate (.real sector)).toOption.getD 0) % 6 with
    | 0 => (value, t, p)
    | 1 => (q, value, p)
    | 2 => (p, value, t)
    | 3 => (p, q, value)
    | 4 => (t, p, value)
    | _ => (value, p, q)

def ofShares (shares : Float × Float × Float) : Option Rgba := do
  return { r := ← channel shares.1, g := ← channel shares.2.1, b := ← channel shares.2.2, a := 255 }

/-- A share of a hundred as a channel. -/
def percentChannel (n : Nat) : Option Int := do
  let x ← (Number.div (.int (n * 255)) (.real 100)).toOption
  (Number.truncate (← (Number.add x (.real 0.5)).toOption)).toOption

/-- A color with three or four hexadecimal digits, or with as many pairs of them. -/
def hexadecimal? (digits : List Char) : Option Rgba := do
  let single (c : Char) : Option Int := (Text.hexValue? c).map fun n => 17 * n
  let double (a b : Char) : Option Int := (Text.hexNumber? [a, b]).map Int.ofNat
  match digits with
  | [r, g, b] => return ⟨← single r, ← single g, ← single b, 255⟩
  | [r, g, b, a] => return ⟨← single r, ← single g, ← single b, ← single a⟩
  | [r, r', g, g', b, b'] => return ⟨← double r r', ← double g g', ← double b b', 255⟩
  | [r, r', g, g', b, b', a, a'] =>
    return ⟨← double r r', ← double g g', ← double b b', ← double a a'⟩
  | _ => none

def named? (name : String) : Option Rgba :=
  (colorNames.lookup name).map fun n =>
    ⟨(n / 0x10000 : Nat), (n / 0x100 % 0x100 : Nat), (n % 0x100 : Nat), 255⟩

def called? (cs : List Char) : Option Rgba :=
  match call? "rgb" [whole, whole, whole] cs with
  | some [r, g, b] => some ⟨r, g, b, 255⟩
  | _ =>
  match call? "rgb" [percent whole, percent whole, percent whole] cs with
  | some [r, g, b] => do
    return ⟨← percentChannel r, ← percentChannel g, ← percentChannel b, 255⟩
  | _ =>
  match call? "rgba" [whole, whole, whole, whole] cs with
  | some [r, g, b, a] => some ⟨r, g, b, a⟩
  | _ =>
  match call? "hsl" [decimal, percent decimal, percent decimal] cs with
  | some [h, s, l] => ofShares (ofLightness (h / 360.0) (s / 100.0) (l / 100.0))
  | _ =>
  match (call? "hsv" [decimal, percent decimal, percent decimal] cs).orElse fun _ =>
    call? "hsb" [decimal, percent decimal, percent decimal] cs with
  | some [h, s, v] => ofShares (ofValue (h / 360.0) (s / 100.0) (v / 100.0))
  | _ => none

/-- The longest text that can be a color. -/
def lengthLimit : Nat := 100

/-- The color that a text without blanks at its ends stands for. -/
def ofText? (s : String) : Option Rgba :=
  if lengthLimit < s.length then none
  else
    let name := Text.lower s
    match name.toList with
    | '#' :: digits => hexadecimal? digits
    | cs => (named? name).orElse fun _ => called? cs

/-- The color of a drawing. No color is the default, and an empty one and `none` are transparent. -/
def read (raw : Value) (default : Rgba := Rgba.black) : Except Error Rgba :=
  match raw with
  | .null => .ok default
  | .text s =>
    let stripped := Text.strip s
    if stripped.isEmpty || stripped = "none" then .ok Rgba.transparent
    else
      match ofText? stripped with
      | some color => .ok color
      | none => .error (.unsupportedColor s)
  | v => .error (.noAttribute v.typeName "strip")

end CardDrawing.Color
