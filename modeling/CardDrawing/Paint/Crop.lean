import CardDrawing.Scalar

/-!
# Cropping

The part of a picture that fills a target of another shape.
-/

namespace CardDrawing

/-- A part of a picture, by its edges. -/
structure Crop (α : Type) where
  left : α
  top : α
  right : α
  bottom : α

namespace Crop

variable {α : Type} [Scalar α]

open Scalar

/-- Where a crop begins, and its extent. -/
structure Window (α : Type) where
  x : α
  y : α
  width : α
  height : α

/-- The largest centered part of a picture that has the ratio of the target. -/
def centered (imageW imageH ratio : α) : Except Error (Window α) := do
  let imageRatio ← div imageW imageH
  if le imageRatio ratio then
    let height ← div imageW ratio
    let y ← div (← sub imageH height) (literal 2)
    return { x := literal 0, y, width := imageW, height }
  else
    let width ← mul ratio imageH
    let x ← div (← sub imageW width) (literal 2)
    return { x, y := literal 0, width, height := imageH }

/-- Whether an adjustment is given and is not zero. -/
def given? (adjustment : Option α) : Option α := adjustment.filter (!isZero ·)

/-- Takes a percentage of the width off the height, and keeps the ratio. -/
def zoomed (ratio : α) (zoom : Option α) (w : Window α) : Except Error (Window α) :=
  match given? zoom with
  | none => .ok w
  | some zoom => do
    let height ← sub w.height (← div (← mul zoom w.width) (literal 100))
    let width ← mul ratio height
    return { w with width, height }

/-- A start moved by a number of three-hundredths of the extent. -/
def panned (start extent : α) (pan : Option α) : Except Error α :=
  match given? pan with
  | none => .ok start
  | some pan => do add start (← div (← mul pan extent) (literal 300))

/-- The part of a picture that covers a target: centered, then zoomed, then moved. -/
def cover (imageW imageH targetW targetH : α) (zoom panX panY : Option α) :
    Except Error (Crop α) := do
  let ratio ← div targetW targetH
  let w ← centered imageW imageH ratio
  let w ← zoomed ratio zoom w
  let x ← panned w.x w.width panX
  let y ← panned w.y w.height panY
  return { left := x, top := y, right := ← add x w.width, bottom := ← add y w.height }

end Crop

end CardDrawing
