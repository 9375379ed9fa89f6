/-!
# Rasters

A raster is a rectangle of cells, stored row by row from the top.
-/

namespace CardDrawing

structure Raster (α : Type) where
  width : Nat
  height : Nat
  cells : Array α
  size_eq : cells.size = width * height

namespace Raster

variable {α β : Type}

section

variable {width height x y : Nat}

theorem index_lt (hx : x < width) (hy : y < height) : y * width + x < width * height := by
  calc y * width + x < y * width + width := by omega
    _ = (y + 1) * width := by rw [Nat.succ_mul]
    _ ≤ height * width := Nat.mul_le_mul_right _ hy
    _ = width * height := Nat.mul_comm _ _

theorem le_index (hy : height ≤ y) : width * height ≤ y * width + x := by
  have : height * width ≤ y * width := Nat.mul_le_mul_right _ hy
  rw [Nat.mul_comm width height]
  omega

theorem mod_lt_width {i : Nat} (hi : i < width * height) : i % width < width :=
  Nat.mod_lt _ (Nat.pos_of_lt_mul_right hi)

theorem div_lt_height {i : Nat} (hi : i < width * height) : i / width < height :=
  Nat.div_lt_of_lt_mul hi

theorem index_mod (hx : x < width) : (y * width + x) % width = x := by
  rw [Nat.add_comm, Nat.add_mul_mod_self_right, Nat.mod_eq_of_lt hx]

theorem index_div (hx : x < width) : (y * width + x) / width = y := by
  rw [Nat.add_comm, Nat.add_mul_div_right _ _ (by omega), Nat.div_eq_of_lt hx, Nat.zero_add]

end

/-- The raster whose cell in column `x` and row `y` is `f x y`. -/
def ofFn (width height : Nat) (f : Nat → Nat → α) : Raster α where
  width := width
  height := height
  cells := Array.ofFn fun i : Fin (width * height) => f (i.val % width) (i.val / width)
  size_eq := by simp

/-- The cell in column `x` and row `y`, nothing outside. -/
def get? (r : Raster α) (x y : Nat) : Option α :=
  if x < r.width then r.cells[y * r.width + x]? else none

/-- A raster from its cells, if they fill it. -/
def ofCells? (width height : Nat) (cells : Array α) : Option (Raster α) :=
  if h : cells.size = width * height then some ⟨width, height, cells, h⟩ else none

def map (f : α → β) (r : Raster α) : Raster β where
  width := r.width
  height := r.height
  cells := r.cells.map f
  size_eq := by simp [r.size_eq]

/-- The raster of what `f` makes of each column, row and cell. -/
def mapAt (f : Nat → Nat → α → β) (r : Raster α) : Raster β where
  width := r.width
  height := r.height
  cells := r.cells.mapIdx fun i cell => f (i % r.width) (i / r.width) cell
  size_eq := by simp [r.size_eq]

def fill (width height : Nat) (cell : α) : Raster α where
  width := width
  height := height
  cells := Array.replicate (width * height) cell
  size_eq := by simp

/-- The raster with one cell replaced; outside nothing changes. -/
def set (r : Raster α) (x y : Nat) (cell : α) : Raster α where
  width := r.width
  height := r.height
  cells := if x < r.width then r.cells.setIfInBounds (y * r.width + x) cell else r.cells
  size_eq := by split <;> simp [r.size_eq]

/-- The bounds of a part: columns from `left` up to `right`, rows from `top` up to `bottom`. -/
structure Bounds where
  left : Int
  top : Int
  right : Int
  bottom : Int
deriving DecidableEq, Repr

/-- Bounds as they are seen from a corner at `(x, y)`. -/
def Bounds.seenFrom (b : Bounds) (x y : Int) : Bounds where
  left := b.left - x
  top := b.top - y
  right := b.right - x
  bottom := b.bottom - y

section

variable (b : Bounds) (x y : Int)

end

/-- Where a bound falls among cells: below zero it counts from the end, past an end it is cut. -/
def cut (size : Nat) (bound : Int) : Nat :=
  if bound < 0 then (size + bound).toNat else min size bound.toNat

theorem cut_le (size : Nat) (bound : Int) : cut size bound ≤ size := by
  unfold cut
  split <;> omega

theorem cut_span_le (size : Nat) (first last : Int) :
    cut size first + (cut size last - cut size first) ≤ size := by
  have hfirst := cut_le size first
  have hlast := cut_le size last
  omega

/-- The part of a raster that begins in a column and a row, as a raster of its own. -/
def part (r : Raster α) (left top width height : Nat) (hw : left + width ≤ r.width)
    (hh : top + height ≤ r.height) : Raster α where
  width := width
  height := height
  cells := Array.ofFn fun i : Fin (width * height) =>
    have hx : left + i.val % width < r.width := by
      have := mod_lt_width i.isLt
      omega
    have hy : top + i.val / width < r.height := by
      have := div_lt_height i.isLt
      omega
    have hi := r.size_eq ▸ index_lt hx hy
    r.cells[(top + i.val / width) * r.width + (left + i.val % width)]
  size_eq := by simp

/-- The part of a raster within bounds. -/
def slice (r : Raster α) (b : Bounds) : Raster α :=
  r.part (cut r.width b.left) (cut r.height b.top) (cut r.width b.right - cut r.width b.left)
    (cut r.height b.bottom - cut r.height b.top) (cut_span_le ..) (cut_span_le ..)

/-- A raster with the cells within bounds replaced by those of another one. -/
def paste (r : Raster α) (b : Bounds) (cells : Raster α) : Raster α :=
  let left := cut r.width b.left
  let top := cut r.height b.top
  let right := cut r.width b.right
  let bottom := cut r.height b.bottom
  r.mapAt fun x y cell =>
    if left ≤ x ∧ x < right ∧ top ≤ y ∧ y < bottom then
      (cells.get? (x - left) (y - top)).getD cell
    else cell

/-- What `f` makes of the cells of a raster and of those of another one that lie over them. -/
def overlaid (r : Raster α) (f : β → α → α) (upper : Raster β) : Raster α :=
  r.mapAt fun x y cell => ((upper.get? x y).map (f · cell)).getD cell

/-- The rows from the top, each from the left. -/
def rows (r : Raster α) : List (List α) :=
  (List.range r.height).map fun y =>
    (r.cells.extract (y * r.width) ((y + 1) * r.width)).toList

theorem get?_map (f : α → β) (r : Raster α) (x y : Nat) :
    (r.map f).get? x y = (r.get? x y).map f := by
  unfold get?
  by_cases hx : x < r.width <;> simp [map, hx]

theorem get?_mapAt (f : Nat → Nat → α → β) (r : Raster α) (x y : Nat) :
    (r.mapAt f).get? x y = (r.get? x y).map (f x y) := by
  unfold get?
  by_cases hx : x < r.width
  · simp [mapAt, hx, index_mod hx, index_div hx]
  · simp [mapAt, hx]

theorem mem_cells (r : Raster α) (cell : α) :
    cell ∈ r.cells ↔ ∃ x y, r.get? x y = some cell := by
  constructor
  · intro h
    obtain ⟨i, hi, rfl⟩ := Array.mem_iff_getElem.mp h
    have hx : i % r.width < r.width := mod_lt_width (r.size_eq ▸ hi)
    have hindex : i / r.width * r.width + i % r.width = i := Nat.div_add_mod' i r.width
    refine ⟨i % r.width, i / r.width, ?_⟩
    rw [get?, if_pos hx, hindex, Array.getElem?_eq_getElem hi]
  · rintro ⟨x, y, h⟩
    unfold get? at h
    split at h
    · exact Array.mem_of_getElem? h
    · cases h

theorem get?_part {r : Raster α} {left top width height : Nat} (hw : left + width ≤ r.width)
    (hh : top + height ≤ r.height) (x y : Nat) :
    (r.part left top width height hw hh).get? x y =
      if x < width ∧ y < height then r.get? (left + x) (top + y) else none := by
  by_cases hx : x < width
  · have hleft : left + x < r.width := by omega
    by_cases hy : y < height
    · have hcell : (top + y) * r.width + (left + x) < r.cells.size :=
        r.size_eq ▸ index_lt hleft (by omega)
      simp [get?, part, hx, hy, hleft, index_lt hx hy, index_mod hx, index_div hx, hcell]
    · have hge : ¬ y * width + x < width * height := Nat.not_lt.mpr (le_index (Nat.not_lt.mp hy))
      simp [get?, part, hx, hy, hge]
  · simp [get?, part, hx]

end Raster

end CardDrawing
