import CardDrawing.Surface.Basic
import CardDrawing.Proofs.Outcomes

/-!
# Painting within a surface

What is painted is cut off at the edges of the surface before any pixel is read or written. The
parts of the surface and of the patch that are left lie in range and over one another, so that
every pixel becomes what its own place says, wherever the corner of the patch is.
-/

namespace CardDrawing.Proofs
open Raster

/-! ## Parts of rasters -/

section

variable {α β : Type} {b : Bounds} {r : Raster α} {i j : Nat}

/-- A column and a row belong to the rectangle of an extent with its corner at `(x, y)`. -/
def Covers (x y w h : Int) (i j : Nat) : Prop :=
  x ≤ i ∧ i < x + w ∧ y ≤ j ∧ j < y + h

/-- A patch with its corner at `(x, y)` has a cell over a column and a row. -/
def LiesOver (patch : Raster α) (x y : Int) (i j : Nat) (cell : α) : Prop :=
  ∃ column row : Nat, (i : Int) = x + column ∧ (j : Int) = y + row ∧
    patch.get? column row = some cell

variable {patch : Raster α} {x y : Int} {cell : α}

end

/-! ## Clipping -/

section

variable {s : Surface} {x y w h : Int} {b : Bounds} {i j : Nat}

/-- A rectangle that is cut off on the left, on the right of the surface and at its foot. -/
example : Surface.clip? { pixels := .fill 4 3 default, background := "" } (-1) 2 9 5 =
    some { left := 0, top := 2, right := 4, bottom := 3 } := by decide

variable {patch : Picture}

end

/-! ## Surfaces that are painted on -/

/-- What has become of a surface that is painted on in a rectangle. -/
structure PaintedWithin (s s' : Surface) (x y w h : Int) : Prop where
  width : s'.width = s.width
  height : s'.height = s.height
  background : s'.background = s.background
  outside : ∀ i j : Nat, ¬ Covers x y w h i j → s'.pixels.get? i j = s.pixels.get? i j

/-- Some pixel of the patch that lies over the surface is not transparent. -/
def Shows (s : Surface) (patch : Picture) (x y : Int) : Prop :=
  ∃ i j : Nat, i < s.width ∧ j < s.height ∧ ∃ p, LiesOver patch x y i j p ∧ p.a ≠ 0

section

variable {s : Surface} {x y w h : Int} {b : Bounds} {color : Rgba} {patch : Picture}

lemma PaintedWithin.refl : PaintedWithin s s x y w h := ⟨rfl, rfl, rfl, fun _ _ _ => rfl⟩

end

/-! ## Masks -/

/-- The color channels of a color fit into bytes. -/
def ByteChannels (color : Rgba) : Prop :=
  ∀ value ∈ [color.r, color.g, color.b], 0 ≤ value ∧ value ≤ 255

section

variable {mask : Raster UInt8} {color : Rgba} {value : Int} {patch : Picture}

lemma exists_byteChannel (hvalue : 0 ≤ value ∧ value ≤ 255) :
    ∃ b : UInt8, Surface.byteChannel value = .ok b ∧ (b.toNat : Int) = value := by
  refine ⟨UInt8.ofNat value.toNat, if_pos (by simpa using hvalue), ?_⟩
  rw [UInt8.toNat_ofNat']
  omega

lemma byteChannel_inRange {b : UInt8} (h : Surface.byteChannel value = .ok b) :
    0 ≤ value ∧ value ≤ 255 := by
  rw [Surface.byteChannel] at h
  split at h
  · rename_i hvalue
    simpa using hvalue
  · cases h

lemma byteChannels_of_stencil (h : Surface.stencil mask color = .ok patch) :
    ByteChannels color := by
  obtain ⟨r, hr, h⟩ := bind_eq_ok.mp h
  obtain ⟨g, hg, h⟩ := bind_eq_ok.mp h
  obtain ⟨b, hb, -⟩ := bind_eq_ok.mp h
  simp only [ByteChannels, List.forall_mem_cons]
  exact ⟨byteChannel_inRange hr, byteChannel_inRange hg, byteChannel_inRange hb, by simp⟩

end

end CardDrawing.Proofs
