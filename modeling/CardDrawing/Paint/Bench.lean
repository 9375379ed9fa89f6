import CardDrawing.Paint.Plan
import CardDrawing.Paint.Typeface
import CardDrawing.Picture.Canvas
import CardDrawing.Picture.Scale
import CardDrawing.Surface.Basic

/-!
# Painting

A plan is carried out call by call on a bench: the surface, and the mask and the picture at hand.
What has been laid over the surface stays there when a later call fails.
-/

namespace CardDrawing

structure Bench where
  surface : Surface
  font : Font
  mask : Raster UInt8
  picture : Picture

namespace Bench

def setUp (surface : Surface) (picture : Picture) : Bench where
  surface
  font := ⟨Font.defaultFamily, Font.defaultSize⟩
  mask := .fill 0 0 0
  picture

/-- A font at the whole size that it is loaded at. -/
def loaded (font : Font) : Except Error Font := do
  let size ← Font.pixelSize (.real font.size)
  return { font with size := Float.ofInt size }

def coordinates (p : Number × Number) : Except Error (Float × Float) := do
  return (← p.1.toFloat, ← p.2.toFloat)

def floats (c : Crop Number) : Except Error (Crop Float) := do
  return { left := ← c.left.toFloat, top := ← c.top.toFloat,
           right := ← c.right.toFloat, bottom := ← c.bottom.toFloat }

/-- Carries out one call. -/
def perform (typeface : Typeface) (b : Bench) (c : Call) (α : Type := Float32) [Tone α] :
    Except Error Bench :=
  match c with
  | .blendRect x y width height color =>
    .ok { b with surface := b.surface.blendRect x y width height color α }
  | .openMask columns rows => .ok { b with mask := .fill columns.toNat rows.toNat 0 }
  | .maskLine start stop width => do
    let points := [← coordinates start, ← coordinates stop]
    return { b with mask := ← Canvas.line 255 points width b.mask }
  | .maskText x y text =>
    .ok { b with mask := typeface.ink b.font text b.mask.width b.mask.height x y }
  | .blendMask _ _ x y color => do
    return { b with surface := ← b.surface.blendMask b.mask x y color α }
  | .loadFont font => do return { b with font := ← loaded font }
  | .openCanvas width height => .ok { b with picture := Canvas.empty width height }
  | .mark m => do return { b with picture := ← Canvas.draw b.picture m }
  | .convert => .ok b
  | .turn degrees _ _ => do return { b with picture := ← b.picture.turn degrees }
  | .flipVertical => .ok { b with picture := b.picture.flipVertical }
  | .flipHorizontal => .ok { b with picture := b.picture.flipHorizontal }
  | .scale width height box => do
    let box ← match box with
      | some box => floats box
      | none => pure b.picture.whole
    return { b with picture := ← b.picture.scale width height box }
  | .blit _ _ x y => .ok { b with surface := b.surface.blit b.picture x y α }

/-- Carries out calls up to the first that fails. -/
def performAll (typeface : Typeface) (b : Bench) (calls : List Call) (α : Type := Float32)
    [Tone α] : Except Error Unit × Bench :=
  match calls with
  | [] => (.ok (), b)
  | c :: rest =>
    match perform typeface b c α with
    | .ok next => performAll typeface next rest α
    | .error why => (.error why, b)

end Bench

/-- What a resource shows when it is painted. -/
def Resource.drawable : Resource → Drawable
  | picture p => .picture p.width p.height
  | document d => .document d
  | _ => .nothing

/-- The pixels of a resource. -/
def Resource.pixels : Resource → Picture
  | picture p => p
  | _ => Canvas.empty 0 0

def Primitive.resource : Primitive → Resource
  | image p => p.resource
  | svg p => p.resource
  | _ => .value .null

namespace Subject

def resource : Subject → Resource
  | primitive p => p.resource
  | other _ => .value .null

/-- Paints one subject; if that fails, what had been laid over the surface by then stays. -/
def paint (typeface : Typeface) (s : Surface) (subject : Subject) (α : Type := Float32) [Tone α] :
    Except Error Unit × Surface :=
  let (planned, calls) := (subject.plan typeface.metrics subject.resource.drawable).run
  let (performed, bench) :=
    Bench.performAll typeface (.setUp s subject.resource.pixels) calls α
  (performed.bind fun _ => planned, bench.surface)

/-- Paints subjects in their order, up to the first that fails. -/
def paintAll (typeface : Typeface) (s : Surface) (subjects : List Subject) (α : Type := Float32)
    [Tone α] : Except Error Unit × Surface :=
  match subjects with
  | [] => (.ok (), s)
  | subject :: rest =>
    match subject.paint typeface s α with
    | (.ok (), next) => paintAll typeface next rest α
    | (.error why, next) => (.error why, next)

end Subject

/-- Paints primitives in their order, up to the first that fails. -/
def Primitive.paintAll (typeface : Typeface) (s : Surface) (ps : List Primitive)
    (α : Type := Float32) [Tone α] : Except Error Unit × Surface :=
  Subject.paintAll typeface s (ps.map .primitive) α

end CardDrawing
