import CardDrawing.Paint.Call
import CardDrawing.Raster

/-!
# Typefaces

Texts are drawn with the glyphs of the font file for their family. Where there is none, or none that
can be opened, other glyphs stand in for them; the plainest ones are blocks.
-/

namespace CardDrawing

/-- A family of glyphs, as far as painting needs it. -/
structure Typeface where
  metrics : Font → Metrics
  /-- the coverage that a text leaves in a mask, with its pen at a place -/
  ink : Font → String → (columns rows : Nat) → (x y : Int) → Raster UInt8

/-- The font files at hand, and the glyphs that they hold. -/
structure FontShelf where
  folders : List (List Path)
  /-- the glyphs of a file that can be opened -/
  glyphs? : Path → Option Typeface
  standIn : Typeface

namespace FontShelf

/-- The glyphs for a family. -/
def glyphs (shelf : FontShelf) (family : String) : Typeface :=
  ((Font.file? family shelf.folders).bind shelf.glyphs?).getD shelf.standIn

/-- Draws every font with the glyphs for its family. -/
def typeface (shelf : FontShelf) : Typeface where
  metrics font := (shelf.glyphs font.family).metrics font
  ink font := (shelf.glyphs font.family).ink font

end FontShelf

/-! ## Blocks

Every character is a block of the height of the font, and all blocks have one width. A text covers
the whole mask that is opened for it.
-/

namespace Typeface

/-- The width of a block for each unit of the font's size. -/
def blockWidth : Float := 0.6

def blockMetrics (font : Font) : Metrics :=
  let width (text : String) : Float := Float.ofNat text.length * blockWidth * font.size
  { advance? := fun text => some (width text)
    box := fun text => ⟨0, 0, width text, font.size⟩ }

def blocks : Typeface where
  metrics := blockMetrics
  ink _ _ columns rows _ _ := .fill columns rows 255

end Typeface

end CardDrawing
