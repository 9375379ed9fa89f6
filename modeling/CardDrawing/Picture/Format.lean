import CardDrawing.Location.Files
import CardDrawing.Picture.Netpbm
import CardDrawing.Picture.Png
import CardDrawing.Text.Case

/-!
# Formats of saved pictures

The extension of a file says in which format a picture is saved there.
-/

namespace CardDrawing

inductive PictureFormat where
  | png
  | pixmap
  /-- a format without transparency, which pictures of cards are not saved in -/
  | jpeg
deriving DecidableEq, Repr

namespace PictureFormat

def extensions : List (String × PictureFormat) :=
  [(".png", png), (".apng", png), (".ppm", pixmap), (".pgm", pixmap), (".pbm", pixmap),
    (".pnm", pixmap), (".pfm", pixmap), (".jpg", jpeg), (".jpeg", jpeg), (".jpe", jpeg),
    (".jfif", jpeg)]

def ofPath (path : Path) : Except Error PictureFormat :=
  let extension := Text.lower path.extension
  match extensions.lookup extension with
  | some format => .ok format
  | none => .error (.unknownExtension extension)

/-- The format in which a picture can be saved at a path. Folders that are missing will be made. -/
def at? (files : Files) (path : Path) : Except Error PictureFormat := do
  files.checkFolder path.parent.ancestors
  let format ← ofPath path
  files.checkWritable path
  if format = jpeg then throw (.outage .unsupportedMode)
  return format

/-- What is left of a picture that is saved and read again. -/
def kept (format : PictureFormat) (p : Picture) : Picture :=
  match format with
  | png => p
  | pixmap | jpeg => p.map fun pixel => { pixel with a := 255 }

def encode (format : PictureFormat) (p : Picture) : Text.Bytes :=
  match format with
  | png => Png.encode p
  | pixmap | jpeg => Netpbm.encode p

end PictureFormat

end CardDrawing
