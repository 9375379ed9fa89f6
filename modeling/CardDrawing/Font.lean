import CardDrawing.Location.Path
import CardDrawing.Number
import CardDrawing.Text.Case
import CardDrawing.Text.Classes

/-!
# Fonts

A font is written in one line, as in style sheets: anything, a size in pixels, and a list of
families of which the first one counts. Fonts are looked up among font files by their names.
-/

namespace CardDrawing

structure Font where
  family : String
  size : Float

namespace Font

def defaultFamily : String := "DejaVu Sans"

def defaultSize : Float := 10

/-- The size that a word like `12px` or `9.5PX` stands for. -/
def sizeOf? (word : String) : Option Float :=
  let cs := (Text.lower word).toList
  let whole := cs.takeWhile Text.isDigit
  let rest := cs.dropWhile Text.isDigit
  if whole.isEmpty then none
  else
    match rest with
    | ['p', 'x'] => some (Decimal.ofScientific false (Text.digitsValue whole) 0)
    | '.' :: more =>
      let places := more.takeWhile Text.isDigit
      if !places.isEmpty && more.dropWhile Text.isDigit = ['p', 'x'] then
        some (Decimal.ofScientific false (Text.digitsValue (whole ++ places)) (-places.length))
      else none
    | _ => none

/-- The first size among the words, and the words after it. -/
def firstSize : List String → Option (Float × List String)
  | [] => none
  | word :: rest =>
    match sizeOf? word with
    | some size => some (size, rest)
    | none => firstSize rest

def quotes : List Char := ['\'', '"']

def withoutQuotes (s : String) : String := Text.stripOf quotes (Text.strip s)

/-- The first family that the words after the size name, if they name any. -/
def familyOf? (words : List String) : Option String :=
  let rest := withoutQuotes (" ".intercalate words)
  if rest.isEmpty then none
  else some (withoutQuotes ((Text.splitOn ',' rest).headD ""))

/-- Reads a font; an explicit size and a non-empty explicit family win. -/
def read (font family : Option String) (size : Option Float) : Font :=
  let written := firstSize (Text.words (font.getD ""))
  let writtenFamily := (written.bind fun found => familyOf? found.2).getD defaultFamily
  { family := (family.filter (!·.isEmpty)).getD writtenFamily
    size := size.getD ((written.map Prod.fst).getD defaultSize) }

/-- The size at which a font is loaded: whole, and at least one pixel. -/
def pixelSize (size : Number) : Except Error Int := size.round.map (max 1)

/-- Families that stand in for one that is not there. -/
def standIns : List String := ["dejavusans", "arial", "helvetica", "liberationsans", "freesans"]

def fileExtensions : List String := [".ttf", ".otf", ".ttc"]

/-- Letters in lower case, without spaces. -/
def squeezed (s : String) : String :=
  String.ofList ((Text.lower s).toList.filter (· ≠ ' '))

/-- The font files of folders, folder by folder, and in each of them by extension. -/
def candidates (folders : List (List Path)) : List Path :=
  folders.flatMap fun files =>
    fileExtensions.flatMap fun extension => files.filter fun file => file.name.endsWith extension

/-- The file for a family: the first whose name contains that of the family, or else that of a
stand-in. -/
def file? (family : String) (folders : List (List Path)) : Option Path :=
  let stripped := Text.strip family
  let wanted := if stripped.isEmpty then defaultFamily else stripped
  (wanted :: standIns).findSome? fun name =>
    (candidates folders).find? fun file =>
      Text.occursIn (squeezed name).toList (squeezed file.stem).toList

end Font

end CardDrawing
