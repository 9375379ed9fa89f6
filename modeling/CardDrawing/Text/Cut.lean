/-!
# Cutting texts

Texts are cut at a separator, at a word, or after what they start with.
-/

namespace CardDrawing.Text

/-- Cuts at every `separator`, keeping empty pieces: always one piece more than separators. -/
def splitAt (separator : Char) : List Char → List (List Char)
  | [] => [[]]
  | c :: rest =>
    if c = separator then [] :: splitAt separator rest
    else
      match splitAt separator rest with
      | piece :: pieces => (c :: piece) :: pieces
      | [] => [[c]]

def splitOn (separator : Char) (s : String) : List String :=
  (splitAt separator s.toList).map String.ofList

/-- Cuts at the first `separator`, if there is one. -/
def cutAt? (separator : Char) : List Char → Option (List Char × List Char)
  | [] => none
  | c :: rest =>
    if c = separator then some ([], rest)
    else (cutAt? separator rest).map fun parts => (c :: parts.1, parts.2)

/-- The characters after an expected word. -/
def after? (word : String) (cs : List Char) : Option (List Char) :=
  if word.toList.isPrefixOf cs then some (cs.drop word.length) else none

/-- The characters before and after the first occurrence of a word. -/
def cutAtWord? (word : List Char) : List Char → Option (List Char × List Char)
  | [] => none
  | c :: rest =>
    if word.isPrefixOf (c :: rest) then some ([], (c :: rest).drop word.length)
    else (cutAtWord? word rest).map fun parts => (c :: parts.1, parts.2)

end CardDrawing.Text
