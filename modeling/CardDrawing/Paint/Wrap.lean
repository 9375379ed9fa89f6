/-!
# Wrapping words

Words go on their line as long as they end in time; each line holds at least one word. What is
placed is told apart from how wide it is, so that this works over any kind of widths.
-/

namespace CardDrawing.Wrap

/-- A word in its place; the words after the first one of a line bring the space before them. -/
structure Piece (α : Type) where
  text : String
  x : α
  y : α

/-- What decides about lines: how wide texts are, where a line may end, how far the next line is. -/
structure Measure (α : Type) where
  width : String → α
  fits : α → Bool
  step : α

variable {α : Type} [Add α]

/-- Goes on with a line that ends at `pen` for now: what else goes on that line, and the lines
after it. Lines start at `x`. -/
def fill (m : Measure α) (x pen y : α) : List String → List (Piece α) × List (List (Piece α))
  | [] => ([], [])
  | word :: rest =>
    let spaced := " " ++ word
    let next := pen + m.width spaced
    if m.fits next then
      let (line, lines) := fill m x next y rest
      (⟨spaced, pen, y⟩ :: line, lines)
    else
      let below := y + m.step
      let (line, lines) := fill m x (x + m.width word) below rest
      ([], (⟨word, x, below⟩ :: line) :: lines)

/-- The lines that words make from `(x, y)` on. -/
def lines (m : Measure α) (x y : α) : List String → List (List (Piece α))
  | [] => []
  | word :: rest =>
    let (line, others) := fill m x (x + m.width word) y rest
    (⟨word, x, y⟩ :: line) :: others

end CardDrawing.Wrap
