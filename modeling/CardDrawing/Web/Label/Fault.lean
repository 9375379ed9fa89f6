import CardDrawing.Text.Quoted

/-!
# Faults of labels

Why a part of a host name is no label, one constructor per cause. Places are counted from one.
-/

namespace CardDrawing.Web

inductive LabelFault where
  | empty
  | tooLong
  | nameTooLong
  | notComposed
  | hyphensInside
  | hyphenAtEdge
  | startsWithMark
  | letter (c : Char) (place : Nat) (label : String)
  | joiner (c : Char) (place : Nat) (label : String)
  | context (c : Char) (place : Nat) (label : String)
  | firstDirection (label : String)
  | directionInRightToLeft (place : Nat)
  | directionInLeftToRight (place : Nat)
  | mixedNumbers
  | lastDirection
  | nothingEncoded
  | finalHyphen
  | notEncoded
deriving DecidableEq, Repr

/-- How faults are told apart by those who handle them. -/
inductive LabelFaultKind where
  | form
  | letter
  | context
  | direction
deriving DecidableEq, Repr

namespace LabelFault

def kind : LabelFault → LabelFaultKind
  | letter _ _ _ => .letter
  | context _ _ _ => .context
  | firstDirection _ | directionInRightToLeft _ | directionInLeftToRight _ | mixedNumbers
  | lastDirection => .direction
  | _ => .form

/-- The number of a code point as it is usually written. -/
def codeName (c : Char) : String :=
  "U+" ++ String.ofList ((Text.hex 4 c.toNat).map Char.toUpper)

def message : LabelFault → String
  | empty => "Empty Label"
  | tooLong => "Label too long"
  | nameTooLong => "Domain too long"
  | notComposed => "Label must be in Normalization Form C"
  | hyphensInside => "Label has disallowed hyphens in 3rd and 4th position"
  | hyphenAtEdge => "Label must not start or end with a hyphen"
  | startsWithMark => "Label begins with an illegal combining character"
  | letter c place label =>
    s!"Codepoint {codeName c} at position {place} of " ++ Text.quoted label ++ " not allowed"
  | joiner c place label =>
    s!"Unknown codepoint adjacent to joiner {codeName c} at position {place} in " ++
      Text.quoted label
  | context c place label =>
    s!"Codepoint {codeName c} not allowed at position {place} in " ++ Text.quoted label
  | firstDirection label =>
    "First codepoint in label " ++ Text.quoted label ++ " must be directionality L, R or AL"
  | directionInRightToLeft place =>
    s!"Invalid direction for codepoint at position {place} in a right-to-left label"
  | directionInLeftToRight place =>
    s!"Invalid direction for codepoint at position {place} in a left-to-right label"
  | mixedNumbers => "Can not mix numeral types in a right-to-left label"
  | lastDirection => "Label ends with illegal codepoint directionality"
  | nothingEncoded => "Malformed A-label, no Punycode eligible content found"
  | finalHyphen => "A-label must not end with a hyphen"
  | notEncoded => "Invalid A-label"

end LabelFault

end CardDrawing.Web
