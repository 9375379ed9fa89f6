import CardDrawing.Error
import CardDrawing.Svg.Document

/-!
# Resources

What primitives wait for: a picture or a vector document, given inline with the card or loaded
from a url. Collaborators may hand out objects of their own, of which only a kind and an extent
are known.
-/

namespace CardDrawing

/-- How a foreign object tells its extent. -/
inductive Extent where
  | size (sides : List Value)
  | sides (width height : Value)

inductive Resource where
  | value (v : Value)
  | picture (p : Picture)
  | document (d : Svg.Document Float)
  | foreign (kind : String) (extent : Extent)

namespace Resource

def kind : Resource → String
  | value v => v.typeName
  | picture _ => "Image"
  | document _ => "SvgDocument"
  | foreign kind _ => kind

/-- Booleans and numbers count as lengths. -/
def isLength : Value → Bool
  | .bool _ | .int _ | .float _ => true
  | _ => false

def extent? : Resource → Option (Value × Value)
  | value _ => none
  | picture p => some (.int p.width, .int p.height)
  | document d => some (.float d.width, .float d.height)
  | foreign _ (.size [width, height]) => some (width, height)
  | foreign _ (.size _) => none
  | foreign _ (.sides width height) =>
    if isLength width && isLength height then some (width, height) else none

/-- The summary of a resource that stands for it in a record; a null is no resource. -/
def describe : Resource → Value
  | value .null => .null
  | r =>
    .object (("kind", .text r.kind) ::
      match r.extent? with
      | some (width, height) => [("width", width), ("height", height)]
      | none => [])

end Resource

/-- A pending resource: what is given inline, null if nothing is, and where to load it from. -/
structure ResourceRequest where
  kind : ResourceKind
  url : Option String
  inline : Value := .null

end CardDrawing
