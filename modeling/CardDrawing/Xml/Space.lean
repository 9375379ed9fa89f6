import CardDrawing.Xml.Element
import CardDrawing.Xml.Name

/-!
# Name spaces

Attributes bind qualifiers to name spaces within their element. A name belongs to the name space
that its qualifier is bound to.
-/

namespace CardDrawing.Xml

/-- The name space of each qualifier, the innermost first; that of names without one is bound to
the empty qualifier. -/
abbrev Scope := List (String × String)

def ownSpace : String := "http://www.w3.org/XML/1998/namespace"

def bindingSpace : String := "http://www.w3.org/2000/xmlns/"

def outerScope : Scope := [("xml", ownSpace)]

/-- Characters that may stand in a reference to a resource; a closing brace may not. -/
def isSpaceName (uri : String) : Bool := !uri.toList.contains '\x7d'

/-- Whether a qualifier may be bound to a name space. -/
def mayBind (qualifier uri : String) : Bool :=
  if qualifier = "xmlns" || uri = bindingSpace then false
  else if (qualifier = "xml") ≠ (uri = ownSpace) then false
  else isSpaceName uri && (qualifier = "" || uri ≠ "")

/-- The scope within a tag with these attributes. -/
def scopeWithin? : Scope → List (RawName × String) → Option Scope
  | scope, [] => some scope
  | scope, (name, uri) :: rest =>
    let bound := match name.qualifier, name.label with
      | some "xmlns", qualifier => some qualifier
      | none, "xmlns" => some ""
      | _, _ => none
    match bound with
    | some qualifier =>
      if mayBind qualifier uri then scopeWithin? ((qualifier, uri) :: scope) rest else none
    | none => scopeWithin? scope rest

def isBinding (name : RawName) : Bool :=
  name.qualifier = some "xmlns" || (name.qualifier = none && name.label = "xmlns")

def elementName? (scope : Scope) (name : RawName) : Option Name :=
  match name.qualifier with
  | some qualifier => (scope.lookup qualifier).map (⟨·, name.label⟩)
  | none => some ⟨(scope.lookup "").getD "", name.label⟩

/-- An attribute without a qualifier belongs to no name space. -/
def attributeName? (scope : Scope) (name : RawName) : Option Name :=
  match name.qualifier with
  | some _ => elementName? scope name
  | none => some ⟨"", name.label⟩

def attributesIn? (scope : Scope) (attributes : List (RawName × String)) : Option Attributes := do
  let named ← (attributes.filter fun a => !isBinding a.1).mapM fun (name, value) =>
    return (← attributeName? scope name, value)
  if (named.map Prod.fst).Nodup then return named else none

end CardDrawing.Xml
