import CardDrawing.Xml.Space
import CardDrawing.Xml.Token

/-!
# Content

Tokens become trees when every tag is closed in turn. An entity stands for whole elements where
content refers to it.
-/

namespace CardDrawing.Xml

/-- An element whose tag is still open, with its children so far, the last one first. -/
structure Opened where
  tag : RawName
  name : Name
  attributes : Attributes
  scope : Scope
  children : List Element

def Opened.closed (o : Opened) : Element := .node o.name o.attributes o.children.reverse

def open? (scope : Scope) (tag : RawName) (attributes : List (RawName × String)) :
    Option Opened := do
  let scope ← scopeWithin? scope attributes
  return { tag, name := ← elementName? scope tag, attributes := ← attributesIn? scope attributes,
           scope, children := [] }

/-- Content that is being read: the open elements from the innermost on, and the elements outside
of them so far, the last one first. -/
structure Content where
  /-- a whole document, which has a single element that all text is in -/
  isDocument : Bool
  scope : Scope
  opened : List Opened := []
  elements : List Element := []

namespace Content

/-- The name spaces at the end. -/
def innerScope (c : Content) : Scope := (c.opened.head?.map (·.scope)).getD c.scope

/-- The content with more elements at its end, the last one first. -/
def add (c : Content) (es : List Element) : Content :=
  match c.opened with
  | inner :: outer => { c with opened := { inner with children := es ++ inner.children } :: outer }
  | [] => { c with elements := es ++ c.elements }

/-- Whether a token may come next. -/
def admits (c : Content) (token : Token) : Bool :=
  !c.isDocument || !c.opened.isEmpty ||
    match token with
    | .opening _ _ _ => c.elements.isEmpty
    | .text isSpace => isSpace
    | .aside => true
    | .closing _ | .reference _ => false

/-- The content with one more token, which is no reference. -/
def next? (d : DocumentType) (c : Content) : Token → Option Content
  | .aside | .text _ => some c
  | .opening tag written isEmpty => do
    let opened ← open? c.innerScope tag (← d.attributes? tag written)
    return if isEmpty then c.add [opened.closed] else { c with opened := opened :: c.opened }
  | .closing tag =>
    match c.opened with
    | inner :: outer =>
      if inner.tag = tag then some ({ c with opened := outer }.add [inner.closed]) else none
    | [] => none
  | .reference _ => none

/-- The content with more tokens, in which entities are nested up to a depth. -/
def read? (d : DocumentType) : Nat → Content → List Token → Option Content
  | _, c, [] => some c
  | depth, c, token :: rest =>
    if !c.admits token then none
    else
      match token, depth with
      | .reference _, 0 => none
      | .reference name, depth + 1 =>
        match d.entities.lookup name with
        | some (.text text) => do
          let inside : Content := { isDocument := false, scope := c.innerScope }
          let inside ← read? d depth inside (← tokens? text)
          if inside.opened.isEmpty then read? d (depth + 1) (c.add inside.elements) rest else none
        | _ => none
      | token, depth => do read? d depth (← c.next? d token) rest
termination_by depth _ tokens => (depth, tokens.length)

end Content

/-- The root of a document, from its first tag on. -/
def root? (d : DocumentType) (cs : List Char) : Option Element := do
  let c ← Content.read? d d.depth { isDocument := true, scope := outerScope } (← tokens? cs)
  match c.opened, c.elements with
  | [], [root] => return root
  | _, _ => none

end CardDrawing.Xml
