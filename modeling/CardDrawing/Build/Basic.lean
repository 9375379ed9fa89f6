import CardDrawing.Expansion
import CardDrawing.Template
import CardDrawing.Trace

/-!
# Building a card

A template and a card compile to primitives: the palettes first, then every other field in
declaration order, with each field's resources loaded as it is reached. The first error ends the
build, and the log of loads outlives it.
-/

namespace CardDrawing

/-- A load from one of the collaborators. -/
structure Fetch where
  kind : ResourceKind
  url : String
deriving DecidableEq, Repr

/-- The loaders that are configured; each answers every url with a resource or an error. -/
structure Collaborators where
  images : Option (String → Except Error Resource) := none
  svgs : Option (String → Except Error Resource) := none

namespace Collaborators

def loader? (c : Collaborators) : ResourceKind → Option (String → Except Error Resource)
  | .image => c.images
  | .svg => c.svgs

def answer (c : Collaborators) (fetch : Fetch) : Except Error Resource :=
  match c.loader? fetch.kind with
  | some load => load fetch.url
  | none => .error (match fetch.kind with | .image => .noImageFetcher | .svg => .noSvgLoader)

end Collaborators

/-- The color-scheme fields, and all others, each in declaration order. -/
def partitionFields (fields : List Field) : List Field × List Field :=
  fields.partition Field.isColorScheme

/-- The palettes of a card, and the fields that draw. -/
def openSession (template : Template) (card : Card) : Except Error (Palettes × List Field) := do
  let (schemes, others) := partitionFields template.orderedFields
  return (← Palettes.build schemes card, others)

def resolveAndExpand (palettes : Palettes) (card : Card) (field : Field) :
    Except Error (List Primitive) := do
  let value ← if field.requiresData then resolveValue field card else .ok .null
  expandField palettes field value

/-- The load that a request without an inline resource stands for, refused if it has no url or
nothing is configured to load it. -/
def checkFetchable (c : Collaborators) (p : Primitive) (r : ResourceRequest) :
    Except Error Fetch :=
  match r.url with
  | none => .error (.noUrl r.kind p.place)
  | some url =>
    match r.kind, c.loader? r.kind with
    | kind, some _ => .ok { kind, url }
    | .image, none => .error .noImageFetcher
    | .svg, none => .error .noSvgLoader

/-- Loads from a collaborator, on the record. -/
def fetch (c : Collaborators) (call : Fetch) : Trace Fetch Resource := do
  Trace.record call
  Trace.lift (c.answer call)

/-- A primitive with its pending resource, if it has one, in place. -/
def settle (c : Collaborators) (p : Primitive) : Trace Fetch Primitive :=
  match p.request? with
  | none => pure p
  | some r =>
    match r.inline with
    | .null => do
      let call ← Trace.lift (checkFetchable c p r)
      return p.attach (← fetch c call)
    | inline => pure (p.attach (.value inline))

def buildField (c : Collaborators) (palettes : Palettes) (card : Card) (field : Field) :
    Trace Fetch (List Primitive) := do
  let primitives ← Trace.lift (resolveAndExpand palettes card field)
  primitives.mapM (settle c)

def buildFields (c : Collaborators) (palettes : Palettes) (card : Card) :
    List Field → Trace Fetch (List Primitive)
  | [] => pure []
  | field :: rest => do
    let first ← buildField c palettes card field
    let others ← buildFields c palettes card rest
    return first ++ others

/-- The primitives of a card with everything loaded, or the first error; and the loads made. -/
def build (c : Collaborators) (template : Template) (card : Card) :
    Except Error (List Primitive) × List Fetch :=
  Trace.run do
    let (palettes, fields) ← Trace.lift (openSession template card)
    buildFields c palettes card fields

end CardDrawing
