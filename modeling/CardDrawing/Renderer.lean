import CardDrawing.Build.Compiler

/-!
# Renderers

A renderer looks a card's template up, compiles the card, and has the result painted. A surface is
asked for only after the whole list of primitives is there, so that a failed build never leaves a
half-painted surface behind.
-/

namespace CardDrawing

/-- Where templates come from. A deferred answer is there only for those who can wait. -/
inductive TemplateSource where
  | absent
  | direct (supply : String → Except Error Template)
  | deferred (supply : String → Except Error Template)

/-- What happens to surfaces of type `σ` while a card is drawn. -/
inductive DrawEvent (σ : Type) where
  | supplied (width height : Number)
  | painted (surface : σ) (primitives : List Primitive)

structure Renderer (σ : Type) where
  templates : TemplateSource
  canvas : Option (Number → Number → Except Error σ)
  painter : Option (σ → List Primitive → Except Error σ)
  compiler : Compiler

/-- Whether a request may wait for templates and loads. -/
inductive Patience where
  | immediate
  | waiting
deriving DecidableEq

namespace Renderer

variable {σ : Type}

def loadTemplate (r : Renderer σ) (patience : Patience) (card : Card) : Except Error Template :=
  match r.templates, patience with
  | .absent, _ => .error .noTemplateSupplier
  | .direct supply, _ => supply card.templateName
  | .deferred _, .immediate => .error .templateSupplierIsAsync
  | .deferred supply, .waiting => supply card.templateName

def fields (r : Renderer σ) (card : Card) : Except Error (List Field) :=
  (r.loadTemplate .immediate card).map Template.orderedFields

def editableFields (r : Renderer σ) (card : Card) : Except Error (List Field) :=
  (r.loadTemplate .immediate card).map Template.editableFields

def imageFields (r : Renderer σ) (card : Card) : Except Error (List ImageField) :=
  (r.loadTemplate .immediate card).map Template.imageFields

def compile (r : Renderer σ) (patience : Patience) (template : Template) (card : Card) :
    Except Error (List Primitive) :=
  match patience with
  | .immediate => r.compiler.build template card
  | .waiting => r.compiler.buildSteadily template card

def build (r : Renderer σ) (patience : Patience) (card : Card) :
    Except Error (List Primitive) := do
  let template ← r.loadTemplate patience card
  r.compile patience template card

/-- Asks for a surface of the template's extent and paints the primitives on it. -/
def paint (r : Renderer σ) (template : Template) (primitives : List Primitive) :
    Except Error σ × List (DrawEvent σ) :=
  match r.canvas, r.painter with
  | none, _ => (.error .noCanvasSupplier, [])
  | some _, none => (.error .noPainter, [])
  | some supply, some apply =>
    let asked := DrawEvent.supplied template.width template.height
    match supply template.width template.height with
    | .error why => (.error why, [asked])
    | .ok surface => (apply surface primitives, [asked, .painted surface primitives])

/-- The painted surface of a card, and what happened to surfaces on the way. -/
def draw (r : Renderer σ) (patience : Patience) (card : Card) :
    Except Error σ × List (DrawEvent σ) :=
  match r.loadTemplate patience card with
  | .error why => (.error why, [])
  | .ok template =>
    match r.compile patience template card with
    | .error why => (.error why, [])
    | .ok primitives => r.paint template primitives

end Renderer

end CardDrawing
