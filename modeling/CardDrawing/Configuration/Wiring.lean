import CardDrawing.Configuration.Basic
import CardDrawing.Loading
import CardDrawing.Paint.Bench
import CardDrawing.Renderer
import CardDrawing.Template.Store

/-!
# Renderers for a configuration

A configured renderer takes its templates from a folder, loads pictures and documents from files and
from the network, and paints on surfaces with the configured background.
-/

namespace CardDrawing.Configuration

open Loading (Places)

def client (c : Configuration) : Web.Client := { agent := c.userAgent }

def loadPicture (c : Configuration) (places : Places) (url : String) : Except Error Resource :=
  ((Loading.fetchers places c.client).fetch .immediate url).run.1.map .picture

def loadDocument (c : Configuration) (places : Places) (url : String) : Except Error Resource :=
  (Loading.document places c.client url).run.1.map .document

def collaborators (c : Configuration) (places : Places) : Collaborators where
  images := some (c.loadPicture places)
  svgs := some (c.loadDocument places)

def templateSource (c : Configuration) (files : Files) : TemplateSource :=
  match c.templates with
  | none => .absent
  | some root => .direct fun name => (TemplateFolder.supply files { root } name).answer

/-- A surface of the whole parts of two lengths. -/
def supplySurface (c : Configuration) (width height : Number) : Except Error Surface := do
  Surface.create (← width.truncate) (← height.truncate) c.background

def paint (typeface : Typeface) (s : Surface) (primitives : List Primitive) :
    Except Error Surface :=
  let (result, painted) := Primitive.paintAll typeface s primitives
  result.map fun _ => painted

/-- The bound as a whole number: a part of a fetch counts as one. A bound without a whole number
next to it gives way to the default. -/
def wholeBound (c : Configuration) : Int :=
  match c.fetchBound with
  | .int n => n
  | .real x => (Number.ceilFloat x).toOption.getD Compiler.defaultBound

def renderer (c : Configuration) (places : Places) (typeface : Typeface) :
    Except Error (Renderer Surface) := do
  discard (Color.read (.text c.background))
  let compiler ← Compiler.configure (c.collaborators places) c.wholeBound
  return { templates := c.templateSource places.files
           canvas := some c.supplySurface
           painter := some (paint typeface)
           compiler }

end CardDrawing.Configuration
