import CardDrawing.CommandLine.Job
import CardDrawing.Configuration.Reader
import CardDrawing.Configuration.Wiring
import CardDrawing.Json.Reader
import CardDrawing.Json.Writer
import CardDrawing.Picture.Format

/-!
# Running jobs

A job is run over a view of the files. It prints the primitives of its card, or it tells which
picture is to be saved where; a failure leaves nothing to print or to save.
-/

namespace CardDrawing.CommandLine

open Loading (Places)

structure SavedPicture where
  path : Path
  format : PictureFormat
  picture : Picture

structure Report where
  text : String
  saved : Option SavedPicture := none

def readCard (files : Files) (path : Path) : Except Error Card := do
  match Json.read? (← files.readText path) with
  | some (.object entries) => Card.read (.object entries)
  | some _ => throw (.cardNotObject path.text)
  | none => throw (.outage .jsonSyntax)

namespace Job

/-- The configuration of a job; a folder of templates among the arguments wins. -/
def configuration (job : Job) (files : Files) (here : Path) : Except Error Configuration := do
  let c ← match job.config with
    | some file => Configuration.load files here file
    | none => .ok {}
  return { c with templates := job.templates.orElse fun _ => c.templates }

def perform (job : Job) (files : Files) (r : Renderer Surface) (card : Card) :
    Except Error Report :=
  match job.task with
  | .compile indent => do
    let primitives ← r.build job.patience card
    let records := primitives.map fun p => Value.object p.toRecord
    return { text := Json.writeIndented indent (.list records) ++ "\n" }
  | .draw path => do
    let surface ← (r.draw job.patience card).1
    let format ← PictureFormat.at? files path
    return { text := s!"wrote {path.text}\n"
             saved := some { path, format, picture := surface.pixels } }

def run (job : Job) (typeface : Typeface) (places : Places) (here : Path) :
    Except Error Report := do
  let c ← job.configuration places.files here
  if c.templates.isNone then throw .noTemplateDirectory
  let card ← readCard places.files job.card
  job.perform places.files (← c.renderer places typeface) card

/-- The urls of everything that a card asks for. -/
def urls (template : Template) (card : Card) : List String :=
  let nothing (_ : String) : Except Error Resource := .ok (.value .null)
  (build { images := some nothing, svgs := some nothing } template card).2.map Fetch.url

/-- The file of the template of a job, as far as the files are known. -/
def templateFile? (job : Job) (files : Files) (here : Path) : Except Error (Path × Card) := do
  match (← job.configuration files here).templates with
  | none => throw .noTemplateDirectory
  | some root =>
    let card ← readCard files job.card
    return (({ root } : TemplateFolder).pathFor card.templateName, card)

/-- The files of the resources of a job, as far as the files are known. -/
def resourceFiles (job : Job) (files : Files) (here : Path) : Except Error (List Path) := do
  let (path, card) ← job.templateFile? files here
  let template ← TemplateFolder.load files path card.templateName
  return (urls template card).filterMap fun url => (localPath url).toOption

/-- The paths that a job looks at, as far as the files are known that tell them. -/
def paths (job : Job) (files : Files) (here : Path) : List Path :=
  let saved := match job.task with
    | .compile _ => []
    | .draw path => path.ancestors
  job.config.toList ++ job.card :: saved ++
    ((job.templateFile? files here).toOption.map Prod.fst).toList ++
      ((job.resourceFiles files here).toOption.getD [])

end Job

end CardDrawing.CommandLine
