import CardDrawing.Json.Reader
import CardDrawing.Location.Files
import CardDrawing.Template

/-!
# Where templates are kept

A shelf holds templates that are registered up front, under their own names or under given ones. A
folder holds one document per template; a template is read when it is first asked for and is kept
from then on, and a failure is not kept.
-/

namespace CardDrawing

/-! ## Shelves -/

abbrev TemplateShelf := Keyed Template

namespace TemplateShelf

/-- Puts a template on the shelf; without a name it stands under its own. -/
def register (shelf : TemplateShelf) (template : Template) (name : String := "") :
    TemplateShelf :=
  Keyed.put shelf (if name.isEmpty then template.name else name) template

def supply (shelf : TemplateShelf) (name : String) : Except Error Template :=
  match Keyed.get? shelf name with
  | some template => .ok template
  | none => .error (.noTemplate name)

end TemplateShelf

/-! ## Folders -/

structure TemplateFolder where
  root : Path
  kept : Keyed Template := []

namespace TemplateFolder

/-- Names that stand for a file directly inside the folder. -/
def isFileName (name : String) : Bool :=
  name ≠ "" && name ≠ "." && name ≠ ".." && !name.toList.contains '/' &&
    !name.toList.contains '\\'

def pathFor (folder : TemplateFolder) (name : String) : Path :=
  { folder.root with parts := folder.root.parts ++ [name ++ ".json"] }

/-- Reads the document of a template. -/
def readDocument (name document : String) : Except Error Template :=
  match Json.read? document with
  | none => .error (.templateNotJson name)
  | some (.object entries) => Template.read (.object entries) (some name)
  | some _ => .error (.templateNotObject name)

def load (files : Files) (path : Path) (name : String) : Except Error Template :=
  match files path with
  | .file _ => do readDocument name (← files.readText path)
  | .unreadable => .error (.outage .readFailure)
  | _ => .error (.noTemplate name)

/-- What comes of asking a folder for a template: the answer, the folder afterwards, and the files
that were looked at. -/
structure Supply where
  answer : Except Error Template
  folder : TemplateFolder
  examined : List Path

def supply (files : Files) (folder : TemplateFolder) (name : String) : Supply :=
  match Keyed.get? folder.kept name with
  | some template => { answer := .ok template, folder, examined := [] }
  | none =>
    if isFileName name then
      let path := folder.pathFor name
      match load files path name with
      | .ok template =>
        { answer := .ok template
          folder := { folder with kept := Keyed.put folder.kept name template }
          examined := [path] }
      | .error why => { answer := .error why, folder, examined := [path] }
    else { answer := .error (.noTemplate name), folder, examined := [] }

end TemplateFolder

end CardDrawing
