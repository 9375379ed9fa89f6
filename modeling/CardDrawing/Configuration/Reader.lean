import CardDrawing.Configuration.Basic
import CardDrawing.Location.Files
import CardDrawing.Toml.Reader

/-!
# Reading configurations

The options stand in the table `render` of a configuration file, or at its top level if there is no
such table. Unknown options are ignored.
-/

namespace CardDrawing.Configuration

open Toml (Item)

/-- The items that hold the options. -/
def optionsOf (document : Keyed Item) : Except Error (Keyed Item) :=
  match Keyed.get? document "render" with
  | none => .ok document
  | some (.table options) => .ok options
  | some _ => .error .renderSectionNotTable

def textOption (options : Keyed Item) (name : String) : Except Error (Option String) :=
  match Keyed.get? options name with
  | none => .ok none
  | some (.text s) => .ok (some s)
  | some _ => .error (.optionNotText name)

/-- A text that stands in for a missing and for an empty one. -/
def textOptionOr (options : Keyed Item) (name default : String) : Except Error String := do
  return ((← textOption options name).filter (!·.isEmpty)).getD default

def boundOption (options : Keyed Item) : Except Error Number :=
  match Keyed.get? options "max_concurrent_fetches" with
  | none => .ok (.int Compiler.defaultBound)
  | some item => item.toInt.map .int

def timeoutOption (options : Keyed Item) : Except Error Number :=
  match Keyed.get? options "fetch_timeout_s" with
  | none => .ok (.real 15)
  | some item => item.toFloat.map .real

/-- The absolute path of a folder that is named in a file; a relative name starts from the folder of
the file, which is itself seen from the directory `here`. -/
def folderOf (here file : Path) (name : String) : Except Error Path :=
  let folder := Path.ofText name
  if folder.isAbsolute then .ok folder
  else if name.toList.any fun c => c.toNat = 0 then .error .embeddedNul
  else .ok (Path.resolve here (file.parent.join folder))

/-- The options other than the folder of the templates. -/
def ofOptions (templates : Option Path) (options : Keyed Item) : Except Error Configuration := do
  let fetchBound ← boundOption options
  let fetchTimeout ← timeoutOption options
  let userAgent ← textOptionOr options "user_agent" Web.defaultAgent
  let background ← textOptionOr options "background" Surface.defaultBackground
  let logLevel := Text.upperAscii (← textOptionOr options "log_level" "WARNING")
  check { templates, fetchBound, fetchTimeout, userAgent, background, logLevel }

/-- Names the file in the refusal of an option. -/
def inFile {α : Type} (file : Path) (result : Except Error α) : Except Error α :=
  match result with
  | .ok a => .ok a
  | .error why =>
    match why.kind with
    | .value | .type => .error (.badConfig file.text why)
    | _ => .error why

def ofDocument (here file : Path) (document : Keyed Item) : Except Error Configuration := do
  let options ← optionsOf document
  let templates ← (← textOption options "template_dir").mapM (folderOf here file)
  inFile file (ofOptions templates options)

/-- Reads a configuration file. -/
def load (files : Files) (here file : Path) : Except Error Configuration :=
  match files file with
  | .missing | .blocked | .invalid => .error (.configNotFound file.text)
  | _ => do
    match Toml.read? (← files.readText file) with
    | some document => ofDocument here file document
    | none => throw (.outage .tomlSyntax)

end CardDrawing.Configuration
