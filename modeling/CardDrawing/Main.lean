import CardDrawing.CommandLine.Run

/-!
# The command line

Looks at the files that a job asks for, runs it over what was found, and prints and saves what comes
of it. There is no network.
-/

namespace CardDrawing.CommandLine

/-- The code with which a system says that it was asked to read a directory. -/
def directoryCode : UInt32 := 21

/-- What is found at one path. -/
def look (path : Path) : IO FileEntry := do
  if path.text.toList.any fun c => c.toNat = 0 then return .invalid
  try
    return .file (← IO.FS.readBinFile path.text).toList
  catch
    | .noFileOrDirectory _ _ _ => return .missing
    | .inappropriateType _ code _ =>
      return if code = directoryCode then .directory else .blocked
    | _ => return .unreadable

/-- The view of the paths that have been looked at. -/
def viewOf (seen : List (Path × FileEntry)) : Files := fun path =>
  (seen.lookup path).getD .missing

/-- Looks at all files that a job asks for. What is found may lead to further files: from the
configuration to the card, its template, and its resources. -/
def lookAround (job : Job) (here : Path) : IO Files := do
  let mut seen : List (Path × FileEntry) := []
  for _ in [0:5] do
    for path in job.paths (viewOf seen) here do
      if (seen.lookup path).isNone then
        seen := (path, ← look path) :: seen
  return viewOf seen

def save (p : SavedPicture) : IO Unit := do
  IO.FS.createDirAll p.path.parent.text
  IO.FS.writeBinFile p.path.text (ByteArray.mk (p.format.encode p.picture).toArray)

/-- No font file is opened: every font is drawn in blocks. -/
def typeface : Typeface :=
  FontShelf.typeface { folders := [], glyphs? := fun _ => none, standIn := .blocks }

def usage : String :=
  "usage: compile CARD [--templates DIR] [--config FILE] [--async] [--indent N]\n" ++
    "       draw CARD --out FILE [--templates DIR] [--config FILE] [--async]"

def explain (why : Error) : IO UInt32 := do
  match why with
  | .exit 0 =>
    IO.println usage
    return 0
  | .exit code =>
    IO.eprintln usage
    return code.toUInt32
  | _ =>
    let reason := (why.outage?.map Outage.reason).getD ""
    IO.eprintln s!"error: {why.message}{reason}"
    return 1

def execute (arguments : List String) : IO UInt32 := do
  match Job.read arguments with
  | .error why => explain why
  | .ok job =>
    let here := Path.ofText (← IO.currentDir).toString
    let places : Loading.Places := { files := ← lookAround job here, network := fun _ => none }
    match job.run typeface places here with
    | .error why => explain why
    | .ok report =>
      if let some p := report.saved then save p
      IO.print report.text
      return 0

end CardDrawing.CommandLine

def main (arguments : List String) : IO UInt32 := CardDrawing.CommandLine.execute arguments
