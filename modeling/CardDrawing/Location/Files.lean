import CardDrawing.Location.Path
import CardDrawing.Keyed
import CardDrawing.Error
import CardDrawing.Text.Utf8

/-!
# Files

What is found at the paths of a file system.
-/

namespace CardDrawing

inductive FileEntry where
  | file (bytes : Text.Bytes)
  | directory
  | missing
  /-- a path that leads through a file -/
  | blocked
  /-- a path whose name is too long, or that cannot be read -/
  | unreadable
  /-- a path with a character that no path can have -/
  | invalid

/-- A view of the file system: what is found at each path. -/
abbrev Files := Path → FileEntry

namespace Files

/-- The contents of the file at a path. -/
def read (files : Files) (path : Path) : Except Error Text.Bytes :=
  match files path with
  | .file bytes => .ok bytes
  | .directory => .error (.outage .isDirectory)
  | .missing => .error (.outage .fileNotFound)
  | .blocked => .error (.outage .notDirectory)
  | .unreadable => .error (.outage .readFailure)
  | .invalid => .error .embeddedNul

/-- The text of a file, which must be well-formed. -/
def readText (files : Files) (path : Path) : Except Error String := do
  match Text.decodeUtf8 (← files.read path) with
  | .ok text => return text
  | .error e => throw (.notUtf8 e.position e.bytes e.why)

/-- Whether the first of some paths, each below the next, is a folder or can be made one. -/
def checkFolder (files : Files) : List Path → Except Error Unit
  | [] => .error (.outage .fileNotFound)
  | path :: above =>
    match files path with
    | .directory => .ok ()
    | .missing => files.checkFolder above
    | .file _ => .error (.outage .fileExists)
    | .blocked => .error (.outage .notDirectory)
    | .unreadable => .error (.outage .readFailure)
    | .invalid => .error .embeddedNul

/-- Whether a file can be written at a path in a folder. -/
def checkWritable (files : Files) (path : Path) : Except Error Unit :=
  match files path with
  | .missing | .file _ => .ok ()
  | .directory => .error (.outage .isDirectory)
  | .blocked => .error (.outage .notDirectory)
  | .unreadable => .error (.outage .readFailure)
  | .invalid => .error .embeddedNul

end Files

/-- A file system that holds some files, under their absolute paths. Directories are there for the
files and directories in them, or of their own. -/
structure FileTree where
  files : List (List String × Text.Bytes) := []
  directories : List (List String) := []

namespace FileTree

def find? (tree : FileTree) (parts : List String) : Option Text.Bytes := tree.files.lookup parts

def isDirectory (tree : FileTree) (parts : List String) : Bool :=
  parts.isEmpty || tree.directories.any parts.isPrefixOf ||
    tree.files.any fun entry => parts.isPrefixOf entry.1 && parts ≠ entry.1

def entryAt (tree : FileTree) (parts : List String) : FileEntry :=
  match tree.find? parts with
  | some bytes => .file bytes
  | none => if tree.isDirectory parts then .directory else .missing

/-- Walks down from the directory `here`, whose parts are given last to first. -/
def walk (tree : FileTree) (here : List String) : List String → FileEntry
  | [] => tree.entryAt here.reverse
  | part :: rest =>
    match tree.entryAt here.reverse with
    | .directory =>
      if 255 < part.utf8ByteSize then .unreadable
      else if part = ".." then walk tree (here.drop 1) rest
      else walk tree (part :: here) rest
    | .file _ => .blocked
    | other => other

/-- The view of the tree from the directory `here`. -/
def look (tree : FileTree) (here : Path) (path : Path) : FileEntry :=
  if path.parts.any fun part => part.toList.any fun c => c.toNat = 0 then .invalid
  else tree.walk [] (here.join path).parts

def write (tree : FileTree) (path : Path) (bytes : Text.Bytes) : FileTree :=
  { tree with
    files := (path.parts, bytes) :: tree.files.filter fun entry => entry.1 ≠ path.parts }

def delete (tree : FileTree) (path : Path) : FileTree :=
  { tree with files := tree.files.filter fun entry => entry.1 ≠ path.parts }

end FileTree

end CardDrawing
