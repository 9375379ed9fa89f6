import CardDrawing.Text.Blank

/-!
# Paths

Paths of files: parts between slashes, without the parts that stay in place. A part that goes up is
kept. Two slashes at the start are told apart from one, three or more are not.
-/

namespace CardDrawing

structure Path where
  /-- the slashes at the start: none, one or two -/
  slashes : Nat
  parts : List String
deriving DecidableEq, Repr

namespace Path

def leadingSlashes (cs : List Char) : Nat :=
  match (cs.takeWhile (· = '/')).length with
  | 0 => 0
  | 2 => 2
  | _ => 1

def isKept (part : String) : Bool := part ≠ "" && part ≠ "."

def ofText (s : String) : Path where
  slashes := leadingSlashes s.toList
  parts := (Text.splitOn '/' s).filter isKept

def text (p : Path) : String :=
  let body := "/".intercalate p.parts
  if p.slashes = 0 && p.parts.isEmpty then "."
  else String.ofList (List.replicate p.slashes '/') ++ body

def isAbsolute (p : Path) : Bool := p.slashes ≠ 0

/-- The second path as seen from the first. -/
def join (base p : Path) : Path :=
  if p.isAbsolute then p else { base with parts := base.parts ++ p.parts }

def parent (p : Path) : Path := { p with parts := p.parts.dropLast }

/-- A path and all that are above it, from the lowest. -/
def ancestors (p : Path) : List Path :=
  (List.range (p.parts.length + 1)).map fun dropped =>
    { p with parts := p.parts.take (p.parts.length - dropped) }

def name (p : Path) : String := p.parts.getLastD ""

/-- Where the suffix of a name begins: at its last dot, which is neither first nor last. -/
def suffixStart (name : List Char) : Nat :=
  let tail := (name.reverse.takeWhile (· ≠ '.')).length
  let start := name.length - tail - 1
  if 0 < start && start + 1 < name.length then start else name.length

/-- The name without its suffix. -/
def stem (p : Path) : String :=
  let cs := p.name.toList
  String.ofList (cs.take (suffixStart cs))

/-- The last dot of a name and what follows it, if there is more than dots before it. -/
def extension (p : Path) : String :=
  let cs := p.name.toList
  let tail := (cs.reverse.takeWhile (· ≠ '.')).length
  let start := cs.length - tail - 1
  if (cs.take start).any (· ≠ '.') then String.ofList (cs.drop start) else ""

/-- Follows parts that go up; above the root is the root. -/
def climb : List String → List String → List String
  | up, [] => up.reverse
  | up, part :: rest => if part = ".." then climb (up.drop 1) rest else climb (part :: up) rest

/-- The absolute path, without parts that go up, of a path as seen from a directory. -/
def resolve (directory p : Path) : Path :=
  let joined := directory.join p
  { slashes := 1, parts := climb [] joined.parts }

end Path

end CardDrawing
