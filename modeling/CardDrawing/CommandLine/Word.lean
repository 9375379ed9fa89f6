import CardDrawing.Error
import CardDrawing.Keyed
import CardDrawing.Text.Cut
import CardDrawing.Text.Classes

/-!
# Words of a command line

Each argument is a plain word or names an option, by its whole name or by a beginning that no other
option has, perhaps with a value after `=`. After two dashes alone everything is plain.
-/

namespace CardDrawing.CommandLine

inductive Switch where
  | help
  | async
deriving DecidableEq, Repr

inductive Setting where
  | templates
  | config
  | indent
  | out
deriving DecidableEq, Repr

inductive Word where
  | plain (s : String)
  | dashes
  | switch (s : Switch)
  | setting (s : Setting) (value : Option String)
  /-- a switch with something attached to it -/
  | malformed
  | unknown
deriving DecidableEq, Repr

/-- What names of options stand for, with and without a value attached. -/
abbrev Names := Keyed (Option String → Word)

def Word.ofSwitch (s : Switch) : Option String → Word
  | none => .switch s
  | some _ => .malformed

def helpNames : Names := [("--help", .ofSwitch .help), ("-h", .ofSwitch .help)]

def commonNames : Names :=
  helpNames ++ [("--templates", .setting .templates), ("--config", .setting .config),
    ("--async", .ofSwitch .async)]

/-- Arguments that begin with a dash and are numbers are plain. -/
def isNegativeNumber (cs : List Char) : Bool :=
  match cs with
  | '-' :: rest =>
    let body := if rest.getLast? = some '\n' then rest.dropLast else rest
    match body.dropWhile Text.isDigit with
    | [] => !body.isEmpty
    | '.' :: places => !places.isEmpty && places.all Text.isDigit
    | _ => false
  | _ => false

/-- The word for letters after one dash that begin with the one for help. What follows them is not
looked at, unless it attaches something. -/
def shortHelp (letters : List Char) : Word :=
  match letters.dropWhile (· = 'h') with
  | '=' :: _ | '-' :: _ => .malformed
  | _ => .switch .help

/-- The name of an option and the value attached to it. -/
def nameAndValue (s : String) : String × Option String :=
  match Text.cutAt? '=' s.toList with
  | some (name, value) => (String.ofList name, some (String.ofList value))
  | none => (s, none)

/-- The options that an argument with dashes may mean. -/
def meanings (names : Names) (s : String) : List Word :=
  match s.toList with
  | '-' :: '-' :: _ =>
    let (name, value) := nameAndValue s
    match Keyed.get? names name with
    | some word => [word value]
    | none => (names.filter fun entry => entry.1.startsWith name).map fun entry => entry.2 value
  | '-' :: 'h' :: letters => [shortHelp letters]
  | _ => []

/-- What an argument is; a name that begins several options is refused. -/
def wordOf (names : Names) (s : String) : Except Error Word :=
  if s = "--" then .ok .dashes
  else if !s.startsWith "-" || s = "-" then .ok (.plain s)
  else
    match meanings names s with
    | [word] => .ok word
    | _ :: _ => .error (.exit 2)
    | [] =>
      .ok (if isNegativeNumber s.toList || s.contains ' ' then .plain s else .unknown)

def wordsOf (names : Names) : List String → Except Error (List Word)
  | [] => .ok []
  | s :: rest => do
    match ← wordOf names s with
    | .dashes => return .dashes :: rest.map .plain
    | word => return word :: (← wordsOf names rest)

end CardDrawing.CommandLine
