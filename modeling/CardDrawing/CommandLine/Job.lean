import CardDrawing.CommandLine.Word
import CardDrawing.Location.Path
import CardDrawing.Renderer
import CardDrawing.Value.Conversion

/-!
# Jobs

A command line names a task and a card. Arguments are taken in their order: a request for help ends
the reading with success, the first bad argument with failure, and what is missing or left over is
only seen at the end.
-/

namespace CardDrawing.CommandLine

inductive Verb where
  | compile
  | draw
deriving DecidableEq, Repr

def Verb.ofName? : String → Option Verb
  | "compile" => some .compile
  | "draw" => some .draw
  | _ => none

def Verb.names : Verb → Names
  | .compile => commonNames ++ [("--indent", .setting .indent)]
  | .draw => commonNames ++ [("--out", .setting .out)]

/-- What is to be done with a card. -/
inductive Task where
  /-- print its primitives -/
  | compile (indent : Int)
  /-- save its picture -/
  | draw (out : Path)

structure Job where
  card : Path
  templates : Option Path
  config : Option Path
  patience : Patience
  task : Task

/-- What has been read of a job. -/
structure Draft where
  card : Option Path := none
  templates : Option Path := none
  config : Option Path := none
  patience : Patience := .immediate
  indent : Int := 2
  out : Option Path := none
  /-- some argument was left over -/
  leftOver : Bool := false

namespace Draft

def set (d : Draft) (value : String) : Setting → Except Error Draft
  | .templates => .ok { d with templates := some (Path.ofText value) }
  | .config => .ok { d with config := some (Path.ofText value) }
  | .out => .ok { d with out := some (Path.ofText value) }
  | .indent =>
    match Text.toInt? value with
    | some indent => .ok { d with indent }
    | none => .error (.exit 2)

/-- Takes in words one by one. Two dashes belong to the card if they stand right before it or, as
`afterCard` tells, right after it. -/
def fill (afterCard : Bool) (d : Draft) : List Word → Except Error Draft
  | [] => .ok d
  | .plain s :: rest =>
    if d.card.isNone then fill true { d with card := some (Path.ofText s) } rest
    else fill false { d with leftOver := true } rest
  | .dashes :: rest =>
    if d.card.isNone || afterCard then fill false d rest
    else fill false { d with leftOver := true } rest
  | .switch .help :: _ => .error (.exit 0)
  | .switch .async :: rest => fill false { d with patience := .waiting } rest
  | .setting s (some value) :: rest => do fill false (← d.set value s) rest
  | .setting s none :: .plain value :: rest => do fill false (← d.set value s) rest
  | .setting _ none :: _ | .malformed :: _ => .error (.exit 2)
  | .unknown :: rest => fill false { d with leftOver := true } rest

def task? (d : Draft) : Verb → Option Task
  | .compile => some (.compile d.indent)
  | .draw => d.out.map .draw

/-- The job that a draft describes if nothing is missing or left over. -/
def toJob (d : Draft) (verb : Verb) : Except Error Job :=
  match d.card, d.task? verb, d.leftOver with
  | some card, some task, false =>
    .ok { card, templates := d.templates, config := d.config, patience := d.patience, task }
  | _, _, _ => .error (.exit 2)

end Draft

namespace Job

/-- Reads arguments up to the verb and passes the rest on; unknown options before it are left
over. -/
def readFrom (leftOver : Bool) : List String → Except Error Job
  | [] => .error (.exit 2)
  | s :: rest => do
    match ← wordOf helpNames s with
    | .switch _ => throw (.exit 0)
    | .unknown => readFrom true rest
    | .plain name =>
      match Verb.ofName? name with
      | some verb =>
        let d ← Draft.fill false { leftOver } (← wordsOf verb.names rest)
        d.toJob verb
      | none => throw (.exit 2)
    | _ => throw (.exit 2)

def read (arguments : List String) : Except Error Job := readFrom false arguments

end Job

end CardDrawing.CommandLine
