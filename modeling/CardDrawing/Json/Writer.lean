import CardDrawing.Value.Text

/-!
# Writing JSON

Documents are written in ASCII: other characters become escapes of sixteen-bit units. With an
indentation every item and every entry has a line of its own.
-/

namespace CardDrawing.Json

/-- The escape of one sixteen-bit unit. -/
def unitEscape (n : Nat) : List Char := '\\' :: 'u' :: Text.hex 4 n

def escape (c : Char) : List Char :=
  if c = '"' then ['\\', '"']
  else if c = '\\' then ['\\', '\\']
  else if c = '\n' then ['\\', 'n']
  else if c = '\r' then ['\\', 'r']
  else if c = '\t' then ['\\', 't']
  else if c.toNat = 8 then ['\\', 'b']
  else if c.toNat = 12 then ['\\', 'f']
  else if 0x20 ≤ c.toNat && c.toNat < 0x7f then [c]
  else if c.toNat < 0x10000 then unitEscape c.toNat
  else
    let n := c.toNat - 0x10000
    unitEscape (0xd800 + n / 0x400) ++ unitEscape (0xdc00 + n % 0x400)

def quote (s : String) : String :=
  String.ofList ('"' :: (s.toList.flatMap escape ++ ['"']))

def number (x : Float) : String :=
  if x.isNaN then "NaN"
  else if x.isInf then (if x < 0 then "-Infinity" else "Infinity")
  else Decimal.write x

/-- How items are set apart: on one line, or on lines of their own under an indentation. -/
inductive Spacing where
  | line
  | indented (width : Nat)

def Spacing.newline (spacing : Spacing) (depth : Nat) : String :=
  match spacing with
  | line => ""
  | indented width => String.ofList ('\n' :: List.replicate (width * depth) ' ')

def Spacing.comma (spacing : Spacing) : String :=
  match spacing with
  | line => ", "
  | indented _ => ","

/-- Lays parts out between brackets; without parts the brackets touch. -/
def Spacing.enclose (spacing : Spacing) (depth : Nat) (opening closing : String)
    (parts : List String) : String :=
  if parts.isEmpty then opening ++ closing
  else
    opening ++ spacing.newline (depth + 1) ++
      (spacing.comma ++ spacing.newline (depth + 1)).intercalate parts ++
        spacing.newline depth ++ closing

mutual

def write (spacing : Spacing) (depth : Nat) : Value → String
  | .null => "null"
  | .bool b => if b then "true" else "false"
  | .int n => toString n
  | .float x => number x
  | .text s => quote s
  | .list items => spacing.enclose depth "[" "]" (writeItems spacing (depth + 1) items)
  | .object entries =>
    spacing.enclose depth "\x7b" "\x7d" (writeEntries spacing (depth + 1) entries)

def writeItems (spacing : Spacing) (depth : Nat) : List Value → List String
  | [] => []
  | v :: rest => write spacing depth v :: writeItems spacing depth rest

def writeEntries (spacing : Spacing) (depth : Nat) : List (String × Value) → List String
  | [] => []
  | (k, v) :: rest => (quote k ++ ": " ++ write spacing depth v) :: writeEntries spacing depth rest

end

/-- A document on one line. -/
def writeLine (v : Value) : String := write .line 0 v

/-- A document with its parts on lines of their own; a negative width indents like zero. -/
def writeIndented (width : Int) (v : Value) : String := write (.indented width.toNat) 0 v

end CardDrawing.Json
