import CardDrawing.Text.Cut
import CardDrawing.Toml.Moment
import CardDrawing.Toml.Table
import CardDrawing.Value.Conversion

/-!
# Reading configuration documents

A document is a sequence of lines, each with an entry, a header or nothing, and perhaps a comment.
Only arrays and long texts go over several lines.
-/

namespace CardDrawing.Toml

open Text (after?)

def isSpace (c : Char) : Bool := c = ' ' || c = '\t'

def skipSpace (cs : List Char) : List Char := cs.dropWhile isSpace

def isControl (c : Char) : Bool := c.toNat < 0x20 || c.toNat = 0x7f

/-- A character that may stand in a text or a comment; line ends only in long texts. -/
def isAllowed (isLong : Bool) (c : Char) : Bool :=
  !isControl c || c = '\t' || (isLong && c = '\n')

/-- A line break of two characters counts as one line feed. -/
def normalLines : List Char → List Char
  | '\r' :: '\n' :: rest => '\n' :: normalLines rest
  | c :: rest => c :: normalLines rest
  | [] => []

/-- What follows a comment, if one starts here, on its line. -/
def skipComment? (cs : List Char) : Option (List Char) :=
  match cs with
  | '#' :: rest =>
    if (rest.takeWhile (· ≠ '\n')).all (isAllowed false) then some (rest.dropWhile (· ≠ '\n'))
    else none
  | _ => some cs

/-- What follows blanks, line ends and comments. -/
def skipLines? : Nat → List Char → Option (List Char)
  | 0, _ => none
  | fuel + 1, cs =>
    match cs.dropWhile fun c => isSpace c || c = '\n' with
    | '#' :: rest => do skipLines? fuel (← skipComment? ('#' :: rest))
    | rest => some rest

/-! ## Texts -/

def escapes : List (Char × Char) :=
  [('b', Char.ofNat 8), ('t', '\t'), ('n', '\n'), ('f', Char.ofNat 12), ('r', '\r'), ('"', '"'),
    ('\\', '\\')]

/-- The character that a number of hexadecimal digits stand for. -/
def codePoint? (count : Nat) (cs : List Char) : Option (Char × List Char) := do
  let digits := cs.take count
  let n ← Text.hexNumber? digits
  if digits.length = count && n.isValidChar then return (Char.ofNat n, cs.drop count) else none

/-- What follows a backslash at the end of a line, up to the next character that is no blank. -/
def joinedLine? (cs : List Char) : Option (List Char) :=
  match skipSpace cs with
  | [] => some []
  | '\n' :: rest => some (rest.dropWhile fun c => isSpace c || c = '\n')
  | _ => none

/-- What an escape stands for after its backslash. -/
def escape? (isLong : Bool) (cs : List Char) : Option (List Char × List Char) :=
  match cs with
  | 'u' :: rest => (codePoint? 4 rest).map fun found => ([found.1], found.2)
  | 'U' :: rest => (codePoint? 8 rest).map fun found => ([found.1], found.2)
  | c :: rest =>
    if isLong && (isSpace c || c = '\n') then (joinedLine? cs).map fun rest => ([], rest)
    else (escapes.lookup c).map fun plain => ([plain], rest)
  | [] => none

/-- Up to two quotes after a long text belong to it. -/
def extraQuotes (quote : Char) (cs : List Char) : List Char × List Char :=
  let extra := (cs.takeWhile (· = quote)).take 2
  (extra, cs.drop extra.length)

/-- The characters of a text in double quotes after its opening quotes, and what follows it. -/
def basicBody (isLong : Bool) : Nat → List Char → Option (List Char × List Char)
  | 0, _ => none
  | fuel + 1, cs =>
    match cs, isLong with
    | '"' :: '"' :: '"' :: rest, true => some (extraQuotes '"' rest)
    | '"' :: rest, false => some ([], rest)
    | '\\' :: rest, _ => do
      let (plain, rest) ← escape? isLong rest
      let (body, rest) ← basicBody isLong fuel rest
      return (plain ++ body, rest)
    | c :: rest, _ =>
      if isAllowed isLong c then
        (basicBody isLong fuel rest).map fun found => (c :: found.1, found.2)
      else none
    | [], _ => none

/-- The characters of a text in single quotes, in which nothing is escaped. -/
def literalBody (isLong : Bool) (cs : List Char) : Option (List Char × List Char) := do
  let closing := List.replicate (if isLong then 3 else 1) '\''
  let (body, rest) ← Text.cutAtWord? closing cs
  if !body.all (isAllowed isLong) then none
  let (extra, rest) := if isLong then extraQuotes '\'' rest else ([], rest)
  return (body ++ extra, rest)

/-- The first line end of a long text is not part of it. -/
def withoutLineEnd : List Char → List Char
  | '\n' :: rest => rest
  | cs => cs

/-- A text of one line. -/
def shortText? (fuel : Nat) : List Char → Option (String × List Char)
  | '"' :: rest => (basicBody false fuel rest).map fun found => (String.ofList found.1, found.2)
  | '\'' :: rest => (literalBody false rest).map fun found => (String.ofList found.1, found.2)
  | _ => none

def text? (fuel : Nat) (cs : List Char) : Option (String × List Char) :=
  match cs with
  | '"' :: '"' :: '"' :: rest =>
    (basicBody true fuel (withoutLineEnd rest)).map fun found => (String.ofList found.1, found.2)
  | '\'' :: '\'' :: '\'' :: rest =>
    (literalBody true (withoutLineEnd rest)).map fun found => (String.ofList found.1, found.2)
  | cs => shortText? fuel cs

/-! ## Numbers -/

/-- More digits of a kind, each perhaps after an underscore, and what follows them. -/
def moreDigits (isDigit : Char → Bool) : List Char → List Char × List Char
  | [] => ([], [])
  | '_' :: d :: rest =>
    if isDigit d then
      let (digits, rest) := moreDigits isDigit rest
      (d :: digits, rest)
    else ([], '_' :: d :: rest)
  | c :: rest =>
    if isDigit c then
      let (digits, rest) := moreDigits isDigit rest
      (c :: digits, rest)
    else ([], c :: rest)

/-- Digits of a kind, with single underscores between them. -/
def digitRun? (isDigit : Char → Bool) : List Char → Option (List Char × List Char)
  | [] => none
  | c :: rest =>
    if isDigit c then
      let (digits, rest) := moreDigits isDigit rest
      some (c :: digits, rest)
    else none

/-- The whole part of a number: a zero, or digits of which the first is no zero. -/
def wholePart? (cs : List Char) : Option (List Char × List Char) :=
  match cs with
  | '0' :: rest => some (['0'], rest)
  | cs => digitRun? Char.isDigit cs

def fractionPart (cs : List Char) : List Char × List Char :=
  match cs with
  | '.' :: rest => (digitRun? Char.isDigit rest).getD ([], cs)
  | _ => ([], cs)

def sign (cs : List Char) : Bool × List Char :=
  match cs with
  | '-' :: rest => (true, rest)
  | '+' :: rest => (false, rest)
  | _ => (false, cs)

/-- The exponent of a number, if there is a whole one. -/
def exponentPart (cs : List Char) : Option Int × List Char :=
  match cs with
  | c :: rest =>
    if c ≠ 'e' && c ≠ 'E' then (none, cs)
    else
      let (negative, body) := sign rest
      match digitRun? Char.isDigit body with
      | some (digits, rest) =>
        let n : Int := Text.digitsValue digits
        (some (if negative then -n else n), rest)
      | none => (none, cs)
  | [] => (none, [])

/-- A number: whole unless it has decimals or an exponent. It may have any number of digits: the
customary limit of 4300 digits for whole numbers is left out. -/
def decimal? (cs : List Char) : Option (Item × List Char) := do
  let (negative, body) := sign cs
  let (whole, rest) ← wholePart? body
  let (fraction, rest) := fractionPart rest
  let (exponent, rest) := exponentPart rest
  if fraction.isEmpty && exponent.isNone then
    let n : Int := Text.digitsValue whole
    return (.int (if negative then -n else n), rest)
  else
    return (.float (Decimal.ofScientific negative (Text.digitsValue (whole ++ fraction))
      (exponent.getD 0 - fraction.length)), rest)

/-- The digits and the size of each base that is named by a letter after a zero. -/
def bases : List (String × Nat × (Char → Bool)) :=
  [("0x", 16, fun c => (Text.hexValue? c).isSome), ("0o", 8, fun c => '0' ≤ c && c ≤ '7'),
    ("0b", 2, fun c => c = '0' || c = '1')]

def based? (cs : List Char) : Option (Item × List Char) :=
  bases.findSome? fun (mark, base, isDigit) => do
    let (digits, rest) ← digitRun? isDigit (← after? mark cs)
    let n := digits.foldl (fun n c => base * n + (Text.hexValue? c).getD 0) 0
    return (.int n, rest)

/-- The numbers that are written as words. -/
def words : List (String × Item) :=
  let inf (negative : Bool) : Item := .float (Decimal.ofRatio negative (Nat.pow 10 400) 1)
  let nan : Item := .float (Float.ofBits 0x7ff8000000000000)
  [("inf", inf false), ("+inf", inf false), ("-inf", inf true), ("nan", nan), ("+nan", nan),
    ("-nan", nan), ("true", .bool true), ("false", .bool false)]

def word? (cs : List Char) : Option (Item × List Char) :=
  words.findSome? fun entry => (after? entry.1 cs).map fun rest => (entry.2, rest)

/-- A word, a date or a number. -/
def plain? (cs : List Char) : Option (Item × List Char) :=
  match moment? cs with
  | some found => found
  | none => ((word? cs).orElse fun _ => based? cs).orElse fun _ => decimal? cs

/-! ## Keys and values -/

def isBare (c : Char) : Bool := c.isAlphanum || c = '-' || c = '_'

/-- One part of a key. -/
def keyPart? (fuel : Nat) (cs : List Char) : Option (String × List Char) :=
  match cs.takeWhile isBare with
  | [] => shortText? fuel cs
  | name => some (String.ofList name, cs.dropWhile isBare)

/-- A key, and what follows it and the blanks after it. -/
def key? : Nat → List Char → Option (List String × List Char)
  | 0, _ => none
  | fuel + 1, cs => do
    let (first, rest) ← keyPart? (fuel + 1) cs
    match skipSpace rest with
    | '.' :: rest =>
      let (others, rest) ← key? fuel (skipSpace rest)
      return (first :: others, rest)
    | rest => return ([first], rest)

mutual

def value? : Nat → List Char → Option (Item × List Char)
  | 0, _ => none
  | fuel + 1, cs =>
    match cs with
    | '"' :: _ | '\'' :: _ => (text? (fuel + 1) cs).map fun found => (.text found.1, found.2)
    | '[' :: rest => do
      match ← skipLines? (fuel + 1) rest with
      | ']' :: rest => return (.array [], rest)
      | rest => (items? fuel rest).map fun found => (.array found.1, found.2)
    | '\x7b' :: rest =>
      match skipSpace rest with
      | '\x7d' :: rest => some (.table [], rest)
      | rest => do
        let (entries, rest) ← entries? fuel rest
        return (← inlineTable entries, rest)
    | cs => plain? cs

/-- The items of an array from the first one on, with its closing bracket. -/
def items? : Nat → List Char → Option (List Item × List Char)
  | 0, _ => none
  | fuel + 1, cs => do
    let (first, rest) ← value? fuel cs
    match ← skipLines? (fuel + 1) rest with
    | ']' :: rest => return ([first], rest)
    | ',' :: rest =>
      match ← skipLines? (fuel + 1) rest with
      | ']' :: rest => return ([first], rest)
      | rest =>
        let (others, rest) ← items? fuel rest
        return (first :: others, rest)
    | _ => none

/-- The entries of a table in braces from the first one on, with its closing brace. -/
def entries? : Nat → List Char → Option (List (List String × Item) × List Char)
  | 0, _ => none
  | fuel + 1, cs => do
    let (key, rest) ← key? (fuel + 1) cs
    let (item, rest) ← value? fuel (skipSpace (← after? "=" rest))
    match skipSpace rest with
    | '\x7d' :: rest => return ([(key, item)], rest)
    | ',' :: rest =>
      let (others, rest) ← entries? fuel (skipSpace rest)
      return ((key, item) :: others, rest)
    | _ => none

end

/-! ## Documents -/

/-- A header between brackets. -/
def bracketed? (fuel : Nat) (closing : String) (cs : List Char) :
    Option (List String × List Char) := do
  let (path, rest) ← key? fuel (skipSpace cs)
  return (path, ← after? closing rest)

def statement? (fuel : Nat) (cs : List Char) : Option (Statement × List Char) :=
  match cs with
  | '[' :: '[' :: rest =>
    (bracketed? fuel "]]" rest).map fun found => (.arrayHeader found.1, found.2)
  | '[' :: rest => (bracketed? fuel "]" rest).map fun found => (.header found.1, found.2)
  | cs => do
    let (path, rest) ← key? fuel cs
    let (item, rest) ← value? fuel (skipSpace (← after? "=" rest))
    return (.entry path item, rest)

/-- What follows a statement on its line: blanks, a comment, and the line end. -/
def lineEnd? (cs : List Char) : Option (List Char) := do
  match ← skipComment? (skipSpace cs) with
  | [] => return []
  | '\n' :: rest => return rest
  | _ => none

def statements? : Nat → List Char → Option (List Statement)
  | 0, _ => none
  | fuel + 1, cs =>
    match skipSpace cs with
    | [] => some []
    | '\n' :: rest => statements? fuel rest
    | '#' :: rest => do statements? fuel (← lineEnd? ('#' :: rest))
    | line => do
      let (first, rest) ← statement? (fuel + 1) line
      return first :: (← statements? fuel (← lineEnd? rest))

/-- Reads a whole document. -/
def read? (document : String) : Option (Keyed Item) :=
  let cs := normalLines document.toList
  (statements? (cs.length + 1) cs).bind build

end CardDrawing.Toml
