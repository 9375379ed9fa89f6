import CardDrawing.Value.Conversion

/-!
# Reading JSON

The reader keeps key order and tells whole numbers from floating ones by their spelling. It is
strict but for `NaN`, `Infinity` and `-Infinity`: control characters in texts, a byte order mark
and anything after the document are refused. A repeated key keeps its first place and takes its
last value.
-/

namespace CardDrawing.Json

def isSpace (c : Char) : Bool := c = ' ' || c = '\t' || c = '\n' || c = '\r'

def skipSpace (cs : List Char) : List Char := cs.dropWhile isSpace

/-- The unit of sixteen bits that four hexadecimal digits spell. -/
def unit? (cs : List Char) : Option (Nat × List Char) :=
  let digits := cs.take 4
  if digits.length = 4 then (Text.hexNumber? digits).map fun n => (n, cs.drop 4) else none

/-- The characters of a text after its opening quote, and what follows its closing one. A pair of
surrogate escapes is one character; a lone one is replaced. -/
def textBody : Nat → List Char → Option (List Char × List Char)
  | 0, _ => none
  | fuel + 1, cs =>
    match cs with
    | [] => none
    | '"' :: rest => some ([], rest)
    | '\\' :: 'u' :: rest => do
      let (high, after) ← unit? rest
      if 0xd800 ≤ high && high < 0xdc00 then
        match after with
        | '\\' :: 'u' :: more =>
          match unit? more with
          | some (low, last) =>
            if 0xdc00 ≤ low && low < 0xe000 then
              let (body, left) ← textBody fuel last
              return (Char.ofNat (0x10000 + (high - 0xd800) * 0x400 + (low - 0xdc00)) :: body, left)
            else
              let (body, left) ← textBody fuel after
              return (Char.ofNat 0xfffd :: body, left)
          | none => none
        | _ =>
          let (body, left) ← textBody fuel after
          return (Char.ofNat 0xfffd :: body, left)
      else
        let (body, left) ← textBody fuel after
        let c := if 0xdc00 ≤ high && high < 0xe000 then 0xfffd else high
        return (Char.ofNat c :: body, left)
    | '\\' :: c :: rest => do
      let plain ← [('"', '"'), ('\\', '\\'), ('/', '/'), ('b', Char.ofNat 8), ('f', Char.ofNat 12),
        ('n', '\n'), ('r', '\r'), ('t', '\t')].lookup c
      let (body, left) ← textBody fuel rest
      return (plain :: body, left)
    | c :: rest =>
      if c.toNat < 0x20 || c = '\\' then none
      else do
        let (body, left) ← textBody fuel rest
        return (c :: body, left)

def text? (cs : List Char) : Option (String × List Char) :=
  match cs with
  | '"' :: rest =>
    (textBody (rest.length + 1) rest).map fun (body, left) => (String.ofList body, left)
  | _ => none

def digitsOf (cs : List Char) : List Char × List Char :=
  (cs.takeWhile Text.isAsciiDigit, cs.dropWhile Text.isAsciiDigit)

/-- The decimals after a point, if there are any. -/
def fractionOf (cs : List Char) : List Char × List Char :=
  match cs with
  | '.' :: rest =>
    match digitsOf rest with
    | ([], _) => ([], cs)
    | found => found
  | _ => ([], cs)

/-- The exponent after an `e`, if there is a whole one. -/
def exponentOf (cs : List Char) : Option Int × List Char :=
  match cs with
  | c :: rest =>
    if c = 'e' || c = 'E' then
      let (negative, body) := Text.signOf rest
      match digitsOf body with
      | ([], _) => (none, cs)
      | (digits, left) =>
        let n : Int := Text.digitsValue digits
        (some (if negative then -n else n), left)
    else (none, cs)
  | [] => (none, cs)

/-- A number: whole unless it has decimals or an exponent. It may have any number of digits: the
customary limit of 4300 digits for whole numbers is left out. -/
def number? (cs : List Char) : Option (Value × List Char) :=
  let (negative, body) := match cs with | '-' :: rest => (true, rest) | _ => (false, cs)
  let whole := match body with
    | '0' :: rest => (['0'], rest)
    | _ => digitsOf body
  match whole with
  | ([], _) => none
  | (digits, rest) =>
    let (fraction, rest) := fractionOf rest
    let (exponent, rest) := exponentOf rest
    if fraction.isEmpty && exponent.isNone then
      let n : Int := Text.digitsValue digits
      some (.int (if negative then -n else n), rest)
    else
      some (.float (Decimal.ofScientific negative (Text.digitsValue (digits ++ fraction))
        (exponent.getD 0 - fraction.length)), rest)

/-- The named values. -/
def words : List (String × Value) :=
  [("null", .null), ("true", .bool true), ("false", .bool false),
    ("NaN", .float (Float.ofBits 0x7ff8000000000000)),
    ("Infinity", .float (Decimal.ofRatio false (Nat.pow 10 400) 1)),
    ("-Infinity", .float (Decimal.ofRatio true (Nat.pow 10 400) 1))]

def word? (cs : List Char) : Option (Value × List Char) :=
  words.findSome? fun entry => (Text.after? entry.1 cs).map fun rest => (entry.2, rest)

mutual

def value? : Nat → List Char → Option (Value × List Char)
  | 0, _ => none
  | fuel + 1, cs =>
    match cs with
    | '"' :: _ => (text? cs).map fun found => (.text found.1, found.2)
    | '[' :: rest =>
      match skipSpace rest with
      | ']' :: left => some (.list [], left)
      | items => (items? fuel items).map fun found => (.list found.1, found.2)
    | '\x7b' :: rest =>
      match skipSpace rest with
      | '\x7d' :: left => some (.object [], left)
      | entries =>
        (entries? fuel entries).map fun found => (.object (Keyed.ofEntries found.1), found.2)
    | _ =>
      match word? cs with
      | some found => some found
      | none => number? cs

/-- The items of a list from the first one on, with its closing bracket. -/
def items? : Nat → List Char → Option (List Value × List Char)
  | 0, _ => none
  | fuel + 1, cs => do
    let (first, rest) ← value? fuel cs
    match skipSpace rest with
    | ',' :: more =>
      let (others, left) ← items? fuel (skipSpace more)
      return (first :: others, left)
    | ']' :: left => return ([first], left)
    | _ => none

/-- The entries of an object from the first key on, with its closing brace. -/
def entries? : Nat → List Char → Option (List (String × Value) × List Char)
  | 0, _ => none
  | fuel + 1, cs => do
    let (key, rest) ← text? cs
    match skipSpace rest with
    | ':' :: more =>
      let (first, rest) ← value? fuel (skipSpace more)
      match skipSpace rest with
      | ',' :: more =>
        let (others, left) ← entries? fuel (skipSpace more)
        return ((key, first) :: others, left)
      | '\x7d' :: left => return ([(key, first)], left)
      | _ => none
    | _ => none

end

/-- Reads a whole document. -/
def read? (document : String) : Option Value :=
  let cs := document.toList
  match value? (cs.length + 1) (skipSpace cs) with
  | some (v, rest) => if (skipSpace rest).isEmpty then some v else none
  | none => none

end CardDrawing.Json
