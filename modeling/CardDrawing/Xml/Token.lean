import CardDrawing.Xml.DocumentType.Basic

/-!
# Tokens of markup

What content is made of: tags, text, references, comments and instructions.
-/

namespace CardDrawing.Xml

inductive Token where
  | opening (tag : RawName) (attributes : List (RawName × List Char)) (isEmpty : Bool)
  | closing (tag : RawName)
  /-- text, and whether it is nothing but white space -/
  | text (isSpace : Bool)
  /-- a reference to an entity with a text of its own -/
  | reference (name : List Char)
  /-- a comment or an instruction -/
  | aside

/-! ## Tags -/

/-- The value of an attribute in single or double quotes, as it is written. -/
def quoted? : List Char → Option (List Char × List Char)
  | quote :: rest => do
    if quote ≠ '"' && quote ≠ '\'' then none
    let (body, rest) ← Text.cutAt? quote rest
    if body.all isAllowed then return (body, rest) else none
  | [] => none

def attribute? (cs : List Char) : Option ((RawName × List Char) × List Char) := do
  let (name, rest) ← rawName? cs
  let rest ← Text.after? "=" (skipSpace rest)
  let (value, rest) ← quoted? (skipSpace rest)
  return ((name, value), rest)

/-- The attributes of a tag, each after white space, and what follows them. -/
def attributes? : Nat → List Char → Option (List (RawName × List Char) × List Char)
  | 0, _ => none
  | fuel + 1, cs =>
    match skipSpace cs with
    | '>' :: _ | '/' :: _ => some ([], skipSpace cs)
    | start =>
      if startsWithSpace cs then do
        let (first, rest) ← attribute? start
        let (others, rest) ← attributes? fuel rest
        return (first :: others, rest)
      else none

def opening? (fuel : Nat) (cs : List Char) : Option (Token × List Char) := do
  let (tag, rest) ← rawName? cs
  let (attributes, rest) ← attributes? fuel rest
  if !(attributes.map Prod.fst).Nodup then none
  match rest with
  | '>' :: rest => return (.opening tag attributes false, rest)
  | '/' :: '>' :: rest => return (.opening tag attributes true, rest)
  | _ => none

def closing? (cs : List Char) : Option (Token × List Char) := do
  let (tag, rest) ← rawName? cs
  return (.closing tag, ← Text.after? ">" (skipSpace rest))

/-! ## Everything else -/

/-- Text without references after its `<![CDATA[`. -/
def verbatim? (cs : List Char) : Option (Token × List Char) := do
  let (body, rest) ← Text.cutAtWord? [']', ']', '>'] cs
  if body.all isAllowed then return (.text false, rest) else none

/-- What follows an ampersand. -/
def reference? (cs : List Char) : Option (Token × List Char) := do
  let (body, rest) ← Text.cutAt? ';' cs
  match ← referent? body with
  | .char _ => return (.text false, rest)
  | .reference name =>
    if (commonEntities.lookup name).isSome then return (.text false, rest)
    else return (.reference name, rest)

/-- Text up to the next markup or reference. -/
def text? (cs : List Char) : Option (Token × List Char) :=
  let isText (c : Char) : Bool := c ≠ '<' && c ≠ '&'
  let body := cs.takeWhile isText
  if !body.all isAllowed || (Text.cutAtWord? [']', ']', '>'] body).isSome then none
  else some (.text (body.all isSpace), cs.dropWhile isText)

def token? (fuel : Nat) (cs : List Char) : Option (Token × List Char) :=
  match cs with
  | '<' :: '/' :: rest => closing? rest
  | '<' :: '!' :: rest =>
    match Text.after? "--" rest with
    | some rest => (afterComment? rest).map (.aside, ·)
    | none => (Text.after? "[CDATA[" rest).bind verbatim?
  | '<' :: '?' :: rest => (afterInstruction? rest).map (.aside, ·)
  | '<' :: rest => opening? fuel rest
  | '&' :: rest => reference? rest
  | cs => text? cs

def tokensWithin? : Nat → List Char → Option (List Token)
  | 0, _ => none
  | fuel + 1, cs =>
    if cs.isEmpty then some []
    else do
      let (first, rest) ← token? fuel cs
      return first :: (← tokensWithin? fuel rest)

/-- The tokens of a text, if it consists of tokens. -/
def tokens? (cs : List Char) : Option (List Token) := tokensWithin? (cs.length + 1) cs

end CardDrawing.Xml
