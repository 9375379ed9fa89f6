import CardDrawing.Xml.Name

/-!
# Lexemes of document types

A document type is a sequence of lexemes with white space between them. What may follow a lexeme
without a blank depends on the lexeme.
-/

namespace CardDrawing.Xml

inductive Lexeme where
  /-- the start of a declaration and the word that tells its kind -/
  | keyword (word : String)
  | name (name : RawName)
  /-- characters of names that make up no name -/
  | token
  /-- a name with a mark that tells how often it may occur -/
  | counted
  | hash (word : String)
  | literal (text : List Char)
  /-- a reference to a parameter entity -/
  | parameter
  | percent
  | bar
  | comma
  | opensGroup
  /-- the end of a group, perhaps with a mark that tells how often the group may occur -/
  | closesGroup (mark : Option Char)
  | opensSubset
  | closesSubset
  | ends
  | aside
deriving DecidableEq, Repr

/-- Whether the text begins with one of the characters, or with white space. -/
def goesOnWith (characters : String) : List Char → Bool
  | [] => false
  | c :: _ => isSpace c || characters.toList.contains c

/-- What comes after a declaration's `<!`. -/
def keyword? (cs : List Char) : Option (Lexeme × List Char) :=
  match cs with
  | '-' :: '-' :: rest => (afterComment? rest).map (.aside, ·)
  | _ =>
    let isWordChar (c : Char) : Bool := c.isAlpha || c = '_'
    let rest := cs.dropWhile isWordChar
    if startsWithSpace rest then some (.keyword (String.ofList (cs.takeWhile isWordChar)), rest)
    else none

/-- A run of characters of names, in which the parts of a name may have a colon between them. -/
def nameLexeme (run : List Char) : Lexeme :=
  if !run.head?.any isNameStart then .token
  else
    match Text.splitAt ':' run with
    | [label] => .name ⟨none, String.ofList label⟩
    | [qualifier, c :: label] => .name ⟨some (String.ofList qualifier), String.ofList (c :: label)⟩
    | _ => .token

/-- A name or token, and the mark after it. -/
def named? (cs : List Char) : Option (Lexeme × List Char) :=
  let isRunChar (c : Char) : Bool := isNameChar c || c = ':'
  let lexeme := nameLexeme (cs.takeWhile isRunChar)
  let rest := cs.dropWhile isRunChar
  match rest with
  | mark :: more =>
    if mark = '?' || mark = '*' || mark = '+' then
      if lexeme = .token then none else some (.counted, more)
    else if goesOnWith ">),|[" rest then some (lexeme, rest)
    else none
  | [] => none

/-- A text in quotes, from after its first quote on. -/
def literal? (quote : Char) (cs : List Char) : Option (Lexeme × List Char) := do
  let (body, rest) ← Text.cutAt? quote cs
  if body.all isAllowed && goesOnWith ">[" rest then return (.literal body, rest) else none

def hash? (cs : List Char) : Option (Lexeme × List Char) := do
  let (word, rest) ← name? cs
  if goesOnWith ">)|" rest then return (.hash (String.ofList word), rest) else none

/-- What comes after a percent sign. -/
def percent? (cs : List Char) : Option (Lexeme × List Char) :=
  if startsWithSpace cs then some (.percent, cs)
  else do
    let (_, rest) ← name? cs
    return (.parameter, ← Text.after? ";" rest)

/-- What comes after the parenthesis that closes a group. -/
def closesGroup? : List Char → Option (Lexeme × List Char)
  | '*' :: rest => some (.closesGroup (some '*'), rest)
  | '?' :: rest => some (.closesGroup (some '?'), rest)
  | '+' :: rest => some (.closesGroup (some '+'), rest)
  | rest => if goesOnWith ">,|)" rest then some (.closesGroup none, rest) else none

/-- The next lexeme. -/
def lexeme? (cs : List Char) : Option (Lexeme × List Char) :=
  match skipSpace cs with
  | '<' :: '!' :: rest => keyword? rest
  | '<' :: '?' :: rest => (afterInstruction? rest).map (.aside, ·)
  | '"' :: rest => literal? '"' rest
  | '\'' :: rest => literal? '\'' rest
  | '#' :: rest => hash? rest
  | '%' :: rest => percent? rest
  | '|' :: rest => some (.bar, rest)
  | ',' :: rest => some (.comma, rest)
  | '(' :: rest => some (.opensGroup, rest)
  | ')' :: rest => closesGroup? rest
  | '[' :: rest => some (.opensSubset, rest)
  | ']' :: rest => some (.closesSubset, rest)
  | '>' :: rest => some (.ends, rest)
  | c :: rest => if isNameChar c || c = ':' then named? (c :: rest) else none
  | [] => none

/-- The lexemes up to the first one that is a stop, that one, and what follows it. -/
def lexemesTo? (isStop : Lexeme → Bool) :
    Nat → List Char → Option (List Lexeme × Lexeme × List Char)
  | 0, _ => none
  | fuel + 1, cs => do
    let (first, rest) ← lexeme? cs
    if isStop first then return ([], first, rest)
    let (others, stop, rest) ← lexemesTo? isStop fuel rest
    return (first :: others, stop, rest)

end CardDrawing.Xml
