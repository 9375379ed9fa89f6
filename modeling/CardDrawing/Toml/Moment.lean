import CardDrawing.Text.Classes
import CardDrawing.Toml.Item

/-!
# Dates and times

A date, perhaps with a time and an offset after it, or a time alone, at the start of a text. What
cannot go on stays for the rest of the line.
-/

namespace CardDrawing.Toml

/-- A number of two digits between two bounds. -/
def pair? (least most : Nat) : List Char → Option (Nat × List Char)
  | a :: b :: rest =>
    let n := Text.digitsValue [a, b]
    if a.isDigit && b.isDigit && least ≤ n && n ≤ most then some (n, rest) else none
  | _ => none

/-- The parts of a second after a point. -/
def skipFraction (cs : List Char) : List Char :=
  match cs with
  | '.' :: d :: rest => if d.isDigit then rest.dropWhile Char.isDigit else cs
  | _ => cs

/-- What follows a time at the start of a text. -/
def afterTime? (cs : List Char) : Option (List Char) :=
  match pair? 0 23 cs with
  | some (_, ':' :: rest) =>
    match pair? 0 59 rest with
    | some (_, ':' :: rest) => (pair? 0 59 rest).map fun second => skipFraction second.2
    | _ => none
  | _ => none

/-- What follows an offset, which may be missing. -/
def skipOffset (cs : List Char) : List Char :=
  match cs with
  | 'Z' :: rest | 'z' :: rest => rest
  | sign :: rest =>
    if sign ≠ '+' && sign ≠ '-' then cs
    else
      match pair? 0 23 rest with
      | some (_, ':' :: more) =>
        match pair? 0 59 more with
        | some (_, rest) => rest
        | none => cs
      | _ => cs
  | [] => []

def isLeapYear (year : Nat) : Bool := year % 4 = 0 && (year % 100 ≠ 0 || year % 400 = 0)

def daysIn (year month : Nat) : Nat :=
  if month = 2 then if isLeapYear year then 29 else 28
  else if [4, 6, 9, 11].contains month then 30
  else 31

/-- A day by its year, its month and its number, and what follows it. -/
def day? (cs : List Char) : Option ((Nat × Nat × Nat) × List Char) :=
  let year := cs.take 4
  match year.length, year.all Char.isDigit, cs.drop 4 with
  | 4, true, '-' :: rest =>
    match pair? 1 12 rest with
    | some (month, '-' :: rest) =>
      (pair? 1 31 rest).map fun (day, rest) => ((Text.digitsValue year, month, day), rest)
    | _ => none
  | _, _, _ => none

/-- The time after a date. -/
def timeOfDay? : List Char → Option (List Char)
  | mark :: rest => if ['T', 't', ' '].contains mark then afterTime? rest else none
  | [] => none

/-- The date or time at the start of a text, if there is one; a day that is in no calendar makes the
document malformed. -/
def moment? (cs : List Char) : Option (Option (Item × List Char)) :=
  match day? cs with
  | some ((year, month, day), rest) =>
    if year = 0 || daysIn year month < day then some none
    else
      match timeOfDay? rest with
      | some rest => some (some (.moment .dateTime, skipOffset rest))
      | none => some (some (.moment .date, rest))
  | none => (afterTime? cs).map fun rest => some (.moment .time, rest)

end CardDrawing.Toml
