import CardDrawing.Error
import CardDrawing.Location.Host
import CardDrawing.Text.Case
import CardDrawing.Web.Escape
import CardDrawing.Web.Label.Basic

/-!
# Host names

The form in which a request names its host: an address as it is, a name in ASCII in small letters,
and any other name label by label.
-/

namespace CardDrawing.Web.HostName

/-- Whether a host looks like four numbers with a character between each two of them: `left` are to
come after the present one, of which a digit is read if `isOpen`. -/
def resemblesFourByte (left : Nat) (isOpen : Bool) : List Char → Bool
  | [] => left = 0 && isOpen
  | c :: rest =>
    (Text.isAsciiDigit c && resemblesFourByte left true rest) ||
      (isOpen && 0 < left && resemblesFourByte (left - 1) false rest)

/-- What stands between brackets, if a host is all in brackets. -/
def bracketed? (host : List Char) : Option (List Char) :=
  match host with
  | '[' :: rest => if rest.getLast? = some ']' then some rest.dropLast else none
  | _ => none

/-! ## Names of several labels -/

/-- The full stops of several scripts. -/
def isDot (c : Char) : Bool := [0x2e, 0x3002, 0xff0e, 0xff61].contains c.toNat

def labels (host : List Char) : List (List Char) :=
  Text.splitAt '.' (host.map fun c => if isDot c then '.' else c)

/-- The most characters of a name, and of one that ends with a dot. -/
def sizeLimit (hasDot : Bool) : Nat := if hasDot then 254 else 253

/-- The labels of a name but for an empty one at its end, and whether there is such a one. -/
def properLabels (host : List Char) : List (List Char) × Bool :=
  let all := labels host
  if all.getLast? = some [] then (all.dropLast, true) else (all, false)

/-- A name in ASCII: its labels with dots between them. -/
def toAscii (host : List Char) : Except LabelFault (List Char) := do
  let (proper, hasDot) := properLabels host
  let written ← proper.mapM Label.toAscii
  let name := ['.'].intercalate (if hasDot then written ++ [[]] else written)
  if sizeLimit hasDot < name.length then throw .nameTooLong
  return name

/-- Whether the name that a name in ASCII stands for can be shown. Only a name whose first label
has the prefix is looked at. -/
def checkShown (host : List Char) : Except Error Unit :=
  if Label.asciiMark.isPrefixOf host then
    if sizeLimit true < host.length then .error (.labelFault .nameTooLong)
    else
      match (properLabels host).1.mapM Label.checkAscii with
      | .ok _ => .ok ()
      | .error why => .error (.labelFault why)
  else .ok ()

/-- The name of a host in a request, without the brackets of an address. -/
def normal (host : List Char) : Except Error (List Char) :=
  if resemblesFourByte 3 false host then
    if Host.isFourByte host then .ok host else .error (.invalidFourByte (String.ofList host))
  else
    match bracketed? host with
    | some address =>
      if Host.isSixteenByte address then .ok address
      else .error (.invalidSixteenByte (String.ofList host))
    | none =>
      if Label.isAscii host then .ok (escapedBut hostMarks (host.map Char.toLower))
      else
        match toAscii (Text.lower (String.ofList host)).toList with
        | .ok name => .ok name
        | .error _ => .error (.invalidHostName (String.ofList host))

end CardDrawing.Web.HostName
