import CardDrawing.Error
import CardDrawing.Text.Blank
import CardDrawing.Text.Classes

/-!
# Hosts

The host part of a url. Brackets hold an address of the sixth version, or of a future one.
-/

namespace CardDrawing.Host

/-- Four numbers up to 255 between dots, without leading zeros. -/
def isFourByte (cs : List Char) : Bool :=
  let parts := Text.splitAt '.' cs
  parts.length = 4 && parts.all fun part =>
    !part.isEmpty && part.all Text.isAsciiDigit && part.length ≤ 3 &&
      (part.length = 1 || part.head? ≠ some '0') && Text.digitsValue part ≤ 255

def isGroup (cs : List Char) : Bool :=
  1 ≤ cs.length && cs.length ≤ 4 && (Text.hexNumber? cs).isSome

/-- The groups of an address, with a four-byte end counted as two of them. -/
def groupsOf (cs : List Char) : Option (List (List Char)) :=
  let parts := Text.splitAt ':' cs
  match parts.getLast? with
  | some last =>
    if last.contains '.' then
      if isFourByte last then some (parts.dropLast ++ [['0'], ['0']]) else none
    else some parts
  | none => none

/-- Eight groups, or fewer around one pair of colons that stands for at least one group. -/
def isSixteenByteBody (cs : List Char) : Bool :=
  match groupsOf cs with
  | none => false
  | some parts =>
    let inner := (parts.drop 1).dropLast
    let gaps := (inner.filter List.isEmpty).length
    let filled := parts.filter fun part => !part.isEmpty
    if parts.length < 3 || 9 < parts.length || 1 < gaps || !filled.all isGroup then false
    else
      let first := parts.head?.getD []
      let second := (parts.drop 1).head?.getD []
      let last := parts.getLast?.getD []
      let beforeLast := parts.dropLast.getLast?.getD []
      if gaps = 0 then parts.length = 8 && !first.isEmpty && !last.isEmpty
      else
        (!first.isEmpty || second.isEmpty) && (!last.isEmpty || beforeLast.isEmpty) &&
          filled.length < 8

/-- An address may name a zone after a percent sign. -/
def isSixteenByte (cs : List Char) : Bool :=
  match Text.cutAt? '%' cs with
  | none => isSixteenByteBody cs
  | some (body, zone) =>
    !zone.isEmpty && !zone.contains '%' && isSixteenByteBody body

/-- The letter `v`, a hexadecimal version, a dot and some text. -/
def isFuture (cs : List Char) : Bool :=
  match Text.cutAt? '.' (cs.drop 1) with
  | some (version, rest) =>
    !version.isEmpty && (Text.hexNumber? version).isSome && !rest.isEmpty &&
      !rest.contains '\n'
  | none => false

def checkBracketed (cs : List Char) : Except Error Unit :=
  if cs.head? = some 'v' then
    if isFuture cs then .ok () else .error .futureAddress
  else if isSixteenByte cs then .ok ()
  else if isFourByte cs then .error .bracketedFourByte
  else .error (.notAddress (String.ofList cs))

/-- Characters whose compatibility form contains a separator of urls. -/
def lookalikes : List Nat := [
  0x2047, 0x2048, 0x2049, 0x2100, 0x2101, 0x2105, 0x2106, 0x2a74, 0xfe13, 0xfe16, 0xfe55, 0xfe56,
  0xfe5f, 0xfe6b, 0xff03, 0xff0f, 0xff1a, 0xff1f, 0xff20]

/-- Refuses brackets that are not around the whole name of the host, and ones around something else
than an address. What stands before the last `@` names a user. -/
def checkBrackets (host : List Char) : Except Error Unit :=
  let named := (host.reverse.takeWhile (· ≠ '@')).reverse
  match Text.cutAt? '[' named with
  | some (before, inside) =>
    let after := (inside.dropWhile (· ≠ ']')).drop 1
    if !before.isEmpty || !(after.isEmpty || after.head? = some ':') then .error .bracketedHost
    else checkBracketed (inside.takeWhile (· ≠ ']'))
  | none => checkBracketed (named.takeWhile (· ≠ ':'))

/-- Refuses a host with unmatched or misplaced brackets, or with a character that could be taken for
a separator. -/
def check (host : List Char) : Except Error Unit := do
  let opened := host.contains '['
  let closed := host.contains ']'
  if opened != closed then throw .bracketedHost
  if opened then checkBrackets host
  if host.any fun c => lookalikes.contains c.toNat then
    throw (.hostLookalike (String.ofList host))

end CardDrawing.Host
