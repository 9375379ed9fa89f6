import CardDrawing.Value.Conversion
import CardDrawing.Web.HostName

/-!
# References to resources

The parts of a reference as it is written, and the form in which it is requested: the scheme and the
host in small letters, no port that the scheme stands for, no path segments that stay or go up, and
escapes for what a part does not show.
-/

namespace CardDrawing.Web

/-- The parts of a reference as they are written; an absent query or fragment is told apart from an
empty one. -/
structure Parts where
  scheme : List Char := []
  authority : List Char := []
  path : List Char := []
  query : Option (List Char) := none
  fragment : Option (List Char) := none
deriving DecidableEq, Repr

/-- What a reference is requested by. -/
structure Reference where
  scheme : List Char
  user : List Char
  /-- the host, an address without its brackets -/
  host : List Char
  port : Option Int
  path : List Char
  query : Option (List Char)
  fragment : Option (List Char)
deriving DecidableEq, Repr

namespace Parts

/-- What stands before the first `mark`, and after it if there is one. -/
def cut (mark : Char) (cs : List Char) : List Char × Option (List Char) :=
  match Text.cutAt? mark cs with
  | some (before, after) => (before, some after)
  | none => (cs, none)

def isSchemeChar (c : Char) : Bool :=
  Text.isAsciiLetter c || Text.isAsciiDigit c || c = '+' || c = '-' || c = '.'

/-- The scheme before a colon, which may be empty, and the rest. -/
def cutScheme (cs : List Char) : List Char × List Char :=
  match Text.cutAt? ':' cs with
  | some (scheme, rest) =>
    if scheme.all isSchemeChar && scheme.head?.all Text.isAsciiLetter then (scheme, rest)
    else ([], cs)
  | none => ([], cs)

/-- The authority after two slashes, and the path. -/
def cutAuthority : List Char → List Char × List Char
  | '/' :: '/' :: rest => (rest.takeWhile (· ≠ '/'), rest.dropWhile (· ≠ '/'))
  | cs => ([], cs)

def ofText (cs : List Char) : Parts :=
  let (rest, fragment) := cut '#' cs
  let (rest, query) := cut '?' rest
  let (scheme, rest) := cutScheme rest
  let (authority, path) := cutAuthority rest
  { scheme, authority, path, query, fragment }

/-- The user before the last `@` of an authority, and what follows it. -/
def cutUser (authority : List Char) : List Char × List Char :=
  let rest := (authority.reverse.takeWhile (· ≠ '@')).reverse
  ((authority.take (authority.length - rest.length)).dropLast, rest)

/-- The host, up to its last bracket or its first colon, and the port after a colon. -/
def cutHost (cs : List Char) : List Char × List Char :=
  let tail := (cs.reverse.takeWhile (· ≠ ']')).reverse
  let (host, rest) :=
    if cs.head? = some '[' && cs.contains ']' then (cs.take (cs.length - tail.length), tail)
    else (cs.takeWhile (· ≠ ':'), cs.dropWhile (· ≠ ':'))
  match rest with
  | ':' :: port => (host, port)
  | port => (host, port)

end Parts

namespace Reference

/-! ## The form of a request -/

/-- The ports that schemes stand for. -/
def defaultPorts : List (String × Int) :=
  [("ftp", 21), ("http", 80), ("https", 443), ("ws", 80), ("wss", 443)]

/-- The port of a reference, unless the scheme stands for it. The scheme is taken as it is written:
capital letters stand for no port. -/
def portOf (scheme port : List Char) : Except Error (Option Int) :=
  if port.isEmpty then .ok none
  else
    match Text.toInt? (String.ofList port) with
    | some n =>
      .ok (if defaultPorts.lookup (String.ofList scheme) = some n then none else some n)
    | none => .error (.invalidPort (String.ofList port))

/-- Path segments without those that stay or go up; `kept` holds the last one first. The empty
segment before the first slash stays. -/
def climb (kept : List (List Char)) : List (List Char) → List (List Char)
  | [] => kept.reverse
  | segment :: rest =>
    if segment = ['.'] then climb kept rest
    else if segment = ['.', '.'] then climb (if kept = [[]] then kept else kept.drop 1) rest
    else climb (segment :: kept) rest

def straight (path : List Char) : List Char :=
  ['/'].intercalate (climb [] (Text.splitAt '/' path))

/-- Refuses a path that would be read as another part. -/
def checkPath (hasScheme hasAuthority : Bool) (path : List Char) : Except Error Unit :=
  if hasAuthority then
    if path.isEmpty || path.head? = some '/' then .ok () else .error .pathNotRooted
  else if hasScheme then .ok ()
  else if path.take 2 = ['/', '/'] then .error (.pathStart "//")
  else if path.head? = some ':' then .error (.pathStart ":")
  else .ok ()

/-- The form in which written parts are requested; a host that is given wins over that of the
authority. -/
def ofParts (p : Parts) (given : Option (List Char) := none) : Except Error Reference := do
  let (user, rest) := Parts.cutUser p.authority
  let (written, port) := Parts.cutHost rest
  let host ← HostName.normal (given.getD written)
  let scheme := p.scheme.map Char.toLower
  let user := escapedBut userMarks user
  let port ← portOf p.scheme port
  let hasAuthority := !user.isEmpty || !host.isEmpty || port.isSome
  checkPath (!scheme.isEmpty) hasAuthority p.path
  let isRooted := !scheme.isEmpty || hasAuthority
  return {
    scheme, user, host, port
    path := escapedBut pathMarks (if isRooted then straight p.path else p.path)
    query := p.query.map (escapedBut queryMarks)
    fragment := p.fragment.map (escapedBut fragmentMarks) }

/-- The first control character of a url and its place. -/
def controlIn? (place : Nat) : List Char → Option (Char × Nat)
  | [] => none
  | c :: rest =>
    if c.toNat < 0x20 || c.toNat = 0x7f then some (c, place) else controlIn? (place + 1) rest

/-- The most characters of a url. -/
def sizeLimit : Nat := 65536

/-- The reference that a url is requested by. -/
def ofText (url : List Char) : Except Error Reference :=
  if sizeLimit < url.length then .error .urlTooLong
  else
    match controlIn? 0 url with
    | some (c, place) => .error (.controlInUrl c place)
    | none => ofParts (Parts.ofText url)

/-! ## Text -/

/-- A host with the brackets of an address. -/
def shownHost (host : List Char) : List Char :=
  if host.contains ':' then '[' :: host ++ [']'] else host

def authority (r : Reference) : List Char :=
  (if r.user.isEmpty then [] else r.user ++ ['@']) ++ shownHost r.host ++
    (match r.port with
      | some n => ':' :: (toString n).toList
      | none => [])

/-- A part with the mark before it, nothing if it is absent. -/
def marked (mark : Char) : Option (List Char) → List Char
  | some part => mark :: part
  | none => []

def parts (r : Reference) : Parts :=
  { scheme := r.scheme, authority := r.authority, path := r.path, query := r.query,
    fragment := r.fragment }

def text (r : Reference) : List Char :=
  (if r.scheme.isEmpty then [] else r.scheme ++ [':']) ++
    (if r.authority.isEmpty then [] else '/' :: '/' :: r.authority) ++ r.path ++
    marked '?' r.query ++ marked '#' r.fragment

/-- A reference that tells where to send a request. -/
def isAbsolute (r : Reference) : Bool := !r.scheme.isEmpty && !r.host.isEmpty

/-- What is asked for at the place that a reference tells: its path and its query. -/
def target (r : Reference) : Parts where
  path := '/' :: r.path.dropWhile (· = '/')
  query := r.query

end Reference

end CardDrawing.Web
