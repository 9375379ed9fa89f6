import CardDrawing.Location.Host
import CardDrawing.Location.Path
import CardDrawing.Text.Case
import CardDrawing.Text.Utf8

/-!
# Urls

Splitting urls, decoding their percent escapes, and finding the local path that a url stands for.
-/

namespace CardDrawing

/-- The parts of a url, each without its delimiter; an absent part is empty. -/
structure Url where
  scheme : List Char
  host : List Char
  path : List Char
  query : List Char
  fragment : List Char
deriving DecidableEq, Repr

namespace Url

def isSchemeChar (c : Char) : Bool :=
  Text.isAsciiLetter c || Text.isAsciiDigit c || c = '+' || c = '-' || c = '.'

/-- Control characters and blanks at the start, and line breaks and tabs anywhere, are not part of a
url. -/
def clean (cs : List Char) : List Char :=
  (cs.dropWhile fun c => c.toNat ≤ 0x20).filter fun c => c ≠ '\t' && c ≠ '\r' && c ≠ '\n'

/-- The scheme in small letters and what follows its colon. -/
def splitScheme (cs : List Char) : List Char × List Char :=
  match Text.cutAt? ':' cs, cs with
  | some (scheme, rest), first :: _ =>
    if Text.isAsciiLetter first && scheme.all isSchemeChar then (scheme.map Char.toLower, rest)
    else ([], cs)
  | _, _ => ([], cs)

def endsHost (c : Char) : Bool := c = '/' || c = '?' || c = '#'

/-- The host after two slashes, and what follows it. -/
def splitHost : List Char → List Char × List Char
  | '/' :: '/' :: rest => (rest.takeWhile (!endsHost ·), rest.dropWhile (!endsHost ·))
  | cs => ([], cs)

/-- What stands before and after the first `mark`; nothing after it if there is none. -/
def splitMark (mark : Char) (cs : List Char) : List Char × List Char :=
  (Text.cutAt? mark cs).getD (cs, [])

def split (cs : List Char) : Except Error Url := do
  let (scheme, rest) := splitScheme (clean cs)
  let (host, rest) := splitHost rest
  Host.check host
  let (rest, fragment) := splitMark '#' rest
  let (path, query) := splitMark '?' rest
  return { scheme, host, path, query, fragment }

def ofText (s : String) : Except Error Url := split s.toList

/-- The bytes of an ASCII text, with percent escapes decoded and malformed ones left as they are. -/
def unescape : List Char → Text.Bytes
  | '%' :: a :: b :: rest =>
    match Text.hexNumber? [a, b] with
    | some n => UInt8.ofNat n :: unescape rest
    | none => 0x25 :: unescape (a :: b :: rest)
  | c :: rest => UInt8.ofNat c.toNat :: unescape rest
  | [] => []

def isAscii (c : Char) : Bool := c.toNat < 0x80

/-- Decodes the percent escapes of every run of ASCII characters on its own. -/
def decode (cs : List Char) : List Char :=
  match cs with
  | [] => []
  | c :: rest =>
    if isAscii c then
      Text.decodeUtf8Lossy (unescape (c :: rest.takeWhile isAscii)) ++
        decode (rest.dropWhile isAscii)
    else c :: decode rest
termination_by cs.length
decreasing_by
  · have := (List.dropWhile_suffix (l := rest) isAscii).length_le
    simp only [List.length_cons]
    omega
  · simp

end Url

def isHttpUrl (url : String) : Except Error Bool := do
  let parts ← Url.ofText url
  return parts.scheme = "http".toList || parts.scheme = "https".toList

/-- The path of a bare path or of a `file` url. A scheme of one letter is the drive of a path. -/
def localPath (url : String) : Except Error Path := do
  let parts ← Url.ofText url
  if parts.scheme = "file".toList then
    return Path.ofText (String.ofList (Url.decode parts.path))
  else if 1 < parts.scheme.length then
    throw (.unsupportedScheme (String.ofList parts.scheme) url)
  else return Path.ofText url

end CardDrawing
