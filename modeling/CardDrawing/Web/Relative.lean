import CardDrawing.Location.Url

/-!
# Relative references

What a reference means as seen from the resource that holds it. The last path segment may have
parameters after a semicolon, which are kept apart from the path.
-/

namespace CardDrawing.Web.Relative

/-- The schemes whose references may be relative. -/
def hierarchical : List String :=
  ["", "ftp", "http", "gopher", "nntp", "imap", "wais", "file", "https", "shttp", "mms",
    "prospero", "rtsp", "rtsps", "rtspu", "sftp", "svn", "svn+ssh", "ws", "wss"]

/-- The schemes whose paths may have parameters. -/
def parametrized : List String :=
  ["", "ftp", "hdl", "prospero", "http", "imap", "https", "shttp", "rtsp", "rtsps", "rtspu", "sip",
    "sips", "mms", "sftp", "tel"]

/-- The path and the parameters of its last segment. -/
def cutParameters (scheme path : List Char) : List Char × List Char :=
  let last := (path.reverse.takeWhile (· ≠ '/')).reverse
  match Text.cutAt? ';' last with
  | some (segment, parameters) =>
    if parametrized.contains (String.ofList scheme) then
      (path.take (path.length - last.length) ++ segment, parameters)
    else (path, [])
  | none => (path, [])

/-- A part with the mark before it, nothing if it is empty. -/
def marked (mark : List Char) (part : List Char) : List Char :=
  if part.isEmpty then [] else mark ++ part

/-- A host and the path after it. A path that is rooted has a host before it even if that is empty,
unless nothing tells a scheme. -/
def placeOf (hasScheme : Bool) (host path : List Char) : List Char :=
  let isRooted := path.isEmpty || path.head? = some '/'
  if !host.isEmpty then '/' :: '/' :: (host ++ if isRooted then path else '/' :: path)
  else if path.take 2 = ['/', '/'] || (hasScheme && isRooted) then '/' :: '/' :: path
  else path

def textOf (u : Url) (parameters : List Char) : List Char :=
  (if u.scheme.isEmpty then [] else u.scheme ++ [':']) ++
    placeOf (!u.scheme.isEmpty) u.host (u.path ++ marked [';'] parameters) ++
    marked ['?'] u.query ++ marked ['#'] u.fragment

/-! ## Paths -/

/-- The segments of a path as seen from the place of another one. An absolute path keeps its empty
segments; between those of two paths, empty ones are left out. -/
def segments (base path : List Char) : List (List Char) :=
  if path.head? = some '/' then Text.splitAt '/' path
  else
    let around := Text.splitAt '/' base
    let kept := if around.getLast? = some [] then around else around.dropLast
    match kept ++ Text.splitAt '/' path with
    | first :: rest =>
      first :: (rest.dropLast.filter (!·.isEmpty) ++ rest.getLast?.toList)
    | [] => []

/-- The segments without those that stay or go up; `kept` holds the last one first. -/
def climb (kept : List (List Char)) : List (List Char) → List (List Char)
  | [] => kept.reverse
  | segment :: rest =>
    if segment = ['.', '.'] then climb (kept.drop 1) rest
    else if segment = ['.'] then climb kept rest
    else climb (segment :: kept) rest

/-- A path as seen from the place of another one. One that ends by staying or going up ends with a
slash. -/
def pathFrom (base path : List Char) : List Char :=
  let all := segments base path
  let isFolder := all.getLast? = some ['.'] || all.getLast? = some ['.', '.']
  let joined := ['/'].intercalate (climb [] all ++ if isFolder then [[]] else [])
  if joined.isEmpty then ['/'] else joined

/-- What a reference means as seen from `base`. -/
def resolve (base reference : List Char) : Except Error (List Char) := do
  if reference.isEmpty then return base
  let b ← Url.split base
  let u ← Url.split reference
  let scheme := if u.scheme.isEmpty then b.scheme else u.scheme
  if scheme ≠ b.scheme || !hierarchical.contains (String.ofList scheme) then return reference
  let (path, parameters) := cutParameters scheme u.path
  if !u.host.isEmpty then return textOf { u with scheme, path } parameters
  let (basePath, baseParameters) := cutParameters b.scheme b.path
  if path.isEmpty && parameters.isEmpty then
    let query := if u.query.isEmpty then b.query else u.query
    return textOf { u with scheme, host := b.host, path := basePath, query } baseParameters
  return textOf { u with scheme, host := b.host, path := pathFrom basePath path } parameters

end CardDrawing.Web.Relative
