import CardDrawing.Trace
import CardDrawing.Web.Reference
import CardDrawing.Web.Relative

/-!
# Requests

A client asks the network for urls, and may follow redirections. Every request it sends is on
record. What answers is a function from urls, so that nothing here depends on a network.
-/

namespace CardDrawing.Web

open Text (Bytes)

structure Reply where
  status : Nat := 200
  location : Option String := none
  body : Bytes := []

/-- What answers a request: a reply, unless the host cannot be reached. -/
abbrev Network := String → Option Reply

structure Request where
  url : String
  agent : String
deriving DecidableEq, Repr

structure Client where
  /-- how the client names itself -/
  agent : String
  followsRedirects : Bool := true

def defaultAgent : String := "cardpress/0.1 (+python-httpx)"

def isSuccess (status : Nat) : Bool := 200 ≤ status && status < 300

/-- The statuses that send a client elsewhere. -/
def redirections : List Nat := [301, 302, 303, 307, 308]

/-- Where a reply sends its client. -/
def Reply.target? (r : Reply) : Option String :=
  if redirections.contains r.status then r.location else none

/-- Refuses a text with characters outside ASCII, which no header can hold. -/
def checkHeader (text : String) : Except Error Unit :=
  if text.toList.all Punycode.isBasic then .ok () else .error (.notAscii text)

/-- Where a url is asked for: a reference that tells no host is asked for at its bare path. -/
def requested (url : String) : Except Error Reference := do
  let r ← Reference.ofText url.toList
  if r.isAbsolute then return r else Reference.ofParts r.target

/-- A url up to its last number sign, or all of it if there is none. -/
def beforeLastTag (url : List Char) : List Char :=
  if url.contains '#' then ((url.reverse.dropWhile (· ≠ '#')).drop 1).reverse else url

/-- Refuses a request whose url names no scheme before its fragment. -/
def checkScheme (r : Reference) : Except Error Unit :=
  let text := Reference.text (if r.fragment = some [] then { r with fragment := none } else r)
  match Text.cutAt? ':' (beforeLastTag text) with
  | some (c :: scheme, _) =>
    if (c :: scheme).contains '/' then .error (.unknownUrlType (String.ofList text)) else .ok ()
  | _ => .error (.unknownUrlType (String.ofList text))

/-! ## Redirections -/

/-- A reference with the fragment of another one, its escapes decoded, unless it has one itself. -/
def withFragmentOf (asked r : Reference) : Except Error Reference :=
  match asked.fragment.getD [], r.fragment.getD [] with
  | [], _ | _, _ :: _ => .ok r
  | fragment, [] =>
    let decoded := Url.decode fragment
    match Reference.controlIn? 0 decoded with
    | some (c, place) => .error (.controlInUrlPart "fragment" c place)
    | none => Reference.ofParts { r.parts with fragment := some decoded }

/-- What a location means as seen from the reference that was asked for. A scheme without a host
stands for the host that was asked. -/
def located (r : Reference) (location : List Char) : Except Error Reference := do
  let url ← (Reference.ofText location).mapError fun _ => .outage .badProtocol
  let url ←
    if url.scheme.isEmpty then pure url
    else do
      HostName.checkShown url.host
      if url.host.isEmpty then
        HostName.checkShown r.host
        Reference.ofParts url.parts (some (Reference.shownHost r.host))
      else pure url
  let url ←
    if url.isAbsolute then pure url
    else do Reference.ofText (← Relative.resolve r.text url.text)
  let url ← withFragmentOf r url
  HostName.checkShown url.host
  HostName.checkShown r.host
  return url

/-- How many redirections a client follows. -/
def redirectLimit : Nat := 20

/-- Asks for `r`, and goes where the replies send it as long as `left` redirections are left. Where
a reply sends its client must make sense even if it does not go there. -/
def Client.follow (network : Network) (client : Client) (left : Nat) (r : Reference) :
    Trace Request Bytes := do
  let url := String.ofList r.text
  Trace.record { url, agent := client.agent }
  match network url with
  | none => throw (.outage .connection)
  | some reply =>
    Trace.lift (reply.location.forM checkHeader)
    Trace.lift (checkScheme r)
    match reply.target? with
    | some location =>
      let next ← Trace.lift (located r location.toList)
      if client.followsRedirects then
        match left with
        | 0 => throw (.outage .tooManyRedirects)
        | left + 1 => follow network client left next
      else throw (.outage .badStatus)
    | none => if isSuccess reply.status then return reply.body else throw (.outage .badStatus)
termination_by left

/-- The body of what a url leads to. -/
def Client.get (network : Network) (client : Client) (url : String) : Trace Request Bytes := do
  Trace.lift (checkHeader client.agent)
  client.follow network redirectLimit (← Trace.lift (requested url))

end CardDrawing.Web
