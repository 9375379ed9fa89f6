import CardDrawing.Location.Files
import CardDrawing.Location.Url
import CardDrawing.Picture.Netpbm
import CardDrawing.Renderer
import CardDrawing.Svg.Reader
import CardDrawing.Web.Client
import CardDrawing.Xml.Reader

/-!
# Loading resources

Pictures and vector documents are loaded from files and from the network. What the outside world
reports on the way becomes the failure of a step of loading, with the url that was asked for.
-/

namespace CardDrawing.Loading

open Text (Bytes)
open Web (Client Network Request)

/-- Where resources are loaded from. -/
structure Places where
  files : Files
  network : Network

/-- Turns reports of the outside world into the failure of a step. -/
def duringStep {α : Type} (step : LoadStep) (kind : ResourceKind) (url : String)
    (result : Except Error α) : Except Error α :=
  match result with
  | .error (.outage what) => .error (.loadFailed step kind url (.outage what))
  | result => result

/-- The bytes of the file that a path or a `file` url names. -/
def readLocal (kind : ResourceKind) (files : Files) (url : String) : Except Error Bytes := do
  let path ← localPath url
  duringStep .read kind url (files.read path)

/-- The bytes that the network has for a url. -/
def fetch (kind : ResourceKind) (network : Network) (client : Client) (url : String) :
    Trace Request Bytes := do
  let (result, requests) := (client.get network url).run
  modify (· ++ requests)
  Trace.lift (duringStep .fetch kind url result)

/-- The bytes for a url, from the network if it is one of the web. -/
def bytesFor (kind : ResourceKind) (places : Places) (client : Client) (url : String) :
    Trace Request Bytes := do
  if ← Trace.lift (isHttpUrl url) then fetch kind places.network client url
  else Trace.lift (readLocal kind places.files url)

/-! ## Pictures -/

/-- The picture in bytes that were loaded for `source`. Portable pixmaps are the only format that is
decoded; bytes of any other one, which a decoder of more formats may well read, count as an
unidentified picture. -/
def decodePicture (source : String) (bytes : Bytes) : Except Error Picture :=
  duringStep .decode .image source (Netpbm.decode bytes)

def localPicture (files : Files) (url : String) : Except Error Picture := do
  decodePicture url (← readLocal .image files url)

def webPicture (network : Network) (client : Client) (url : String) : Trace Request Picture := do
  Trace.lift (decodePicture url (← fetch .image network client url))

/-! ## Fetchers of pictures

Urls of the web are sent to one fetcher, and all others to one that reads files. The fetcher of the
web can be asked by those who wait for its reply and by those who go on with other work.
-/

/-- Where the urls of pictures are sent to. -/
structure Fetchers (κ α : Type) where
  web : Patience → String → Trace κ α
  file : String → Trace κ α

/-- Sends a url to the fetcher for it. -/
def Fetchers.fetch {κ α : Type} (f : Fetchers κ α) (patience : Patience) (url : String) :
    Trace κ α := do
  if ← Trace.lift (isHttpUrl url) then f.web patience url else f.file url

/-- The fetchers of the files and of the network at hand. The network answers everyone alike. -/
def fetchers (places : Places) (client : Client) : Fetchers Request Picture where
  web _ := webPicture places.network client
  file url := Trace.lift (localPicture places.files url)

/-! ## Vector documents -/

/-- Whether a failure says that a document is malformed. -/
def isMalformed (why : Error) : Bool :=
  match why.kind with
  | .value | .encoding | .unusableEncoding | .outage .xmlSyntax => true
  | _ => false

def parseDocument (source : String) (bytes : Bytes) : Except Error (Svg.Document Float) :=
  match (Xml.readBytes bytes).bind Svg.Document.ofElement with
  | .ok d => .ok d
  | .error why =>
    .error (if isMalformed why then .loadFailed .parse .svg source why else why)

def document (places : Places) (client : Client) (url : String) :
    Trace Request (Svg.Document Float) := do
  Trace.lift (parseDocument url (← bytesFor .svg places client url))

end CardDrawing.Loading
