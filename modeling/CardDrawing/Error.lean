import CardDrawing.Value.Text
import CardDrawing.Text.Utf8
import CardDrawing.Web.Label.Fault

/-!
# Errors

One constructor per cause. `Error.kind` groups the causes as callers tell them apart, and
`Error.message` holds the whole wording.
-/

namespace CardDrawing

/-- What the outside world reports: the file system, the network, and the syntax of documents. -/
inductive Outage where
  | fileNotFound
  | isDirectory
  | notDirectory
  | fileExists
  | readFailure
  | unidentifiedImage
  | unsupportedMode
  | connection
  | badProtocol
  | tooManyRedirects
  | badStatus
  | badUrl
  | xmlSyntax
  | jsonSyntax
  | tomlSyntax
deriving DecidableEq, Repr

/-- What went wrong outside, in a few words. -/
def Outage.reason : Outage → String
  | fileNotFound => "no such file or directory"
  | isDirectory => "is a directory"
  | notDirectory => "not a directory"
  | fileExists => "file exists"
  | readFailure => "cannot be read"
  | unidentifiedImage => "not a picture of a known format"
  | unsupportedMode => "the format cannot hold the picture"
  | connection => "no connection"
  | badProtocol => "the reply cannot be followed"
  | tooManyRedirects => "too many redirections"
  | badStatus => "the request was refused"
  | badUrl => "the url cannot be requested"
  | xmlSyntax => "the markup is not well-formed"
  | jsonSyntax => "the document is not valid JSON"
  | tomlSyntax => "the document is not valid TOML"

/-- The two kinds of resources that primitives wait for. -/
inductive ResourceKind where
  | image
  | svg
deriving DecidableEq, Repr

def ResourceKind.name : ResourceKind → String
  | image => "image"
  | svg => "svg"

/-- The step of loading a resource that failed. -/
inductive LoadStep where
  | read
  | fetch
  | decode
  | parse
deriving DecidableEq, Repr

def LoadStep.name : LoadStep → String
  | read => "read"
  | fetch => "fetch"
  | decode => "decode"
  | parse => "parse"

/-- How errors are told apart by those who handle them. -/
inductive ErrorKind where
  | fieldData
  | unsupportedFieldType
  | fieldLookup
  | choiceLookup
  | missingReference
  | templateLookup
  | configuration
  | resourceResolution
  | value
  | type
  | overflow
  | missingAttribute
  | zeroDivision
  | runtime
  | encoding
  | characterEncoding
  | unusableEncoding
  | unknownName
  | oversize
  | label (what : Web.LabelFaultKind)
  | outage (what : Outage)
  | foreign (name : String)
deriving DecidableEq, Repr

/-- The kinds that the compiler itself reports. -/
def ErrorKind.isOwn : ErrorKind → Bool
  | fieldData | unsupportedFieldType | fieldLookup | choiceLookup | missingReference
  | templateLookup | configuration | resourceResolution => true
  | _ => false

inductive Error where
  -- the shape of templates, cards and field data
  | notObject (place : String)
  | notList (place : String)
  | choiceIndexShape (place : String)
  | mixedEntry (place : String) (keys : List String)
  | noTypeTag (place : String)
  | noRowSpec (place : String)
  | blankFieldId
  | rowSpecRequired (id : String)
  | templateExtent
  | keyMismatch (key id : String)
  | templateLacks (name : String)
  | schemeNotObject (id : String)
  | imageUrlNotText (id : String)
  | moreItemsThanRows (id : String) (items rows : Nat)
  | specRowLength (id : String) (row specs items : Nat)
  | notText (typeName : String)
  | noData (tag id : String)
  | dataNotObject (tag id : String)
  | dataNotList (tag id : String)
  | templateNotJson (name : String)
  | templateNotObject (name : String)
  | valueNotEditable (field attr : String)
  -- field types
  | unsupportedTag (tag : String)
  | invalidTag (tag : String)
  -- fields by name
  | noField (template id : String)
  | notOfType (name tag : String)
  -- choices
  | noChoices
  | choiceOutOfRange (index : Value) (count : Nat)
  | unsupportedChoiceIndex (index : Value)
  | choiceOfField (id : String) (why : Error)
  -- color references
  | referenceForm (reference : String)
  | noScheme (scheme reference : String)
  | noColor (key scheme : String)
  | nestedReference (scheme key value : String)
  -- templates by name
  | noTemplate (name : String)
  -- what was not configured
  | noImageFetcher
  | noSvgLoader
  | noTemplateSupplier
  | noCanvasSupplier
  | noPainter
  | templateSupplierIsAsync
  | editorNeedsSupplier
  | editorNeedsSyncSupplier
  | noTemplateDirectory
  -- resources
  | noUrl (kind : ResourceKind) (place : String)
  | unsupportedScheme (scheme url : String)
  | loadFailed (step : LoadStep) (kind : ResourceKind) (url : String) (cause : Error)
  -- numbers
  | floatText (text : String)
  | intText (text : String)
  | intBytes (text : Text.Bytes)
  | floatOfType (typeName : String)
  | intOfType (typeName : String)
  | intTooLarge
  | ratioTooLarge
  | nanToInt
  | infinityToInt
  | divisionByZero
  | floatDivisionByZero
  -- operations on values of the wrong type
  | noAttribute (typeName member : String)
  | notComparable (left right : String)
  | listIndexType (typeName : String)
  -- configuration values
  | fetchBound
  | fetchTimeout
  | logLevel
  | renderSectionNotTable
  | optionNotText (name : String)
  | badConfig (path : String) (why : Error)
  | configNotFound (path : String)
  | cardNotObject (path : String)
  -- pictures, colors and surfaces
  | surfaceExtent
  | unsupportedColor (color : String)
  | channelOutOfBounds (value : Int)
  | channelOverflow
  | unsupportedPrimitive (typeName : String)
  | boxOffset
  | boxBeyondImage
  | boxEmpty
  | rectangleRight
  | rectangleBottom
  | unknownExtension (extension : String)
  | pictureHeaderEnds
  | pictureFieldTooLong (field : Text.Bytes)
  | largestSample
  | pictureTooLarge (pixels limit : Nat)
  | pictureData
  | unknownEncoding (name : String)
  | notTextEncoding (name : String)
  | encodingFails (name why : String)
  | wideEncoding
  -- requests
  | urlTooLong
  | controlInUrl (c : Char) (place : Nat)
  | controlInUrlPart (part : String) (c : Char) (place : Nat)
  | invalidPort (port : String)
  | invalidFourByte (host : String)
  | invalidSixteenByte (host : String)
  | invalidHostName (host : String)
  | labelFault (why : Web.LabelFault)
  | pathNotRooted
  | pathStart (start : String)
  | unknownUrlType (url : String)
  | notAscii (text : String)
  | notAsciiByte (byte : UInt8) (position : Nat)
  -- documents and urls
  | svgRoot (tag : String)
  | bracketedHost
  | notAddress (host : String)
  | bracketedFourByte
  | futureAddress
  | hostLookalike (host : String)
  | embeddedNul
  | notUtf8 (position : Nat) (bytes : Text.Bytes) (why : Text.Utf8Fault)
  -- the outside world
  | outage (what : Outage)
  | foreign (kind : ErrorKind) (message : String)
  -- the command line
  | exit (code : Nat)
deriving Inhabited

namespace Error

def kind : Error → ErrorKind
  | notObject _ | notList _ | choiceIndexShape _ | mixedEntry _ _ | noTypeTag _ | noRowSpec _
  | blankFieldId | rowSpecRequired _ | templateExtent | keyMismatch _ _ | templateLacks _
  | schemeNotObject _ | imageUrlNotText _ | moreItemsThanRows _ _ _ | specRowLength _ _ _ _
  | notText _ | noData _ _ | dataNotObject _ _ | dataNotList _ _ | templateNotJson _
  | templateNotObject _ | valueNotEditable _ _ => .fieldData
  | unsupportedTag _ | invalidTag _ => .unsupportedFieldType
  | noField _ _ | notOfType _ _ => .fieldLookup
  | noChoices | choiceOutOfRange _ _ | unsupportedChoiceIndex _ | choiceOfField _ _ => .choiceLookup
  | referenceForm _ | noScheme _ _ | noColor _ _ | nestedReference _ _ _ => .missingReference
  | noTemplate _ => .templateLookup
  | noImageFetcher | noSvgLoader | noTemplateSupplier | noCanvasSupplier | noPainter
  | templateSupplierIsAsync | editorNeedsSupplier | editorNeedsSyncSupplier
  | noTemplateDirectory => .configuration
  | noUrl _ _ | unsupportedScheme _ _ | loadFailed _ _ _ _ => .resourceResolution
  | floatText _ | intText _ | intBytes _ | nanToInt | fetchBound | fetchTimeout | logLevel
  | renderSectionNotTable | optionNotText _ | badConfig _ _ | cardNotObject _ | surfaceExtent
  | unsupportedColor _ | boxOffset | boxBeyondImage | boxEmpty | rectangleRight
  | rectangleBottom | svgRoot _ | bracketedHost
  | notAddress _ | bracketedFourByte | futureAddress | hostLookalike _ | embeddedNul
  | unknownExtension _ | unknownUrlType _ | pictureHeaderEnds | pictureFieldTooLong _
  | largestSample | pictureData | wideEncoding => .value
  | pictureTooLarge _ _ => .oversize
  | floatOfType _ | intOfType _ | notComparable _ _ | listIndexType _
  | unsupportedPrimitive _ => .type
  | intTooLarge | ratioTooLarge | infinityToInt | channelOutOfBounds _ => .overflow
  | noAttribute _ _ => .missingAttribute
  | divisionByZero | floatDivisionByZero => .zeroDivision
  | channelOverflow => .runtime
  | notUtf8 _ _ _ | notAsciiByte _ _ => .encoding
  | configNotFound _ => .outage .fileNotFound
  | outage what => .outage what
  | foreign kind _ => kind
  | unknownEncoding _ | notTextEncoding _ => .unknownName
  | encodingFails _ _ => .unusableEncoding
  | urlTooLong | controlInUrl _ _ | controlInUrlPart _ _ _ | invalidPort _ | invalidFourByte _
  | invalidSixteenByte _ | invalidHostName _ | pathNotRooted | pathStart _ => .outage .badUrl
  | labelFault why => .label why.kind
  | notAscii _ => .characterEncoding
  | exit _ => .foreign "SystemExit"

/-- The log levels that a configuration may name. -/
def logLevels : List String := ["DEBUG", "INFO", "WARNING", "ERROR", "CRITICAL"]

/-- How a message names ill-formed bytes: one by its value, several by their positions. -/
def illFormedPlace (position : Nat) : Text.Bytes → String
  | [b] => s!"byte 0x{String.ofList (Text.hex 2 b.toNat)} in position {position}"
  | bytes => s!"bytes in position {position}-{position + bytes.length - 1}"

/-- A character as an escape by its number. -/
def numberEscape (c : Char) : String :=
  let n := c.toNat
  String.ofList ('\\' ::
    if n < 0x100 then 'x' :: Text.hex 2 n
    else if n < 0x10000 then 'u' :: Text.hex 4 n
    else 'U' :: Text.hex 8 n)

/-- How a message names the first characters outside ASCII: one by its number, several by their
positions. -/
def foreignPlace (cs : List Char) : String :=
  let isAscii (c : Char) : Bool := c.toNat < 0x80
  let position := (cs.takeWhile isAscii).length
  match (cs.dropWhile isAscii).takeWhile (!isAscii ·) with
  | [c] => s!"character '{numberEscape c}' in position {position}"
  | run => s!"characters in position {position}-{position + run.length - 1}"

/-- The wording of an error. Reports of the outside world have no wording of their own here: a
message that ends with one stops before it. -/
def message : Error → String
  | notObject place => s!"{place} must be an object"
  | notList place => s!"{place} must be a list"
  | choiceIndexShape place => s!"{place} must be an integer or a list of integers"
  | mixedEntry place keys =>
    s!"{place} mixes a non-mapping value with inline keys: " ++ ", ".intercalate keys
  | noTypeTag place => s!"{place} must be a non-empty string"
  | noRowSpec place => s!"{place} is required"
  | blankFieldId => "field id must be non-empty"
  | rowSpecRequired id => s!"key-val-list field `{id}` requires keyValSpec"
  | templateExtent => "template width/height must be > 0"
  | keyMismatch key id => s!"field key `{key}` does not match field id `{id}`"
  | templateLacks name => s!"template missing required field: {name}"
  | schemeNotObject id => s!"color scheme `{id}` must resolve to an object of colors"
  | imageUrlNotText id => s!"image `{id}` url must be a string"
  | moreItemsThanRows id items rows =>
    s!"multi-image `{id}` has {items} items but only {rows} spec rows"
  | specRowLength id row specs items =>
    s!"multi-image `{id}` spec row {row} has {specs} specs for {items} items"
  | notText typeName => s!"text data must be an object with `text`, got {typeName}"
  | noData tag id => s!"{tag} field `{id}` has no data"
  | dataNotObject tag id => s!"{tag} field `{id}` data must be an object"
  | dataNotList tag id => s!"{tag} field `{id}` data must be a list"
  | templateNotJson name => s!"template `{name}` is not valid JSON: "
  | templateNotObject name => s!"template `{name}` must be a JSON object"
  | valueNotEditable field attr =>
    s!"data for field `{field}` is not an object; cannot set `{attr}`"
  | unsupportedTag tag => s!"Unsupported field type: {tag}"
  | invalidTag tag => s!"Invalid field type: {tag}"
  | noField template id => s!"template `{template}` has no field `{id}`"
  | notOfType name tag => s!"invalid field name: `{name}` is not a `{tag}` field"
  | noChoices => "choiceIndex is set but the field has no choices"
  | choiceOutOfRange index count =>
    s!"choiceIndex {index.shown} out of range for {count} choices"
  | unsupportedChoiceIndex index => s!"unsupported choiceIndex: {index.quoted}"
  | choiceOfField id why => s!"field `{id}`: " ++ why.message
  | referenceForm reference => s!"color reference `{reference}` must use $<scheme>.<key>"
  | noScheme scheme reference =>
    s!"color scheme `{scheme}` not found (referenced by `{reference}`)"
  | noColor key scheme => s!"color `{key}` not found in scheme `{scheme}`"
  | nestedReference scheme key value =>
    s!"color `{scheme}.{key}` references another scheme (`{value}`); " ++
      "nested references are not supported"
  | noTemplate name => s!"Template not found: {name}"
  | noImageFetcher => "image fetcher not set"
  | noSvgLoader => "svg loader not set"
  | noTemplateSupplier => "template supplier not set"
  | noCanvasSupplier => "canvas supplier not set"
  | noPainter => "painter not set"
  | templateSupplierIsAsync => "template supplier is asynchronous; use the async render methods"
  | editorNeedsSupplier => "Template supplier not set"
  | editorNeedsSyncSupplier => "CardWrapper requires a synchronous template supplier"
  | noTemplateDirectory =>
    "a template directory is required (--templates or template_dir in --config)"
  | noUrl kind place => s!"No url provided for {kind.name} {place}"
  | unsupportedScheme scheme url => s!"unsupported url scheme `{scheme}` for `{url}`"
  | loadFailed step kind url cause =>
    s!"could not {step.name} {kind.name} `{url}`: " ++ cause.message
  | floatText text => "could not convert string to float: " ++ Text.quoted text
  | intText text => "invalid literal for int() with base 10: " ++ Text.quoted text
  | intBytes text => "invalid literal for int() with base 10: " ++ Text.quotedBytes text
  | floatOfType typeName =>
    s!"float() argument must be a string or a real number, not '{typeName}'"
  | intOfType typeName =>
    "int() argument must be a string, a bytes-like object or a real number, not " ++
      s!"'{typeName}'"
  | intTooLarge => "int too large to convert to float"
  | ratioTooLarge => "integer division result too large for a float"
  | nanToInt => "cannot convert float NaN to integer"
  | infinityToInt => "cannot convert float infinity to integer"
  | divisionByZero => "division by zero"
  | floatDivisionByZero => "float division by zero"
  | noAttribute typeName member => s!"'{typeName}' object has no attribute '{member}'"
  | notComparable left right =>
    s!"'<' not supported between instances of '{left}' and '{right}'"
  | listIndexType typeName => s!"list indices must be integers or slices, not {typeName}"
  | fetchBound => "max_concurrent_fetches must be > 0"
  | fetchTimeout => "fetch_timeout_s must be > 0"
  | logLevel => "log_level must be one of: " ++ ", ".intercalate logLevels
  | renderSectionNotTable => "[render] must be a table"
  | optionNotText name => s!"{name} must be a string if provided"
  | badConfig path why => s!"invalid render config {path}: " ++ why.message
  | configNotFound path => s!"render config not found: {path}"
  | cardNotObject path => s!"card document must be a JSON object: {path}"
  | surfaceExtent => "surface width/height must be > 0"
  | unsupportedColor color => s!"unsupported color `{color}`"
  | channelOutOfBounds value => s!"Python integer {value} out of bounds for uint8"
  | channelOverflow => "value cannot be converted to type uint8_t without overflow"
  | unsupportedPrimitive typeName => s!"unsupported primitive: {typeName}"
  | boxOffset => "box offset can't be negative"
  | boxBeyondImage => "box can't exceed original image size"
  | boxEmpty => "box can't be empty"
  | rectangleRight => "x1 must be greater than or equal to x0"
  | rectangleBottom => "y1 must be greater than or equal to y0"
  | svgRoot tag => s!"expected <svg> root element, got <{tag}>"
  | bracketedHost => "Invalid IPv6 URL"
  | notAddress host => Text.quoted host ++ " does not appear to be an IPv4 or IPv6 address"
  | bracketedFourByte => "An IPv4 address cannot be in brackets"
  | futureAddress => "IPvFuture address is invalid"
  | hostLookalike host => s!"netloc '{host}' contains invalid characters under NFKC normalization"
  | embeddedNul => "embedded null byte"
  | unknownExtension extension => s!"unknown file extension: {extension}"
  | pictureHeaderEnds => "Reached EOF while reading header"
  | pictureFieldTooLong field =>
    Text.quotedBytes (Text.encodeUtf8 "Token too long in file header: " ++ field)
  | largestSample => "maxval must be greater than 0 and less than 65536"
  | pictureTooLarge pixels limit =>
    s!"Image size ({pixels} pixels) exceeds limit of {limit} pixels, " ++
      "could be decompression bomb DOS attack."
  | pictureData => "not enough image data"
  | unknownEncoding name => s!"unknown encoding: {name}"
  | notTextEncoding name =>
    s!"'{name}' is not a text encoding; use codecs.decode() to handle arbitrary codecs"
  | encodingFails name why => s!"decoding with '{name}' codec failed (UnicodeError: {why})"
  | wideEncoding => "multi-byte encodings are not supported"
  | controlInUrl c place =>
    "Invalid non-printable ASCII character in URL, " ++ Text.quoted (String.singleton c) ++
      s!" at position {place}."
  | controlInUrlPart part c place =>
    s!"Invalid non-printable ASCII character in URL {part} component, " ++
      Text.quoted (String.singleton c) ++ s!" at position {place}."
  | urlTooLong => "URL too long"
  | invalidPort port => "Invalid port: " ++ Text.quoted port
  | invalidFourByte host => "Invalid IPv4 address: " ++ Text.quoted host
  | invalidSixteenByte host => "Invalid IPv6 address: " ++ Text.quoted host
  | invalidHostName host => "Invalid IDNA hostname: " ++ Text.quoted host
  | labelFault why => why.message
  | pathNotRooted => "For absolute URLs, path must be empty or begin with '/'"
  | pathStart start => s!"Relative URLs cannot have a path starting with '{start}'"
  | unknownUrlType url => "unknown url type: " ++ Text.quoted url
  | notAscii text => "'ascii' codec can't encode " ++ foreignPlace text.toList ++
      ": ordinal not in range(128)"
  | notAsciiByte byte position => "'ascii' codec can't decode " ++ illFormedPlace position [byte] ++
      ": ordinal not in range(128)"
  | notUtf8 position bytes why =>
    "'utf-8' codec can't decode " ++ illFormedPlace position bytes ++ ": " ++ why.reason
  | outage _ => ""
  | foreign _ text => text
  | exit code => toString code

/-- The report of the outside world that an error passes on. -/
def cause? : Error → Option Outage
  | templateNotJson _ => some .jsonSyntax
  | loadFailed _ _ _ (outage what) => some what
  | _ => none

/-- The report of the outside world that is missing at the end of a message. -/
def outage? : Error → Option Outage
  | outage what => some what
  | why => why.cause?

end Error

end CardDrawing
