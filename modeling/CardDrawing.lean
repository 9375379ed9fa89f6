import CardDrawing.Build.Basic
import CardDrawing.Build.Compiler
import CardDrawing.Build.Concurrent
import CardDrawing.Card.Basic
import CardDrawing.Card.Resolution
import CardDrawing.Color.Names
import CardDrawing.Color.Reader
import CardDrawing.CommandLine.Job
import CardDrawing.CommandLine.Run
import CardDrawing.CommandLine.Word
import CardDrawing.Configuration.Basic
import CardDrawing.Configuration.Reader
import CardDrawing.Configuration.Wiring
import CardDrawing.Decimal.Nearest
import CardDrawing.Decimal.Shortest
import CardDrawing.Editor
import CardDrawing.Error
import CardDrawing.Expansion
import CardDrawing.Field.Basic
import CardDrawing.Field.Reader
import CardDrawing.Font
import CardDrawing.Json.Reader
import CardDrawing.Json.Writer
import CardDrawing.Keyed
import CardDrawing.Loading
import CardDrawing.Location.Files
import CardDrawing.Location.Host
import CardDrawing.Location.Path
import CardDrawing.Location.Url
import CardDrawing.Main
import CardDrawing.Number
import CardDrawing.Paint.Bench
import CardDrawing.Paint.Call
import CardDrawing.Paint.Crop
import CardDrawing.Paint.Plan
import CardDrawing.Paint.Stroke
import CardDrawing.Paint.Typeface
import CardDrawing.Paint.Wrap
import CardDrawing.Palette
import CardDrawing.Picture.Canvas
import CardDrawing.Picture.Format
import CardDrawing.Picture.Netpbm
import CardDrawing.Picture.Netpbm.Header
import CardDrawing.Picture.Png
import CardDrawing.Picture.Scale
import CardDrawing.Picture.Turn
import CardDrawing.Pixel
import CardDrawing.Primitive
import CardDrawing.Primitive.Record
import CardDrawing.Raster
import CardDrawing.Renderer
import CardDrawing.Resource
import CardDrawing.Scalar
import CardDrawing.Schedule.Basic
import CardDrawing.Schedule.Clock
import CardDrawing.Schedule.History
import CardDrawing.Surface.Basic
import CardDrawing.Surface.Blend
import CardDrawing.Svg.Document
import CardDrawing.Svg.Drawing
import CardDrawing.Svg.Reader
import CardDrawing.Template
import CardDrawing.Template.Store
import CardDrawing.Text.Blank
import CardDrawing.Text.Case
import CardDrawing.Text.Charset.Basic
import CardDrawing.Text.Charset.Catalog
import CardDrawing.Text.Charset.Dos
import CardDrawing.Text.Charset.Macintosh
import CardDrawing.Text.Charset.Regional
import CardDrawing.Text.Charset.Standard
import CardDrawing.Text.Charset.Windows
import CardDrawing.Text.Classes
import CardDrawing.Text.Cut
import CardDrawing.Text.Printable
import CardDrawing.Text.Quoted
import CardDrawing.Text.Sigma
import CardDrawing.Text.Utf8
import CardDrawing.Toml.Item
import CardDrawing.Toml.Moment
import CardDrawing.Toml.Reader
import CardDrawing.Toml.Table
import CardDrawing.Trace
import CardDrawing.Value.Basic
import CardDrawing.Value.Conversion
import CardDrawing.Value.Text
import CardDrawing.Web.Client
import CardDrawing.Web.Escape
import CardDrawing.Web.HostName
import CardDrawing.Web.Label.Basic
import CardDrawing.Web.Label.Composition
import CardDrawing.Web.Label.Direction
import CardDrawing.Web.Label.Fault
import CardDrawing.Web.Label.Joining
import CardDrawing.Web.Label.Letters
import CardDrawing.Web.Label.Marks
import CardDrawing.Web.Label.Punycode
import CardDrawing.Web.Label.Scripts
import CardDrawing.Web.Reference
import CardDrawing.Web.Relative
import CardDrawing.Xml.Characters
import CardDrawing.Xml.Content
import CardDrawing.Xml.Declaration
import CardDrawing.Xml.DocumentType.Basic
import CardDrawing.Xml.DocumentType.Declaration
import CardDrawing.Xml.DocumentType.Lexeme
import CardDrawing.Xml.Element
import CardDrawing.Xml.Encoding
import CardDrawing.Xml.Name
import CardDrawing.Xml.Prolog
import CardDrawing.Xml.Reader
import CardDrawing.Xml.Reference
import CardDrawing.Xml.Space
import CardDrawing.Xml.Token
import CardDrawing.Proofs.ScheduleSteps
import CardDrawing.Proofs.ScheduleSafety
import CardDrawing.Proofs.ScheduleClock
import CardDrawing.Proofs.ScheduleFailure
import CardDrawing.Proofs.ScheduleOrder
import CardDrawing.Proofs.ScheduleConservation
import CardDrawing.Proofs.BuildAgreement
import CardDrawing.Proofs.BuildFetching
import CardDrawing.Proofs.BuildRefusal
import CardDrawing.Proofs.ScheduleTimes
import CardDrawing.Proofs.ScheduleClockwork
import CardDrawing.Proofs.ScheduleSpeed
import CardDrawing.Proofs.BuildShape
import CardDrawing.Proofs.BuildLoads
import CardDrawing.Proofs.BuildPace
import CardDrawing.Proofs.KeyedEntries
import CardDrawing.Proofs.ColorReferences
import CardDrawing.Proofs.PaletteTable
import CardDrawing.Proofs.FieldColors
import CardDrawing.Proofs.BuildColors
import CardDrawing.Proofs.SchemePlacement
import CardDrawing.Proofs.BuildIsolation
import CardDrawing.Proofs.Failures
import CardDrawing.Proofs.ReadFailures
import CardDrawing.Proofs.BuildFailures
import CardDrawing.Proofs.EditorCalls
import CardDrawing.Proofs.EditorHistory
import CardDrawing.Proofs.Overrides
import CardDrawing.Proofs.EditedValues
import CardDrawing.Proofs.CardRoundTrip
import CardDrawing.Proofs.RendererSteps
import CardDrawing.Proofs.OverrideLaws
import CardDrawing.Proofs.FolderSessions
import CardDrawing.Proofs.ColorValues
import CardDrawing.Proofs.PaintFailures
import CardDrawing.Proofs.FieldIdentity
import CardDrawing.Proofs.NumberFailures
import CardDrawing.Proofs.BuildChecks
import CardDrawing.Proofs.LaidOver
import CardDrawing.Proofs.EffectiveValues
import CardDrawing.Proofs.ListLayout
import CardDrawing.Proofs.PictureLayout
import CardDrawing.Proofs.FieldReading
import CardDrawing.Proofs.TemplateParts
import CardDrawing.Proofs.TypeNames
import CardDrawing.Proofs.EntryShorthand
import CardDrawing.Proofs.SurfaceClipping
import CardDrawing.Proofs.ExactArithmetic
import CardDrawing.Proofs.Compositing
import CardDrawing.Proofs.WordWrapping
import CardDrawing.Proofs.CropGeometry
import CardDrawing.Proofs.CropLegality
import CardDrawing.Proofs.DocumentMarks
import CardDrawing.Proofs.DocumentUnits
import CardDrawing.Proofs.ShapeGrouping
import CardDrawing.Proofs.ColorOpacity
import CardDrawing.Proofs.DocumentFailures
import CardDrawing.Proofs.PictureFetching
import CardDrawing.Proofs.ColorRange
import CardDrawing.Proofs.ConfigurationChecks
import CardDrawing.Proofs.WireRecords
import CardDrawing.Proofs.Utf8Coding
import CardDrawing.Proofs.FileUrls
import CardDrawing.Proofs.SpacedTexts
import CardDrawing.Proofs.PointPairs
import CardDrawing.Proofs.StyleCascade
import CardDrawing.Proofs.SizeWords
import CardDrawing.Proofs.FontShorthand
import CardDrawing.Proofs.DoubleUnits
import CardDrawing.Proofs.ExactNumbers
import CardDrawing.Proofs.ThinLines
import CardDrawing.Proofs.StrokeMasks
