import QuadrantChart.Text.Basic
import QuadrantChart.Text.Printable
import QuadrantChart.Text.Digits
import QuadrantChart.Text.Escape
import QuadrantChart.Text.Encoding
import QuadrantChart.Text.Utf8
import QuadrantChart.Binary64.Basic
import QuadrantChart.Binary64.Arithmetic
import QuadrantChart.Binary64.Length
import QuadrantChart.Binary64.Decimal
import QuadrantChart.Binary64.Written
import QuadrantChart.Binary64.Reading
import QuadrantChart.Number.Basic
import QuadrantChart.Fault
import QuadrantChart.Number.Arithmetic
import QuadrantChart.Chart.Basic
import QuadrantChart.Source.Point
import QuadrantChart.Source.Line
import QuadrantChart.Source.Basic
import QuadrantChart.Layout.Config
import QuadrantChart.Layout.Shape
import QuadrantChart.Layout.Basic
import QuadrantChart.Calendar.Date
import QuadrantChart.Calendar.Moment
import QuadrantChart.Diagram.Element
import QuadrantChart.Diagram.Cell
import QuadrantChart.Diagram.Document
import QuadrantChart.Preview.StyleTable
import QuadrantChart.Preview.Dash
import QuadrantChart.Preview.Basic
import QuadrantChart.Command.Cheatsheet
import QuadrantChart.Command.CommandLine
import QuadrantChart.Command.Help
import QuadrantChart.File.Path
import QuadrantChart.File.Tree
import QuadrantChart.Command.Report
import QuadrantChart.Command.Interaction
import QuadrantChart.Command.ChartRequest
import QuadrantChart.Command.Invocation
import QuadrantChart.Command.Run
import QuadrantChart.Command.Process
import QuadrantChart.Main
import QuadrantChart.Proofs.Binary64.Rounding
import QuadrantChart.Proofs.Binary64.Shortest
import QuadrantChart.Proofs.Binary64.Numeral
import QuadrantChart.Proofs.Binary64.RoundTrip
import QuadrantChart.Proofs.Number.Geometry
import QuadrantChart.Proofs.Markup.Indentation
import QuadrantChart.Proofs.Markup.ReadWritten
import QuadrantChart.Proofs.Diagram.Cell
import QuadrantChart.Proofs.Diagram.Invariant
import QuadrantChart.Proofs.Diagram.Growth
import QuadrantChart.Proofs.Diagram.Serialization
import QuadrantChart.Proofs.Diagram.Observation
import QuadrantChart.Proofs.Source.Directive
import QuadrantChart.Proofs.Source.Meaning
import QuadrantChart.Proofs.Text.Trim
import QuadrantChart.Proofs.Chart.Coordinates
import QuadrantChart.Proofs.Source.WellFormed
import QuadrantChart.Proofs.Layout.Shapes
import QuadrantChart.Proofs.Layout.Dimensions
import QuadrantChart.Proofs.Layout.Style
import QuadrantChart.Proofs.Diagram.Content
import QuadrantChart.Proofs.Diagram.ChartContent
import QuadrantChart.Proofs.File.Tree
import QuadrantChart.Proofs.Command.Printing
import QuadrantChart.Proofs.Command.Ending
import QuadrantChart.Proofs.Command.Conversion
import QuadrantChart.Proofs.Markup.Grammar
import QuadrantChart.Proofs.Markup.Legal
import QuadrantChart.Proofs.Diagram.LegalDocument
import QuadrantChart.Proofs.Binary64.Amount
import QuadrantChart.Proofs.Number.Sum
import QuadrantChart.Proofs.Preview.Drawing
import QuadrantChart.Proofs.Layout.Extent
import QuadrantChart.Proofs.Number.Amount
import QuadrantChart.Proofs.Layout.Role
import QuadrantChart.Proofs.Preview.Agreement
import QuadrantChart.Proofs.Text.Split
import QuadrantChart.Proofs.Source.Decimal
import QuadrantChart.Proofs.Source.Written
import QuadrantChart.Proofs.File.Path
import QuadrantChart.Proofs.Command.Accounted
import QuadrantChart.Proofs.Layout.Placement
import QuadrantChart.Proofs.Command.Arguments
import QuadrantChart.Proofs.Source.LineEnds
import QuadrantChart.Proofs.Text.Utf8
import QuadrantChart.Proofs.Command.Channels
import QuadrantChart.Proofs.Command.ChannelAgreement
import QuadrantChart.Proofs.Json.ReadWritten
import QuadrantChart.Proofs.Command.JsonReport
import QuadrantChart.Proofs.Command.Unreadable
import QuadrantChart.Proofs.Command.Verbose
import QuadrantChart.Proofs.Binary64.Shift
import QuadrantChart.Proofs.Layout.Drawable
import QuadrantChart.Proofs.Number.Shift
import QuadrantChart.Proofs.Diagram.FiniteDocument
import QuadrantChart.Proofs.Number.Scale
import QuadrantChart.Proofs.Preview.Measured
import QuadrantChart.Proofs.Preview.Sizes
import QuadrantChart.Proofs.Command.PreviewNumbers
import QuadrantChart.Proofs.Diagram.Stamp
import QuadrantChart.Proofs.Source.PointRule
import QuadrantChart.Proofs.Source.Search
import QuadrantChart.Proofs.Source.SkipLog
import QuadrantChart.Proofs.Source.Order
import QuadrantChart.Proofs.Binary64.Nearest
import QuadrantChart.Proofs.Binary64.FewestDigits
import QuadrantChart.Proofs.Binary64.PlainText
import QuadrantChart.Proofs.Number.GeometryText
import QuadrantChart.Proofs.Calendar.DayNumber
import QuadrantChart.Proofs.Calendar.Stamp
import QuadrantChart.Proofs.Number.Order
import QuadrantChart.Proofs.Layout.Position
import QuadrantChart.Proofs.Number.Whole
import QuadrantChart.Proofs.Layout.WholeCanvas
import QuadrantChart.Proofs.Preview.Dashes
import QuadrantChart.Proofs.Preview.Dividers
import QuadrantChart.Proofs.Preview.StyleTable
import QuadrantChart.Proofs.Chart.Clamping
import QuadrantChart.Proofs.Preview.FontCache
import QuadrantChart.Proofs.Binary64.Extent
import QuadrantChart.Proofs.Number.UpTo
import QuadrantChart.Proofs.Preview.DashReach
import QuadrantChart.Proofs.Preview.Endless
import QuadrantChart.Proofs.Preview.DividerReach
import QuadrantChart.Proofs.Preview.DashOrder
import QuadrantChart.Proofs.Number.Sixteenths
import QuadrantChart.Proofs.Preview.InkPlacement
