import MediaSearch.Calendar.Date
import MediaSearch.Calendar.Iso
import MediaSearch.Calendar.IsoReader
import MediaSearch.Calendar.WallTime
import MediaSearch.Calendar.Zone
import MediaSearch.Calendar.ZoneNames
import MediaSearch.Calendar.Zones.America
import MediaSearch.Calendar.Zones.Asia
import MediaSearch.Calendar.Zones.Elsewhere
import MediaSearch.Calendar.Zones.Europe
import MediaSearch.Cli.Cells
import MediaSearch.Cli.Command
import MediaSearch.Cli.Console
import MediaSearch.Cli.Functions
import MediaSearch.Cli.InitConfig
import MediaSearch.Cli.Options
import MediaSearch.Cli.Outcome
import MediaSearch.Cli.ParseTime
import MediaSearch.Cli.Reference
import MediaSearch.Cli.Run
import MediaSearch.Cli.Search
import MediaSearch.Cli.Suggest
import MediaSearch.Config.Basic
import MediaSearch.Config.Load
import MediaSearch.Config.Template
import MediaSearch.Decimal.Binary64
import MediaSearch.Decimal.Shortest
import MediaSearch.Files.Access
import MediaSearch.Files.Path
import MediaSearch.Files.Tree
import MediaSearch.Item.Basic
import MediaSearch.Item.FormatError
import MediaSearch.Item.Json
import MediaSearch.Item.MediaKind
import MediaSearch.Item.Metadata
import MediaSearch.Item.Text
import MediaSearch.Json.Display
import MediaSearch.Json.Printer
import MediaSearch.Json.Reader
import MediaSearch.Json.Value
import MediaSearch.Keyed
import MediaSearch.Main
import MediaSearch.Markup.CharRef
import MediaSearch.Markup.Lexer
import MediaSearch.Markup.PlainText
import MediaSearch.Markup.References
import MediaSearch.Markup.Token
import MediaSearch.Query.Eval
import MediaSearch.Query.Expr
import MediaSearch.Query.Function
import MediaSearch.Query.Lexer
import MediaSearch.Query.Page
import MediaSearch.Query.Parser
import MediaSearch.Query.Rejection
import MediaSearch.Query.Search
import MediaSearch.Query.Shown
import MediaSearch.Query.Token
import MediaSearch.Text.Blank
import MediaSearch.Text.CaseTables
import MediaSearch.Text.Digits
import MediaSearch.Text.Find
import MediaSearch.Text.Lower
import MediaSearch.Text.Pieces
import MediaSearch.Text.PrintableTable
import MediaSearch.Text.Quoted
import MediaSearch.Text.Search
import MediaSearch.Text.Taken
import MediaSearch.TimeSpec
import MediaSearch.TimeString.Format
import MediaSearch.TimeString.Meaning
import MediaSearch.TimeString.Resolve
import MediaSearch.Toml.Document
import MediaSearch.Toml.Nest
import MediaSearch.Toml.Printer
import MediaSearch.Toml.Reader
import MediaSearch.Toml.Scalar
import MediaSearch.Toml.Text
import MediaSearch.Toml.Value
import MediaSearch.WorkDir
import MediaSearch.Proofs.Calendar.DayNumber
import MediaSearch.Proofs.Query.Grammar
import MediaSearch.Proofs.Query.Paging
import MediaSearch.Proofs.Text.LowerAscii
import MediaSearch.Proofs.Text.Readers
import MediaSearch.Proofs.Text.Search
import MediaSearch.Proofs.Text.Pattern
import MediaSearch.Proofs.TimeString.Shape
import MediaSearch.Proofs.Except
import MediaSearch.Proofs.TimeString.Kind
import MediaSearch.Proofs.TimeString.Exclusive
import MediaSearch.Proofs.TimeString.Span
import MediaSearch.Proofs.TimeString.Outcome
import MediaSearch.Proofs.TimeString.Moment
import MediaSearch.Proofs.TimeString.Escape
import MediaSearch.Proofs.Query.Failing
import MediaSearch.Proofs.Query.Part
import MediaSearch.Proofs.Query.During
import MediaSearch.Proofs.Query.Rendering
import MediaSearch.Proofs.Query.Terminals
import MediaSearch.Proofs.Query.Testing
import MediaSearch.Proofs.Query.Meaning
import MediaSearch.Proofs.Json.Extends
import MediaSearch.Proofs.Item.RoundTrip
import MediaSearch.Proofs.Keyed
import MediaSearch.Proofs.WorkDir.Reload
import MediaSearch.Proofs.Calendar.Regular
import MediaSearch.Proofs.Calendar.Settled
import MediaSearch.Proofs.TimeString.Row
import MediaSearch.Proofs.TimeString.Tiling
import MediaSearch.Proofs.TimeString.AroundNow
import MediaSearch.Proofs.Config.Loading
import MediaSearch.Proofs.Toml.Lines
import MediaSearch.Proofs.Text.Pieces
import MediaSearch.Proofs.Config.Seeded
import MediaSearch.Proofs.Files.Kept
import MediaSearch.Proofs.Cli.InitConfig
import MediaSearch.Proofs.Query.Scanning
import MediaSearch.Proofs.WorkDir.LastEntry
import MediaSearch.Proofs.TimeString.Absolute
import MediaSearch.Proofs.Query.Agreement
import MediaSearch.Proofs.TimeString.Ago
import MediaSearch.Proofs.TimeString.Months
import MediaSearch.Proofs.Query.MonthsAgo
import MediaSearch.Proofs.TimeString.Timestamp
import MediaSearch.Proofs.TimeString.SingleDay
import MediaSearch.Proofs.TimeString.Abbreviated
import MediaSearch.Proofs.Query.CutShort
import MediaSearch.Proofs.TimeString.FixedUnits
import MediaSearch.Proofs.TimeString.MonthName
import MediaSearch.Proofs.Text.Excerpt
import MediaSearch.Proofs.Item.Metadata
import MediaSearch.Proofs.Query.Excerpt
import MediaSearch.Proofs.Decimal.Rounding
import MediaSearch.Proofs.Query.PageCount
import MediaSearch.Proofs.Item.FlatFiles
import MediaSearch.Proofs.Item.Schema
import MediaSearch.Proofs.Query.Ties
import MediaSearch.Proofs.Query.Laws
import MediaSearch.Proofs.Query.Joining
import MediaSearch.Proofs.Text.LetterCase
import MediaSearch.Proofs.TimeString.LetterCase
