import Marginalia.Badge
import Marginalia.Classify
import Marginalia.Classify.Css
import Marginalia.Classify.Evidence
import Marginalia.Classify.Js
import Marginalia.Classify.Verdict
import Marginalia.Command
import Marginalia.Command.Arguments
import Marginalia.Comment.Basic
import Marginalia.Config.Basic
import Marginalia.Config.Format
import Marginalia.Config.Lookup
import Marginalia.Extract
import Marginalia.Extract.Block
import Marginalia.Extract.Literal
import Marginalia.Extract.Span
import Marginalia.Fetch
import Marginalia.FileTree.Basic
import Marginalia.FileTree.Canonical
import Marginalia.FileTree.PathText
import Marginalia.FileTree.Walk
import Marginalia.Glob
import Marginalia.Html.Builder.Basic
import Marginalia.Html.Builder.Body
import Marginalia.Html.Builder.Formatting
import Marginalia.Html.Builder.Head
import Marginalia.Html.Builder.Rules
import Marginalia.Html.Builder.Scope
import Marginalia.Html.Builder.Table
import Marginalia.Html.Document
import Marginalia.Html.Element
import Marginalia.Html.Reference
import Marginalia.Html.Reference.Names
import Marginalia.Html.Token
import Marginalia.Html.Token.Basic
import Marginalia.Html.Token.Comment
import Marginalia.Html.Token.RawText
import Marginalia.Html.Token.Tag
import Marginalia.Html.Tree
import Marginalia.Json.Basic
import Marginalia.Json.Decimal
import Marginalia.Json.Decode
import Marginalia.Json.Print
import Marginalia.Json.Reading
import Marginalia.Kind
import Marginalia.Local
import Marginalia.Messaging.Message
import Marginalia.Messaging.World
import Marginalia.Options
import Marginalia.Page
import Marginalia.Pattern
import Marginalia.Popup
import Marginalia.Proofs.Classify.FrontEnds
import Marginalia.Proofs.Classify.Verdict
import Marginalia.Proofs.Command.Line
import Marginalia.Proofs.Comment.Language
import Marginalia.Proofs.Comment.Wire
import Marginalia.Proofs.Config.Loading
import Marginalia.Proofs.Extract.Block
import Marginalia.Proofs.Extract.Kinds
import Marginalia.Proofs.Extract.Region
import Marginalia.Proofs.Extract.Script
import Marginalia.Proofs.Extract.Stylesheet
import Marginalia.Proofs.Extract.Verbatim
import Marginalia.Proofs.Literal.Body
import Marginalia.Proofs.Literal.Elision
import Marginalia.Proofs.Literal.Emptying
import Marginalia.Proofs.Literal.Leak
import Marginalia.Proofs.Literal.Pass
import Marginalia.Proofs.Literal.Piece
import Marginalia.Proofs.Literal.Reading
import Marginalia.Proofs.Messaging.Badges
import Marginalia.Proofs.Messaging.Bus
import Marginalia.Proofs.Messaging.Delivery
import Marginalia.Proofs.Messaging.Lossless
import Marginalia.Proofs.Messaging.Replies
import Marginalia.Proofs.Messaging.Run
import Marginalia.Proofs.Popup.Grouping
import Marginalia.Proofs.Popup.Scanned
import Marginalia.Proofs.Scan.Aggregation
import Marginalia.Proofs.Scan.Fetching
import Marginalia.Proofs.Scan.Filters
import Marginalia.Proofs.Scan.Isolation
import Marginalia.Proofs.Scan.Schedule
import Marginalia.Proofs.Server.Comments
import Marginalia.Proofs.Session.Visit
import Marginalia.Proofs.Text.Occurrence
import Marginalia.Proofs.Text.Trim
import Marginalia.Report.Scan
import Marginalia.Report.Style
import Marginalia.Report.Verdict
import Marginalia.Scan
import Marginalia.Scan.Schedule
import Marginalia.Server
import Marginalia.Server.Arguments
import Marginalia.Server.Schema
import Marginalia.Session
import Marginalia.Text.Emoji
import Marginalia.Text.Graphic
import Marginalia.Text.Split
import Marginalia.Text.Width
import Marginalia.Text.WidthTable
import Marginalia.Url.Basic
import Marginalia.Url.Domain
import Marginalia.Url.Domain.ComposeData
import Marginalia.Url.Domain.MappingData
import Marginalia.Url.Domain.ValidData
import Marginalia.Url.FilePath
import Marginalia.Url.Host
import Marginalia.Url.Parse
import Marginalia.Url.Percent
import Marginalia.Url.Punycode
import Marginalia.Proofs.Server.Omitted
import Marginalia.Proofs.Extract.Cleaned
import Marginalia.Proofs.Scan.Reported
import Marginalia.Proofs.Classify.Embedding
import Marginalia.Proofs.Classify.Wordless
import Marginalia.Proofs.Classify.Content
import Marginalia.Proofs.Literal.Lines
import Marginalia.Proofs.Report.Lines
import Marginalia.Proofs.Popup.Partition
import Marginalia.Proofs.Config.Options
import Marginalia.Proofs.FileTree.Ancestors
import Marginalia.Proofs.Config.Nearest
import Marginalia.Proofs.Json.Grammar
import Marginalia.Proofs.Json.Numbers
import Marginalia.Proofs.Json.Strings
import Marginalia.Proofs.Json.Reader
import Marginalia.Proofs.Json.Printer
import Marginalia.Proofs.Config.RoundTrip
import Marginalia.Proofs.Url.Percent
import Marginalia.Proofs.Url.Segments
import Marginalia.Proofs.Url.FilePath
import Marginalia.Proofs.FileTree.Walk
import Marginalia.Proofs.FileTree.Places
import Marginalia.Proofs.FileTree.Canonical
import Marginalia.Proofs.Local.Pages
import Marginalia.Pattern.Removal
import Marginalia.Proofs.Pattern.Removal
import Marginalia.Proofs.Extract.Markup
import Marginalia.Proofs.Scan.Label
import Marginalia.Proofs.Command.Settings
import Marginalia.Proofs.Html.TreeOrder
import Marginalia.Proofs.Html.Verbatim
import Marginalia.Proofs.Html.Head
import Marginalia.Proofs.Html.Parts
import Marginalia.Proofs.Html.Embedded
import Marginalia.Proofs.Pattern.Language
import Marginalia.Proofs.Pattern.Around
import Marginalia.Proofs.Classify.StyleSyntax
import Marginalia.Proofs.Classify.Shapes
import Marginalia.Proofs.Report.Colour
import Marginalia.Proofs.FileTree.Absolute
import Marginalia.Proofs.FileTree.Writing
import Marginalia.Proofs.Command.Init
import Marginalia.Proofs.Text.Words
import Marginalia.Proofs.Report.OneLine
