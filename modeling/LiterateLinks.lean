import LiterateLinks.Chunk.CommandFile
import LiterateLinks.Chunk.Name
import LiterateLinks.Chunk.Table
import LiterateLinks.Command.Help
import LiterateLinks.Command.Options
import LiterateLinks.Command.Run
import LiterateLinks.Decimal.Basic
import LiterateLinks.Decimal.Shortest
import LiterateLinks.Document.Node
import LiterateLinks.Document.Serialize
import LiterateLinks.Document.Stamp
import LiterateLinks.Event
import LiterateLinks.File.System
import LiterateLinks.File.Tree
import LiterateLinks.Glob
import LiterateLinks.Html.Arena
import LiterateLinks.Html.Construction.Basic
import LiterateLinks.Html.Construction.Body
import LiterateLinks.Html.Construction.Embedded
import LiterateLinks.Html.Construction.Foreign
import LiterateLinks.Html.Construction.Formatting
import LiterateLinks.Html.Construction.Head
import LiterateLinks.Html.Construction.Table
import LiterateLinks.Html.Lexer
import LiterateLinks.Html.Read
import LiterateLinks.Html.Reference.Basic
import LiterateLinks.Html.Reference.Names
import LiterateLinks.Html.Token
import LiterateLinks.Json.Reader
import LiterateLinks.Json.Value
import LiterateLinks.Link.Document
import LiterateLinks.Link.Source
import LiterateLinks.Link.Target
import LiterateLinks.Link.Text
import LiterateLinks.Main
import LiterateLinks.Marker.Basic
import LiterateLinks.Markup.Basic
import LiterateLinks.Ordered
import LiterateLinks.Path
import LiterateLinks.Place
import LiterateLinks.Proofs.Chunk.CommandFile
import LiterateLinks.Proofs.Chunk.Index
import LiterateLinks.Proofs.Chunk.Ordinal
import LiterateLinks.Proofs.Chunk.Table
import LiterateLinks.Proofs.Command.Files
import LiterateLinks.Proofs.Document.Equality
import LiterateLinks.Proofs.Document.Serialize
import LiterateLinks.Proofs.Document.Stamp
import LiterateLinks.Proofs.File.Beside
import LiterateLinks.Proofs.File.Tree
import LiterateLinks.Proofs.Glob.Failure
import LiterateLinks.Proofs.Glob.Language
import LiterateLinks.Proofs.Glob.Literal
import LiterateLinks.Proofs.Glob.Match
import LiterateLinks.Proofs.Glob.Ranges
import LiterateLinks.Proofs.Html.Arena
import LiterateLinks.Proofs.Html.Body
import LiterateLinks.Proofs.Html.Builder
import LiterateLinks.Proofs.Html.Content
import LiterateLinks.Proofs.Html.Lexer
import LiterateLinks.Proofs.Html.Nesting
import LiterateLinks.Proofs.Html.Page
import LiterateLinks.Proofs.Html.Reference
import LiterateLinks.Proofs.Html.Tidy
import LiterateLinks.Proofs.Json.Written
import LiterateLinks.Proofs.Link.InPage
import LiterateLinks.Proofs.Link.Label
import LiterateLinks.Proofs.Link.OneShot
import LiterateLinks.Proofs.Link.Rebase
import LiterateLinks.Proofs.Link.Rendered
import LiterateLinks.Proofs.Link.Report
import LiterateLinks.Proofs.Link.Segments
import LiterateLinks.Proofs.Link.Settled
import LiterateLinks.Proofs.Link.Source
import LiterateLinks.Proofs.Link.Tags
import LiterateLinks.Proofs.Link.Text
import LiterateLinks.Proofs.Link.Visible
import LiterateLinks.Proofs.Link.Walk
import LiterateLinks.Proofs.Link.Wildcard
import LiterateLinks.Proofs.Link.Written
import LiterateLinks.Proofs.Marker.Clean
import LiterateLinks.Proofs.Marker.Expression
import LiterateLinks.Proofs.Marker.Overlap
import LiterateLinks.Proofs.Marker.Pasted
import LiterateLinks.Proofs.Marker.Position
import LiterateLinks.Proofs.Marker.Reading
import LiterateLinks.Proofs.Markup.Parts
import LiterateLinks.Proofs.Markup.Serialize
import LiterateLinks.Proofs.Ordered
import LiterateLinks.Proofs.Path.Spelling
import LiterateLinks.Proofs.Publish.Again
import LiterateLinks.Proofs.Publish.Head
import LiterateLinks.Proofs.Publish.LeftAlone
import LiterateLinks.Proofs.Publish.Mark
import LiterateLinks.Proofs.Regex.Reading
import LiterateLinks.Proofs.Regex.Search
import LiterateLinks.Proofs.Regex.Table
import LiterateLinks.Publish.Basic
import LiterateLinks.Publish.File
import LiterateLinks.Publish.Stylesheet
import LiterateLinks.Regex.Basic
import LiterateLinks.Regex.Search
import LiterateLinks.Regex.Syntax
import LiterateLinks.Settings.Basic
import LiterateLinks.Settings.Key
import LiterateLinks.Settings.Load
import LiterateLinks.Settings.Value
import LiterateLinks.Text.Blank
import LiterateLinks.Text.Bytes
import LiterateLinks.Text.CodePoints
import LiterateLinks.Text.Pieces
import LiterateLinks.Text.Quoted
import LiterateLinks.Text.Utf8
import LiterateLinks.Toml.Number
import LiterateLinks.Toml.Reader
import LiterateLinks.Toml.Table
import LiterateLinks.Toml.Text
import LiterateLinks.Url.Basic
import LiterateLinks.Url.Characters
import LiterateLinks.Url.Composition
import LiterateLinks.Url.Direction
import LiterateLinks.Url.Folding
import LiterateLinks.Url.Host
import LiterateLinks.Url.Joining
import LiterateLinks.Url.Label
import LiterateLinks.Url.Mark
import LiterateLinks.Url.Punycode
