import StaticSite.Artifact
import StaticSite.Build.Collect
import StaticSite.Build.Pass
import StaticSite.Build.Scan
import StaticSite.Command.Arguments
import StaticSite.Command.Help
import StaticSite.Command.Listing
import StaticSite.Command.Run
import StaticSite.Config
import StaticSite.Config.Load
import StaticSite.Config.Settings
import StaticSite.Content.Collection
import StaticSite.Content.Document
import StaticSite.Content.FrontMatter
import StaticSite.Content.Renderer
import StaticSite.Content.Slug
import StaticSite.Content.Title
import StaticSite.FileSystem
import StaticSite.Glob
import StaticSite.Html
import StaticSite.Ignore
import StaticSite.Main
import StaticSite.Markdown.Block
import StaticSite.Markdown.BlockReader
import StaticSite.Markdown.BlockStart
import StaticSite.Markdown.Document
import StaticSite.Markdown.Entity
import StaticSite.Markdown.Escape
import StaticSite.Markdown.Event
import StaticSite.Markdown.HeadingAttributes
import StaticSite.Markdown.HeadingIds
import StaticSite.Markdown.Inline
import StaticSite.Markdown.InlineReader
import StaticSite.Markdown.Line
import StaticSite.Markdown.Link
import StaticSite.Markdown.PlainText
import StaticSite.Markdown.RawHtml
import StaticSite.Markdown.Renderer
import StaticSite.Markdown.Writer
import StaticSite.OrderedMap
import StaticSite.Outcome
import StaticSite.Output
import StaticSite.Path
import StaticSite.Proofs.Build.Artifacts
import StaticSite.Proofs.Build.Check
import StaticSite.Proofs.Build.Collection
import StaticSite.Proofs.Build.Jobs
import StaticSite.Proofs.Build.OutputNames
import StaticSite.Proofs.Build.Outputs
import StaticSite.Proofs.Build.Rebuild
import StaticSite.Proofs.Build.Reread
import StaticSite.Proofs.Build.Rerun
import StaticSite.Proofs.Build.SharedOutputs
import StaticSite.Proofs.Build.Steps
import StaticSite.Proofs.Build.Templates
import StaticSite.Proofs.Build.Walk
import StaticSite.Proofs.Content.FrontMatter
import StaticSite.Proofs.Content.HeadAndBody
import StaticSite.Proofs.Content.Slug
import StaticSite.Proofs.Content.Tags
import StaticSite.Proofs.Content.Title
import StaticSite.Proofs.Content.Version
import StaticSite.Proofs.FileSystem.Below
import StaticSite.Proofs.FileSystem.Change
import StaticSite.Proofs.FileSystem.Folders
import StaticSite.Proofs.FileSystem.Put
import StaticSite.Proofs.FileSystem.Tree
import StaticSite.Proofs.Html
import StaticSite.Proofs.Ignore
import StaticSite.Proofs.Insertion
import StaticSite.Proofs.Markdown.HeadingIds
import StaticSite.Proofs.Markdown.PlainText
import StaticSite.Proofs.OrderedMap
import StaticSite.Proofs.Output.Address
import StaticSite.Proofs.Output.Filling
import StaticSite.Proofs.Output.Substitution
import StaticSite.Proofs.Query.Pages
import StaticSite.Proofs.Query.StableSort
import StaticSite.Proofs.Query.ValueOrder
import StaticSite.Proofs.Render.Dependence
import StaticSite.Proofs.Render.Depth
import StaticSite.Proofs.Render.Echo
import StaticSite.Proofs.Render.ErrorPlaces
import StaticSite.Proofs.Render.Limit
import StaticSite.Proofs.Render.LoopOrder
import StaticSite.Proofs.Render.Nesting
import StaticSite.Proofs.Render.Optional
import StaticSite.Proofs.Render.OwnLink
import StaticSite.Proofs.Template.AttributeText
import StaticSite.Proofs.Template.Body
import StaticSite.Proofs.Template.ByteReading
import StaticSite.Proofs.Template.ByteScan
import StaticSite.Proofs.Template.DateValues
import StaticSite.Proofs.Template.FirstFault
import StaticSite.Proofs.Template.Grammar
import StaticSite.Proofs.Template.Interpolation
import StaticSite.Proofs.Template.Lexemes
import StaticSite.Proofs.Template.LineIndex
import StaticSite.Proofs.Template.Locality
import StaticSite.Proofs.Template.MissingValue
import StaticSite.Proofs.Template.MoreAttributes
import StaticSite.Proofs.Template.Places
import StaticSite.Proofs.Template.Quotes
import StaticSite.Proofs.Template.Requests
import StaticSite.Proofs.Template.RoundTrip
import StaticSite.Proofs.Template.TagAttributes
import StaticSite.Proofs.Template.TagText
import StaticSite.Proofs.Template.Tiling
import StaticSite.Proofs.Template.Tree
import StaticSite.Proofs.Template.VariableText
import StaticSite.Proofs.Text.Binary64
import StaticSite.Proofs.Text.Numeral
import StaticSite.Proofs.Text.Order
import StaticSite.Proofs.Time.Calendar
import StaticSite.Proofs.Time.DateText
import StaticSite.Proofs.Watch.Accounts
import StaticSite.Proofs.Watch.Coverage
import StaticSite.Proofs.Watch.Delivery
import StaticSite.Proofs.Watch.Independence
import StaticSite.Proofs.Watch.Run
import StaticSite.Query
import StaticSite.Render.Asset
import StaticSite.Render.Context
import StaticSite.Render.Element
import StaticSite.Render.Loop
import StaticSite.Render.Page
import StaticSite.Template.Attributes
import StaticSite.Template.Error
import StaticSite.Template.Modifier
import StaticSite.Template.Node
import StaticSite.Template.Position
import StaticSite.Template.Store
import StaticSite.Template.TagKind
import StaticSite.Template.Token
import StaticSite.Template.Variable
import StaticSite.Text.Binary64
import StaticSite.Text.Blank
import StaticSite.Text.Case
import StaticSite.Text.CaseTable
import StaticSite.Text.Numeral
import StaticSite.Text.Property
import StaticSite.Text.Split
import StaticSite.Text.Utf8
import StaticSite.Time.Calendar
import StaticSite.Time.Format
import StaticSite.Time.Locale
import StaticSite.Time.Timestamp
import StaticSite.Toml.Document
import StaticSite.Toml.Quoted
import StaticSite.Toml.Value
import StaticSite.Toml.Word
import StaticSite.Watch.Change
import StaticSite.Watch.Queue
import StaticSite.Watch.Session
