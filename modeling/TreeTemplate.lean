import TreeTemplate.Text.Blank
import TreeTemplate.Text.Digit
import TreeTemplate.Text.Casing
import TreeTemplate.Text.Quoted
import TreeTemplate.Table
import TreeTemplate.Number.Shortest
import TreeTemplate.Value.Path
import TreeTemplate.Value.Spelling
import TreeTemplate.Markup.Tree
import TreeTemplate.Markup.Html
import TreeTemplate.Markup.Reference
import TreeTemplate.Markup.Tag
import TreeTemplate.Markup.Source
import TreeTemplate.Template.Directive
import TreeTemplate.Template.Binding
import TreeTemplate.Template.Placeholder
import TreeTemplate.Template.Render
import TreeTemplate.Partial.Cache
import TreeTemplate.Partial.Files
import TreeTemplate.Partial.Loader
import TreeTemplate.Value.Literal
import TreeTemplate.Configuration
import TreeTemplate.Site.Page
import TreeTemplate.Site.Build
import TreeTemplate.Log.Record
import TreeTemplate.Log.Setup
import TreeTemplate.Api.Service
import TreeTemplate.Site.Command
import TreeTemplate.Web.Resolution
import TreeTemplate.Main
import TreeTemplate.Proofs.Text.Casing
import TreeTemplate.Proofs.Text.Pieces
import TreeTemplate.Proofs.Markup.Escape
import TreeTemplate.Proofs.Markup.StartTag
import TreeTemplate.Proofs.Markup.Building
import TreeTemplate.Proofs.Markup.Mark
import TreeTemplate.Proofs.Markup.WellFormed
import TreeTemplate.Proofs.Markup.RawText
import TreeTemplate.Proofs.Markup.Lexical
import TreeTemplate.Proofs.Markup.RoundTrip
import TreeTemplate.Proofs.Template.Likeness
import TreeTemplate.Proofs.Template.Congruence
import TreeTemplate.Proofs.Template.Requests
import TreeTemplate.Proofs.Partial.Store
import TreeTemplate.Proofs.Partial.Eviction
import TreeTemplate.Proofs.Partial.Lifespan
import TreeTemplate.Proofs.Partial.Caching
import TreeTemplate.Proofs.Number.Rounding
import TreeTemplate.Proofs.Partial.CachedStore
import TreeTemplate.Proofs.Template.Inlining
import TreeTemplate.Proofs.Template.Rewriting
import TreeTemplate.Proofs.Template.Provenance
import TreeTemplate.Proofs.Markup.Outline
import TreeTemplate.Proofs.Template.Shape
import TreeTemplate.Proofs.Markup.Order
import TreeTemplate.Proofs.Template.Reads
import TreeTemplate.Proofs.Template.Plain
import TreeTemplate.Proofs.Template.Cutting
import TreeTemplate.Proofs.Template.Nesting
import TreeTemplate.Proofs.Template.Cycle
import TreeTemplate.Proofs.Template.Reordering
import TreeTemplate.Proofs.Partial.Chaining
import TreeTemplate.Proofs.Partial.Confinement
import TreeTemplate.Proofs.Api.Status
import TreeTemplate.Proofs.Site.Expansion
import TreeTemplate.Proofs.Markup.Stripping
import TreeTemplate.Proofs.Markup.Deletion
import TreeTemplate.Proofs.Template.Merging
import TreeTemplate.Proofs.Site.Writing
import TreeTemplate.Proofs.Site.BlankLines
import TreeTemplate.Proofs.Site.KeptSpace
import TreeTemplate.Proofs.Site.SpaceRuns
import TreeTemplate.Proofs.Site.Respacing
import TreeTemplate.Proofs.Site.Collapsing
import TreeTemplate.Proofs.Site.Rereading
import TreeTemplate.Proofs.Value.Path
import TreeTemplate.Proofs.Template.Iteration
import TreeTemplate.Proofs.Template.Repeating
import TreeTemplate.Proofs.Api.Mounting
import TreeTemplate.Proofs.Partial.Expiry
import TreeTemplate.Proofs.Partial.Retrying
import TreeTemplate.Proofs.Template.Style
import TreeTemplate.Proofs.Template.Styling
import TreeTemplate.Proofs.Markup.Opening
import TreeTemplate.Proofs.Template.Attributes
