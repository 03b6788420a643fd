import Rulebook.Catalog
import Rulebook.Catalog.Bundled
import Rulebook.Catalog.Folder
import Rulebook.CommandLine.Arguments
import Rulebook.CommandLine.Command
import Rulebook.CommandLine.Run
import Rulebook.Failure
import Rulebook.Files.Document
import Rulebook.Files.Path
import Rulebook.Files.Reader
import Rulebook.Files.Tree
import Rulebook.Hierarchy
import Rulebook.Host
import Rulebook.Json.Grammar
import Rulebook.Json.Text
import Rulebook.Log
import Rulebook.Main
import Rulebook.Moment
import Rulebook.Number.Decimal
import Rulebook.Number.Double
import Rulebook.Number.Extended
import Rulebook.Number.Numeral
import Rulebook.Number.Shortest
import Rulebook.Options
import Rulebook.Pattern
import Rulebook.Pattern.Match
import Rulebook.Pattern.Reader
import Rulebook.Platform
import Rulebook.Proofs.Accumulation
import Rulebook.Proofs.Alike
import Rulebook.Proofs.Annotation
import Rulebook.Proofs.AnyOrder
import Rulebook.Proofs.Attaching
import Rulebook.Proofs.CatalogFile
import Rulebook.Proofs.CatalogOverlay
import Rulebook.Proofs.CheckDocument
import Rulebook.Proofs.Comparison
import Rulebook.Proofs.Data
import Rulebook.Proofs.DecimalPlaces
import Rulebook.Proofs.Denotation
import Rulebook.Proofs.DisplayName
import Rulebook.Proofs.Document
import Rulebook.Proofs.DocumentReader
import Rulebook.Proofs.DocumentRequest
import Rulebook.Proofs.DocumentSchema
import Rulebook.Proofs.EmptyDocument
import Rulebook.Proofs.EmptyValue
import Rulebook.Proofs.Escape
import Rulebook.Proofs.FailFast
import Rulebook.Proofs.Fallback
import Rulebook.Proofs.Fault
import Rulebook.Proofs.FirstUse
import Rulebook.Proofs.FixedParameters
import Rulebook.Proofs.Forms
import Rulebook.Proofs.Gathering
import Rulebook.Proofs.Hierarchy
import Rulebook.Proofs.Interleaving
import Rulebook.Proofs.Interpolation
import Rulebook.Proofs.Isolation
import Rulebook.Proofs.JsonText
import Rulebook.Proofs.JsonTree
import Rulebook.Proofs.Key
import Rulebook.Proofs.Language
import Rulebook.Proofs.LengthBounds
import Rulebook.Proofs.LetterCase
import Rulebook.Proofs.Matching
import Rulebook.Proofs.Membership
import Rulebook.Proofs.Mention
import Rulebook.Proofs.Merge
import Rulebook.Proofs.Nearest
import Rulebook.Proofs.NearestLabel
import Rulebook.Proofs.Outcomes
import Rulebook.Proofs.Overlay
import Rulebook.Proofs.Placeholder
import Rulebook.Proofs.Plain
import Rulebook.Proofs.Refusal
import Rulebook.Proofs.RegistryHistory
import Rulebook.Proofs.Relabel
import Rulebook.Proofs.Rounding
import Rulebook.Proofs.Rounds
import Rulebook.Proofs.Schedule
import Rulebook.Proofs.Shown
import Rulebook.Proofs.ShownNumber
import Rulebook.Proofs.Sorting
import Rulebook.Proofs.SpecGrammar
import Rulebook.Proofs.SpecList
import Rulebook.Proofs.SpecText
import Rulebook.Proofs.StandardNames
import Rulebook.Proofs.Store
import Rulebook.Proofs.Success
import Rulebook.Proofs.Table
import Rulebook.Proofs.Task
import Rulebook.Proofs.Translation
import Rulebook.Proofs.Utf8
import Rulebook.Proofs.Verdict
import Rulebook.Proofs.WordVerdict
import Rulebook.Proofs.WrittenNumeral
import Rulebook.Record.Labels
import Rulebook.Record.Report
import Rulebook.Record.Validation
import Rulebook.Registry
import Rulebook.Request
import Rulebook.Rule.Context
import Rulebook.Rule.Extent
import Rulebook.Rule.Form
import Rulebook.Rule.Magnitude
import Rulebook.Rule.Membership
import Rulebook.Rule.Precision
import Rulebook.Rule.Presence
import Rulebook.Rule.Standard
import Rulebook.Schema
import Rulebook.Schema.Store
import Rulebook.Settings
import Rulebook.Shared
import Rulebook.Sorting
import Rulebook.Spec
import Rulebook.StandardRule
import Rulebook.Task
import Rulebook.Template
import Rulebook.Text.Blank
import Rulebook.Text.CodeRange
import Rulebook.Text.Digit
import Rulebook.Text.Identifier
import Rulebook.Text.LetterCase
import Rulebook.Text.Parts
import Rulebook.Text.Printable
import Rulebook.Text.Quoted
import Rulebook.Text.Utf8
import Rulebook.Text.Word
import Rulebook.Translator
import Rulebook.Value
import Rulebook.Value.Display
import Rulebook.Value.Equality
import Rulebook.Value.Order
import Rulebook.Yaml.Cursor
import Rulebook.Yaml.Document
import Rulebook.Yaml.Node
import Rulebook.Yaml.Resolution
import Rulebook.Yaml.Scalar
import Rulebook.Yaml.Token
