import TraitWeave.Check.EnumFrom
import TraitWeave.Check.Issue
import TraitWeave.Check.ParameterSchema
import TraitWeave.Check.Source
import TraitWeave.Check.Validator
import TraitWeave.CommandLine.Console
import TraitWeave.CommandLine.Help
import TraitWeave.CommandLine.Invocation
import TraitWeave.CommandLine.Moment
import TraitWeave.CommandLine.Needs
import TraitWeave.CommandLine.ObjectAnswers
import TraitWeave.CommandLine.Run
import TraitWeave.CommandLine.SettingsAnswers
import TraitWeave.CommandLine.Situation
import TraitWeave.CommandLine.TraitAnswers
import TraitWeave.CommandLine.Usage
import TraitWeave.Compose.Composed
import TraitWeave.Compose.Conflict
import TraitWeave.Compose.Layer
import TraitWeave.Compose.Merge
import TraitWeave.Decimal.Double
import TraitWeave.Decimal.Shortest
import TraitWeave.Decode.Basic
import TraitWeave.Decode.Record
import TraitWeave.Digraph
import TraitWeave.Document.Problem
import TraitWeave.Document.Reader
import TraitWeave.Encode
import TraitWeave.Field
import TraitWeave.Files
import TraitWeave.Interface.Artifacts
import TraitWeave.Interface.Basic
import TraitWeave.Interface.TypeExpr
import TraitWeave.Json.Basic
import TraitWeave.Json.Number
import TraitWeave.Json.Printer
import TraitWeave.Json.Reader
import TraitWeave.Main
import TraitWeave.Name
import TraitWeave.Object.Basic
import TraitWeave.Object.Document
import TraitWeave.Path
import TraitWeave.PathTable
import TraitWeave.Pattern.Basic
import TraitWeave.Pattern.Bracket
import TraitWeave.Pattern.CharSet
import TraitWeave.Pattern.Escape
import TraitWeave.Pattern.Grammar
import TraitWeave.Pattern.Plan
import TraitWeave.Pattern.Property
import TraitWeave.Pattern.Property.Binary
import TraitWeave.Pattern.Property.Category
import TraitWeave.Pattern.Property.Folding
import TraitWeave.Pattern.Property.Script
import TraitWeave.Pattern.Reader
import TraitWeave.Pattern.Simple
import TraitWeave.Pattern.Term
import TraitWeave.Proofs.Check.Answers
import TraitWeave.Proofs.Check.EnumFrom
import TraitWeave.Proofs.Check.ParameterSchema
import TraitWeave.Proofs.Check.Pointer
import TraitWeave.Proofs.Check.Validator
import TraitWeave.Proofs.Compose.Absorption
import TraitWeave.Proofs.Compose.Candidates
import TraitWeave.Proofs.Compose.Layering
import TraitWeave.Proofs.Compose.Literals
import TraitWeave.Proofs.Compose.Overrides
import TraitWeave.Proofs.Compose.Parameters
import TraitWeave.Proofs.Compose.TraitOrder
import TraitWeave.Proofs.Decode.Definitions
import TraitWeave.Proofs.Decode.Members
import TraitWeave.Proofs.Decode.Stable
import TraitWeave.Proofs.Digraph.Precedence
import TraitWeave.Proofs.Digraph.Reach
import TraitWeave.Proofs.Digraph.Search
import TraitWeave.Proofs.Digraph.Sorting
import TraitWeave.Proofs.Document.Distinct
import TraitWeave.Proofs.Document.Formats
import TraitWeave.Proofs.Document.NullSections
import TraitWeave.Proofs.Document.Overrides
import TraitWeave.Proofs.Document.RoundTrip
import TraitWeave.Proofs.Interface.Artifacts
import TraitWeave.Proofs.Interface.Barrel
import TraitWeave.Proofs.Interface.BarrelOrder
import TraitWeave.Proofs.Interface.Comments
import TraitWeave.Proofs.Interface.Exports
import TraitWeave.Proofs.Interface.Identifier
import TraitWeave.Proofs.Interface.Reading
import TraitWeave.Proofs.Interface.Syntax
import TraitWeave.Proofs.Interface.Types
import TraitWeave.Proofs.Interface.WellFormed
import TraitWeave.Proofs.Json.Literal
import TraitWeave.Proofs.Json.Merge
import TraitWeave.Proofs.Name
import TraitWeave.Proofs.Object.Document
import TraitWeave.Proofs.PathTable
import TraitWeave.Proofs.Registry.Blame
import TraitWeave.Proofs.Registry.Changelog
import TraitWeave.Proofs.Registry.Classes
import TraitWeave.Proofs.Registry.Footprint
import TraitWeave.Proofs.Registry.Frame
import TraitWeave.Proofs.Registry.Index
import TraitWeave.Proofs.Registry.Inverted
import TraitWeave.Proofs.Registry.Leaves
import TraitWeave.Proofs.Registry.Lineage
import TraitWeave.Proofs.Registry.Moves
import TraitWeave.Proofs.Registry.Queries
import TraitWeave.Proofs.Registry.Readings
import TraitWeave.Proofs.Registry.Refinement
import TraitWeave.Proofs.Registry.Refresh
import TraitWeave.Proofs.Registry.Runs
import TraitWeave.Proofs.Registry.ScanErrors
import TraitWeave.Proofs.Registry.Scanned
import TraitWeave.Proofs.Registry.Snapshot
import TraitWeave.Proofs.Registry.Succession
import TraitWeave.Proofs.Schema.Meaning
import TraitWeave.Proofs.Schema.Plain
import TraitWeave.Proofs.Schema.Usable
import TraitWeave.Proofs.Table
import TraitWeave.Proofs.Text.ByteOrder
import TraitWeave.Proofs.Text.Endings
import TraitWeave.Proofs.Text.Lower
import TraitWeave.Proofs.Text.Marks
import TraitWeave.Proofs.Text.Pieces
import TraitWeave.Proofs.Trait.Conflicts
import TraitWeave.Proofs.Trait.Coverage
import TraitWeave.Proofs.Trait.Cycles
import TraitWeave.Proofs.Trait.Discovery
import TraitWeave.Proofs.Trait.Graph
import TraitWeave.Proofs.Trait.Histories
import TraitWeave.Proofs.Trait.Incompatible
import TraitWeave.Proofs.Trait.Loader
import TraitWeave.Proofs.Trait.Lookup
import TraitWeave.Proofs.Trait.Options
import TraitWeave.Proofs.Trait.Pairs
import TraitWeave.Proofs.Trait.Resolution
import TraitWeave.Proofs.Trait.SchemaKey
import TraitWeave.Proofs.Trait.Segments
import TraitWeave.Proofs.Tree.Writing
import TraitWeave.Registry.Basic
import TraitWeave.Registry.Contents
import TraitWeave.Registry.Event
import TraitWeave.Registry.Index
import TraitWeave.Registry.Record
import TraitWeave.Registry.Scan
import TraitWeave.Registry.Snapshot
import TraitWeave.Schema.Check
import TraitWeave.Schema.Compiled
import TraitWeave.Schema.Draft
import TraitWeave.Schema.Evaluation
import TraitWeave.Schema.Fault
import TraitWeave.Schema.Form
import TraitWeave.Schema.Format
import TraitWeave.Schema.Library
import TraitWeave.Schema.Lost
import TraitWeave.Schema.Pointer
import TraitWeave.Schema.Preparation
import TraitWeave.Schema.Rule
import TraitWeave.Schema.Standard.Early
import TraitWeave.Schema.Standard.Later
import TraitWeave.Schema.Value
import TraitWeave.Settings.Basic
import TraitWeave.Settings.Environment
import TraitWeave.Settings.Load
import TraitWeave.Table
import TraitWeave.Text.Alphanumeric
import TraitWeave.Text.Blank
import TraitWeave.Text.Bytes
import TraitWeave.Text.Lower
import TraitWeave.Text.Pieces
import TraitWeave.Text.Position
import TraitWeave.Text.Quoted
import TraitWeave.Trait.Basic
import TraitWeave.Trait.Discovery
import TraitWeave.Trait.Document
import TraitWeave.Trait.Graph
import TraitWeave.Trait.Library
import TraitWeave.Trait.Loader
import TraitWeave.Trait.Request
import TraitWeave.Trait.Resolution
import TraitWeave.Trait.Resolved
import TraitWeave.Tree.Basic
import TraitWeave.Tree.Edit
import TraitWeave.Tree.Walk
import TraitWeave.Uri.Basic
import TraitWeave.Uri.Reader
import TraitWeave.Uri.Resolve
import TraitWeave.Yaml.Cursor
import TraitWeave.Yaml.Decode
import TraitWeave.Yaml.Event
import TraitWeave.Yaml.Lexer
import TraitWeave.Yaml.Node
import TraitWeave.Yaml.Pen
import TraitWeave.Yaml.Plain
import TraitWeave.Yaml.Printer
import TraitWeave.Yaml.Scalar
import TraitWeave.Yaml.Token
import TraitWeave.Yaml.Value
