import Shapewright.Assembly.Basic
import Shapewright.Assembly.Import
import Shapewright.Assembly.Load
import Shapewright.Assembly.Merge
import Shapewright.Assembly.Mixin
import Shapewright.Binding.Declaration
import Shapewright.Binding.Input
import Shapewright.Binding.Origin
import Shapewright.Binding.Reading
import Shapewright.Catalog
import Shapewright.Code.Constraint
import Shapewright.Code.Doc
import Shapewright.Code.File
import Shapewright.Code.Layout
import Shapewright.Code.Tree
import Shapewright.Command.Basic
import Shapewright.Command.Flags
import Shapewright.Command.Run
import Shapewright.Comment
import Shapewright.Config
import Shapewright.Document.Basic
import Shapewright.Failure
import Shapewright.Files
import Shapewright.Generated.Package
import Shapewright.Generated.Record
import Shapewright.Generated.Server
import Shapewright.Generated.Summary
import Shapewright.Generated.Types
import Shapewright.Generator
import Shapewright.Http.Endpoint
import Shapewright.Http.UriPattern
import Shapewright.Json.Basic
import Shapewright.Json.Outline
import Shapewright.Json.Parser
import Shapewright.Json.Printer
import Shapewright.Json.Skim
import Shapewright.Json.Token
import Shapewright.Log
import Shapewright.Main
import Shapewright.Naming
import Shapewright.Number.Binary
import Shapewright.Number.Decimal
import Shapewright.Number.Digits
import Shapewright.Number.Numeral
import Shapewright.Number.Shortest
import Shapewright.OrderedMap
import Shapewright.Output
import Shapewright.Proofs.Assembly.Apart
import Shapewright.Proofs.Assembly.Coherence
import Shapewright.Proofs.Assembly.Ending
import Shapewright.Proofs.Assembly.Expansion
import Shapewright.Proofs.Assembly.Frames
import Shapewright.Proofs.Assembly.Gathering
import Shapewright.Proofs.Assembly.Imported
import Shapewright.Proofs.Assembly.Joining
import Shapewright.Proofs.Assembly.LegacyEnums
import Shapewright.Proofs.Assembly.Mixed
import Shapewright.Proofs.Assembly.Nesting
import Shapewright.Proofs.Assembly.Noting
import Shapewright.Proofs.Assembly.Nulls
import Shapewright.Proofs.Assembly.Numbers
import Shapewright.Proofs.Assembly.Operations
import Shapewright.Proofs.Assembly.Preorder
import Shapewright.Proofs.Assembly.Resolution
import Shapewright.Proofs.Assembly.Shapes
import Shapewright.Proofs.Assembly.Sharing
import Shapewright.Proofs.Assembly.Statements
import Shapewright.Proofs.Assembly.Walk
import Shapewright.Proofs.Binding.Imports
import Shapewright.Proofs.Binding.Planning
import Shapewright.Proofs.Binding.Realisation
import Shapewright.Proofs.Binding.Resolving
import Shapewright.Proofs.Binding.Scoping
import Shapewright.Proofs.Binding.Services
import Shapewright.Proofs.Binding.Sets
import Shapewright.Proofs.Binding.Texts
import Shapewright.Proofs.Binding.Throwing
import Shapewright.Proofs.Code.Documentation
import Shapewright.Proofs.Code.Indentation
import Shapewright.Proofs.Code.Mentions
import Shapewright.Proofs.Code.Packages
import Shapewright.Proofs.Code.Scoping
import Shapewright.Proofs.Code.Semantics
import Shapewright.Proofs.Comment
import Shapewright.Proofs.Document
import Shapewright.Proofs.Failure
import Shapewright.Proofs.Files
import Shapewright.Proofs.Generated.Complete
import Shapewright.Proofs.Generated.Constructor
import Shapewright.Proofs.Generated.FunctionName
import Shapewright.Proofs.Generated.Identifiers
import Shapewright.Proofs.Generated.Mentions
import Shapewright.Proofs.Generated.Reports
import Shapewright.Proofs.Generated.TypesFile
import Shapewright.Proofs.Generator
import Shapewright.Proofs.Json.Canonical
import Shapewright.Proofs.Json.Grammar
import Shapewright.Proofs.Json.Keys
import Shapewright.Proofs.Json.RoundTrip
import Shapewright.Proofs.Json.Skimming
import Shapewright.Proofs.Json.Spelling
import Shapewright.Proofs.Naming
import Shapewright.Proofs.Number.Arithmetic
import Shapewright.Proofs.Number.Cutting
import Shapewright.Proofs.Number.Decimal
import Shapewright.Proofs.Number.Digits
import Shapewright.Proofs.Number.Exactness
import Shapewright.Proofs.Number.Figures
import Shapewright.Proofs.Number.Neighbourhood
import Shapewright.Proofs.Number.Padded
import Shapewright.Proofs.Number.Rounding
import Shapewright.Proofs.Number.Shortest
import Shapewright.Proofs.Number.Spelled
import Shapewright.Proofs.OrderedMap
import Shapewright.Proofs.Representation.Conversions
import Shapewright.Proofs.Representation.Forms
import Shapewright.Proofs.Representation.Literal
import Shapewright.Proofs.Representation.Mentions
import Shapewright.Proofs.Representation.Narrowing
import Shapewright.Proofs.Representation.Packages
import Shapewright.Proofs.Representation.RoundTrip
import Shapewright.Proofs.Representation.Scoping
import Shapewright.Proofs.Representation.Support
import Shapewright.Proofs.Shape.Documents
import Shapewright.Proofs.Shape.Edits
import Shapewright.Proofs.Shape.Nodes
import Shapewright.Proofs.Text.Distinct
import Shapewright.Proofs.Text.Lines
import Shapewright.Proofs.Text.Percent
import Shapewright.Proofs.Text.Pieces
import Shapewright.Proofs.Text.Quoted
import Shapewright.Proofs.Time.Calendar
import Shapewright.Proofs.Time.Layout
import Shapewright.Proofs.Units.Factors
import Shapewright.Proofs.Units.Lookup
import Shapewright.Proofs.UriPattern
import Shapewright.Proofs.Wire.Bytes
import Shapewright.Proofs.Wire.Documents
import Shapewright.Proofs.Wire.EpochSeconds
import Shapewright.Proofs.Wire.Integers
import Shapewright.Proofs.Wire.Lists
import Shapewright.Proofs.Wire.PathBinding
import Shapewright.Proofs.Wire.Pieces
import Shapewright.Proofs.Wire.Repeats
import Shapewright.Proofs.Wire.Sets
import Shapewright.Proofs.Wire.Timestamps
import Shapewright.Representation.Basic
import Shapewright.Representation.Conversion
import Shapewright.Representation.Literal
import Shapewright.Representation.Registry
import Shapewright.Shape.Basic
import Shapewright.Shape.Id
import Shapewright.Shape.Kind
import Shapewright.Shape.Node
import Shapewright.Shape.Prelude
import Shapewright.Shape.Printer
import Shapewright.Shape.Traits
import Shapewright.Text.Base64
import Shapewright.Text.Blank
import Shapewright.Text.Bytes
import Shapewright.Text.Canonical
import Shapewright.Text.Case
import Shapewright.Text.Letter
import Shapewright.Text.Mark
import Shapewright.Text.Percent
import Shapewright.Text.Printable
import Shapewright.Text.Quoted
import Shapewright.Text.Split
import Shapewright.Text.Truth
import Shapewright.Time.Calendar
import Shapewright.Time.Layout
import Shapewright.Units.Basic
import Shapewright.Units.Methods
import Shapewright.Units.Quantity
import Shapewright.Wire.Fault
import Shapewright.Wire.Parse
import Shapewright.Wire.Parts
import Shapewright.Wire.Raw
import Shapewright.Wire.Reader
import Shapewright.Wire.Request
import Shapewright.Wire.Target
import Shapewright.Wire.Typed
import Shapewright.Wire.Window
import Shapewright.Yaml.Cursor
import Shapewright.Yaml.Node
import Shapewright.Yaml.Scalar
import Shapewright.Yaml.Stream
import Shapewright.Yaml.Text
import Shapewright.Yaml.Token
import Shapewright.Yaml.Value
