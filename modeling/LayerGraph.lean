import LayerGraph.Call
import LayerGraph.Command.Arguments
import LayerGraph.Command.Run
import LayerGraph.Configuration
import LayerGraph.Document
import LayerGraph.Error
import LayerGraph.Flow.Binding
import LayerGraph.Flow.Lexeme
import LayerGraph.Flow.Lexer
import LayerGraph.Flow.Token
import LayerGraph.Folder
import LayerGraph.Fragment
import LayerGraph.GraphFile
import LayerGraph.Json.Encoding
import LayerGraph.Json.Reader
import LayerGraph.Json.Writer
import LayerGraph.Layer
import LayerGraph.Log.Event
import LayerGraph.Log.Query
import LayerGraph.Log.Retention
import LayerGraph.Log.Sorting
import LayerGraph.Log.Store
import LayerGraph.Main
import LayerGraph.Mismatch
import LayerGraph.Node.Access
import LayerGraph.Node.Catalog
import LayerGraph.Node.Constructor
import LayerGraph.Node.Custom
import LayerGraph.Node.Data
import LayerGraph.Node.Layers
import LayerGraph.Node.Module
import LayerGraph.Node.Pipeline
import LayerGraph.Node.Training
import LayerGraph.Number.Binary64
import LayerGraph.Number.Reading
import LayerGraph.Number.Shortest
import LayerGraph.Path
import LayerGraph.Plugin
import LayerGraph.Program
import LayerGraph.Proofs.Alike
import LayerGraph.Proofs.Arguments
import LayerGraph.Proofs.Blame
import LayerGraph.Proofs.Command.Agreement
import LayerGraph.Proofs.Command.Outcome
import LayerGraph.Proofs.Command.Totality
import LayerGraph.Proofs.Document
import LayerGraph.Proofs.Document.Forms
import LayerGraph.Proofs.Flow.Bodies
import LayerGraph.Proofs.Flow.Chain
import LayerGraph.Proofs.Flow.Comments
import LayerGraph.Proofs.Flow.Indentation
import LayerGraph.Proofs.Flow.Lexemes
import LayerGraph.Proofs.Flow.Lines
import LayerGraph.Proofs.Flow.Names
import LayerGraph.Proofs.Flow.Numbers
import LayerGraph.Proofs.Flow.Padding
import LayerGraph.Proofs.Flow.Qualified
import LayerGraph.Proofs.Flow.Qualifying
import LayerGraph.Proofs.Flow.Quotes
import LayerGraph.Proofs.Flow.Reading
import LayerGraph.Proofs.Flow.Rebinding
import LayerGraph.Proofs.Flow.References
import LayerGraph.Proofs.Flow.Rewriting
import LayerGraph.Proofs.Flow.Scanned
import LayerGraph.Proofs.Flow.Steps
import LayerGraph.Proofs.Flow.Strings
import LayerGraph.Proofs.Flow.Walking
import LayerGraph.Proofs.Fragment.Blocks
import LayerGraph.Proofs.Fragment.Gaps
import LayerGraph.Proofs.Fragment.Headers
import LayerGraph.Proofs.Fragment.Height
import LayerGraph.Proofs.Fragment.Levels
import LayerGraph.Proofs.Fragment.Occurrences
import LayerGraph.Proofs.Fragment.Solid
import LayerGraph.Proofs.Json.Context
import LayerGraph.Proofs.Json.Numbers
import LayerGraph.Proofs.Json.Printable
import LayerGraph.Proofs.Json.Reading
import LayerGraph.Proofs.Json.Reads
import LayerGraph.Proofs.Json.Reread
import LayerGraph.Proofs.Json.RoundTrip
import LayerGraph.Proofs.Log.Answers
import LayerGraph.Proofs.Log.Categories
import LayerGraph.Proofs.Log.Journal
import LayerGraph.Proofs.Log.Lines
import LayerGraph.Proofs.Log.Lookup
import LayerGraph.Proofs.Log.Order
import LayerGraph.Proofs.Log.Pages
import LayerGraph.Proofs.Log.Retention
import LayerGraph.Proofs.Log.Strays
import LayerGraph.Proofs.Log.Told
import LayerGraph.Proofs.Node.Attributes
import LayerGraph.Proofs.Node.Builtins
import LayerGraph.Proofs.Node.Calls
import LayerGraph.Proofs.Node.Chaining
import LayerGraph.Proofs.Node.Embedding
import LayerGraph.Proofs.Node.Expressions
import LayerGraph.Proofs.Node.Fair
import LayerGraph.Proofs.Node.Forward
import LayerGraph.Proofs.Node.Headings
import LayerGraph.Proofs.Node.Heights
import LayerGraph.Proofs.Node.Imports
import LayerGraph.Proofs.Node.Indifferent
import LayerGraph.Proofs.Node.Leaves
import LayerGraph.Proofs.Node.Nesting
import LayerGraph.Proofs.Node.Ranges
import LayerGraph.Proofs.Node.Reading
import LayerGraph.Proofs.Node.Rebinding
import LayerGraph.Proofs.Node.Signatures
import LayerGraph.Proofs.Node.Statements
import LayerGraph.Proofs.Node.Strings
import LayerGraph.Proofs.Node.Submodules
import LayerGraph.Proofs.Node.Templates
import LayerGraph.Proofs.Node.Thorough
import LayerGraph.Proofs.Number.Digits
import LayerGraph.Proofs.Number.Nearest
import LayerGraph.Proofs.Number.Shortest
import LayerGraph.Proofs.Parts
import LayerGraph.Proofs.Program.Agreement
import LayerGraph.Proofs.Program.Composition
import LayerGraph.Proofs.Program.Fair
import LayerGraph.Proofs.Program.Header
import LayerGraph.Proofs.Program.Metadata
import LayerGraph.Proofs.Program.Preorder
import LayerGraph.Proofs.Program.Presentation
import LayerGraph.Proofs.Registry.History
import LayerGraph.Proofs.Registry.Names
import LayerGraph.Proofs.Registry.Resolution
import LayerGraph.Proofs.Rendering
import LayerGraph.Proofs.Result
import LayerGraph.Proofs.Service.Blame
import LayerGraph.Proofs.Service.Catalog
import LayerGraph.Proofs.Service.Trail
import LayerGraph.Proofs.Service.Words
import LayerGraph.Proofs.Setting.Added
import LayerGraph.Proofs.Setting.Fits
import LayerGraph.Proofs.Setting.Given
import LayerGraph.Proofs.Setting.Missing
import LayerGraph.Proofs.Setting.Normal
import LayerGraph.Proofs.Setting.Order
import LayerGraph.Proofs.Setting.Repair
import LayerGraph.Proofs.Template.Pieces
import LayerGraph.Proofs.Template.Rendered
import LayerGraph.Proofs.Text.Bytes
import LayerGraph.Proofs.Text.Case
import LayerGraph.Proofs.Text.Distinct
import LayerGraph.Proofs.Text.Quoted
import LayerGraph.Proofs.Text.Trimming
import LayerGraph.Proofs.Tidy
import LayerGraph.Proofs.Time.Clock
import LayerGraph.Proofs.Time.Stamp
import LayerGraph.Proofs.Value.Entries
import LayerGraph.Proofs.Value.Exact
import LayerGraph.Proofs.Value.Faithful
import LayerGraph.Proofs.Value.Literal
import LayerGraph.Proofs.Value.Same
import LayerGraph.Registry
import LayerGraph.Service.Handler
import LayerGraph.Service.Request
import LayerGraph.Service.Route
import LayerGraph.Setting.Merge
import LayerGraph.Setting.Schema
import LayerGraph.Setting.Shape
import LayerGraph.Stack
import LayerGraph.Template
import LayerGraph.Text.Base64
import LayerGraph.Text.Blank
import LayerGraph.Text.Case
import LayerGraph.Text.CodePoints
import LayerGraph.Text.Digit
import LayerGraph.Text.Distinct
import LayerGraph.Text.Identifier
import LayerGraph.Text.Lines
import LayerGraph.Text.Pattern
import LayerGraph.Text.Printable
import LayerGraph.Text.Quoted
import LayerGraph.Text.Utf8
import LayerGraph.Text.Word
import LayerGraph.Time.Date
import LayerGraph.Time.Instant
import LayerGraph.Value
import LayerGraph.Value.Lemmas
import LayerGraph.Value.Literal
import LayerGraph.Value.Slot
import LayerGraph.Yaml.Cursor
import LayerGraph.Yaml.Moment
import LayerGraph.Yaml.Node
import LayerGraph.Yaml.Pattern
import LayerGraph.Yaml.Property
import LayerGraph.Yaml.Reader
import LayerGraph.Yaml.Scalar
import LayerGraph.Yaml.Scan
import LayerGraph.Yaml.Tag
import LayerGraph.Yaml.Token
