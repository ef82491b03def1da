import Stencil.Assembly
import Stencil.Calendar
import Stencil.ClassSource.Builtin
import Stencil.ClassSource.Check
import Stencil.ClassSource.Emit
import Stencil.ClassSource.Instance
import Stencil.ClassSource.Lexeme
import Stencil.ClassSource.Literal
import Stencil.ClassSource.Load
import Stencil.ClassSource.Row
import Stencil.CommandLine.Console
import Stencil.CommandLine.ExitCode
import Stencil.CommandLine.Options
import Stencil.CommandLine.Request
import Stencil.CommandLine.Run
import Stencil.Conversion
import Stencil.Event
import Stencil.Files
import Stencil.Ignore.Match
import Stencil.Ignore.Pattern
import Stencil.Ignore.Patterns
import Stencil.Json.Read
import Stencil.Json.Write
import Stencil.Log.Journal
import Stencil.Log.Level
import Stencil.Log.Record
import Stencil.Main
import Stencil.Markdown.Cell
import Stencil.Markdown.Table
import Stencil.Number.Binary64
import Stencil.Number.Decimal
import Stencil.Number.Layout
import Stencil.Number.MachineWord
import Stencil.Number.Numeral
import Stencil.Number.Shortest
import Stencil.Path
import Stencil.Scope
import Stencil.Settings.Coercion
import Stencil.Settings.Config
import Stencil.Settings.Environment
import Stencil.Settings.Forgiving
import Stencil.Settings.Merge
import Stencil.Settings.Schema
import Stencil.Settings.Source
import Stencil.Settings.Typed
import Stencil.Settings.Validation
import Stencil.Template.Candidate
import Stencil.Template.Compile
import Stencil.Template.Field
import Stencil.Template.Header
import Stencil.Template.Identifier
import Stencil.Template.Minify
import Stencil.Template.Name
import Stencil.Template.Placeholder
import Stencil.Template.Strip
import Stencil.Text.Blank
import Stencil.Text.Case
import Stencil.Text.Cells
import Stencil.Text.CodeRanges
import Stencil.Text.Compatibility
import Stencil.Text.Digit
import Stencil.Text.EmojiName
import Stencil.Text.Identifier
import Stencil.Text.Lexicon
import Stencil.Text.Lines
import Stencil.Text.Printable
import Stencil.Text.Quoted
import Stencil.Text.Utf8
import Stencil.Text.Width
import Stencil.Text.Word
import Stencil.Toml.Document
import Stencil.Toml.Fault
import Stencil.Toml.Quotation
import Stencil.Toml.Scalar
import Stencil.Toml.Write
import Stencil.Value.Basic
import Stencil.Value.Shown
import Stencil.Yaml.Plain
import Stencil.Yaml.Write
import Stencil.Proofs.Settings.Agreement
import Stencil.Proofs.Template.Formatting
import Stencil.Proofs.Template.Identifier
import Stencil.Proofs.Template.Placeholder
import Stencil.Proofs.Text.Ascii
import Stencil.Proofs.Assembly.Mirror
import Stencil.Proofs.ClassSource.Layout
import Stencil.Proofs.ClassSource.Literal
import Stencil.Proofs.ClassSource.Statement
import Stencil.Proofs.ClassSource.Reading
import Stencil.Proofs.Template.Header
import Stencil.Proofs.Template.Scan
import Stencil.Proofs.ClassSource.Loading
import Stencil.Proofs.ClassSource.Rendering
import Stencil.Proofs.Conversion
import Stencil.Proofs.Text.Blank
import Stencil.Proofs.Minify.RawElement
import Stencil.Proofs.Minify.Cut
import Stencil.Proofs.Minify.Settle
import Stencil.Proofs.Minify.Collapse
import Stencil.Proofs.Minify.Rule
import Stencil.Proofs.Template.Selection
import Stencil.Proofs.Template.Reference
import Stencil.Proofs.Template.Declaring
import Stencil.Proofs.ClassSource.Nesting
import Stencil.Proofs.ClassSource.Passage
import Stencil.Proofs.Assembly.Outcome
import Stencil.Proofs.Assembly.Position
import Stencil.Proofs.ClassSource.Lookup
import Stencil.Proofs.Assembly.Reachable
import Stencil.Proofs.Ignore.Repetition
import Stencil.Proofs.Settings.Merging
import Stencil.Proofs.Settings.Layers
import Stencil.Proofs.Json.Array
import Stencil.Proofs.Settings.Variables
import Stencil.Proofs.Settings.Precedence
import Stencil.Proofs.Number.Numeral
import Stencil.Proofs.Settings.SingleVariable
import Stencil.Proofs.ClassSource.Acceptance
import Stencil.Proofs.Settings.Lenient
import Stencil.Proofs.Value.Part
import Stencil.Proofs.Files.Content
import Stencil.Proofs.Files.Following
import Stencil.Proofs.CommandLine.Conversion
import Stencil.Proofs.CommandLine.Escape
import Stencil.Proofs.Log.Journal
import Stencil.Proofs.CommandLine.Delivery
import Stencil.Proofs.Toml.Keyed
import Stencil.Proofs.Settings.Validity
import Stencil.Proofs.ClassSource.TypeWord
import Stencil.Proofs.ClassSource.TypeCheck
import Stencil.Proofs.Minify.Reference
import Stencil.Proofs.ClassSource.Undeclared
import Stencil.Proofs.Value.Meaning
import Stencil.Proofs.Settings.Difference
import Stencil.Proofs.Settings.Reading
import Stencil.Proofs.Settings.ReadBack
import Stencil.Proofs.Template.Outcome
import Stencil.Proofs.Conversion.FromFile
import Stencil.Proofs.Assembly.Sight
import Stencil.Proofs.CommandLine.Repetition
import Stencil.Proofs.Minify.Substitution
import Stencil.Proofs.Template.HeaderBlock
import Stencil.Proofs.Ignore.Trimming
import Stencil.Proofs.Assembly.Listing
import Stencil.Proofs.Assembly.Sequence
import Stencil.Proofs.ClassSource.Evaluation
import Stencil.Proofs.Settings.Independence
import Stencil.Proofs.Settings.Fallback
import Stencil.Proofs.Log.Rotation
import Stencil.Proofs.Log.Retention
import Stencil.Proofs.Settings.Strictness
import Stencil.Proofs.ClassSource.QuotedName
import Stencil.Proofs.Template.LineScan
import Stencil.Proofs.Assembly.Walk
import Stencil.Proofs.Assembly.Growth
