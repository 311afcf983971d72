import TextPattern.Catalog.Basic
import TextPattern.Catalog.Builtin
import TextPattern.Catalog.Reader
import TextPattern.Catalog.Sweep
import TextPattern.CharSet.Basic
import TextPattern.Command.Arguments
import TextPattern.Command.Basic
import TextPattern.Command.Reader
import TextPattern.Command.Run
import TextPattern.Comparison
import TextPattern.Count
import TextPattern.Double.Basic
import TextPattern.Double.Reader
import TextPattern.Double.Shortest
import TextPattern.Error
import TextPattern.Expr.Basic
import TextPattern.Expr.Cost
import TextPattern.Expr.OfTree
import TextPattern.Extract
import TextPattern.Json.Basic
import TextPattern.Json.Printer
import TextPattern.Json.Reader
import TextPattern.Log
import TextPattern.Main
import TextPattern.Match.Look
import TextPattern.Match.Program
import TextPattern.Match.Search
import TextPattern.Match.Visited
import TextPattern.MatchSet
import TextPattern.MatchSet.Json
import TextPattern.NameMap
import TextPattern.Options
import TextPattern.Pattern
import TextPattern.Proofs.Addresses
import TextPattern.Proofs.Agreement
import TextPattern.Proofs.Builtin
import TextPattern.Proofs.Code
import TextPattern.Proofs.CommandLine
import TextPattern.Proofs.CommandWords
import TextPattern.Proofs.Cut
import TextPattern.Proofs.Delimited
import TextPattern.Proofs.Dialects
import TextPattern.Proofs.Erasure
import TextPattern.Proofs.Extract
import TextPattern.Proofs.Flags
import TextPattern.Proofs.Flat
import TextPattern.Proofs.Hits
import TextPattern.Proofs.Identifying
import TextPattern.Proofs.InputFile
import TextPattern.Proofs.Item
import TextPattern.Proofs.Json.Results
import TextPattern.Proofs.Json.RoundTrip
import TextPattern.Proofs.Level
import TextPattern.Proofs.Lines
import TextPattern.Proofs.Literal
import TextPattern.Proofs.Longer.Bracket
import TextPattern.Proofs.Longer.Items
import TextPattern.Proofs.Longer.Parser
import TextPattern.Proofs.Longer.Reader
import TextPattern.Proofs.Longer.Whole
import TextPattern.Proofs.MatchLog
import TextPattern.Proofs.Meaning
import TextPattern.Proofs.Merge
import TextPattern.Proofs.NameMap
import TextPattern.Proofs.Numeral
import TextPattern.Proofs.Occurrences
import TextPattern.Proofs.Parts
import TextPattern.Proofs.Preferred
import TextPattern.Proofs.Progress
import TextPattern.Proofs.QuotedCatalog
import TextPattern.Proofs.Range
import TextPattern.Proofs.Rows
import TextPattern.Proofs.Sample.Classes
import TextPattern.Proofs.Sample.Drawable
import TextPattern.Proofs.Sample.Draws
import TextPattern.Proofs.Sample.Escapes
import TextPattern.Proofs.Sample.Exhaust
import TextPattern.Proofs.Sample.Failures
import TextPattern.Proofs.Sample.Growth
import TextPattern.Proofs.Sample.Items
import TextPattern.Proofs.Sample.Matching
import TextPattern.Proofs.Sample.OnePass
import TextPattern.Proofs.Sample.Passes
import TextPattern.Proofs.Sample.Places
import TextPattern.Proofs.Sample.PlainClass
import TextPattern.Proofs.Sample.Reading
import TextPattern.Proofs.Sample.Stages
import TextPattern.Proofs.Sample.Unchanged
import TextPattern.Proofs.Search
import TextPattern.Proofs.Searches
import TextPattern.Proofs.Sequence
import TextPattern.Proofs.Setting
import TextPattern.Proofs.Slotless
import TextPattern.Proofs.Sweep
import TextPattern.Proofs.Whole
import TextPattern.Proofs.Yaml.Document
import TextPattern.Proofs.Yaml.Entries
import TextPattern.Proofs.Yaml.Events
import TextPattern.Proofs.Yaml.Scalar
import TextPattern.Proofs.Yaml.Scanner
import TextPattern.Random.Cycle
import TextPattern.Random.KeyStream
import TextPattern.Random.Source
import TextPattern.Range.Basic
import TextPattern.Sample.Generate
import TextPattern.Sample.Substitution
import TextPattern.Sample.Token
import TextPattern.Syntax.Bracket
import TextPattern.Syntax.Escape
import TextPattern.Syntax.Fault
import TextPattern.Syntax.Group
import TextPattern.Syntax.Nesting
import TextPattern.Syntax.Parser
import TextPattern.Syntax.Position
import TextPattern.Syntax.Reader
import TextPattern.Syntax.Tree
import TextPattern.Text.Cursor
import TextPattern.Text.Hex
import TextPattern.Text.Quoted
import TextPattern.Text.Redaction
import TextPattern.Unicode.Age
import TextPattern.Unicode.Binary
import TextPattern.Unicode.Blank
import TextPattern.Unicode.Category
import TextPattern.Unicode.Digit
import TextPattern.Unicode.Fold
import TextPattern.Unicode.Property
import TextPattern.Unicode.Script
import TextPattern.Unicode.ScriptExtension
import TextPattern.Unicode.Segmentation
import TextPattern.Unicode.Table
import TextPattern.Unicode.Unsupported
import TextPattern.Unicode.Word
import TextPattern.Yaml.Block
import TextPattern.Yaml.Cursor
import TextPattern.Yaml.Directive
import TextPattern.Yaml.Document
import TextPattern.Yaml.Event
import TextPattern.Yaml.Fault
import TextPattern.Yaml.FaultText
import TextPattern.Yaml.Plain
import TextPattern.Yaml.Property
import TextPattern.Yaml.Quoted
import TextPattern.Yaml.Resolve
import TextPattern.Yaml.Scanner
import TextPattern.Yaml.Token
