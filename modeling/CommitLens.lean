import CommitLens.Change.Compare
import CommitLens.Change.Lines
import CommitLens.Change.Record
import CommitLens.CommandLine.Arguments
import CommitLens.CommandLine.Call
import CommitLens.CommandLine.Usage
import CommitLens.Config.Basic
import CommitLens.Config.Load
import CommitLens.Config.Read
import CommitLens.Config.Write
import CommitLens.Decimal.Binary
import CommitLens.Decimal.Layout
import CommitLens.Decimal.Reading
import CommitLens.Decimal.Shortest
import CommitLens.Dependency.Edge
import CommitLens.Dependency.Graph
import CommitLens.Dependency.Resolve
import CommitLens.Extraction
import CommitLens.Extractor
import CommitLens.Files.Counterpart
import CommitLens.Files.Kind
import CommitLens.Files.Path
import CommitLens.Files.Scope
import CommitLens.Files.Tree
import CommitLens.Git.Listing
import CommitLens.Git.Repository
import CommitLens.Glob.Braces
import CommitLens.Glob.Pattern
import CommitLens.Glob.Piece
import CommitLens.Json.Reader
import CommitLens.Json.Value
import CommitLens.Json.Writer
import CommitLens.Language
import CommitLens.Main
import CommitLens.Number
import CommitLens.Pipeline
import CommitLens.Pipeline.Shared
import CommitLens.Proofs.Change.Breaking
import CommitLens.Proofs.Change.Comparison
import CommitLens.Proofs.Change.Impact
import CommitLens.Proofs.Change.LongNames
import CommitLens.Proofs.Change.Names
import CommitLens.Proofs.Change.Reversal
import CommitLens.Proofs.Config.Load
import CommitLens.Proofs.Config.Write
import CommitLens.Proofs.Dependency.Edge
import CommitLens.Proofs.Dependency.Graph
import CommitLens.Proofs.Dependency.Related
import CommitLens.Proofs.Extraction
import CommitLens.Proofs.Git.Listing
import CommitLens.Proofs.Git.Missing
import CommitLens.Proofs.Git.Repository
import CommitLens.Proofs.Git.State
import CommitLens.Proofs.Glob.Braces
import CommitLens.Proofs.Glob.Pattern
import CommitLens.Proofs.Pipeline.Account
import CommitLens.Proofs.Pipeline.Breaking
import CommitLens.Proofs.Pipeline.Failure
import CommitLens.Proofs.Pipeline.Independence
import CommitLens.Proofs.Pipeline.Shared
import CommitLens.Proofs.Python.Expressions
import CommitLens.Proofs.Python.Reader
import CommitLens.Proofs.Python.Spelling
import CommitLens.Proofs.Python.Statements
import CommitLens.Proofs.Python.Token
import CommitLens.Proofs.Report.Header
import CommitLens.Proofs.Report.Scope
import CommitLens.Proofs.Report.Suggestion
import CommitLens.Proofs.Rules.Vocabulary
import CommitLens.Proofs.Score.Double
import CommitLens.Proofs.Score.Extended
import CommitLens.Proofs.Score.Range
import CommitLens.Proofs.Score.Weights
import CommitLens.Proofs.Script.Grammar
import CommitLens.Proofs.Script.Rule
import CommitLens.Proofs.Script.Source
import CommitLens.Proofs.Script.Spelling
import CommitLens.Proofs.Session
import CommitLens.Proofs.Surface
import CommitLens.Proofs.Surface.Spelling
import CommitLens.Proofs.Surface.Version
import CommitLens.Proofs.Text
import CommitLens.Proofs.Text.Compatibility
import CommitLens.Proofs.Text.Line
import CommitLens.Python.Expressions
import CommitLens.Python.Literal
import CommitLens.Python.Module
import CommitLens.Python.Parse
import CommitLens.Python.Patterns
import CommitLens.Python.Printer
import CommitLens.Python.Statements
import CommitLens.Python.Surface
import CommitLens.Python.Syntax
import CommitLens.Python.Token
import CommitLens.Report.Ranking
import CommitLens.Report.Render
import CommitLens.Report.Suggestion
import CommitLens.Rules.Classify
import CommitLens.Rules.Rule
import CommitLens.Score.Formula
import CommitLens.Score.Settings
import CommitLens.Score.Weights
import CommitLens.Script.Expressions
import CommitLens.Script.Members
import CommitLens.Script.Program
import CommitLens.Script.Rule
import CommitLens.Script.Source
import CommitLens.Script.Statements
import CommitLens.Script.Surface
import CommitLens.Script.Tree
import CommitLens.Script.Types
import CommitLens.Session
import CommitLens.Surface
import CommitLens.Text.Blank
import CommitLens.Text.CharacterNames
import CommitLens.Text.Compatibility
import CommitLens.Text.Identifier
import CommitLens.Text.LowerCase
import CommitLens.Text.Printable
import CommitLens.Text.Quoted
import CommitLens.Text.Ranges
import CommitLens.Text.Similarity
import CommitLens.Text.Utf8
import CommitLens.Transcript
import CommitLens.Yaml.Document
import CommitLens.Yaml.Node
import CommitLens.Yaml.Printer
import CommitLens.Yaml.Scalar
import CommitLens.Yaml.Token
import CommitLens.Yaml.Value
import CommitLens.Proofs.Dependency.Resolve
import CommitLens.Proofs.Dependency.Completion
import CommitLens.Proofs.Dependency.Package
import CommitLens.Proofs.CommandLine.Analysis
import CommitLens.Proofs.CommandLine.Outcome
import CommitLens.Proofs.Text.Escape
import CommitLens.Proofs.Rules.Composition
import CommitLens.Proofs.Extraction.Reads
import CommitLens.Proofs.Dependency.Language
import CommitLens.Proofs.Dependency.Base
import CommitLens.Proofs.Report.Choice
import CommitLens.Proofs.Score.Growth
import CommitLens.Proofs.Text.Mark
import CommitLens.Proofs.Rules.Heuristics
import CommitLens.Proofs.Change.Silence
import CommitLens.Proofs.Script.Interfaces
import CommitLens.Proofs.Change.Members
import CommitLens.Proofs.Report.Agreement
import CommitLens.Proofs.Change.Lines
import CommitLens.Proofs.Files.Scope
import CommitLens.Proofs.Files.Counterpart
import CommitLens.Proofs.Script.Comments
import CommitLens.Proofs.Script.Reading
import CommitLens.Proofs.Script.Binding
import CommitLens.Proofs.Script.Assigning
import CommitLens.Proofs.Script.Declaring
import CommitLens.Proofs.Script.Exchanging
import CommitLens.Proofs.Python.Surface
import CommitLens.Proofs.Script.Variables
import CommitLens.Proofs.Extractor
import CommitLens.Proofs.Git.Quoting
import CommitLens.Proofs.Script.Traversal
import CommitLens.Proofs.Python.Literal
