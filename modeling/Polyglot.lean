import Polyglot.Batch.Arrival
import Polyglot.Batch.Basic
import Polyglot.Batch.Output
import Polyglot.Builtin
import Polyglot.Command.Arguments
import Polyglot.Command.Basic
import Polyglot.Command.Number
import Polyglot.Command.Run
import Polyglot.Detection
import Polyglot.FileTree.Basic
import Polyglot.FileTree.Workspace
import Polyglot.Json.Answer
import Polyglot.Json.Basic
import Polyglot.Json.Reader
import Polyglot.Json.Writer
import Polyglot.Lines
import Polyglot.Main
import Polyglot.Options
import Polyglot.Pattern.Basic
import Polyglot.Pattern.Bracket
import Polyglot.Pattern.CharSet
import Polyglot.Pattern.Escape
import Polyglot.Pattern.Fragment
import Polyglot.Pattern.Marking
import Polyglot.Pattern.Parser
import Polyglot.Proofs.Batch.Arrival
import Polyglot.Proofs.Batch.Output
import Polyglot.Proofs.Batch.Statistics
import Polyglot.Proofs.Detection.Contribution
import Polyglot.Proofs.Detection.Ranking
import Polyglot.Proofs.Detection.Winner
import Polyglot.Proofs.Json.RoundTrip
import Polyglot.Proofs.Lines.Thinning
import Polyglot.Proofs.Registry.Build
import Polyglot.Registry
import Polyglot.Rule
import Polyglot.RuleFile
import Polyglot.RuleFile.Load
import Polyglot.Text.Utf8
import Polyglot.Toml.Basic
import Polyglot.Toml.Parser
import Polyglot.Toml.Scalar
import Polyglot.Toml.Tree
import Polyglot.Unicode.Age
import Polyglot.Unicode.Category
import Polyglot.Unicode.Folding
import Polyglot.Unicode.Property
import Polyglot.Unicode.Script
import Polyglot.Unicode.Segmentation
import Polyglot.Unicode.Table
import Polyglot.Unicode.Word
import Polyglot.Proofs.Lines.Breaks
import Polyglot.Proofs.Registry.Candidates
import Polyglot.Proofs.Registry.Faults
import Polyglot.Proofs.Registry.Scores
import Polyglot.Proofs.Pattern.Search
import Polyglot.Proofs.Pattern.Demand
import Polyglot.Proofs.Json.Printable
import Polyglot.Proofs.Command.Line
import Polyglot.Proofs.Detection.Reordering
import Polyglot.Proofs.Detection.Interference
import Polyglot.Proofs.Detection.Visible
import Polyglot.Proofs.RuleFile.Grouping
import Polyglot.Proofs.RuleFile.Registry
import Polyglot.Proofs.FileTree.Distinct
import Polyglot.Proofs.Text.Utf8
import Polyglot.Proofs.FileTree.Walk
import Polyglot.Proofs.Batch.Order
import Polyglot.Proofs.Batch.Listing
import Polyglot.Proofs.FileTree.Put
import Polyglot.Proofs.FileTree.Resolution
import Polyglot.Proofs.FileTree.Creation
import Polyglot.Proofs.Json.Answer
import Polyglot.Proofs.Batch.Reading
import Polyglot.Proofs.Command.Answers
import Polyglot.Proofs.Command.Inputs
import Polyglot.Proofs.Command.Output
import Polyglot.Proofs.Batch.Emptied
import Polyglot.Proofs.Command.Overlap
import Polyglot.Proofs.Batch.Room
import Polyglot.Proofs.Batch.Limit
import Polyglot.Proofs.Command.Failures
import Polyglot.FileTree.Parts
import Polyglot.Batch.Rooted
import Polyglot.Proofs.FileTree.Parts
import Polyglot.Proofs.FileTree.Below
import Polyglot.Proofs.Batch.Rooted
import Polyglot.Proofs.Lines.Written
import Polyglot.Proofs.Pattern.Refinement
import Polyglot.Proofs.Registry.Bounds
import Polyglot.Proofs.Detection.Naming
import Polyglot.Proofs.Command.Languages
import Polyglot.Proofs.Detection.Exclusion
import Polyglot.Proofs.Lines.Positions
import Polyglot.Proofs.Detection.Counting
import Polyglot.Proofs.RuleFile.FirstAppearance
import Polyglot.Detection.Word
import Polyglot.Proofs.Lines.Top
import Polyglot.Proofs.Detection.Word
import Polyglot.Proofs.Detection.Thinned
import Polyglot.Proofs.Json.Grammar
import Polyglot.Proofs.Json.Recognition
import Polyglot.Proofs.Options
import Polyglot.Proofs.Entries
import Polyglot.Proofs.Toml.Keys
import Polyglot.Proofs.RuleFile.Acceptance
