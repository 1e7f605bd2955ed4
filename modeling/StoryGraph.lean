import StoryGraph.ActivatedIds
import StoryGraph.Authoring.Graph
import StoryGraph.Authoring.NodeType
import StoryGraph.Call
import StoryGraph.Chance
import StoryGraph.Compile
import StoryGraph.Config
import StoryGraph.Context
import StoryGraph.Document.Behavior
import StoryGraph.Document.Compact
import StoryGraph.Document.Data
import StoryGraph.Engine
import StoryGraph.Fault
import StoryGraph.Json.Numeral
import StoryGraph.Json.Parser
import StoryGraph.Json.Printer
import StoryGraph.Matching.Keyword
import StoryGraph.Matching.Scan
import StoryGraph.Number.Binary64
import StoryGraph.Number.Decimal
import StoryGraph.Operator.Arithmetic
import StoryGraph.Operator.Body
import StoryGraph.Operator.Decision
import StoryGraph.Operator.Kind
import StoryGraph.Operator.Lists
import StoryGraph.Operator.Neighbours
import StoryGraph.Operator.Selection
import StoryGraph.Operator.Sources
import StoryGraph.Operator.Texts
import StoryGraph.Pattern.CharClass
import StoryGraph.Pattern.Node
import StoryGraph.Pattern.Parser
import StoryGraph.Pattern.Program
import StoryGraph.Pattern.Replacement
import StoryGraph.Pattern.Search
import StoryGraph.Recording
import StoryGraph.Run
import StoryGraph.Session
import StoryGraph.Template
import StoryGraph.Text.Case
import StoryGraph.Text.Category
import StoryGraph.Text.Classes
import StoryGraph.Text.Property
import StoryGraph.Text.Quoted
import StoryGraph.Text.Script
import StoryGraph.Toml.Parser
import StoryGraph.Toml.Scalar
import StoryGraph.Toml.Strings
import StoryGraph.Toml.Tables
import StoryGraph.Tree
import StoryGraph.Value
import StoryGraph.Value.Coercion
import StoryGraph.Value.Comparison
import StoryGraph.Proofs.Bodies
import StoryGraph.Proofs.Evaluation
import StoryGraph.Proofs.Memo
import StoryGraph.Proofs.Depth
import StoryGraph.Proofs.Plain
import StoryGraph.Proofs.Ports
import StoryGraph.Proofs.History
import StoryGraph.Proofs.Turns
import StoryGraph.Proofs.Lore
import StoryGraph.Proofs.Represents
import StoryGraph.Proofs.Restored
import StoryGraph.Proofs.Alike
import StoryGraph.Proofs.Wire
import StoryGraph.Proofs.NumeralGrammar
import StoryGraph.Proofs.Printed
import StoryGraph.Proofs.Documents
import StoryGraph.Proofs.Lossless
import StoryGraph.Proofs.Markers
import StoryGraph.Proofs.Replacing
import StoryGraph.Proofs.Embedding
import StoryGraph.Proofs.Spans
import StoryGraph.Proofs.Deeds
import StoryGraph.Proofs.Unseeded
import StoryGraph.Proofs.Highlights
import StoryGraph.Proofs.Course
import StoryGraph.Proofs.Cycles
import StoryGraph.Proofs.Mirror
import StoryGraph.Proofs.Unrecorded
import StoryGraph.Proofs.Demand
import StoryGraph.Proofs.Lazy
import StoryGraph.Proofs.Dealt
import StoryGraph.Proofs.Leftovers
import StoryGraph.Proofs.Stable
import StoryGraph.Proofs.Shapes
import StoryGraph.Proofs.WholeWords
import StoryGraph.Proofs.Adjacency
import StoryGraph.Proofs.Copies
import StoryGraph.Proofs.KeywordSplit
import StoryGraph.Proofs.Caps
import StoryGraph.Proofs.Complements
import StoryGraph.Proofs.Buckets
import StoryGraph.Proofs.NumericOrder
import StoryGraph.Proofs.Sorting
import StoryGraph.Proofs.FoldedNumerals
import StoryGraph.Proofs.FiniteRange
import StoryGraph.Proofs.ShortestDecimals
import StoryGraph.Proofs.PrintedNumerals
import StoryGraph.Proofs.Orderings
import StoryGraph.Proofs.Spellings
import StoryGraph.Proofs.Validation
import StoryGraph.Proofs.Survivors
import StoryGraph.Proofs.RoundTrip
import StoryGraph.Proofs.PrintedApart
import StoryGraph.Proofs.Merging
import StoryGraph.Proofs.Reports
import StoryGraph.Proofs.Roots
import StoryGraph.Proofs.Literals
import StoryGraph.Proofs.Slots
import StoryGraph.Proofs.Windows
import StoryGraph.Proofs.StringTables
