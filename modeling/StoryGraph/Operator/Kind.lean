import StoryGraph.Operator.Arithmetic
import StoryGraph.Operator.Decision
import StoryGraph.Operator.Lists
import StoryGraph.Operator.Neighbours
import StoryGraph.Operator.Selection
import StoryGraph.Operator.Sources
import StoryGraph.Operator.Texts
import StoryGraph.Text.Case

/-!
# Kinds of operators

Which operator a node runs is told by its type and, for some types, by a word in its label.

Main definition: `OperatorKind.ofNode?`.
-/

namespace StoryGraph

inductive OperatorKind where
  | sourceEntries
  | sourceMessages
  | sourceLiteral
  | sourceContext
  | keywordFilter
  | messageFilter
  | entryFilter
  | adjacency
  | math
  | mathUnary
  | compare
  | logic
  | setTest
  | switch
  | probability
  | joinList
  | remap
  | sort
  | slice
  | getAttribute
  | count
  | textJoin
  | regexMatch
  | regexReplace
  | reroute
  | outputEntries
  | outputContext
deriving DecidableEq

namespace OperatorKind

/-- Roots are what a run collects. -/
def isRoot : OperatorKind → Bool
  | outputEntries | outputContext => true
  | _ => false

/-- A node that only passes a value on is not reported as executed. -/
def isStructural : OperatorKind → Bool
  | reroute => true
  | _ => false

def name : OperatorKind → String
  | sourceEntries => "SourceEntries"
  | sourceMessages => "SourceMessages"
  | sourceLiteral => "SourceLiteral"
  | sourceContext => "SourceContext"
  | keywordFilter => "KeywordFilter"
  | messageFilter => "MessageFilter"
  | entryFilter => "EntryFilter"
  | adjacency => "Adjacency"
  | math => "Math"
  | mathUnary => "MathUnary"
  | compare => "Compare"
  | logic => "Logic"
  | setTest => "SetTest"
  | switch => "Switch"
  | probability => "Probability"
  | joinList => "JoinList"
  | remap => "Remap"
  | sort => "Sort"
  | slice => "Slice"
  | getAttribute => "GetAttribute"
  | count => "Count"
  | textJoin => "TextJoin"
  | regexMatch => "RegexMatch"
  | regexReplace => "RegexReplace"
  | reroute => "Reroute"
  | outputEntries => "OutputEntries"
  | outputContext => "OutputContext"

/-! ## Choice by type and label -/

/-- A node type that leaves the choice to its label: the words that decide, in the order in which
they are tried, and the kind when none occurs. -/
structure Overload where
  words : List (String × OperatorKind)
  otherwise : OperatorKind

/-- Node types that share one name among several kinds. -/
def overload? : String → Option Overload
  | "source" => some ⟨[("message", sourceMessages), ("literal", sourceLiteral),
      ("context", sourceContext)], sourceEntries⟩
  | "filter" => some ⟨[("keyword", keywordFilter), ("message", messageFilter)], entryFilter⟩
  | "math" => some ⟨["floor", "ceil", "round", "abs", "sqrt", "log"].map (·, mathUnary), math⟩
  | "output" => some ⟨[("context", outputContext)], outputEntries⟩
  | _ => none

def ofType? : String → Option OperatorKind
  | "source_entries" => some sourceEntries
  | "source_messages" => some sourceMessages
  | "source_literal" => some sourceLiteral
  | "source_context" => some sourceContext
  | "keyword_filter" => some keywordFilter
  | "message_filter" => some messageFilter
  | "entry_filter" => some entryFilter
  | "adjacency" => some adjacency
  | "math_unary" => some mathUnary
  | "compare" => some compare
  | "logic" => some logic
  | "set_test" => some setTest
  | "switch" => some switch
  | "probability" => some probability
  | "join_list" => some joinList
  | "remap" => some remap
  | "sort" => some sort
  | "slice" => some slice
  | "get_attribute" => some getAttribute
  | "count" => some count
  | "text_join" => some textJoin
  | "regex_match" => some regexMatch
  | "regex_replace" => some regexReplace
  | "reroute" => some reroute
  | "output_entries" => some outputEntries
  | "output_context" => some outputContext
  | _ => none

def Overload.choose (choice : Overload) (label : String) : OperatorKind :=
  let letters := (Text.lowercase label).toList
  match choice.words.find? fun (word, _) => Text.occursIn word.toList letters with
  | some (_, kind) => kind
  | none => choice.otherwise

/-- The kind of a node; none for types that have no operator. -/
def ofNode? (type label : String) : Option OperatorKind :=
  match overload? type with
  | some choice => some (choice.choose label)
  | none => ofType? type

end OperatorKind

/-! ## Catalogue of operators

The body of each kind of operator.
-/

def Operator.reroute : Body Outputs := do
  return .single "output" (← Body.ask "input")

def OperatorKind.body (kind : OperatorKind) (site : Site) : Body Outputs :=
  match kind with
  | sourceEntries => Operator.sourceEntries site
  | sourceMessages => Operator.sourceMessages site
  | sourceLiteral => Operator.sourceLiteral site
  | sourceContext => Operator.sourceContext site
  | keywordFilter => Operator.keywordFilter site
  | messageFilter => Operator.messageFilter site
  | entryFilter => Operator.entryFilter site
  | adjacency => Operator.adjacency site
  | math => Operator.math site
  | mathUnary => Operator.mathUnary site
  | compare => Operator.compare site
  | logic => Operator.logic site
  | setTest => Operator.setTest site
  | switch => Operator.switch
  | probability => Operator.probability
  | joinList => Operator.joinList site
  | remap => Operator.remap
  | sort => Operator.sort
  | slice => Operator.slice
  | getAttribute => Operator.getAttribute
  | count => Operator.count
  | textJoin => Operator.textJoin
  | regexMatch => Operator.regexMatch site
  | regexReplace => Operator.regexReplace site
  | reroute => Operator.reroute
  | outputEntries => Operator.outputEntries
  | outputContext => Operator.outputContext

end StoryGraph
