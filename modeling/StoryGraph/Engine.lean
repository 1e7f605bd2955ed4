import StoryGraph.Compile
import StoryGraph.Config
import StoryGraph.Operator.Body
import StoryGraph.Operator.Kind

/-!
# Engines

A pair of documents with a configuration, ready to run. The documents need not be valid: an edge
with an end that is no node is ignored, a property with a dangling name is not there, and a node
whose type has no operator yields nothing.

Main definitions: `Engine.kind?`, `Engine.feeds`, `Engine.roots`.
-/

namespace StoryGraph

/-! ## Properties of a node -/

/-- Properties by name, in the order of the document, each name once. -/
structure NodeProps where
  named : List (String × Compact)

namespace NodeProps

/-- The first pair of each name; `seen` are the names of pairs before. -/
def firstOfName (seen : List String) : List (String × Compact) → List (String × Compact)
  | [] => []
  | (name, value) :: rest =>
    if seen.contains name then firstOfName seen rest
    else (name, value) :: firstOfName (name :: seen) rest

/-- The properties of a list whose names the table has. -/
def resolve (table : StringTable) (props : Props) : NodeProps :=
  ⟨firstOfName [] (props.pairs.filterMap fun (key, value) =>
    (table.get? key).map fun name => (name, value))⟩

def names (props : NodeProps) : List String := props.named.map (·.1)

def get? (props : NodeProps) (name : String) : Option Compact := props.named.lookup name

/-- The names of settings that are read as text. -/
def settingNames : List String :=
  ["label", "type", "operator", "attribute_name", "attribute", "mode", "field", "sender", "keep",
    "dedupe", "keyword_attribute"]

/-- The text of a setting: of a string, a number or a truth value. -/
def settingText? (table : StringTable) : Compact → Option String
  | .string ref => table.get? ref
  | .number x => some (Json.print (Value.ofFloat x))
  | .bool b => some (if b then "true" else "false")
  | _ => none

/-- A property that is a setting, as text. -/
def setting? (table : StringTable) (props : NodeProps) (name : String) : Option String :=
  if settingNames.contains name then (props.get? name).bind (settingText? table) else none

end NodeProps

/-! ## Engine -/

structure Engine where
  behavior : BehaviorDocument
  data : DataDocument
  config : Config

namespace Engine

def ofJson (behavior data : String) (config : Config) : Except Fault Engine := do
  let behavior ← BehaviorDocument.ofJson behavior
  let data ← DataDocument.ofJson data
  return ⟨behavior, data, config⟩

def ofGraph (registry : Registry) (graph : Graph) (entries : List Entry) (config : Config) :
    Engine :=
  ⟨(compileGraph registry graph).document, compileEntries entries, config⟩

def strings (engine : Engine) : StringTable := engine.behavior.strings

def nodeCount (engine : Engine) : Nat := engine.behavior.nodes.length

/-- The properties of a node; none for an index that is out of range. -/
def props (engine : Engine) (node : Nat) : NodeProps :=
  match engine.behavior.nodes[node]? with
  | some compact => .resolve engine.strings compact.props
  | none => ⟨[]⟩

def property? (engine : Engine) (node : Nat) (name : String) : Option Value :=
  ((engine.props node).get? name).map (·.decompress engine.strings)

def setting? (engine : Engine) (node : Nat) (name : String) : Option String :=
  (engine.props node).setting? engine.strings name

def label (engine : Engine) (node : Nat) : String := (engine.setting? node "label").getD ""

def nodeId (engine : Engine) (node : Nat) : String := (engine.behavior.nodeIds[node]?).getD ""

def kind? (engine : Engine) (node : Nat) : Option OperatorKind :=
  if node < engine.nodeCount then
    OperatorKind.ofNode? ((engine.behavior.nodeType? node).getD "") (engine.label node)
  else none

def entries (engine : Engine) : List Value := engine.data.entries.map Entry.toRecord

/-- The edges into a port, in the order of the document. -/
def feeds (engine : Engine) (node : Nat) (port : String) : List CompactEdge :=
  match engine.strings.indexOf? port with
  | some name => engine.behavior.edges.filter fun edge =>
    engine.behavior.inRange edge && edge.target.toNat == node && edge.targetPort == name
  | none => []

/-! ## Roots -/

/-- Where a root stands in the order of evaluation: the number in its property `order`. -/
def rootOrder (engine : Engine) (node : Nat) : Float :=
  ((engine.property? node "order").map Value.toNumber).getD 0

/-- Whether a root comes before another: by its number, then by its position. -/
def rootLe (engine : Engine) (a b : Nat) : Bool :=
  let x := Binary64.signedOrderKey (engine.rootOrder a)
  let y := Binary64.signedOrderKey (engine.rootOrder b)
  x < y || (x == y && a ≤ b)

/-- The nodes that a run collects, in the order of their evaluation. -/
def roots (engine : Engine) : List Nat :=
  ((List.range engine.nodeCount).filter fun node =>
    (engine.kind? node).any OperatorKind.isRoot).mergeSort engine.rootLe

end Engine

end StoryGraph
