import StoryGraph.Tree

/-!
# What authors write

Lore entries, which a graph filters and activates, and the form of a graph that an editor keeps:
nodes with ids, type names, labels and properties, and edges between named ports.

Main definitions: `Entry`, `Graph`.
-/

namespace StoryGraph

/-! ## Lore entries -/

structure Entry where
  id : String
  label : String
  properties : Fields

namespace Entry

/-- The entry as one record: its id, its label and its other properties. -/
def toRecord (entry : Entry) : Value :=
  let own := Fields.ofList [("id", .text entry.id), ("label", .text entry.label)]
  .record (entry.properties.foldl (fun (fields : Fields) (name, value) =>
    if name == "id" || name == "label" then fields else fields.insert name value) own)

def withProperty (entry : Entry) (name : String) (value : Value) : Entry :=
  { entry with properties := entry.properties.insert name value }

def withKeywords (entry : Entry) (keywords : List String) : Entry :=
  entry.withProperty "keywords" (.list (keywords.map .text))

def toValue (entry : Entry) : Value :=
  Value.ofFields [("id", .text entry.id), ("label", .text entry.label),
    ("properties", .record entry.properties)]

def ofTree? (tree : Tree) : Option Entry := do
  match ← tree.fields? ["id", "label", "properties"] with
  | [id, label, properties] =>
    some ⟨← Field.required Tree.toText? id, ← Field.required Tree.toText? label,
      ← Field.withDefault [] Tree.toRecord? properties⟩
  | _ => none

end Entry

/-! ## Graphs -/

/-- The port of an edge that names none. -/
def defaultPort : String := "default"

structure GraphNode where
  id : String
  type : String
  label : String
  properties : Fields

structure GraphEdge where
  source : String
  sourcePort : Option String
  target : String
  targetPort : Option String

namespace GraphEdge

def sourcePortName (edge : GraphEdge) : String := edge.sourcePort.getD defaultPort

def targetPortName (edge : GraphEdge) : String := edge.targetPort.getD defaultPort

end GraphEdge

structure Graph where
  nodes : List GraphNode := []
  edges : List GraphEdge := []

namespace Graph

def addNode (graph : Graph) (node : GraphNode) : Graph :=
  { graph with nodes := graph.nodes ++ [node] }

def addEdge (graph : Graph) (edge : GraphEdge) : Graph :=
  { graph with edges := graph.edges ++ [edge] }

def connect (graph : Graph) (source sourcePort target targetPort : String) : Graph :=
  graph.addEdge ⟨source, some sourcePort, target, some targetPort⟩

def node? (graph : Graph) (id : String) : Option GraphNode := graph.nodes.find? (·.id == id)

end Graph

/-! ## Text form -/

namespace GraphNode

def ofTree? (tree : Tree) : Option GraphNode := do
  match ← tree.fields? ["id", "type", "label", "properties"] with
  | [id, type, label, properties] =>
    some ⟨← Field.required Tree.toText? id, ← Field.required Tree.toText? type,
      ← Field.withDefault "" Tree.toText? label,
      ← Field.withDefault [] Tree.toRecord? properties⟩
  | _ => none

def toValue (node : GraphNode) : Value :=
  Value.ofFields [("id", .text node.id), ("type", .text node.type), ("label", .text node.label),
    ("properties", .record node.properties)]

end GraphNode

namespace GraphEdge

def ofTree? (tree : Tree) : Option GraphEdge := do
  match ← tree.fields? ["source", "source_port", "target", "target_port"] with
  | [source, sourcePort, target, targetPort] =>
    some ⟨← Field.required Tree.toText? source,
      ← Field.withDefault none (Tree.toOption? Tree.toText?) sourcePort,
      ← Field.required Tree.toText? target,
      ← Field.withDefault none (Tree.toOption? Tree.toText?) targetPort⟩
  | _ => none

def portToValue : Option String → Value
  | some port => .text port
  | none => .null

def toValue (edge : GraphEdge) : Value :=
  Value.ofFields [("source", .text edge.source), ("source_port", portToValue edge.sourcePort),
    ("target", .text edge.target), ("target_port", portToValue edge.targetPort)]

end GraphEdge

namespace Graph

def ofTree? (tree : Tree) : Option Graph := do
  match ← tree.fields? ["nodes", "edges"] with
  | [nodes, edges] =>
    some ⟨← Field.withDefault [] (Tree.toList? GraphNode.ofTree?) nodes,
      ← Field.withDefault [] (Tree.toList? GraphEdge.ofTree?) edges⟩
  | _ => none

def toValue (graph : Graph) : Value :=
  Value.ofFields [("nodes", .list (graph.nodes.map GraphNode.toValue)),
    ("edges", .list (graph.edges.map GraphEdge.toValue))]

end Graph

end StoryGraph
