import StoryGraph.Document.Compact
import StoryGraph.Json.Parser

/-!
# Behavior documents

A compiled graph: one string table, the ids of the nodes, the nodes and the edges. Edges refer to
nodes by their positions and to ports by their names.

Main definitions: `BehaviorDocument.validate`, `toJson`, `ofJson`.
-/

namespace StoryGraph

def formatVersion : String := "1"

structure CompactNode where
  /-- The name of the node's type. -/
  type : Ref
  props : Props

/-- An edge from an output port of one node to an input port of another. -/
structure CompactEdge where
  source : UInt32
  sourcePort : Ref
  target : UInt32
  targetPort : Ref
deriving DecidableEq

structure BehaviorDocument where
  version : String := formatVersion
  strings : StringTable := .empty
  nodeIds : List String := []
  nodes : List CompactNode := []
  edges : List CompactEdge := []

namespace BehaviorDocument

def nodeType? (document : BehaviorDocument) (index : Nat) : Option String :=
  (document.nodes[index]?).bind fun node => document.strings.get? node.type

def nodeIndex? (document : BehaviorDocument) (id : String) : Option Nat :=
  document.nodeIds.findIdx? (· == id)

/-! ## Validity -/

/-- Whether both ends of an edge are nodes. -/
def inRange (document : BehaviorDocument) (edge : CompactEdge) : Bool :=
  edge.source.toNat < document.nodes.length && edge.target.toNat < document.nodes.length

def checkEnd (count position : Nat) (node : UInt32) : Except Fault Unit :=
  if node.toNat < count then .ok () else .error (.edgeOutOfRange position node.toNat count)

def checkEdge (strings : StringTable) (count position : Nat) (edge : CompactEdge) :
    Except Fault Unit := do
  checkEnd count position edge.source
  checkEnd count position edge.target
  let _ ← strings.resolve edge.sourcePort
  let _ ← strings.resolve edge.targetPort

/-- Checks edges that stand at `position` and after it. -/
def checkEdges (strings : StringTable) (count : Nat) :
    (position : Nat) → List CompactEdge → Except Fault Unit
  | _, [] => .ok ()
  | position, edge :: rest => do
    checkEdge strings count position edge
    checkEdges strings count (position + 1) rest

end BehaviorDocument

/-- The first reference of a property list that the table does not have is a fault. -/
def Props.validate (strings : StringTable) (props : Props) : Except Fault Unit :=
  props.refs.forM fun ref => do let _ ← strings.resolve ref

namespace BehaviorDocument

def checkNode (strings : StringTable) (node : CompactNode) : Except Fault Unit := do
  let _ ← strings.resolve node.type
  node.props.validate strings

/-- Accepts a document with one id for each node, edges between nodes, and references that the
table has. Otherwise the first fault is given: ids, then edges, then nodes. -/
def validate (document : BehaviorDocument) : Except Fault Unit := do
  if document.nodeIds.length ≠ document.nodes.length then
    throw (.idTableMismatch document.nodeIds.length document.nodes.length)
  checkEdges document.strings document.nodes.length 0 document.edges
  document.nodes.forM (checkNode document.strings)

/-! ## Text -/

def nodeToValue (node : CompactNode) : Value :=
  .list [Compact.encodeRef node.type, .list node.props.encode]

def edgeToValue (edge : CompactEdge) : Value :=
  .list ([edge.source, edge.sourcePort, edge.target, edge.targetPort].map Compact.encodeRef)

/-- The JSON text, with the parts in a fixed order. -/
def toJson (document : BehaviorDocument) : String :=
  Json.bracketed "\x7b" "\x7d" [
    "\"v\":" ++ Json.quote document.version,
    "\"s\":" ++ document.strings.toJson,
    "\"i\":" ++ Json.print (.list (document.nodeIds.map .text)),
    "\"n\":" ++ Json.print (.list (document.nodes.map nodeToValue)),
    "\"e\":" ++ Json.print (.list (document.edges.map edgeToValue))]

end BehaviorDocument

def Tree.toWord? (tree : Tree) : Option UInt32 :=
  (tree.toNat? (2 ^ 32)).map UInt32.ofNat

/-- How deep a property's value may be nested: it stands four levels inside its document. -/
def propertyDepth : Nat := Json.depthLimit - 4

/-- A property list in a document, with values nested at most `room` deep. -/
def Props.ofTree? (room : Nat) (tree : Tree) : Option Props :=
  (tree.toList? (Tree.toValue? room)).bind fun flat => (Props.decode flat).toOption

def StringTable.ofTree? (tree : Tree) : Option StringTable :=
  (tree.toList? Tree.toText?).map StringTable.mk

namespace BehaviorDocument

def nodeOfTree? (room : Nat) : Tree → Option CompactNode
  | .list [type, props] => do some ⟨← type.toWord?, ← Props.ofTree? room props⟩
  | _ => none

def edgeOfTree? (tree : Tree) : Option CompactEdge := do
  match ← tree.toList? Tree.toWord? with
  | [source, sourcePort, target, targetPort] => some ⟨source, sourcePort, target, targetPort⟩
  | _ => none

def ofTree? (room : Nat) (tree : Tree) : Option BehaviorDocument := do
  match ← tree.fields? ["v", "s", "i", "n", "e"] with
  | [v, s, i, n, e] =>
    some {
      version := ← Field.withDefault formatVersion Tree.toText? v
      strings := ← Field.required StringTable.ofTree? s
      nodeIds := ← Field.required (Tree.toList? Tree.toText?) i
      nodes := ← Field.required (Tree.toList? (nodeOfTree? room)) n
      edges := ← Field.required (Tree.toList? edgeOfTree?) e }
  | _ => none

/-- Reads a document without checking it. -/
def parse (text : String) : Except Fault BehaviorDocument :=
  match (Json.parse? text).bind (ofTree? propertyDepth) with
  | some document => .ok document
  | none => .error .malformedDocument

/-- Reads a document and checks it. -/
def ofJson (text : String) : Except Fault BehaviorDocument := do
  let document ← parse text
  document.validate
  return document

end BehaviorDocument

end StoryGraph
