import StoryGraph.Authoring.Graph
import StoryGraph.Authoring.NodeType
import StoryGraph.Document.Data
import StoryGraph.Number.Decimal

/-!
# Compiling

Turns a graph and its entries into compact documents. A node that cannot be compiled is skipped,
an edge without a compiled node at either end is dropped, and a report lists both.

Main definitions: `compact`, `compileGraph`, `compileEntries`.
-/

namespace StoryGraph

/-! ## Values -/

/-- The number a text denotes, if it is the very text of that number: `12` and `-0.5` are,
`007`, `1.50` and `1e3` are not. -/
def pureNumber? (text : String) : Option Float :=
  match text.toList with
  | [] => none
  | c :: _ =>
    if c.isDigit || c = '-' || c = '+' || c = '.' then
      (Binary64.parse? text).filter fun x =>
        Binary64.isFinite x && Json.print (Value.ofFloat x) == text
    else none

def compactText (hint : StorageHint) (text : String) : StateM StringTable Compact :=
  match hint with
  | .text => Compact.string <$> StringTable.intern text
  | .number | .auto =>
    match pureNumber? text with
    | some x => pure (.number x)
    | none => Compact.string <$> StringTable.intern text

/-- The name of a record: its text, or its JSON text when it is none. -/
def nameText : Value → String
  | .text s => s
  | other => Json.print other

/-- The kind of a record: its `type` if that is a text. -/
def kindText (fields : Fields) : String :=
  ((fields.get? "type").bind Value.toText?).getD "any"

mutual

/-- The compact form of a value, with its strings in the table. A record with a name becomes an
attribute whose kind decides how its value is stored; any other record becomes a list with an
attribute for each field. -/
def compact (hint : StorageHint) : Value → StateM StringTable Compact
  | .null => pure .null
  | .bool b => pure (.bool b)
  | .number n => pure (.number n.toFloat)
  | .text s => compactText hint s
  | .list items => Compact.list <$> compactAll hint items
  | .record fields =>
    match Fields.get? fields "name" with
    | some name => do
      let kind := kindText fields
      let nameRef ← StringTable.intern (nameText name)
      let kindRef ← StringTable.intern kind
      let value ← compactMember (.ofTypeTag kind) "value" fields
      pure (.attribute nameRef kindRef value)
    | none => Compact.list <$> compactFields fields

def compactAll (hint : StorageHint) : List Value → StateM StringTable (List Compact)
  | [] => pure []
  | item :: rest => do
    let first ← compact hint item
    let others ← compactAll hint rest
    pure (first :: others)

/-- The compact form of the first field with a name; null when there is none. -/
def compactMember (hint : StorageHint) (name : String) :
    List (String × Value) → StateM StringTable Compact
  | [] => pure .null
  | (other, value) :: rest =>
    if name == other then compact hint value else compactMember hint name rest

def compactFields : List (String × Value) → StateM StringTable (List Compact)
  | [] => pure []
  | (name, value) :: rest => do
    let nameRef ← StringTable.intern name
    let kindRef ← StringTable.intern "any"
    let first ← compact .auto value
    let others ← compactFields rest
    pure (.attribute nameRef kindRef first :: others)

end

/-- The property that holds the label; it always comes first. -/
def labelKey : String := "label"

/-- A property: its name, then its value as the hint for that name has it. -/
def compactProperty (hint : String → StorageHint) (property : String × Value) :
    StateM StringTable (Ref × Compact) := do
  let key ← StringTable.intern property.1
  let value ← compact (hint property.1) property.2
  pure (key, value)

/-- A property list: the label, then the given properties. -/
def compactProps (hint : String → StorageHint) (label : String) (properties : Fields) :
    StateM StringTable Props := do
  let key ← StringTable.intern labelKey
  let ref ← StringTable.intern label
  let others ← properties.mapM (compactProperty hint)
  pure ⟨(key, .string ref) :: others⟩

/-! ## Graphs -/

/-- A node that was left out. -/
structure SkippedNode where
  id : String
  type : String
  reason : String

/-- An edge that was left out. -/
structure DroppedEdge where
  source : String
  target : String
  reason : String

structure CompileReport where
  skipped : List SkippedNode := []
  dropped : List DroppedEdge := []

def CompileReport.isClean (report : CompileReport) : Bool :=
  report.skipped.isEmpty && report.dropped.isEmpty

/-- Why a node is skipped; none if it is compiled. `ids` are those compiled so far. -/
def skipReason? (registry : Registry) (ids : List String) (node : GraphNode) : Option String :=
  if !registry.contains node.type then
    some ("no type definition for " ++ Text.quoted node.type)
  else if ids.contains node.id then some "duplicate node id"
  else none

def storageHint (registry : Registry) (type property : String) : StorageHint :=
  ((registry.get? type).map (·.storageHint property)).getD .auto

def compileNode (registry : Registry) (node : GraphNode) : StateM StringTable CompactNode := do
  let type ← StringTable.intern node.type
  let props ← compactProps (storageHint registry node.type) node.label
    (node.properties.erase labelKey)
  pure ⟨type, props⟩

/-- A document and the report that goes with it. -/
structure Compilation where
  document : BehaviorDocument := {}
  report : CompileReport := {}

def Compilation.addNode (registry : Registry) (state : Compilation) (node : GraphNode) :
    Compilation :=
  match skipReason? registry state.document.nodeIds node with
  | some reason =>
    { state with report.skipped := state.report.skipped ++ [⟨node.id, node.type, reason⟩] }
  | none =>
    let (compiled, strings) := (compileNode registry node).run state.document.strings
    { state with
      document.strings := strings
      document.nodeIds := state.document.nodeIds ++ [node.id]
      document.nodes := state.document.nodes ++ [compiled] }

def Compilation.addEdge (state : Compilation) (edge : GraphEdge) : Compilation :=
  let drop (missing : String) : Compilation :=
    { state with report.dropped := state.report.dropped ++
        [⟨edge.source, edge.target, "endpoint " ++ missing ++ " was not compiled"⟩] }
  match state.document.nodeIndex? edge.source, state.document.nodeIndex? edge.target with
  | none, _ => drop edge.source
  | some _, none => drop edge.target
  | some source, some target =>
    let ports : StateM StringTable (Ref × Ref) := do
      let sourcePort ← StringTable.intern edge.sourcePortName
      let targetPort ← StringTable.intern edge.targetPortName
      pure (sourcePort, targetPort)
    let ((sourcePort, targetPort), strings) := ports.run state.document.strings
    { state with
      document.strings := strings
      document.edges := state.document.edges ++
        [⟨UInt32.ofNat source, sourcePort, UInt32.ofNat target, targetPort⟩] }

def compileGraph (registry : Registry) (graph : Graph) : Compilation :=
  graph.edges.foldl Compilation.addEdge
    (graph.nodes.foldl (Compilation.addNode registry) {})

/-! ## Entries -/

def compileEntry (entry : Entry) : StateM StringTable CompactEntry := do
  let props ← compactProps (fun _ => .auto) entry.label
    ((entry.properties.erase labelKey).erase "id")
  let label ← StringTable.intern entry.label
  pure ⟨entry.id, label, props⟩

/-- Compiles entries; they share one string table. -/
def compileEntries (entries : List Entry) : DataDocument :=
  let (items, strings) := (entries.mapM compileEntry).run .empty
  { strings, items }

end StoryGraph
