import StoryGraph.Proofs.Normal

/-!
# What is compiled

A graph is compiled node by node and edge by edge, and what is left out depends on what came before.
Here it is told beforehand which nodes and edges are compiled; each of them is then one step that
stores strings, and so is the whole document.

Main definitions: `Graph.compiledNodes`, `Graph.compiledEdges`.
-/

namespace StoryGraph

open StringTable (Stored intern_stored mapM_stored)

/-! ## Which nodes and edges -/

namespace Graph

/-- The nodes that are compiled: of those whose type is known, the first of each id. -/
def compiledNodes (registry : Registry) (graph : Graph) : List GraphNode :=
  (graph.nodes.filter fun node => registry.contains node.type).eraseDupsBy fun a b => a.id == b.id

def compiledIds (registry : Registry) (graph : Graph) : List String :=
  (graph.compiledNodes registry).map (·.id)

end Graph

structure PlacedEdge where
  source : Nat
  target : Nat
  edge : GraphEdge

def GraphEdge.place? (ids : List String) (edge : GraphEdge) : Option PlacedEdge := do
  let source ← ids.findIdx? (· == edge.source)
  let target ← ids.findIdx? (· == edge.target)
  some ⟨source, target, edge⟩

namespace Graph

def compiledEdges (registry : Registry) (graph : Graph) : List PlacedEdge :=
  graph.edges.filterMap (GraphEdge.place? (graph.compiledIds registry))

end Graph

def compileEdge (placed : PlacedEdge) : StateM StringTable CompactEdge := do
  let sourcePort ← StringTable.intern placed.edge.sourcePortName
  let targetPort ← StringTable.intern placed.edge.targetPortName
  pure ⟨UInt32.ofNat placed.source, sourcePort, UInt32.ofNat placed.target, targetPort⟩

/-! ## Which of them there are -/

theorem mem_eraseDupsBy {α : Type} {same : α → α → Bool} {a : α} : ∀ {items : List α},
    a ∈ items.eraseDupsBy same → a ∈ items
  | [], h => h
  | first :: rest, h => by
      rw [List.eraseDupsBy_cons] at h
      rcases List.mem_cons.mp h with rfl | h
      · exact List.mem_cons_self
      · exact List.mem_cons_of_mem _ (List.mem_filter.mp (mem_eraseDupsBy h)).1
termination_by items => items.length
decreasing_by exact Nat.lt_succ_of_le (List.length_filter_le _ _)

theorem pairwise_eraseDupsBy {α : Type} {same : α → α → Bool} : ∀ items : List α,
    (items.eraseDupsBy same).Pairwise fun a b => same b a = false
  | [] => .nil
  | first :: rest => by
      rw [List.eraseDupsBy_cons]
      refine List.pairwise_cons.mpr ⟨fun later hlater => ?_, pairwise_eraseDupsBy _⟩
      exact of_decide_eq_true (List.mem_filter.mp (mem_eraseDupsBy hlater)).2
termination_by items => items.length
decreasing_by exact Nat.lt_succ_of_le (List.length_filter_le _ _)

namespace Graph

variable {registry : Registry} {graph : Graph}

theorem mem_compiledNodes {node : GraphNode} (h : node ∈ graph.compiledNodes registry) :
    node ∈ graph.nodes ∧ registry.contains node.type = true :=
  List.mem_filter.mp (mem_eraseDupsBy h)

theorem compiledIds_nodup : (graph.compiledIds registry).Nodup :=
  List.pairwise_map.mpr ((pairwise_eraseDupsBy _).imp fun h heq => by simp [heq] at h)

theorem mem_compiledEdges {placed : PlacedEdge} (h : placed ∈ graph.compiledEdges registry) :
    placed.source < (graph.compiledNodes registry).length ∧
      placed.target < (graph.compiledNodes registry).length := by
  obtain ⟨edge, -, hplace⟩ := List.mem_filterMap.mp h
  obtain ⟨source, hsource, hplace⟩ := Option.bind_eq_some_iff.mp hplace
  obtain ⟨target, htarget, hplace⟩ := Option.bind_eq_some_iff.mp hplace
  cases hplace
  have hlength : (graph.compiledIds registry).length = (graph.compiledNodes registry).length :=
    List.length_map _
  rw [← hlength]
  exact ⟨(List.findIdx?_eq_some_iff_getElem.mp hsource).1,
    (List.findIdx?_eq_some_iff_getElem.mp htarget).1⟩

end Graph

/-! ## Compiling is one step after the other -/

namespace Compilation

variable {registry : Registry}

theorem skipReason?_isNone {ids : List String} {node : GraphNode} :
    skipReason? registry ids node = none ↔
      (registry.contains node.type && !ids.contains node.id) = true := by
  unfold skipReason?
  cases registry.contains node.type <;> cases ids.contains node.id <;> simp

/-- Of some nodes those that are compiled after nodes with the given ids. -/
def freshNodes (registry : Registry) (ids : List String) (nodes : List GraphNode) :
    List GraphNode :=
  (nodes.filter fun node => registry.contains node.type && !ids.contains node.id).eraseDupsBy
    fun a b => a.id == b.id

theorem freshNodes_cons_of_skipped {ids : List String} {node : GraphNode} {rest : List GraphNode}
    {reason : String} (h : skipReason? registry ids node = some reason) :
    freshNodes registry ids (node :: rest) = freshNodes registry ids rest := by
  unfold freshNodes
  rw [List.filter_cons_of_neg]
  intro hfresh
  rw [skipReason?_isNone.mpr hfresh] at h
  exact nomatch h

theorem freshNodes_cons {ids : List String} {node : GraphNode} {rest : List GraphNode}
    (h : skipReason? registry ids node = none) :
    freshNodes registry ids (node :: rest) =
      node :: freshNodes registry (ids ++ [node.id]) rest := by
  unfold freshNodes
  have hnode := skipReason?_isNone.mp h
  rw [List.filter_cons, if_pos hnode, List.eraseDupsBy_cons, List.filter_filter]
  congr 2
  refine List.filter_congr fun other _ => ?_
  by_cases he : other.id = node.id <;> simp [he, Bool.and_comm]

theorem addNode_skipped {state : Compilation} {node : GraphNode} {reason : String}
    (h : skipReason? registry state.document.nodeIds node = some reason) :
    (state.addNode registry node).document = state.document := by
  unfold addNode
  rw [h]

theorem addNode_compiled {state : Compilation} {node : GraphNode}
    (h : skipReason? registry state.document.nodeIds node = none) :
    (state.addNode registry node).document =
      { state.document with
        strings := (compileNode registry node state.document.strings).2
        nodeIds := state.document.nodeIds ++ [node.id]
        nodes := state.document.nodes ++ [(compileNode registry node state.document.strings).1] } := by
  unfold addNode
  rw [h]
  rfl

/-- **Nodes are compiled as if those that are skipped were not there.** -/
theorem foldl_addNode (nodes : List GraphNode) : ∀ state : Compilation,
    let fresh := freshNodes registry state.document.nodeIds nodes
    let compiled := fresh.mapM (compileNode registry) state.document.strings
    (nodes.foldl (addNode registry) state).document =
      { state.document with
        strings := compiled.2
        nodeIds := state.document.nodeIds ++ fresh.map (·.id)
        nodes := state.document.nodes ++ compiled.1 } := by
  induction nodes with
  | nil =>
      intro state
      show state.document = { state.document with
        nodeIds := state.document.nodeIds ++ [], nodes := state.document.nodes ++ [] }
      rw [List.append_nil, List.append_nil]
  | cons node rest ih =>
      intro state
      dsimp only
      rw [List.foldl_cons, ih]
      cases hskip : skipReason? registry state.document.nodeIds node with
      | some reason => rw [addNode_skipped hskip, freshNodes_cons_of_skipped hskip]
      | none =>
          rw [addNode_compiled hskip, freshNodes_cons hskip, List.mapM_cons]
          simp only [List.append_assoc, List.singleton_append]
          rfl

theorem addEdge_dropped {state : Compilation} {edge : GraphEdge}
    (h : edge.place? state.document.nodeIds = none) :
    (state.addEdge edge).document = state.document := by
  unfold addEdge BehaviorDocument.nodeIndex?
  unfold GraphEdge.place? at h
  cases hsource : state.document.nodeIds.findIdx? (· == edge.source) with
  | none => rfl
  | some source =>
      cases htarget : state.document.nodeIds.findIdx? (· == edge.target) with
      | none => rfl
      | some target =>
          rw [hsource, htarget] at h
          exact nomatch h

theorem addEdge_compiled {state : Compilation} {edge : GraphEdge} {placed : PlacedEdge}
    (h : edge.place? state.document.nodeIds = some placed) :
    (state.addEdge edge).document =
      { state.document with
        strings := (compileEdge placed state.document.strings).2
        edges := state.document.edges ++ [(compileEdge placed state.document.strings).1] } := by
  obtain ⟨source, hsource, h⟩ := Option.bind_eq_some_iff.mp h
  obtain ⟨target, htarget, h⟩ := Option.bind_eq_some_iff.mp h
  cases h
  unfold addEdge BehaviorDocument.nodeIndex?
  rw [hsource, htarget]
  rfl

/-- **Edges are compiled as if those that are dropped were not there.** -/
theorem foldl_addEdge (edges : List GraphEdge) : ∀ state : Compilation,
    let placed := edges.filterMap (GraphEdge.place? state.document.nodeIds)
    let compiled := placed.mapM compileEdge state.document.strings
    (edges.foldl addEdge state).document =
      { state.document with
        strings := compiled.2
        edges := state.document.edges ++ compiled.1 } := by
  induction edges with
  | nil =>
      intro state
      show state.document = { state.document with edges := state.document.edges ++ [] }
      rw [List.append_nil]
  | cons edge rest ih =>
      intro state
      dsimp only
      rw [List.foldl_cons, ih]
      cases hplace : edge.place? state.document.nodeIds with
      | none => rw [addEdge_dropped hplace, List.filterMap_cons_none hplace]
      | some placed =>
          rw [addEdge_compiled hplace, List.filterMap_cons_some hplace, List.mapM_cons]
          simp only [List.append_assoc, List.singleton_append]
          rfl

end Compilation

theorem Graph.freshNodes_nil (registry : Registry) (graph : Graph) :
    Compilation.freshNodes registry [] graph.nodes = graph.compiledNodes registry := by
  unfold Compilation.freshNodes Graph.compiledNodes
  congr 1
  exact List.filter_congr fun node _ => by simp

/-- **A graph is compiled in one pass** over the nodes and one over the edges that are compiled. -/
theorem compileGraph_document (registry : Registry) (graph : Graph) :
    let nodes := (graph.compiledNodes registry).mapM (compileNode registry) StringTable.empty
    let edges := (graph.compiledEdges registry).mapM compileEdge nodes.2
    (compileGraph registry graph).document = {
      strings := edges.2
      nodeIds := graph.compiledIds registry
      nodes := nodes.1
      edges := edges.1 } := by
  dsimp only
  rw [compileGraph, Compilation.foldl_addEdge, Compilation.foldl_addNode, ← graph.freshNodes_nil]
  simp only [List.nil_append]
  unfold Graph.compiledEdges Graph.compiledIds
  rw [graph.freshNodes_nil]

/-! ## What is stored -/

namespace Props

/-- The properties by the names that a table has for their keys, and what their values read as. -/
def read (table : StringTable) (props : Props) : List (Option String × Value) :=
  props.pairs.map fun (key, value) => (table.get? key, value.decompress table)

end Props

def Fields.asRead (fields : Fields) : List (Option String × Value) :=
  fields.map fun (name, value) => (some name, value)

/-- What a property list reads as: the label first, and the properties in their normal forms. -/
def normalProps (hint : String → StorageHint) (label : String) (properties : Fields) : Fields :=
  (labelKey, .text label) :: properties.map fun (name, value) => (name, normal (hint name) value)

theorem Fields.asRead_names (fields : Fields) :
    fields.asRead.map Prod.fst = (fields.map Prod.fst).map some := by
  unfold asRead
  rw [List.map_map, List.map_map]
  rfl

theorem normalProps_names (hint : String → StorageHint) (label : String) (properties : Fields) :
    (normalProps hint label properties).map Prod.fst = labelKey :: properties.map Prod.fst := by
  unfold normalProps
  rw [List.map_cons, List.map_map]
  rfl

theorem compactProperty_stored (hint : String → StorageHint) (property : String × Value)
    (t : StringTable) :
    Stored t (compactProperty hint property t).2
      ((compactProperty hint property t).1.1 :: (compactProperty hint property t).1.2.refs)
      (fun u => (u.get? (compactProperty hint property t).1.1,
        (compactProperty hint property t).1.2.decompress u))
      (some property.1, normal (hint property.1) property.2) :=
  (intern_stored property.1 t).seq (compact_stored (hint property.1) property.2 _) Prod.mk

theorem compactProps_stored (hint : String → StorageHint) (label : String) (properties : Fields)
    (t : StringTable) :
    Stored t (compactProps hint label properties t).2 (compactProps hint label properties t).1.refs
      (Props.read · (compactProps hint label properties t).1)
      (normalProps hint label properties).asRead := by
  have hothers := mapM_stored (r := fun pair : Ref × Compact => pair.1 :: pair.2.refs)
    (d := fun u pair => (u.get? pair.1, pair.2.decompress u)) properties
    fun property _ => compactProperty_stored hint property
  have hmeaning : (normalProps hint label properties).asRead =
      (some labelKey, Value.text label) ::
        properties.map fun property => (some property.1, normal (hint property.1) property.2) := by
    unfold normalProps Fields.asRead
    rw [List.map_cons, List.map_map]
    rfl
  rw [hmeaning]
  exact ((intern_stored labelKey t).seq (intern_text label _) Prod.mk).seq (hothers _) List.cons

def GraphNode.normalProps (registry : Registry) (node : GraphNode) : Fields :=
  StoryGraph.normalProps (storageHint registry node.type) node.label
    (Fields.erase node.properties labelKey)

/-- The properties of an entry in their normal forms, the label first. -/
def Entry.normalProps (entry : Entry) : Fields :=
  StoryGraph.normalProps (fun _ => .auto) entry.label
    (Fields.erase (Fields.erase entry.properties labelKey) "id")

def CompactNode.refs (node : CompactNode) : List Ref := node.type :: node.props.refs

def CompactNode.read (table : StringTable) (node : CompactNode) :
    Option String × List (Option String × Value) :=
  (table.get? node.type, node.props.read table)

theorem compileNode_stored (registry : Registry) (node : GraphNode) (t : StringTable) :
    Stored t (compileNode registry node t).2 (compileNode registry node t).1.refs
      (CompactNode.read · (compileNode registry node t).1)
      (some node.type, (node.normalProps registry).asRead) :=
  (intern_stored node.type t).seq (compactProps_stored _ node.label _ _) Prod.mk

def CompactEdge.refs (edge : CompactEdge) : List Ref := [edge.sourcePort, edge.targetPort]

/-- What an edge reads as: its ends, and the names of its ports. -/
structure EdgeReading where
  source : UInt32
  sourcePort : Option String
  target : UInt32
  targetPort : Option String

def CompactEdge.read (table : StringTable) (edge : CompactEdge) : EdgeReading :=
  ⟨edge.source, table.get? edge.sourcePort, edge.target, table.get? edge.targetPort⟩

def PlacedEdge.normal (placed : PlacedEdge) : EdgeReading :=
  ⟨UInt32.ofNat placed.source, some placed.edge.sourcePortName, UInt32.ofNat placed.target,
    some placed.edge.targetPortName⟩

theorem compileEdge_stored (placed : PlacedEdge) (t : StringTable) :
    Stored t (compileEdge placed t).2 (compileEdge placed t).1.refs
      (CompactEdge.read · (compileEdge placed t).1) placed.normal :=
  (intern_stored placed.edge.sourcePortName t).seq (intern_stored placed.edge.targetPortName _)
    fun sourcePort targetPort => EdgeReading.mk (UInt32.ofNat placed.source) sourcePort
      (UInt32.ofNat placed.target) targetPort

def CompactEntry.refs (entry : CompactEntry) : List Ref := entry.props.refs ++ [entry.label]

def CompactEntry.read (table : StringTable) (entry : CompactEntry) :
    String × List (Option String × Value) × Option String :=
  (entry.id, entry.props.read table, table.get? entry.label)

theorem compileEntry_stored (entry : Entry) (t : StringTable) :
    Stored t (compileEntry entry t).2 (compileEntry entry t).1.refs
      (CompactEntry.read · (compileEntry entry t).1)
      (entry.id, entry.normalProps.asRead, some entry.label) :=
  (compactProps_stored (fun _ => .auto) entry.label
    (Fields.erase (Fields.erase entry.properties labelKey) "id") t).seq
    (intern_stored entry.label _) fun props label => (entry.id, props, label)

/-! ## Whole documents -/

def BehaviorDocument.refs (document : BehaviorDocument) : List Ref :=
  document.nodes.flatMap CompactNode.refs ++ document.edges.flatMap CompactEdge.refs

def BehaviorDocument.read (document : BehaviorDocument) (table : StringTable) :
    List (Option String × List (Option String × Value)) × List EdgeReading :=
  (document.nodes.map (CompactNode.read table), document.edges.map (CompactEdge.read table))

/-- **Compiling a graph is one step** that stores strings in the empty table. -/
theorem compileGraph_stored (registry : Registry) (graph : Graph) :
    let document := (compileGraph registry graph).document
    Stored .empty document.strings document.refs document.read
      ((graph.compiledNodes registry).map fun node =>
          (some node.type, (node.normalProps registry).asRead),
        (graph.compiledEdges registry).map PlacedEdge.normal) := by
  dsimp only
  rw [compileGraph_document]
  exact (mapM_stored _ (fun node _ => compileNode_stored registry node) _).seq
    (mapM_stored _ (fun placed _ => compileEdge_stored placed) _) Prod.mk

/-- Each node of the document comes from the node of the graph that stands at its place. -/
theorem compileGraph_nodes {registry : Registry} {graph : Graph} {u : StringTable}
    (hu : (compileGraph registry graph).document.strings.Later u) :
    List.Forall₂ (fun node compiled => node ∈ graph.compiledNodes registry ∧
        ∃ t, (compileNode registry node t).2.Later u ∧ compiled = (compileNode registry node t).1)
      (graph.compiledNodes registry) (compileGraph registry graph).document.nodes := by
  rw [compileGraph_document] at hu ⊢
  refine StringTable.mapM_each _ (fun node _ => compileNode_stored registry node) _ (hu.trans ?_)
  exact (mapM_stored _ (fun placed _ => compileEdge_stored placed) _).grown

/-- The positions of all strings and nodes fit the 32 bits of a reference. -/
structure BehaviorDocument.Fits (document : BehaviorDocument) : Prop where
  strings : document.strings.size ≤ 2 ^ 32
  nodes : document.nodes.length ≤ 2 ^ 32

theorem compileGraph_length {registry : Registry} {graph : Graph}
    (hfits : (compileGraph registry graph).document.Fits) :
    (compileGraph registry graph).document.nodes.length = (graph.compiledNodes registry).length :=
  (compileGraph_nodes (.refl hfits.strings)).length_eq.symm

theorem Graph.compiledEdges_fit {registry : Registry} {graph : Graph} {placed : PlacedEdge}
    (hfits : (compileGraph registry graph).document.Fits)
    (hplaced : placed ∈ graph.compiledEdges registry) :
    (UInt32.ofNat placed.source).toNat = placed.source ∧
      (UInt32.ofNat placed.target).toNat = placed.target := by
  obtain ⟨hsource, htarget⟩ := mem_compiledEdges hplaced
  rw [← compileGraph_length hfits] at hsource htarget
  exact ⟨UInt32.toNat_ofNat_of_lt (Nat.lt_of_lt_of_le hsource hfits.nodes),
    UInt32.toNat_ofNat_of_lt (Nat.lt_of_lt_of_le htarget hfits.nodes)⟩

theorem compileGraph_edges {registry : Registry} {graph : Graph} {compiled : CompactEdge}
    (h : compiled ∈ (compileGraph registry graph).document.edges) :
    ∃ placed ∈ graph.compiledEdges registry, ∃ t, compiled = (compileEdge placed t).1 := by
  rw [compileGraph_document] at h
  exact StringTable.mem_mapM _ _ h

theorem compileGraph_nodeIds (registry : Registry) (graph : Graph) :
    (compileGraph registry graph).document.nodeIds = graph.compiledIds registry := by
  rw [compileGraph_document]

def DataDocument.refs (document : DataDocument) : List Ref :=
  document.items.flatMap CompactEntry.refs

def DataDocument.read (document : DataDocument) (table : StringTable) :
    List (String × List (Option String × Value) × Option String) :=
  document.items.map (CompactEntry.read table)

/-- **Compiling entries is one step** that stores strings in the empty table. -/
theorem compileEntries_stored (entries : List Entry) :
    let document := compileEntries entries
    Stored .empty document.strings document.refs document.read
      (entries.map fun entry => (entry.id, entry.normalProps.asRead, some entry.label)) :=
  mapM_stored entries (fun entry _ => compileEntry_stored entry) _

/-- Each entry of the document comes from the entry that stands at its place. -/
theorem compileEntries_items {entries : List Entry} {u : StringTable}
    (hu : (compileEntries entries).strings.Later u) :
    List.Forall₂ (fun entry compiled => entry ∈ entries ∧
        ∃ t, (compileEntry entry t).2.Later u ∧ compiled = (compileEntry entry t).1)
      entries (compileEntries entries).items :=
  StringTable.mapM_each entries (fun entry _ => compileEntry_stored entry) _ hu

end StoryGraph
