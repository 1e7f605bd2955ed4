import StoryGraph.Proofs.WellFormed

/-!
# Compiled graphs represent what was written

An engine for a compiled graph has the nodes of the graph that are not skipped, in their order, and
into each port the edges that are not dropped. A node shows the id, the type and the label that were
written, the operator that goes with them, and every property in its normal form.

Main definitions: `Engine.Shows`, `Graph.feeds`, `Engine.Represents`.
-/

namespace StoryGraph

/-! ## Properties as fields -/

theorem get?_normalProps (hint : String → StorageHint) (label : String) (properties : Fields)
    (name : String) : (normalProps hint label properties).get? name =
      if name = labelKey then some (.text label)
      else (properties.get? name).map (normal (hint name)) := by
  unfold normalProps
  rw [Fields.get?_cons]
  exact congrArg _ (lookup_map_snd (fun name => normal (hint name)) name properties)

namespace NodeProps

variable {table : StringTable}

def toFields (table : StringTable) (props : NodeProps) : Fields :=
  props.named.map fun pair => (pair.1, pair.2.decompress table)

theorem names_eq_toFields (table : StringTable) (props : NodeProps) :
    props.names = (props.toFields table).map Prod.fst := by
  unfold names toFields
  rw [List.map_map]
  rfl

theorem get?_toFields (props : NodeProps) (name : String) :
    (props.toFields table).get? name = (props.get? name).map (·.decompress table) :=
  lookup_map_snd (fun _ => Compact.decompress table) name props.named

theorem firstOfName_of_nodup : ∀ {pairs : List (String × Compact)} {seen : List String},
    (pairs.map Prod.fst).Nodup → (∀ name ∈ pairs.map Prod.fst, name ∉ seen) →
      firstOfName seen pairs = pairs
  | [], _, _, _ => rfl
  | (name, value) :: rest, seen, hnodup, hnew => by
      obtain ⟨hname, hrest⟩ := List.nodup_cons.mp hnodup
      obtain ⟨hfirst, hothers⟩ := List.forall_mem_cons.mp hnew
      rw [firstOfName, if_neg (mt List.contains_iff_mem.mp hfirst)]
      refine congrArg _ (firstOfName_of_nodup hrest fun other hother hseen => ?_)
      rcases List.mem_cons.mp hseen with rfl | hseen
      · exact hname hother
      · exact hothers other hother hseen

theorem named_of_read : ∀ {pairs : List (Ref × Compact)} {fields : Fields},
    (Props.mk pairs).read table = fields.asRead →
      (pairs.filterMap fun (key, value) => (table.get? key).map fun name => (name, value)).map
        (fun pair => (pair.1, pair.2.decompress table)) = fields
  | [], [], _ => rfl
  | (key, value) :: rest, (name, meaning) :: fields, h => by
      obtain ⟨hpair, hrest⟩ := List.cons.inj h
      obtain ⟨hkey, hvalue⟩ := Prod.mk.inj hpair
      simp only [List.filterMap_cons, hkey, Option.map_some, List.map_cons, hvalue]
      exact congrArg _ (named_of_read hrest)

/-- **What a property list reads as is what a node has**, if no name is repeated. -/
theorem toFields_resolve {props : Props} {fields : Fields}
    (hread : props.read table = fields.asRead) (hnodup : (fields.map Prod.fst).Nodup) :
    (resolve table props).toFields table = fields := by
  have hnamed := named_of_read hread
  -- The names are those of the fields, so no pair is left out as a later copy.
  have hnames := congrArg (List.map Prod.fst) hnamed
  rw [List.map_map] at hnames
  unfold resolve toFields
  rw [firstOfName_of_nodup (hnames ▸ hnodup) fun _ _ => List.not_mem_nil]
  exact hnamed

theorem setting?_of_text {props : NodeProps} {name s : String} (hname : name ∈ settingNames)
    (h : (props.toFields table).get? name = some (.text s)) :
    props.setting? table name = some s := by
  rw [get?_toFields] at h
  obtain ⟨stored, hstored, htext⟩ := Option.map_eq_some_iff.mp h
  unfold setting?
  rw [if_pos (List.contains_iff_mem.mpr hname), hstored]
  show settingText? table stored = some s
  cases stored with
  | string ref => exact Compact.textOf_eq_text htext
  | number x =>
      unfold Compact.decompress Value.ofFloat at htext
      split at htext
      · exact nomatch htext
      · split at htext <;> exact nomatch htext
  | _ => exact nomatch htext

end NodeProps

/-! ## What is represented -/

/-- The edges of a graph into a port: each by the position and the port of its source. -/
def Graph.feeds (registry : Registry) (graph : Graph) (index : Nat) (port : String) :
    List (Nat × String) :=
  ((graph.compiledEdges registry).filter fun placed =>
      placed.target == index && placed.edge.targetPortName == port).map
    fun placed => (placed.source, placed.edge.sourcePortName)

namespace Engine

structure Shows (engine : Engine) (registry : Registry) (index : Nat) (node : GraphNode) :
    Prop where
  id : engine.nodeId index = node.id
  type : engine.behavior.nodeType? index = some node.type
  label : engine.label index = node.label
  kind : engine.kind? index = OperatorKind.ofNode? node.type node.label
  /-- The label comes first; the other names follow in order, each once. -/
  names : (engine.props index).names =
    labelKey :: (Fields.erase node.properties labelKey).map Prod.fst
  ordered : (engine.props index).names.tail.Pairwise (· < ·)
  ownLabel : engine.property? index labelKey = some (.text node.label)
  value : ∀ name, name ≠ labelKey → engine.property? index name =
    (node.properties.get? name).map (normal (storageHint registry node.type name))

/-- The engine has the nodes and the edges of a graph that are compiled, in their order, and no
others. -/
structure Represents (engine : Engine) (registry : Registry) (graph : Graph) : Prop where
  count : engine.nodeCount = (graph.compiledNodes registry).length
  node : ∀ index node, (graph.compiledNodes registry)[index]? = some node →
    engine.Shows registry index node
  feeds : ∀ index port,
    (engine.feeds index port).map
        (fun edge => (edge.source.toNat, engine.strings.get? edge.sourcePort)) =
      (graph.feeds registry index port).map fun (source, name) => (source, some name)

end Engine

/-! ## Nodes -/

section

variable {registry : Registry} {graph : Graph} {entries : List Entry} {config : Config}

theorem compileGraph_node {index : Nat} {node : GraphNode}
    (hfits : (compileGraph registry graph).document.Fits)
    (hnode : (graph.compiledNodes registry)[index]? = some node) :
    let document := (compileGraph registry graph).document
    ∃ compiled, document.nodes[index]? = some compiled ∧
      document.strings.get? compiled.type = some node.type ∧
      compiled.props.read document.strings = (node.normalProps registry).asRead := by
  intro document
  have hread := congrArg Prod.fst
    ((compileGraph_stored registry graph).reads _ (.refl hfits.strings))
  have hat := congrArg (·[index]?) hread
  dsimp only [BehaviorDocument.read] at hat
  rw [List.getElem?_map, List.getElem?_map, hnode] at hat
  obtain ⟨compiled, hcompiled, hparts⟩ := Option.map_eq_some_iff.mp hat
  obtain ⟨htype, hprops⟩ := Prod.mk.inj hparts
  exact ⟨compiled, hcompiled, htype, hprops⟩

theorem GraphNode.normalProps_nodup {node : GraphNode} (h : node.properties.Ordered) :
    ((node.normalProps registry).map Prod.fst).Nodup := by
  unfold GraphNode.normalProps
  rw [normalProps_names]
  exact List.nodup_cons.mpr ⟨Fields.not_mem_erase _ _, (h.erase labelKey).nodup⟩

theorem GraphNode.get?_normalProps (node : GraphNode) {name : String} (hname : name ≠ labelKey) :
    (node.normalProps registry).get? name =
      (node.properties.get? name).map (normal (storageHint registry node.type name)) := by
  unfold GraphNode.normalProps
  rw [StoryGraph.get?_normalProps, if_neg hname, Fields.get?_erase, if_neg hname]

theorem ofGraph_fields {index : Nat} {node : GraphNode} (hordered : node.properties.Ordered)
    (hfits : (compileGraph registry graph).document.Fits)
    (hnode : (graph.compiledNodes registry)[index]? = some node) :
    let engine := Engine.ofGraph registry graph entries config
    (engine.props index).toFields engine.strings = node.normalProps registry := by
  obtain ⟨compiled, hcompiled, -, hprops⟩ := compileGraph_node hfits hnode
  have hresolve : (Engine.ofGraph registry graph entries config).props index =
      .resolve (compileGraph registry graph).document.strings compiled.props := by
    unfold Engine.props Engine.ofGraph
    dsimp only
    rw [hcompiled]
    rfl
  intro engine
  rw [hresolve]
  exact NodeProps.toFields_resolve hprops (GraphNode.normalProps_nodup hordered)

/-- A node shows what its author wrote if its id and its type are as written and its properties are
normal forms. -/
theorem Engine.shows_of_fields {engine : Engine} {index : Nat} {node : GraphNode}
    (hid : engine.nodeId index = node.id)
    (htype : engine.behavior.nodeType? index = some node.type) (hindex : index < engine.nodeCount)
    (hordered : node.properties.Ordered)
    (hfields : (engine.props index).toFields engine.strings = node.normalProps registry) :
    engine.Shows registry index node := by
  have hproperty : ∀ name, engine.property? index name =
      (node.normalProps registry).get? name := fun name => by
    rw [property?, ← NodeProps.get?_toFields, hfields]
  have hnames : (engine.props index).names =
      labelKey :: (Fields.erase node.properties labelKey).map Prod.fst := by
    rw [NodeProps.names_eq_toFields engine.strings, hfields]
    exact normalProps_names _ _ _
  have hlabel : engine.label index = node.label := by
    -- The label is looked up as a setting, in the form in which it is stored.
    have hsetting : engine.setting? index labelKey = some node.label :=
      NodeProps.setting?_of_text (by decide) (hfields ▸ rfl)
    exact congrArg (·.getD "") hsetting
  constructor
  case id => exact hid
  case type => exact htype
  case label => exact hlabel
  case kind =>
    unfold kind?
    rw [if_pos hindex, htype, hlabel]
    rfl
  case names => exact hnames
  case ordered =>
    rw [hnames]
    exact List.pairwise_map.mpr (hordered.erase labelKey)
  case ownLabel => exact hproperty labelKey
  case value => exact fun name hname => (hproperty name).trans (node.get?_normalProps hname)

/-- **A node shows what its author wrote.** -/
theorem ofGraph_shows {index : Nat} {node : GraphNode} (hordered : node.properties.Ordered)
    (hfits : (compileGraph registry graph).document.Fits)
    (hnode : (graph.compiledNodes registry)[index]? = some node) :
    (Engine.ofGraph registry graph entries config).Shows registry index node := by
  obtain ⟨compiled, hcompiled, htype, -⟩ := compileGraph_node hfits hnode
  refine Engine.shows_of_fields ?_ ?_ ?_ hordered (ofGraph_fields hordered hfits hnode)
  · show ((compileGraph registry graph).document.nodeIds[index]?).getD "" = node.id
    rw [compileGraph_nodeIds, Graph.compiledIds, List.getElem?_map, hnode]
    rfl
  · show ((compileGraph registry graph).document.nodes[index]?).bind _ = some node.type
    rw [hcompiled]
    exact htype
  · exact (List.getElem?_eq_some_iff.mp hcompiled).1

/-! ## Edges -/

def EdgeReading.goesInto (index : Nat) (port : String) (edge : EdgeReading) : Bool :=
  edge.target.toNat == index && edge.targetPort == some port

def EdgeReading.origin (edge : EdgeReading) : Nat × Option String :=
  (edge.source.toNat, edge.sourcePort)

theorem ofGraph_feeds_eq (hfits : (compileGraph registry graph).document.Fits) (index : Nat)
    (port : String) :
    let engine := Engine.ofGraph registry graph entries config
    engine.feeds index port = engine.behavior.edges.filter
      (EdgeReading.goesInto index port ∘ CompactEdge.read engine.strings) := by
  intro engine
  have hsize : engine.strings.size ≤ 2 ^ 32 := hfits.strings
  have hnodup : engine.strings.strings.Nodup := (compileGraph_stored registry graph).nodup
  have hrange : ∀ edge ∈ engine.behavior.edges, engine.behavior.inRange edge = true :=
    compileGraph_inRange hfits
  rw [Engine.feeds_eq_wired (Engine.lookupsAgree_of_nodup hsize hnodup index port), Engine.wired]
  refine List.filter_congr fun edge hedge => ?_
  rw [hrange edge hedge, Bool.true_and]
  rfl

theorem Graph.feeds_eq (hfits : (compileGraph registry graph).document.Fits) (index : Nat)
    (port : String) :
    (graph.feeds registry index port).map (fun (source, name) => (source, some name)) =
      ((graph.compiledEdges registry).filter
        (EdgeReading.goesInto index port ∘ PlacedEdge.normal)).map
        (EdgeReading.origin ∘ PlacedEdge.normal) := by
  have hinto : ∀ placed ∈ graph.compiledEdges registry,
      (placed.target == index && placed.edge.targetPortName == port) =
        (EdgeReading.goesInto index port ∘ PlacedEdge.normal) placed := fun placed hplaced => by
    show _ = ((UInt32.ofNat placed.target).toNat == index &&
      some placed.edge.targetPortName == some port)
    rw [(compiledEdges_fit hfits hplaced).2, Option.some_beq_some]
  unfold feeds
  rw [List.map_map, List.filter_congr hinto]
  refine List.map_congr_left fun placed hplaced => ?_
  show (placed.source, some placed.edge.sourcePortName) =
    ((UInt32.ofNat placed.source).toNat, some placed.edge.sourcePortName)
  rw [(compiledEdges_fit hfits (List.mem_filter.mp hplaced).1).1]

/-- **The edges into a port are those of the graph**, in their order. -/
theorem ofGraph_feeds (hfits : (compileGraph registry graph).document.Fits) (index : Nat)
    (port : String) :
    let engine := Engine.ofGraph registry graph entries config
    (engine.feeds index port).map
        (fun edge => (edge.source.toNat, engine.strings.get? edge.sourcePort)) =
      (graph.feeds registry index port).map fun (source, name) => (source, some name) := by
  intro engine
  have hread : engine.behavior.edges.map (CompactEdge.read engine.strings) =
      (graph.compiledEdges registry).map PlacedEdge.normal :=
    congrArg Prod.snd ((compileGraph_stored registry graph).reads _ (.refl hfits.strings))
  -- Both sides select and show edges by what they read as, and that is the same.
  calc (engine.feeds index port).map (EdgeReading.origin ∘ CompactEdge.read engine.strings)
      = ((engine.behavior.edges.map (CompactEdge.read engine.strings)).filter
          (EdgeReading.goesInto index port)).map EdgeReading.origin := by
        rw [ofGraph_feeds_eq hfits, List.filter_map, List.map_map]
    _ = _ := by rw [hread, List.filter_map, List.map_map, Graph.feeds_eq hfits]

end

/-! ## The whole graph -/

theorem Registry.builtin_kind {type : String} (h : Registry.builtin.contains type = true)
    (label : String) : (OperatorKind.ofNode? type label).isSome := by
  have hall : ∀ known ∈ Registry.builtin.types,
      (OperatorKind.overload? known.name).isSome ∨ (OperatorKind.ofType? known.name).isSome := by
    decide +kernel
  obtain ⟨known, hknown⟩ := Option.isSome_iff_exists.mp h
  unfold Registry.get? at hknown
  have hname := List.find?_some hknown
  have heither := hall known (List.mem_of_find?_eq_some hknown)
  rw [beq_iff_eq.mp hname] at heither
  unfold OperatorKind.ofNode?
  cases hoverload : OperatorKind.overload? type with
  | some choice => rfl
  | none => exact heither.resolve_left (by rw [hoverload]; exact nofun)

/-- **A compiled graph represents what was written**, whatever the types of nodes are; with the
built-in types every node has an operator. The names of properties are in order in every graph that
is read. -/
theorem ofGraph_represents (registry : Registry) (graph : Graph) (entries : List Entry)
    (config : Config) (hnodes : ∀ node ∈ graph.nodes, node.properties.Ordered)
    (hfits : (compileGraph registry graph).document.Fits) :
    let engine := Engine.ofGraph registry graph entries config
    engine.Represents registry graph ∧
      (registry = .builtin → ∀ index < engine.nodeCount, (engine.kind? index).isSome) := by
  intro engine
  have hshows : ∀ index node, (graph.compiledNodes registry)[index]? = some node →
      engine.Shows registry index node := fun index node hnode =>
    ofGraph_shows (hnodes node (Graph.mem_compiledNodes (List.mem_of_getElem? hnode)).1) hfits hnode
  have hcount : engine.nodeCount = (graph.compiledNodes registry).length :=
    compileGraph_length hfits
  refine ⟨⟨hcount, hshows, ofGraph_feeds hfits⟩, ?_⟩
  rintro rfl index hindex
  have hnode := List.getElem?_eq_getElem (hcount ▸ hindex)
  rw [(hshows index _ hnode).kind]
  exact Registry.builtin_kind (Graph.mem_compiledNodes (List.mem_of_getElem? hnode)).2 _

theorem leftover_represented :
    let engine := Engine.ofGraph .builtin leftover [sword] {}
    (∀ node ∈ leftover.nodes, node.properties.Ordered) ∧ engine.behavior.Fits ∧
      leftover.compiledIds .builtin = ["a", "c"] ∧
      leftover.feeds .builtin 1 "values" = [(0, "values")] ∧
      leftover.feeds .builtin 0 "value_1" = [(1, defaultPort)] ∧
      engine.Represents .builtin leftover ∧
      ∀ index < engine.nodeCount, (engine.kind? index).isSome := by
  intro engine
  have hordered : ∀ node ∈ leftover.nodes, node.properties.Ordered := fun node hnode =>
    (leftover_proper node hnode).ordered
  obtain ⟨hrepresents, hkinds⟩ :=
    ofGraph_represents .builtin leftover [sword] {} hordered leftover_fits
  exact ⟨hordered, leftover_fits, by decide +kernel, by decide +kernel, by decide +kernel,
    hrepresents, hkinds rfl⟩

end StoryGraph
