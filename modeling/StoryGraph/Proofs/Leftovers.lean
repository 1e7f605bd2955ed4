import StoryGraph.Proofs.Compiled
import StoryGraph.Proofs.Dealt

/-!
# What is left out

A graph that cannot be compiled whole is compiled without some of its parts, and the report tells
which. Every node is either compiled or skipped, and every edge either compiled or dropped, once
and in its turn. What is left out leaves no trace in the document: without it the graph compiles to
the same document, and then nothing is left out.

Main definitions: `Verdicts`, `Graph.nodeVerdicts`, `Graph.edgeVerdicts`, `Graph.pruned`.
-/

namespace StoryGraph

/-! ## Verdicts -/

/-- Items, each with the reason for which it is left out; none if it is kept. -/
abbrev Verdicts (α : Type) := List (α × Option String)

namespace Verdicts

variable {α : Type}

def kept (verdicts : Verdicts α) : List α :=
  verdicts.filterMap fun (item, reason) => if reason.isNone then some item else none

def leftOut (verdicts : Verdicts α) : List (α × String) :=
  verdicts.filterMap fun (item, reason) => reason.map (item, ·)

@[simp] theorem kept_nil : kept ([] : Verdicts α) = [] := rfl

@[simp] theorem kept_none (item : α) (rest : Verdicts α) :
    kept ((item, none) :: rest) = item :: kept rest := rfl

@[simp] theorem kept_some (item : α) (reason : String) (rest : Verdicts α) :
    kept ((item, some reason) :: rest) = kept rest := rfl

@[simp] theorem leftOut_nil : leftOut ([] : Verdicts α) = [] := rfl

@[simp] theorem leftOut_none (item : α) (rest : Verdicts α) :
    leftOut ((item, none) :: rest) = leftOut rest := rfl

@[simp] theorem leftOut_some (item : α) (reason : String) (rest : Verdicts α) :
    leftOut ((item, some reason) :: rest) = (item, reason) :: leftOut rest := rfl

/-- **What is judged is dealt out**: nothing is lost, nothing comes twice, and the order stays. -/
theorem dealt (verdicts : Verdicts α) :
    Dealt verdicts.kept (verdicts.leftOut.map Prod.fst) (verdicts.map Prod.fst) := by
  induction verdicts with
  | nil => exact .nil
  | cons verdict rest ih =>
      obtain ⟨item, reason⟩ := verdict
      cases reason with
      | none => exact .first ih
      | some reason => exact .second ih

theorem leftOut_eq_nil {verdicts : Verdicts α} {items : List α}
    (hitems : verdicts.map Prod.fst = items) (hkept : verdicts.kept = items) :
    verdicts.leftOut = [] := by
  have hlength := verdicts.dealt.length_eq
  rw [hitems, hkept, List.length_map] at hlength
  apply List.eq_nil_of_length_eq_zero
  omega

end Verdicts

/-! ## Verdicts on nodes -/

def Registry.knownIds (registry : Registry) (nodes : List GraphNode) : List String :=
  (nodes.filter fun node => registry.contains node.type).map (·.id)

theorem Registry.knownIds_append {registry : Registry} {nodes : List GraphNode} {node : GraphNode}
    {id : String} : id ∈ registry.knownIds (nodes ++ [node]) ↔
      id ∈ registry.knownIds nodes ∨ registry.contains node.type = true ∧ id = node.id := by
  unfold knownIds
  rw [List.filter_append, List.map_append, List.mem_append]
  refine or_congr_right ?_
  cases hknown : registry.contains node.type <;> simp [hknown]

/-- Why a node that comes after the given ones is skipped: its type is unknown, or a node of a known
type has its id. -/
def GraphNode.skipped? (registry : Registry) (before : List GraphNode) (node : GraphNode) :
    Option String :=
  skipReason? registry (registry.knownIds before) node

def Registry.judge (registry : Registry) :
    (before nodes : List GraphNode) → Verdicts GraphNode
  | _, [] => []
  | before, node :: rest =>
    (node, node.skipped? registry before) :: registry.judge (before ++ [node]) rest

def Graph.nodeVerdicts (registry : Registry) (graph : Graph) : Verdicts GraphNode :=
  registry.judge [] graph.nodes

theorem Registry.judge_items (registry : Registry) (nodes : List GraphNode) :
    ∀ before, (registry.judge before nodes).map Prod.fst = nodes := by
  induction nodes with
  | nil => exact fun _ => rfl
  | cons node rest ih => exact fun before => congrArg (node :: ·) (ih _)

theorem Registry.judge_getElem? (registry : Registry) (nodes : List GraphNode) :
    ∀ (before : List GraphNode) (i : Nat), (registry.judge before nodes)[i]? =
      nodes[i]?.map fun node => (node, node.skipped? registry (before ++ nodes.take i)) := by
  induction nodes with
  | nil => exact fun _ _ => rfl
  | cons node rest ih =>
      intro before i
      cases i with
      | zero =>
          rw [List.take_zero, List.append_nil]
          rfl
      | succ i =>
          rw [judge, List.getElem?_cons_succ, List.getElem?_cons_succ, ih, List.take_succ_cons,
            List.append_assoc]
          rfl

namespace Compilation

variable {registry : Registry} {ids : List String} {before : List GraphNode}

/-- The ids so far are those of the nodes so far that can be compiled. -/
def Matches (registry : Registry) (ids : List String) (before : List GraphNode) : Prop :=
  ∀ id, id ∈ ids ↔ id ∈ registry.knownIds before

theorem Matches.skipReason? (h : Matches registry ids before) (node : GraphNode) :
    skipReason? registry ids node = node.skipped? registry before := by
  have hcontains : ids.contains node.id = (registry.knownIds before).contains node.id := by
    rw [Bool.eq_iff_iff, List.contains_iff_mem, List.contains_iff_mem]
    exact h node.id
  unfold GraphNode.skipped? StoryGraph.skipReason?
  rw [hcontains]

theorem Matches.skipped (h : Matches registry ids before) {node : GraphNode} {reason : String}
    (hskip : node.skipped? registry before = some reason) :
    Matches registry ids (before ++ [node]) := by
  have hold : registry.contains node.type = true → node.id ∈ registry.knownIds before := by
    intro hknown
    by_contra hnew
    have hnone : node.skipped? registry before = none :=
      skipReason?_isNone.mpr (by simp [hknown, hnew])
    rw [hskip] at hnone
    exact nomatch hnone
  intro id
  rw [h id, Registry.knownIds_append]
  constructor
  · exact Or.inl
  · rintro (hid | ⟨hknown, rfl⟩)
    · exact hid
    · exact hold hknown

theorem Matches.compiled (h : Matches registry ids before) {node : GraphNode}
    (hskip : node.skipped? registry before = none) :
    Matches registry (ids ++ [node.id]) (before ++ [node]) := by
  have hknown : registry.contains node.type = true :=
    (Bool.and_eq_true_iff.mp (skipReason?_isNone.mp hskip)).1
  intro id
  rw [List.mem_append, h id, List.mem_singleton, Registry.knownIds_append]
  exact or_congr_right ⟨fun hid => ⟨hknown, hid⟩, And.right⟩

/-- **The verdicts tell which nodes are compiled.** -/
theorem Matches.kept_judge (nodes : List GraphNode) : ∀ {ids before},
    Matches registry ids before →
      (registry.judge before nodes).kept = freshNodes registry ids nodes := by
  induction nodes with
  | nil => exact fun _ => rfl
  | cons node rest ih =>
      intro ids before h
      have hreason := h.skipReason? node
      rw [Registry.judge]
      cases hskip : node.skipped? registry before with
      | none =>
          rw [hskip] at hreason
          rw [Verdicts.kept_none, freshNodes_cons hreason, ih (h.compiled hskip)]
      | some reason =>
          rw [hskip] at hreason
          rw [Verdicts.kept_some, freshNodes_cons_of_skipped hreason, ih (h.skipped hskip)]

/-! ## Reports -/

def tellNode (skipped : GraphNode × String) : SkippedNode :=
  ⟨skipped.1.id, skipped.1.type, skipped.2⟩

def tellEdge (dropped : GraphEdge × String) : DroppedEdge :=
  ⟨dropped.1.source, dropped.1.target, dropped.2⟩

/-- **The report of the nodes** grows by those that are skipped. -/
theorem foldl_addNode_report (nodes : List GraphNode) : ∀ (state : Compilation) {before},
    Matches registry state.document.nodeIds before →
      (nodes.foldl (addNode registry) state).report =
        { state.report with
          skipped := state.report.skipped ++
            (registry.judge before nodes).leftOut.map tellNode } := by
  induction nodes with
  | nil =>
      intro state before _
      show state.report = { state.report with skipped := state.report.skipped ++ [] }
      rw [List.append_nil]
  | cons node rest ih =>
      intro state before h
      have hreason := h.skipReason? node
      rw [List.foldl_cons, Registry.judge]
      cases hskip : node.skipped? registry before with
      | none =>
          rw [hskip] at hreason
          have hstate : (state.addNode registry node).report = state.report := by
            unfold addNode
            rw [hreason]
            rfl
          have hids : (state.addNode registry node).document.nodeIds =
              state.document.nodeIds ++ [node.id] := by
            rw [addNode_compiled hreason]
          rw [ih (state.addNode registry node) (hids ▸ h.compiled hskip), hstate,
            Verdicts.leftOut_none]
      | some reason =>
          rw [hskip] at hreason
          have hstate : (state.addNode registry node).report = { state.report with
              skipped := state.report.skipped ++ [tellNode (node, reason)] } := by
            unfold addNode
            rw [hreason]
            rfl
          have hids : (state.addNode registry node).document.nodeIds =
              state.document.nodeIds := by
            rw [addNode_skipped hreason]
          rw [ih (state.addNode registry node) (hids ▸ h.skipped hskip), hstate,
            Verdicts.leftOut_some, List.map_cons]
          simp only [List.append_assoc, List.singleton_append]

end Compilation

/-! ## Verdicts on edges -/

/-- Why an edge is dropped: no node that was compiled has the id of an end. -/
def GraphEdge.dropped? (ids : List String) (edge : GraphEdge) : Option String :=
  let missing (id : String) : String := "endpoint " ++ id ++ " was not compiled"
  if !ids.contains edge.source then some (missing edge.source)
  else if !ids.contains edge.target then some (missing edge.target)
  else none

def Graph.edgeVerdicts (registry : Registry) (graph : Graph) : Verdicts GraphEdge :=
  graph.edges.map fun edge => (edge, edge.dropped? (graph.compiledIds registry))

theorem findIdx?_isSome (ids : List String) (id : String) :
    (ids.findIdx? (· == id)).isSome = ids.contains id := by
  rw [List.findIdx?_isSome, List.any_beq']

theorem GraphEdge.dropped?_eq_none {ids : List String} {edge : GraphEdge} :
    edge.dropped? ids = none ↔ edge.source ∈ ids ∧ edge.target ∈ ids := by
  unfold dropped?
  by_cases hsource : edge.source ∈ ids <;> by_cases htarget : edge.target ∈ ids <;>
    simp [hsource, htarget]

theorem GraphEdge.place?_eq_none {ids : List String} {edge : GraphEdge} :
    edge.place? ids = none ↔ edge.dropped? ids ≠ none := by
  have hsource := findIdx?_isSome ids edge.source
  have htarget := findIdx?_isSome ids edge.target
  unfold place? dropped?
  cases hs : ids.findIdx? (· == edge.source) <;> cases ht : ids.findIdx? (· == edge.target) <;>
    rw [hs] at hsource <;> rw [ht] at htarget <;> simp_all

namespace Compilation

theorem addEdge_report (state : Compilation) (edge : GraphEdge) :
    (state.addEdge edge).report =
      { state.report with
        dropped := state.report.dropped ++
          ((edge.dropped? state.document.nodeIds).map fun reason =>
            tellEdge (edge, reason)).toList } := by
  have hsource := findIdx?_isSome state.document.nodeIds edge.source
  have htarget := findIdx?_isSome state.document.nodeIds edge.target
  unfold addEdge BehaviorDocument.nodeIndex? GraphEdge.dropped?
  rw [← hsource, ← htarget]
  cases state.document.nodeIds.findIdx? (· == edge.source) with
  | none => rfl
  | some source =>
      cases state.document.nodeIds.findIdx? (· == edge.target) with
      | none => rfl
      | some target =>
          show state.report = { state.report with dropped := state.report.dropped ++ [] }
          rw [List.append_nil]

theorem addEdge_nodeIds (state : Compilation) (edge : GraphEdge) :
    (state.addEdge edge).document.nodeIds = state.document.nodeIds := by
  cases hplace : edge.place? state.document.nodeIds with
  | none => rw [addEdge_dropped hplace]
  | some placed => rw [addEdge_compiled hplace]

/-- **The report of the edges** grows by those that are dropped. -/
theorem foldl_addEdge_report (edges : List GraphEdge) : ∀ state : Compilation,
    let verdicts : Verdicts GraphEdge :=
      edges.map fun edge => (edge, edge.dropped? state.document.nodeIds)
    (edges.foldl addEdge state).report =
      { state.report with
        dropped := state.report.dropped ++ verdicts.leftOut.map tellEdge } := by
  induction edges with
  | nil =>
      intro state
      show state.report = { state.report with dropped := state.report.dropped ++ [] }
      rw [List.append_nil]
  | cons edge rest ih =>
      intro state
      dsimp only
      rw [List.foldl_cons, ih, addEdge_nodeIds, addEdge_report, List.map_cons]
      cases edge.dropped? state.document.nodeIds with
      | none =>
          rw [Verdicts.leftOut_none, Option.map_none, Option.toList_none, List.append_nil]
      | some reason =>
          rw [Verdicts.leftOut_some, List.map_cons]
          simp only [Option.map_some, Option.toList_some, List.append_assoc,
            List.singleton_append]

end Compilation

/-! ## The whole graph -/

namespace Graph

variable {registry : Registry} {graph : Graph}

def pruned (registry : Registry) (graph : Graph) : Graph where
  nodes := (graph.nodeVerdicts registry).kept
  edges := (graph.edgeVerdicts registry).kept

theorem pruned_nodes : (graph.pruned registry).nodes = graph.compiledNodes registry := by
  have hempty : Compilation.Matches registry [] [] := fun _ => Iff.rfl
  rw [← freshNodes_nil]
  exact hempty.kept_judge graph.nodes

theorem mem_pruned_edges {edge : GraphEdge} : edge ∈ (graph.pruned registry).edges ↔
    edge ∈ graph.edges ∧ edge.dropped? (graph.compiledIds registry) = none := by
  unfold pruned edgeVerdicts Verdicts.kept
  rw [List.filterMap_map, List.mem_filterMap]
  constructor
  · rintro ⟨other, hother, hkept⟩
    dsimp only [Function.comp_apply] at hkept
    split at hkept
    · rename_i hnone
      cases hkept
      exact ⟨hother, Option.isNone_iff_eq_none.mp hnone⟩
    · exact nomatch hkept
  · rintro ⟨hedge, hnone⟩
    refine ⟨edge, hedge, ?_⟩
    simp [hnone]

/-- An edge is dropped if an id of its ends is not among those of the compiled nodes. -/
theorem mem_dropped {edge : GraphEdge} :
    edge ∈ (graph.edgeVerdicts registry).leftOut.map Prod.fst ↔ edge ∈ graph.edges ∧
      (edge.source ∉ graph.compiledIds registry ∨ edge.target ∉ graph.compiledIds registry) := by
  rw [← not_and_or, ← GraphEdge.dropped?_eq_none]
  unfold edgeVerdicts Verdicts.leftOut
  rw [List.filterMap_map, List.map_filterMap, List.mem_filterMap]
  constructor
  · rintro ⟨other, hother, hleft⟩
    cases hdrop : other.dropped? (graph.compiledIds registry) with
    | none => simp [hdrop] at hleft
    | some reason =>
        have heq : other = edge := by simpa [hdrop] using hleft
        subst heq
        exact ⟨hother, by simp [hdrop]⟩
  · rintro ⟨hedge, hdrop⟩
    obtain ⟨reason, hreason⟩ := Option.ne_none_iff_exists'.mp hdrop
    exact ⟨edge, hedge, by simp [hreason]⟩

theorem compiledEdges_edges (registry : Registry) (graph : Graph) : List.Forall₂
    (fun edge placed => edge.place? (graph.compiledIds registry) = some placed)
    (graph.pruned registry).edges (graph.compiledEdges registry) := by
  unfold pruned edgeVerdicts compiledEdges
  dsimp only
  induction graph.edges with
  | nil => exact .nil
  | cons edge rest ih =>
      rw [List.map_cons]
      cases hplace : edge.place? (graph.compiledIds registry) with
      | none =>
          obtain ⟨reason, hreason⟩ :=
            Option.ne_none_iff_exists'.mp (GraphEdge.place?_eq_none.mp hplace)
          rw [hreason, Verdicts.kept_some, List.filterMap_cons_none hplace]
          exact ih
      | some placed =>
          have hkept : edge.dropped? (graph.compiledIds registry) = none := by
            by_contra hdrop
            rw [GraphEdge.place?_eq_none.mpr hdrop] at hplace
            exact nomatch hplace
          rw [hkept, Verdicts.kept_none, List.filterMap_cons_some hplace]
          exact .cons hplace ih

/-- **The report** tells of everything that is left out, and of nothing else. -/
theorem compileGraph_report (registry : Registry) (graph : Graph) :
    (compileGraph registry graph).report = {
      skipped := (graph.nodeVerdicts registry).leftOut.map Compilation.tellNode
      dropped := (graph.edgeVerdicts registry).leftOut.map Compilation.tellEdge } := by
  have hempty : Compilation.Matches registry [] [] := fun _ => Iff.rfl
  have hids : (graph.nodes.foldl (Compilation.addNode registry) {}).document.nodeIds =
      graph.compiledIds registry := by
    rw [Compilation.foldl_addNode]
    show [] ++ _ = _
    rw [List.nil_append]
    exact congrArg _ (graph.freshNodes_nil registry)
  rw [compileGraph, Compilation.foldl_addEdge_report, hids,
    Compilation.foldl_addNode_report _ _ hempty]
  simp only [List.nil_append]
  rfl

/-! ## The graph without what is left out -/

theorem eraseDupsBy_of_pairwise {α : Type} {same : α → α → Bool} : ∀ {items : List α},
    items.Pairwise (fun a b => same b a = false) → items.eraseDupsBy same = items
  | [], _ => rfl
  | first :: rest, h => by
      obtain ⟨hfirst, hrest⟩ := List.pairwise_cons.mp h
      have hall : rest.filter (fun later => decide (same later first = false)) = rest :=
        List.filter_eq_self.mpr fun later hlater => decide_eq_true (hfirst later hlater)
      rw [List.eraseDupsBy_cons, hall, eraseDupsBy_of_pairwise hrest]

theorem compiledNodes_pruned :
    (graph.pruned registry).compiledNodes registry = graph.compiledNodes registry := by
  have hknown : (graph.compiledNodes registry).filter (fun node => registry.contains node.type) =
      graph.compiledNodes registry :=
    List.filter_eq_self.mpr fun node hnode => (mem_compiledNodes hnode).2
  rw [compiledNodes, pruned_nodes, hknown]
  exact eraseDupsBy_of_pairwise (pairwise_eraseDupsBy _)

theorem compiledIds_pruned :
    (graph.pruned registry).compiledIds registry = graph.compiledIds registry := by
  unfold compiledIds
  rw [compiledNodes_pruned]

theorem pruned_pruned_edges :
    ((graph.pruned registry).pruned registry).edges = (graph.pruned registry).edges := by
  show ((graph.pruned registry).edgeVerdicts registry).kept = _
  unfold edgeVerdicts Verdicts.kept
  rw [compiledIds_pruned, List.filterMap_map]
  refine (List.filterMap_congr fun edge hedge => ?_).trans List.filterMap_some
  have hnone := (mem_pruned_edges.mp hedge).2
  simp [hnone]

theorem compiledEdges_pruned :
    (graph.pruned registry).compiledEdges registry = graph.compiledEdges registry := by
  have hfirst := compiledEdges_edges registry (graph.pruned registry)
  have hsecond := compiledEdges_edges registry graph
  rw [compiledIds_pruned, pruned_pruned_edges] at hfirst
  have hplaces : ∀ {edges : List GraphEdge} {placed : List PlacedEdge}, List.Forall₂
      (fun edge placed => edge.place? (graph.compiledIds registry) = some placed) edges placed →
        edges.filterMap (GraphEdge.place? (graph.compiledIds registry)) = placed := by
    intro edges placed h
    induction h with
    | nil => rfl
    | cons hplace _ ih => rw [List.filterMap_cons_some hplace, ih]
  exact (hplaces hfirst).symm.trans (hplaces hsecond)

/-- **What is left out leaves no trace**: without it the document is the same. -/
theorem compileGraph_pruned (registry : Registry) (graph : Graph) :
    compileGraph registry (graph.pruned registry) =
      { document := (compileGraph registry graph).document } := by
  have hdocument : (compileGraph registry (graph.pruned registry)).document =
      (compileGraph registry graph).document := by
    rw [compileGraph_document, compileGraph_document, compiledNodes_pruned, compiledIds_pruned,
      compiledEdges_pruned]
  have hnodes : ((graph.pruned registry).nodeVerdicts registry).leftOut = [] := by
    refine Verdicts.leftOut_eq_nil (registry.judge_items _ []) ?_
    show ((graph.pruned registry).pruned registry).nodes = _
    rw [pruned_nodes, compiledNodes_pruned, pruned_nodes]
  have hedges : ((graph.pruned registry).edgeVerdicts registry).leftOut = [] := by
    refine Verdicts.leftOut_eq_nil ?_ pruned_pruned_edges
    exact (List.map_map).trans (List.map_id _)
  have hreport := compileGraph_report registry (graph.pruned registry)
  rw [hnodes, hedges] at hreport
  calc compileGraph registry (graph.pruned registry)
      = ⟨(compileGraph registry (graph.pruned registry)).document,
          (compileGraph registry (graph.pruned registry)).report⟩ := rfl
    _ = { document := (compileGraph registry graph).document } := by rw [hdocument, hreport]; rfl

end Graph

/-! ## Accounts -/

theorem forall₂_mapM {α β γ σ : Type} {R : α → β → Prop} {f : β → StateM σ γ} {as : List α}
    {bs : List β} (h : List.Forall₂ R as bs) : ∀ s : σ,
      List.Forall₂ (fun a result => ∃ b t, R a b ∧ result = (f b t).1) as (bs.mapM f s).1 := by
  induction h with
  | nil => exact fun _ => .nil
  | @cons a b as bs hab _ ih =>
      intro s
      rw [List.mapM_cons]
      exact .cons ⟨b, s, hab, rfl⟩ (ih _)

structure Compilation.AccountsFor (registry : Registry) (graph : Graph) (compiled : Compilation) :
    Prop where
  /-- A node is kept or skipped, by the nodes before it. -/
  verdicts : ∀ i : Nat, (graph.nodeVerdicts registry)[i]? =
    graph.nodes[i]?.map fun node => (node, node.skipped? registry (graph.nodes.take i))
  nodes : Dealt (graph.pruned registry).nodes
    ((graph.nodeVerdicts registry).leftOut.map Prod.fst) graph.nodes
  edges : Dealt (graph.pruned registry).edges
    ((graph.edgeVerdicts registry).leftOut.map Prod.fst) graph.edges
  /-- The document has the nodes that are kept. -/
  ids : compiled.document.nodeIds = (graph.pruned registry).nodes.map (·.id)
  compiledNodes : compiled.document.nodes =
    ((graph.pruned registry).nodes.mapM (compileNode registry) StringTable.empty).1
  /-- The document has the edges that are kept. -/
  compiledEdges : List.Forall₂ (fun edge stored => ∃ source target t,
      compiled.document.nodeIndex? edge.source = some source ∧
      compiled.document.nodeIndex? edge.target = some target ∧
      stored = (compileEdge ⟨source, target, edge⟩ t).1)
    (graph.pruned registry).edges compiled.document.edges
  /-- The report has everything else, with the reasons. -/
  report : compiled.report = {
    skipped := (graph.nodeVerdicts registry).leftOut.map Compilation.tellNode
    dropped := (graph.edgeVerdicts registry).leftOut.map Compilation.tellEdge }
  /-- An edge is dropped exactly if an id of its ends has no compiled node. -/
  missing : ∀ edge ∈ graph.edges,
    edge ∈ (graph.edgeVerdicts registry).leftOut.map Prod.fst ↔
      edge.source ∉ compiled.document.nodeIds ∨ edge.target ∉ compiled.document.nodeIds

theorem GraphEdge.place?_eq_some {ids : List String} {edge : GraphEdge} {placed : PlacedEdge}
    (h : edge.place? ids = some placed) : ids.findIdx? (· == edge.source) = some placed.source ∧
      ids.findIdx? (· == edge.target) = some placed.target ∧ placed.edge = edge := by
  obtain ⟨source, hsource, h⟩ := Option.bind_eq_some_iff.mp h
  obtain ⟨target, htarget, h⟩ := Option.bind_eq_some_iff.mp h
  cases h
  exact ⟨hsource, htarget, rfl⟩

theorem compileGraph_accountsFor (registry : Registry) (graph : Graph) :
    (compileGraph registry graph).AccountsFor registry graph := by
  have hids := compileGraph_nodeIds registry graph
  constructor
  · intro i
    exact registry.judge_getElem? graph.nodes [] i
  · have hdealt := (graph.nodeVerdicts registry).dealt
    rwa [show (graph.nodeVerdicts registry).map Prod.fst = _ from registry.judge_items _ []]
      at hdealt
  · have hdealt := (graph.edgeVerdicts registry).dealt
    rwa [show (graph.edgeVerdicts registry).map Prod.fst = graph.edges from
      (List.map_map).trans (List.map_id _)] at hdealt
  · rw [hids, Graph.pruned_nodes]
    rfl
  · rw [compileGraph_document, Graph.pruned_nodes]
  · rw [compileGraph_document]
    dsimp only
    refine (forall₂_mapM (Graph.compiledEdges_edges registry graph) _).imp ?_
    rintro edge stored ⟨placed, t, hplace, rfl⟩
    obtain ⟨hsource, htarget, rfl⟩ := GraphEdge.place?_eq_some hplace
    exact ⟨placed.source, placed.target, t, hsource, htarget, rfl⟩
  · exact Graph.compileGraph_report registry graph
  · intro edge hedge
    rw [hids, Graph.mem_dropped, and_iff_right hedge]

/-- **Nothing is lost silently.** Whatever the graph, each of its nodes and edges is in the document
or in the report, once and in its turn; and the graph without what the report tells of compiles to
the same document and a clean report. -/
theorem nothing_is_lost (registry : Registry) (graph : Graph) :
    (compileGraph registry graph).AccountsFor registry graph ∧
      (compileGraph registry (graph.pruned registry)).document =
        (compileGraph registry graph).document ∧
      (compileGraph registry (graph.pruned registry)).report.isClean = true := by
  refine ⟨compileGraph_accountsFor registry graph, ?_, ?_⟩
  · rw [Graph.compileGraph_pruned]
  · rw [Graph.compileGraph_pruned]
    rfl

end StoryGraph
