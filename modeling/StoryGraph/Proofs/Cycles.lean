import Mathlib.Data.List.Nodup
import StoryGraph.Proofs.Course
import StoryGraph.Proofs.Unseeded

/-!
# Cycles are told once

A node is re-entered when it is asked while its own body waits for an answer. The nodes that a
session notes as closing a cycle are exactly those, for a note is never taken back and is only made
at such a visit. The warnings that tell of cycles follow the notes: one for each, in their order,
unless two nodes have the same id. And since the nodes that wait lie along edges, a node that is
re-entered lies on a cycle of them.

Main definitions: `Scene.Reaches`, `Engine.Reenters`, `Session.isCycleReport`.
-/

namespace StoryGraph

open Relation

/-! ## Which nodes are noted -/

namespace Session

theorem mem_reportCycle_cycles {s : Session} {node m : Nat} {id : String} :
    m ∈ (s.reportCycle node id).cycles ↔ m ∈ s.cycles ∨ m = node := by
  unfold reportCycle
  split
  · rename_i hknown
    constructor
    · exact .inl
    · rintro (hm | rfl)
      · exact hm
      · exact List.contains_iff_mem.mp hknown
  · show m ∈ node :: s.cycles ↔ _
    rw [List.mem_cons, or_comm]

theorem cycles_robust (m : Nat) : Robust fun s => m ∈ s.cycles where
  warn _ h := h
  mark _ h := h
  draw _ h := h

end Session

namespace Scene

variable {scene : Scene} {node m : Nat} {s : Session} {first visit : Visit} {chain : List Nat}

theorem evaluateWithin_cycles (m depth : Nat) :
    PullKeeps (scene.evaluateWithin depth) fun s => m ∈ s.cycles :=
  fun node port s => evaluateWithin_visits (Session.cycles_robust m) ⟨depth, node, port, s⟩
    (fun _ _ _ _ _ _ _ _ hs => Session.mem_reportCycle_cycles.mpr (.inl hs))
    (fun _ _ _ _ _ _ _ hs => hs) (fun _ _ _ _ _ _ _ _ hs => hs) (fun _ _ _ _ _ _ _ _ _ _ ht => ht)

/-- **A cycle is noted where a node is re-entered, and only there.** -/
theorem evaluateWithin_mem_cycles (first : Visit) (m : Nat) :
    m ∈ (scene.evaluateWithin first.depth first.node first.port first.session).2.cycles ↔
      m ∈ first.session.cycles ∨ ∃ chain depth port t,
        scene.Comes first chain ⟨depth + 1, m, port, t⟩ ∧ m < scene.engine.nodeCount ∧
          m ∈ t.running := by
  constructor
  · intro hm
    by_contra hnot
    obtain ⟨hfirst, hvisits⟩ := not_or.mp hnot
    -- A node that is noted neither at first nor at a visit is not noted in the end.
    refine evaluateWithin_visits (P := fun t => m ∉ t.cycles) ⟨fun _ h => h, fun _ h => h,
      fun _ h => h⟩ first ?_ ?_ ?_ ?_ hfirst hm
    · intro chain depth node port t hcomes hnode hrun ht hnoted
      rcases Session.mem_reportCycle_cycles.mp hnoted with hold | rfl
      · exact ht hold
      · exact hvisits ⟨chain, depth, port, t, hcomes, hnode, hrun⟩
    · exact fun _ _ _ _ _ _ _ ht => ht
    · exact fun _ _ _ _ _ _ _ _ ht => ht
    · exact fun _ _ _ _ _ _ _ _ _ _ ht => ht
  · rintro (hfirst | ⟨chain, depth, port, t, hcomes, hnode, hrun⟩)
    · exact evaluateWithin_cycles m _ _ _ _ hfirst
    · refine hcomes.after (Session.cycles_robust m) (evaluateWithin_cycles m) (fun ht => ht) ?_
      rw [evaluateWithin_cycle depth hnode hrun]
      exact Session.mem_reportCycle_cycles.mpr (.inr rfl)

/-- From outside no visit is cut off, so what is re-entered is told by the nodes that wait alone. -/
theorem evaluate_mem_cycles (hrun : s.running = []) (root : Nat) (port : String) (m : Nat) :
    m ∈ (scene.evaluate root port s).2.cycles ↔
      m ∈ s.cycles ∨ ∃ chain visit,
        scene.Comes ⟨scene.engine.nodeCount + 1, root, port, s⟩ chain visit ∧ visit.node = m ∧
          m ∈ chain := by
  refine (evaluateWithin_mem_cycles ⟨scene.engine.nodeCount + 1, root, port, s⟩ m).trans
    (or_congr_right ?_)
  have hnested : ∀ {chain visit},
      scene.Comes ⟨scene.engine.nodeCount + 1, root, port, s⟩ chain visit →
        scene.Nested (scene.engine.nodeCount + 1) chain visit.depth visit.node visit.port
          visit.session := by
    intro chain visit hcomes
    rw [← List.append_nil chain]
    exact hcomes.nested (.outside hrun)
  constructor
  · rintro ⟨chain, depth, port', t, hcomes, -, hmem⟩
    obtain ⟨hchain, -, -⟩ := (hnested hcomes).guard
    exact ⟨chain, _, hcomes, rfl, hchain ▸ hmem⟩
  · rintro ⟨chain, ⟨depth, node, port', t⟩, hcomes, rfl, hmem⟩
    obtain ⟨hchain, hdistinct, hdepth⟩ := (hnested hcomes).guard
    have hlength := hdistinct.length_le
    dsimp only at hchain hmem hdepth
    obtain ⟨left, rfl⟩ : ∃ left, depth = left + 1 := ⟨depth - 1, by omega⟩
    exact ⟨chain, left, port', t, hcomes, hdistinct.inRange _ hmem, hchain ▸ hmem⟩

/-- Evaluating roots one after the other from a session comes to a visit, for which the nodes of the
chain wait. -/
inductive Reaches (scene : Scene) : List Nat → Session → List Nat → Visit → Prop where
  | here {root : Nat} {rest : List Nat} {s : Session} {chain : List Nat} {visit : Visit} :
      scene.Comes ⟨scene.engine.nodeCount + 1, root, "entries", s⟩ chain visit →
      Reaches scene (root :: rest) s chain visit
  | later {root : Nat} {rest : List Nat} {s : Session} {chain : List Nat} {visit : Visit} :
      Reaches scene rest (scene.collectRoot root s).2 chain visit →
      Reaches scene (root :: rest) s chain visit

theorem collectRoot_running (root : Nat) (hrun : s.running = []) :
    (scene.collectRoot root s).2.running = [] :=
  collectRootWith_keeps (running_open []) (running_pullKeeps _ []) root hrun

theorem collectRoot_cycles (root : Nat) (s : Session) :
    (scene.collectRoot root s).2.cycles = (scene.evaluate root "entries" s).2.cycles := by
  rw [collectRoot, collectRootWith_eq]
  cases (scene.evaluate root "entries" s).2.memo.lookup root <;> rfl

theorem collectRoots_mem_cycles (m : Nat) (roots : List Nat) : ∀ {s : Session}, s.running = [] →
    (m ∈ (collectRootsWith scene.evaluate roots s).2.cycles ↔
      m ∈ s.cycles ∨ ∃ chain visit, scene.Reaches roots s chain visit ∧ visit.node = m ∧
        m ∈ chain) := by
  induction roots with
  | nil =>
      intro s _
      refine (or_iff_left ?_).symm
      rintro ⟨_, _, hreach, -⟩
      exact nomatch hreach
  | cons root rest ih =>
      intro s hrun
      show m ∈ (collectRootsWith scene.evaluate rest (scene.collectRoot root s).2).2.cycles ↔ _
      rw [ih (collectRoot_running root hrun), collectRoot_cycles, evaluate_mem_cycles hrun, or_assoc]
      refine or_congr_right ⟨?_, ?_⟩
      · rintro (⟨chain, visit, hcomes, hvisit⟩ | ⟨chain, visit, hreach, hvisit⟩)
        · exact ⟨chain, visit, .here hcomes, hvisit⟩
        · exact ⟨chain, visit, .later hreach, hvisit⟩
      · rintro ⟨chain, visit, hreach, hvisit⟩
        cases hreach with
        | here hcomes => exact .inl ⟨chain, visit, hcomes, hvisit⟩
        | later hreach => exact .inr ⟨chain, visit, hreach, hvisit⟩

/-- The node of a visit leads to the nodes that wait for it, which are distinct nodes of the
document. -/
theorem Reaches.isChain {roots : List Nat} (h : scene.Reaches roots s chain visit) :
    s.running = [] → scene.engine.Chain visit.node chain := by
  induction h with
  | here hcomes =>
      intro hrun
      have hnested := hcomes.nested (.outside hrun)
      rw [List.append_nil] at hnested
      exact hnested.isChain
  | later _ ih => exact fun hrun => ih (collectRoot_running _ hrun)

end Scene

/-! ## What is told -/

namespace Session

def cycleReport (id : String) : String := "cycle detected at node " ++ id

def isCycleReport (warning : String) : Bool :=
  "cycle detected at node ".toList.isPrefixOf warning.toList

theorem isCycleReport_iff {warning : String} :
    isCycleReport warning = true ↔ ∃ id, warning = cycleReport id := by
  unfold isCycleReport cycleReport
  rw [List.isPrefixOf_iff_prefix]
  constructor
  · rintro ⟨rest, hrest⟩
    refine ⟨String.ofList rest, String.toList_inj.mp ?_⟩
    have hletters : (String.ofList rest).toList = rest := String.toList_ofList
    rw [String.toList_append, hletters]
    exact hrest.symm
  · rintro ⟨id, rfl⟩
    rw [String.toList_append]
    exact List.prefix_append _ _

theorem cycleReport_injective {id other : String} (h : cycleReport id = cycleReport other) :
    id = other := by
  have hletters := congrArg String.toList h
  unfold cycleReport at hletters
  rw [String.toList_append, String.toList_append] at hletters
  exact String.toList_inj.mp (List.append_cancel_left hletters)

theorem isCycleReport_append {beginning rest : String}
    (h : (beginning.toList.head?.any (· != 'c')) = true) :
    isCycleReport (beginning ++ rest) = false := by
  unfold isCycleReport
  rw [String.toList_append]
  cases hletters : beginning.toList with
  | nil =>
      rw [hletters] at h
      exact nomatch h
  | cons first letters =>
      have hfirst : ('c' == first) = false := by
        rw [hletters, List.head?_cons, Option.any_some, bne_iff_ne] at h
        exact beq_false_of_ne h.symm
      show List.isPrefixOf ('c' :: "ycle detected at node ".toList) (first :: (letters ++ _)) = _
      rw [List.isPrefixOf_cons_cons, hfirst, Bool.false_and]

theorem filter_addNew {test : String → Bool} {warnings : List String} {warning : String}
    (h : test warning = true) :
    (addNew warnings warning).filter test = addNew (warnings.filter test) warning := by
  have hmem : warning ∈ warnings.filter test ↔ warning ∈ warnings := by
    rw [List.mem_filter, and_iff_left h]
  unfold addNew
  by_cases hknown : warning ∈ warnings
  · simp [hknown, hmem.mpr hknown]
  · simp [hknown, mt hmem.mp hknown, h]

theorem filter_addNew_other {test : String → Bool} {warnings : List String} {warning : String}
    (h : test warning = false) : (addNew warnings warning).filter test = warnings.filter test := by
  unfold addNew
  split
  · rfl
  · rw [List.filter_append, List.filter_cons_of_neg (by simp [h]), List.filter_nil, List.append_nil]

/-- The reports of cycles are those of the nodes that were noted, in their order. -/
structure Tells (engine : Engine) (s : Session) : Prop where
  nodup : s.cycles.Nodup
  told : s.warnings.filter isCycleReport =
    (s.cycles.reverse.map fun node => cycleReport (engine.nodeId node)).foldl addNew []

theorem Tells.other {engine : Engine} {s : Session} (h : s.Tells engine) {warning : String}
    (hwarning : isCycleReport warning = false) : (s.warn warning).Tells engine :=
  ⟨h.nodup, (filter_addNew_other hwarning).trans h.told⟩

theorem Tells.reportCycle {engine : Engine} {s : Session} (h : s.Tells engine) (node : Nat) :
    (s.reportCycle node (engine.nodeId node)).Tells engine := by
  unfold Session.reportCycle
  split
  · exact h
  · rename_i hnew
    refine ⟨List.nodup_cons.mpr ⟨mt List.contains_iff_mem.mpr hnew, h.nodup⟩, ?_⟩
    show (addNew s.warnings (cycleReport (engine.nodeId node))).filter isCycleReport =
      ((node :: s.cycles).reverse.map fun node => cycleReport (engine.nodeId node)).foldl addNew []
    rw [filter_addNew (isCycleReport_iff.mpr ⟨_, rfl⟩), h.told, List.reverse_cons, List.map_append,
      List.foldl_append]
    rfl

end Session

theorem Operator.IsComplaint.other {complaint : String} (h : IsComplaint complaint)
    (rest : String) : Session.isCycleReport (complaint ++ rest) = false := by
  obtain ⟨beginning, hbeginning, found, rfl⟩ := h
  have hfirst : ∀ beginning ∈ complaints, (beginning.toList.head?.any (· != 'c')) = true := by
    decide
  rw [String.append_assoc]
  exact Session.isCycleReport_append (hfirst beginning hbeginning)

namespace Engine

variable {engine : Engine} {context : Context} {chance : Chance} {node : Nat}

/-- **Reports follow the notes** whatever a run does. -/
theorem withstands_tells (engine : Engine) (context : Context) :
    (Scene.mk engine context).Withstands (fun _ => True) (Session.Tells engine) where
  bears _ :=
    { warn := by
        rintro s text ⟨complaint, hcomplaint, rfl⟩ hs
        rw [String.append_assoc]
        exact hs.other (hcomplaint.other _)
      mark := fun _ hs => ⟨hs.nodup, hs.told⟩
      draw := fun _ hs => ⟨hs.nodup, hs.told⟩ }
  cycle _ hs := hs.reportCycle _
  missing {s node} hs := by
    have hother : Session.isCycleReport ("no operator for type " ++
        ((engine.behavior.nodeType? node).getD "?" ++ (" at node " ++ engine.nodeId node))) =
          false := Session.isCycleReport_append (by decide)
    rw [← String.append_assoc, ← String.append_assoc] at hother
    obtain ⟨hnodup, htold⟩ := hs.other hother
    exact ⟨hnodup, htold⟩
  enter hs := ⟨hs.nodup, hs.told⟩
  leave hs := ⟨hs.nodup, hs.told⟩

theorem sessionFrom_tells (engine : Engine) (context : Context) (chance : Chance) :
    (engine.sessionFrom chance context).Tells engine := by
  have hsite : ∀ node, ((Scene.mk engine context).site node).Has fun _ => True :=
    fun _ => Site.has_true _
  have hup := Scene.upholds_all Value.hereditary_true hsite fun _ => trivial
  exact sessionFrom_withstands hup Value.hereditary_true hsite (engine.withstands_tells context)
    (fun _ hs => ⟨hs.nodup, hs.told⟩) ⟨List.nodup_nil, rfl⟩

/-- A run re-enters the node: it asks for it while the body of the node waits for an answer. -/
def Reenters (engine : Engine) (chance : Chance) (context : Context) (node : Nat) : Prop :=
  ∃ chain visit, (Scene.mk engine context).Reaches engine.roots
    { Session.start engine.config with chance } chain visit ∧ visit.node = node ∧ node ∈ chain

theorem mem_cycles_iff_reenters :
    node ∈ (engine.sessionFrom chance context).cycles ↔ engine.Reenters chance context node :=
  ((Scene.mk engine context).collectRoots_mem_cycles node engine.roots rfl).trans
    (or_iff_right List.not_mem_nil)

theorem Reenters.cycle (h : engine.Reenters chance context node) :
    node < engine.nodeCount ∧ TransGen engine.Leads node node := by
  obtain ⟨chain, visit, hreach, rfl, hmem⟩ := h
  have hchain := hreach.isChain rfl
  exact ⟨hchain.inRange _ hmem, hchain.leads _ hmem⟩

def DistinctIds (engine : Engine) : Prop := ((List.range engine.nodeCount).map engine.nodeId).Nodup

instance (engine : Engine) : Decidable engine.DistinctIds :=
  inferInstanceAs (Decidable (List.Nodup _))

theorem DistinctIds.reports_nodup (h : engine.DistinctIds) {nodes : List Nat}
    (hnodes : engine.Distinct nodes) :
    (nodes.map fun node => Session.cycleReport (engine.nodeId node)).Nodup := by
  refine List.Nodup.map_on ?_ hnodes.nodup
  intro a ha b hb heq
  have hid : engine.nodeId a = engine.nodeId b := Session.cycleReport_injective heq
  exact List.inj_on_of_nodup_map h (List.mem_range.mpr (hnodes.inRange a ha))
    (List.mem_range.mpr (hnodes.inRange b hb)) hid

/-- **Cycles are told once.** A node that is re-entered lies on a cycle of edges. Where no two nodes
have the same id, the warnings of a run that tell of cycles are one for each node that is re-entered.
Where edges form no cycle, no warning tells of one. -/
theorem cycles_are_told_once (engine : Engine) (context : Context) :
    (∀ entropy, engine.run context entropy = engine.runFrom (engine.chance entropy) context) ∧
    ∀ chance,
      (∀ node, engine.Reenters chance context node →
        node < engine.nodeCount ∧ TransGen engine.Leads node node) ∧
      (engine.DistinctIds → ∃ nodes : List Nat, nodes.Nodup ∧
        (∀ node, node ∈ nodes ↔ engine.Reenters chance context node) ∧
        (engine.runFrom chance context).2.warnings.filter Session.isCycleReport =
          nodes.map fun node => "cycle detected at node " ++ engine.nodeId node) ∧
      ((∀ node, ¬TransGen engine.Leads node node) →
        ∀ warning ∈ (engine.runFrom chance context).2.warnings,
          ∀ id, warning ≠ "cycle detected at node " ++ id) := by
  refine ⟨fun _ => rfl, fun chance => ⟨fun node h => h.cycle, fun hids => ?_, ?_⟩⟩
  · have htells := engine.sessionFrom_tells context chance
    have hdistinct : engine.Distinct (engine.sessionFrom chance context).cycles.reverse :=
      ⟨List.nodup_reverse.mpr htells.nodup,
        fun _ hm => (mem_cycles_iff_reenters.mp (List.mem_reverse.mp hm)).cycle.1⟩
    refine ⟨_, hdistinct.nodup, fun node => ?_, ?_⟩
    · rw [List.mem_reverse, mem_cycles_iff_reenters]
    · exact htells.told.trans (foldl_addNew_of_nodup _ [] (hids.reports_nodup hdistinct))
  · intro hacyclic warning hwarning id htext
    have htells := engine.sessionFrom_tells context chance
    have hreport : warning ∈ (engine.sessionFrom chance context).warnings.filter
        Session.isCycleReport :=
      List.mem_filter.mpr ⟨hwarning, Session.isCycleReport_iff.mpr ⟨id, htext⟩⟩
    rw [htells.told, mem_foldl_addNew] at hreport
    obtain ⟨node, hnode, -⟩ := List.mem_map.mp (hreport.resolve_left List.not_mem_nil)
    exact hacyclic node (mem_cycles_iff_reenters.mp (List.mem_reverse.mp hnode)).cycle.2

/-- Two nodes that feed each other, and two roots that one of them reaches. -/
def whirl : Engine where
  behavior := {
    strings := ⟨["reroute", "output_entries", "input", "output", "entries"]⟩
    nodeIds := ["here", "there", "first", "second"]
    nodes := [⟨0, ⟨[]⟩⟩, ⟨0, ⟨[]⟩⟩, ⟨1, ⟨[]⟩⟩, ⟨1, ⟨[]⟩⟩]
    edges := [⟨0, 3, 1, 2⟩, ⟨1, 3, 0, 2⟩, ⟨1, 3, 2, 4⟩, ⟨0, 3, 3, 4⟩] }
  data := {}
  config := {}

theorem whirl_roots : whirl.roots = [2, 3] := by
  have hroots : ((List.range whirl.nodeCount).filter fun node =>
      (whirl.kind? node).any OperatorKind.isRoot) = [2, 3] := by decide +kernel
  have hle : whirl.rootLe 2 3 = true := by decide +kernel
  rw [Engine.roots, hroots]
  simp [List.mergeSort, hle]

theorem twins_acyclic (node : Nat) : ¬TransGen Context.twins.Leads node node := by
  have hlater : ∀ {a b}, Context.twins.Leads a b → a < b := by
    rintro a b ⟨edge, hedge, -, rfl, rfl⟩
    have hall : ∀ edge ∈ Context.twins.behavior.edges, edge.source.toNat < edge.target.toNat := by
      decide
    exact hall edge hedge
  have hgrow : ∀ {a b}, TransGen Context.twins.Leads a b → a < b := by
    intro a b hab
    induction hab with
    | single hstep => exact hlater hstep
    | tail _ hstep ih => exact Nat.lt_trans ih (hlater hstep)
  exact fun hcycle => Nat.lt_irrefl node (hgrow hcycle)

/-- The first root comes back to one of the two nodes; the second finds both in the memo. Of the
twins nothing is told. -/
theorem whirl_is_told_once :
    let context : Context := {}
    whirl.DistinctIds ∧ whirl.Reenters whirl.chance context 1 ∧ TransGen whirl.Leads 1 1 ∧
    (∃ nodes : List Nat, nodes.Nodup ∧
      (∀ node, node ∈ nodes ↔ whirl.Reenters whirl.chance context node) ∧
      (whirl.run context).2.warnings.filter Session.isCycleReport =
        nodes.map fun node => "cycle detected at node " ++ whirl.nodeId node) ∧
    (whirl.run context).2.warnings = ["cycle detected at node there"] ∧
    ∀ warning ∈ (Context.twins.run context).2.warnings,
      ∀ id, warning ≠ "cycle detected at node " ++ id := by
  intro context
  have hids : whirl.DistinctIds := by decide
  have hcycles : (whirl.sessionFrom whirl.chance context).cycles = [1] := by
    simp only [Engine.sessionFrom, Engine.sessionWithin, whirl_roots]
    decide +kernel
  have hreenters : whirl.Reenters whirl.chance context 1 :=
    mem_cycles_iff_reenters.mp (hcycles ▸ List.mem_singleton_self 1)
  obtain ⟨hrun, htold⟩ := cycles_are_told_once whirl context
  obtain ⟨hcycle, hdistinct, -⟩ := htold whirl.chance
  obtain ⟨htwins, hnone⟩ := cycles_are_told_once Context.twins context
  refine ⟨hids, hreenters, (hcycle 1 hreenters).2, hrun _ ▸ hdistinct hids, ?_, ?_⟩
  · simp only [Engine.run, Engine.runFrom, Engine.conclude, Engine.sessionFrom,
      Engine.sessionWithin, whirl_roots]
    decide +kernel
  · exact htwins _ ▸ (hnone Context.twins.chance).2.2 twins_acyclic

end Engine

end StoryGraph
