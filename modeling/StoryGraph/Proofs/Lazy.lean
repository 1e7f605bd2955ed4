import StoryGraph.Proofs.Demand
import StoryGraph.Proofs.Ports

/-!
# Evaluation is lazy

What an evaluation does not demand it does not touch. So an edge that comes after another into the
same port does nothing, unless lists are joined there: without it a run takes the same course.

Main definitions: `Engine.withEdges`, `Engine.Shadows`, `Engine.enters`.
-/

namespace StoryGraph

open Relation

namespace Engine

/-! ## Edges without effect -/

def withEdges (engine : Engine) (edges : List CompactEdge) : Engine :=
  { engine with behavior := { engine.behavior with edges } }

/-- Among the edges before is one into the same port, where lists are not joined. A port is known by
the place where its name is found. -/
structure Shadows (engine : Engine) (before : List CompactEdge) (edge : CompactEdge) : Prop where
  earlier : ∃ earlier ∈ before, engine.behavior.inRange earlier ∧
    earlier.target = edge.target ∧ earlier.targetPort = edge.targetPort
  single : ¬(engine.kind? edge.target.toNat = some .joinList ∧
    engine.strings.indexOf? "lists" = some edge.targetPort)

variable {engine : Engine} {before after : List CompactEdge} {edge : CompactEdge}

def enters (engine : Engine) (node : Nat) (port : String) (edge : CompactEdge) : Bool :=
  engine.behavior.inRange edge && edge.target.toNat == node &&
    engine.strings.indexOf? port == some edge.targetPort

theorem enters_iff {node : Nat} {port : String} :
    engine.enters node port edge = true ↔ engine.behavior.inRange edge = true ∧
      edge.target.toNat = node ∧ engine.strings.indexOf? port = some edge.targetPort := by
  unfold enters
  rw [Bool.and_eq_true, Bool.and_eq_true, beq_iff_eq, beq_iff_eq, and_assoc]

theorem feeds_eq_enters (engine : Engine) (node : Nat) (port : String) :
    engine.feeds node port = engine.behavior.edges.filter (engine.enters node port) :=
  feeds_eq_filter

theorem feeds_withEdges (edges : List CompactEdge) (node : Nat) (port : String) :
    (engine.withEdges edges).feeds node port = edges.filter (engine.enters node port) :=
  feeds_eq_filter

section Deletion

variable (hedges : engine.behavior.edges = before ++ edge :: after)
  (hshadows : engine.Shadows before edge)
include hedges hshadows

theorem head?_feeds_delete (node : Nat) (port : String) :
    ((engine.withEdges (before ++ after)).feeds node port).head? =
      (engine.feeds node port).head? := by
  rw [feeds_withEdges, feeds_eq_enters, hedges, List.head?_filter, List.head?_filter,
    List.find?_append, List.find?_append, List.find?_cons]
  split
  · rename_i hinto
    -- Where the deleted edge leads, the one before it has led already.
    obtain ⟨earlier, hmem, hrange, htarget, hport⟩ := hshadows.earlier
    obtain ⟨-, hto, hname⟩ := enters_iff.mp hinto
    have hearlier : (before.find? (engine.enters node port)).isSome := by
      rw [List.find?_isSome]
      exact ⟨earlier, hmem, enters_iff.mpr ⟨hrange, htarget ▸ hto, hport ▸ hname⟩⟩
    rw [Option.or_of_isSome hearlier, Option.or_of_isSome hearlier]
  · rfl

theorem feeds_lists_delete {node : Nat} (hkind : engine.kind? node = some .joinList) :
    (engine.withEdges (before ++ after)).feeds node "lists" = engine.feeds node "lists" := by
  rw [feeds_withEdges, feeds_eq_enters, hedges, List.filter_append, List.filter_append,
    List.filter_cons_of_neg]
  intro hinto
  obtain ⟨-, rfl, hlists⟩ := enters_iff.mp hinto
  exact hshadows.single ⟨hkind, hlists⟩

theorem site_delete (context : Context) (node : Nat) :
    (Scene.mk (engine.withEdges (before ++ after)) context).site node =
      (Scene.mk engine context).site node := by
  have hwired : ∀ port, ((engine.withEdges (before ++ after)).feeds node port).isEmpty =
      (engine.feeds node port).isEmpty := by
    intro port
    rw [Bool.eq_iff_iff, List.isEmpty_iff, List.isEmpty_iff, ← List.head?_eq_none_iff,
      ← List.head?_eq_none_iff, head?_feeds_delete hedges hshadows]
  unfold Scene.site
  simp only [hwired]
  rfl

/-- **A run without the edge takes the same course.** -/
theorem mirrors_delete (context : Context) :
    Scene.Mirrors id ⟨engine, context⟩ ⟨engine.withEdges (before ++ after), context⟩ where
  nodes := ⟨rfl, rfl, rfl⟩
  first := head?_feeds_delete hedges hshadows
  lists := feeds_lists_delete hedges hshadows
  body {node kind} _ := by
    rw [site_delete hedges hshadows, Body.mapMarks_id]

theorem runFrom_delete (chance : Chance) (context : Context) :
    (engine.withEdges (before ++ after)).runFrom chance context =
      engine.runFrom chance context := by
  have hmirrors := mirrors_delete hedges hshadows context
  have hsession : (engine.withEdges (before ++ after)).sessionFrom chance context =
      engine.sessionFrom chance context :=
    sessionFrom_seen hmirrors Session.view_id chance rfl
  unfold runFrom
  rw [hsession]
  unfold conclude
  rw [hmirrors.nodes.roots_eq]
  rfl

end Deletion

/-! ## The main result -/

/-- **Evaluation is lazy.** Of executions, memo and trace the evaluation of a node changes only what
is about the node and nodes upstream along demanded edges, where what is spared in its course, as a
branch that a switch does not choose, demands nothing. And no run changes when an edge is deleted
that comes after another into the same port, where lists are not joined. -/
theorem evaluation_is_lazy (engine : Engine) :
    (∀ (context : Context) (node : Nat) (port : String) (s : Session),
      let first : Visit := ⟨engine.nodeCount + 1, node, port, s⟩
      s.ChangesOnly engine
        (fun m => ReflTransGen (engine.Demands (Scene.Spared ⟨engine, context⟩ first)) m node)
        ((Scene.mk engine context).evaluate node port s).2) ∧
    ∀ (before after : List CompactEdge) (edge : CompactEdge),
      engine.behavior.edges = before ++ edge :: after → engine.Shadows before edge →
      ∀ context, (∀ chance, (engine.withEdges (before ++ after)).runFrom chance context =
          engine.runFrom chance context) ∧
        ∀ entropy, (engine.withEdges (before ++ after)).run context entropy =
          engine.run context entropy := by
  constructor
  · exact fun context node port s =>
      Scene.evaluateWithin_changesOnly ⟨engine, context⟩ ⟨engine.nodeCount + 1, node, port, s⟩
  · intro before after edge hedges hshadows context
    exact ⟨fun chance => runFrom_delete hedges hshadows chance context,
      fun entropy => runFrom_delete hedges hshadows (engine.chance entropy) context⟩

theorem feeds_named {node : Nat} {port : String} (hsize : engine.strings.size ≤ 2 ^ 32)
    (h : edge ∈ engine.feeds node port) :
    edge ∈ engine.behavior.edges ∧ edge.target.toNat = node ∧
      engine.strings.get? edge.targetPort = some port := by
  rw [feeds_eq_enters] at h
  obtain ⟨hmem, hinto⟩ := List.mem_filter.mp h
  obtain ⟨-, hto, hname⟩ := enters_iff.mp hinto
  exact ⟨hmem, hto, StringTable.get?_of_indexOf? hsize hname⟩

def crossroads : Engine where
  behavior := {
    strings := ⟨["switch", "source_entries", "output_entries", "condition", "if_true", "if_false",
      "result", "entries"]⟩
    nodeIds := ["fork", "left", "right", "end"]
    nodes := [⟨0, ⟨[(3, .bool true)]⟩⟩, ⟨1, ⟨[]⟩⟩, ⟨1, ⟨[]⟩⟩, ⟨2, ⟨[]⟩⟩]
    edges := [⟨1, 7, 0, 4⟩, ⟨2, 7, 0, 5⟩, ⟨2, 7, 0, 4⟩, ⟨0, 6, 3, 7⟩] }
  data := {}
  config := {}

theorem crossroads_spared (context : Context) (port : String) (s : Session) :
    Scene.Spared ⟨crossroads, context⟩ ⟨crossroads.nodeCount + 1, 0, port, s⟩ 0 "if_false" := by
  refine Scene.spared_here fun kind hruns => ?_
  have hkind : crossroads.kind? 0 = some .switch := by decide +kernel
  have hfeeds : crossroads.feeds 0 "condition" = [] := by decide +kernel
  have hcondition : ((crossroads.property? 0 "condition").getD .null).isTrue = true := by
    decide +kernel
  obtain rfl : kind = .switch := Option.some.inj (hruns.kind_eq.symm.trans hkind)
  refine .ifFalse ?_
  rw [Scene.performWith_askTruth]
  unfold Scene.resolve
  rw [show (Scene.mk crossroads context).engine.feeds 0 "condition" = [] from hfeeds]
  exact hcondition

theorem crossroads_demands {context : Context} {port : String} {s : Session} {source : Nat}
    (h : crossroads.Demands
      (Scene.Spared ⟨crossroads, context⟩ ⟨crossroads.nodeCount + 1, 0, port, s⟩) source 0) :
    source = 1 := by
  obtain ⟨key, hspared, edge, hedge, rfl⟩ := h
  have hkey : key = "if_true" ∨ key = "if_false" := by
    obtain ⟨hmem, hto, hport⟩ := feeds_named (by decide) (crossroads.demanded_subset 0 key hedge)
    have hports : ∀ edge ∈ crossroads.behavior.edges, edge.target.toNat = 0 →
        crossroads.strings.get? edge.targetPort = some "if_true" ∨
          crossroads.strings.get? edge.targetPort = some "if_false" := by decide
    have hnames := hports edge hmem hto
    rw [hport, Option.some_inj, Option.some_inj] at hnames
    exact hnames
  rcases hkey with rfl | rfl
  · have hleft : crossroads.demanded 0 "if_true" = [⟨1, 7, 0, 4⟩] := by decide +kernel
    rw [hleft, List.mem_singleton] at hedge
    rw [hedge]
    rfl
  · exact absurd (crossroads_spared context port s) hspared

/-- The source on the right is not executed for the fork, and without the edge from it that comes
too late nothing changes. -/
theorem crossroads_keep_left :
    let context : Context := {}
    let start : Session := .start crossroads.config
    let before : List CompactEdge := [⟨1, 7, 0, 4⟩, ⟨2, 7, 0, 5⟩]
    let late : CompactEdge := ⟨2, 7, 0, 4⟩
    let after : List CompactEdge := [⟨0, 6, 3, 7⟩]
    crossroads.behavior.edges = before ++ late :: after ∧ crossroads.Shadows before late ∧
    ((Scene.mk crossroads context).evaluate 0 "result" start).2.executions.lookup 2 = none ∧
    (crossroads.withEdges (before ++ after)).run context = crossroads.run context := by
  intro context start before late after
  have hedges : crossroads.behavior.edges = before ++ late :: after := rfl
  have hshadows : crossroads.Shadows before late :=
    ⟨⟨⟨1, 7, 0, 4⟩, by decide, by decide, rfl, rfl⟩, by decide +kernel⟩
  obtain ⟨hlazy, hdelete⟩ := evaluation_is_lazy crossroads
  refine ⟨hedges, hshadows, ?_, (hdelete before after late hedges hshadows context).2 _⟩
  refine (hlazy context 0 "result" start).executions 2 fun hup => ?_
  -- The way up from the fork leads to the left, where it ends.
  rcases hup.cases_tail with h | ⟨m, hup, hdemands⟩
  · exact absurd h (by decide)
  · obtain rfl := crossroads_demands hdemands
    rcases hup.cases_tail with h | ⟨m, -, hdemands⟩
    · exact absurd h (by decide)
    · obtain ⟨edge, hedge, -, -, hto⟩ := hdemands.leads
      have hnone : ∀ edge ∈ crossroads.behavior.edges, edge.target.toNat ≠ 1 := by decide
      exact absurd hto (hnone edge hedge)

end Engine

end StoryGraph
