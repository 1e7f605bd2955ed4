import StoryGraph.Proofs.Bodies

/-!
# One evaluation

What the evaluation of a port does, by what the session knows of the node: a node out of range or
at work gives null, a node that has run gives what is kept of it, a node without operator is noted,
and any other node runs. Whatever happens, the nodes at work are the same before and after.
-/

namespace StoryGraph

namespace Session

@[simp] theorem reportCycle_memo (s : Session) (node : Nat) (id : String) :
    (s.reportCycle node id).memo = s.memo := by
  unfold reportCycle
  split <;> rfl

@[simp] theorem reportCycle_running (s : Session) (node : Nat) (id : String) :
    (s.reportCycle node id).running = s.running := by
  unfold reportCycle
  split <;> rfl

@[simp] theorem reportCycle_executions (s : Session) (node : Nat) (id : String) :
    (s.reportCycle node id).executions = s.executions := by
  unfold reportCycle
  split <;> rfl

@[simp] theorem reportCycle_fragments (s : Session) (node : Nat) (id : String) :
    (s.reportCycle node id).fragments = s.fragments := by
  unfold reportCycle
  split <;> rfl

end Session

namespace Engine

theorem kind?_lt {engine : Engine} {node : Nat} {kind : OperatorKind}
    (h : engine.kind? node = some kind) : node < engine.nodeCount := by
  unfold kind? at h
  split at h
  · assumption
  · exact absurd h (by simp)

theorem kind?_of_le {engine : Engine} {node : Nat} (h : engine.nodeCount ≤ node) :
    engine.kind? node = none := by
  unfold kind?
  rw [if_neg (Nat.not_lt.mpr h)]

end Engine

namespace Scene

variable {scene : Scene} {pull : Pull} {node : Nat} {port : String} {s : Session}
  {P : Session → Prop}

/-! ## The cases -/

structure Runs (scene : Scene) (node : Nat) (s : Session) (kind : OperatorKind) : Prop where
  kind_eq : scene.engine.kind? node = some kind
  idle : node ∉ s.running
  fresh : s.memo.lookup node = none

theorem evaluateWithin_outside (depth : Nat) (h : scene.engine.nodeCount ≤ node) :
    scene.evaluateWithin depth node port s = (.null, s) := by
  cases depth with
  | zero => rfl
  | succ depth =>
      rw [evaluateWithin, if_pos h]
      rfl

theorem evaluateWithin_succ (depth : Nat) (h : node < scene.engine.nodeCount) :
    scene.evaluateWithin (depth + 1) node port s =
      if s.running.contains node then (.null, s.reportCycle node (scene.engine.nodeId node))
      else match s.memo.lookup node with
        | some outputs => (outputs.select port, s)
        | none => match scene.engine.kind? node with
          | none => (.null, scene.noteMissing node s)
          | some kind =>
            ((scene.execute (scene.evaluateWithin depth) node kind s).1.select port,
              (scene.execute (scene.evaluateWithin depth) node kind s).2) := by
  rw [evaluateWithin, if_neg (Nat.not_le.mpr h)]
  show (if s.running.contains node then _ else _ : StateM Session Value) s = _
  by_cases hrun : s.running.contains node = true
  · rw [if_pos hrun, if_pos hrun]
    rfl
  · rw [if_neg hrun, if_neg hrun]
    cases s.memo.lookup node with
    | some outputs => rfl
    | none =>
        cases scene.engine.kind? node with
        | none => rfl
        | some kind => rfl

theorem evaluateWithin_cycle (depth : Nat) (h : node < scene.engine.nodeCount)
    (hrun : node ∈ s.running) :
    scene.evaluateWithin (depth + 1) node port s =
      (.null, s.reportCycle node (scene.engine.nodeId node)) := by
  rw [evaluateWithin_succ depth h, if_pos (List.contains_iff_mem.mpr hrun)]

theorem evaluateWithin_known (depth : Nat) (h : node < scene.engine.nodeCount)
    (hrun : node ∉ s.running) {outputs : Outputs} (hmemo : s.memo.lookup node = some outputs) :
    scene.evaluateWithin (depth + 1) node port s = (outputs.select port, s) := by
  rw [evaluateWithin_succ depth h, if_neg (mt List.contains_iff_mem.mp hrun), hmemo]

theorem evaluateWithin_missing (depth : Nat) (h : node < scene.engine.nodeCount)
    (hrun : node ∉ s.running) (hmemo : s.memo.lookup node = none)
    (hkind : scene.engine.kind? node = none) :
    scene.evaluateWithin (depth + 1) node port s = (.null, scene.noteMissing node s) := by
  rw [evaluateWithin_succ depth h, if_neg (mt List.contains_iff_mem.mp hrun), hmemo, hkind]

theorem evaluateWithin_run (depth : Nat) {kind : OperatorKind} (h : scene.Runs node s kind) :
    scene.evaluateWithin (depth + 1) node port s =
      ((scene.execute (scene.evaluateWithin depth) node kind s).1.select port,
        (scene.execute (scene.evaluateWithin depth) node kind s).2) := by
  rw [evaluateWithin_succ depth (Engine.kind?_lt h.kind_eq),
    if_neg (mt List.contains_iff_mem.mp h.idle), h.fresh, h.kind_eq]

/-- **The five cases of an evaluation.** To show a statement about its outcome, show it of each. -/
theorem evaluateWithin_elim {motive : Value × Session → Prop} (depth : Nat)
    (outside : scene.engine.nodeCount ≤ node → motive (.null, s))
    (cycle : node < scene.engine.nodeCount → node ∈ s.running →
      motive (.null, s.reportCycle node (scene.engine.nodeId node)))
    (known : ∀ outputs, node < scene.engine.nodeCount → node ∉ s.running →
      s.memo.lookup node = some outputs → motive (outputs.select port, s))
    (missing : node < scene.engine.nodeCount → node ∉ s.running → s.memo.lookup node = none →
      scene.engine.kind? node = none → motive (.null, scene.noteMissing node s))
    (run : ∀ kind, scene.Runs node s kind →
      motive ((scene.execute (scene.evaluateWithin depth) node kind s).1.select port,
        (scene.execute (scene.evaluateWithin depth) node kind s).2)) :
    motive (scene.evaluateWithin (depth + 1) node port s) := by
  by_cases hnode : node < scene.engine.nodeCount
  · by_cases hrun : node ∈ s.running
    · rw [evaluateWithin_cycle depth hnode hrun]
      exact cycle hnode hrun
    · cases hmemo : s.memo.lookup node with
      | some outputs =>
          rw [evaluateWithin_known depth hnode hrun hmemo]
          exact known outputs hnode hrun hmemo
      | none =>
          cases hkind : scene.engine.kind? node with
          | none =>
              rw [evaluateWithin_missing depth hnode hrun hmemo hkind]
              exact missing hnode hrun hmemo hkind
          | some kind =>
              rw [evaluateWithin_run depth ⟨hkind, hrun, hmemo⟩]
              exact run kind ⟨hkind, hrun, hmemo⟩
  · rw [evaluateWithin_outside _ (Nat.not_lt.mp hnode)]
    exact outside (Nat.not_lt.mp hnode)

/-! ## Running an operator -/

/-- The body of a node, carried out from the session in which the node has just begun to run. -/
def runBody (scene : Scene) (pull : Pull) (node : Nat) (kind : OperatorKind) (s : Session) :
    Outputs × Session :=
  scene.performWith pull node (kind.body (scene.site node)) (s.enter node)

theorem execute_eq (kind : OperatorKind) :
    scene.execute pull node kind s =
      ((scene.runBody pull node kind s).1,
        (scene.runBody pull node kind s).2.leave node (scene.engine.nodeId node) kind
          (scene.runBody pull node kind s).1) := rfl

/-- What holds when the node begins to run and is kept along its edges holds when it is done. -/
theorem runBody_keeps (hP : Session.Robust P) (h : scene.EdgesKeep pull node P)
    (kind : OperatorKind) (hs : P (s.enter node)) : P (scene.runBody pull node kind s).2 :=
  performWith_keeps hP h _ hs

/-- **Evaluation gives back the guard as it found it.** -/
theorem evaluateWithin_running (depth : Nat) :
    ∀ node port s, (scene.evaluateWithin depth node port s).2.running = s.running := by
  induction depth with
  | zero => exact fun _ _ _ => rfl
  | succ depth ih =>
      intro node port s
      refine evaluateWithin_elim (motive := fun r => r.2.running = s.running) depth
        (fun _ => rfl) (fun _ _ => Session.reportCycle_running s node _) (fun _ _ _ _ => rfl)
        (fun _ _ _ _ => rfl) ?_
      intro kind _
      -- The body ends with the node on top of the guard, where leaving takes it off.
      have hbody : (scene.runBody (scene.evaluateWithin depth) node kind s).2.running =
          node :: s.running :=
        runBody_keeps (P := fun t => t.running = node :: s.running)
          ⟨fun _ h => h, fun _ h => h, fun _ h => h⟩
          (PullKeeps.edges fun m p t ht => (ih m p t).trans ht) kind rfl
      rw [execute_eq]
      show (scene.runBody (scene.evaluateWithin depth) node kind s).2.running.erase node = _
      rw [hbody, List.erase_cons_head]

theorem evaluateWithin_fragments (depth : Nat) :
    ∀ node port s, (scene.evaluateWithin depth node port s).2.fragments = s.fragments := by
  induction depth with
  | zero => exact fun _ _ _ => rfl
  | succ depth ih =>
      intro node port s
      refine evaluateWithin_elim (motive := fun r => r.2.fragments = s.fragments) depth
        (fun _ => rfl) (fun _ _ => Session.reportCycle_fragments s node _) (fun _ _ _ _ => rfl)
        (fun _ _ _ _ => rfl) ?_
      intro kind _
      rw [execute_eq]
      exact runBody_keeps (P := fun t => t.fragments = s.fragments)
        ⟨fun _ h => h, fun _ h => h, fun _ h => h⟩
        (PullKeeps.edges fun m p t ht => (ih m p t).trans ht) kind rfl

end Scene

end StoryGraph
