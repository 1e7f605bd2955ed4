import StoryGraph.Proofs.Plain

/-!
# The course of an evaluation

An evaluation comes to the node that is asked and from a node that runs to those that its body asks.
What the session is like when it comes to a node decides what happens there, so a statement about
sessions is kept if it is kept at each of these visits, and what one visit establishes holds in the
end if nothing undoes it. The nodes that wait for a visit lie along edges up to the node that was
asked first.

Main definitions: `Visit`, `Scene.Comes`.
-/

namespace StoryGraph

open Relation

/-- A node is asked for a port in a session, with so many levels left. -/
structure Visit where
  depth : Nat
  node : Nat
  port : String
  session : Session

namespace Scene

variable {scene : Scene} {pull : Pull} {node source : Nat} {port asked : String} {s t : Session}
  {P : Session → Prop} {α : Type}

/-! ## Asking -/

theorem resolve_snd (pull : Pull) (node : Nat) (port : String) (s : Session) :
    (scene.resolve pull node port s).2 =
      (scene.pullEdges pull ((scene.engine.feeds node port).take 1) s).2 := by
  unfold resolve
  cases scene.engine.feeds node port with
  | nil => rfl
  | cons edge rest => rfl

theorem resolveAll_snd (pull : Pull) (node : Nat) (port : String) (s : Session) :
    (scene.resolveAll pull node port s).2 =
      (scene.pullEdges pull (scene.engine.feeds node port) s).2 := by
  unfold resolveAll
  cases scene.engine.feeds node port with
  | nil => rfl
  | cons edge rest => rfl

theorem edgesAsk_mem {edges : List CompactEdge}
    (ask : scene.EdgesAsk pull edges s source port t) :
    ∃ edge ∈ edges, edge.source.toNat = source := by
  induction ask with
  | here _ => exact ⟨_, List.mem_cons_self, rfl⟩
  | later _ ih =>
      obtain ⟨edge, hedge, hsource⟩ := ih
      exact ⟨edge, List.mem_cons_of_mem _ hedge, hsource⟩

theorem asks_leads {body : Body α} (ask : scene.Asks pull node body s source port t) :
    scene.engine.Leads source node := by
  induction ask with
  | input hedges =>
      obtain ⟨edge, hedge, rfl⟩ := edgesAsk_mem hedges
      exact Engine.feeds_leads (List.mem_of_mem_take hedge)
  | inputs hedges =>
      obtain ⟨edge, hedge, rfl⟩ := edgesAsk_mem hedges
      exact Engine.feeds_leads hedge
  | afterInput _ ih | afterInputs _ ih | afterWarn _ ih | afterMark _ ih | afterDraw _ ih =>
      exact ih

/-! ## What is kept at each ask -/

theorem pullEdges_asked {edges : List CompactEdge} : ∀ {s : Session},
    (∀ source port t, scene.EdgesAsk pull edges s source port t → P t → P (pull source port t).2) →
    P s → P (scene.pullEdges pull edges s).2 := by
  induction edges with
  | nil => exact fun _ hs => hs
  | cons edge rest ih =>
      intro s h hs
      have hfirst : P (scene.pullEdge pull edge s).2 := by
        unfold pullEdge pullPort
        cases hname : scene.engine.strings.get? edge.sourcePort with
        | none => exact hs
        | some name => exact h _ name s (.here hname) hs
      rw [pullEdges_cons]
      exact ih (fun source port t hask => h source port t (.later hask)) hfirst

/-- **A body keeps what is kept wherever it asks.** -/
theorem performWith_asked (hP : Session.Robust P) (body : Body α) : ∀ {s : Session},
    (∀ source port t, scene.Asks pull node body s source port t → P t →
      P (pull source port t).2) →
    P s → P (scene.performWith pull node body s).2 := by
  induction body with
  | done result => exact fun _ hs => hs
  | input key next ih =>
      intro s h hs
      have hvalue : P (scene.resolve pull node key s).2 := by
        rw [resolve_snd]
        exact pullEdges_asked (fun source port t hask => h source port t (.input hask)) hs
      exact ih _ (fun source port t hask => h source port t (.afterInput hask)) hvalue
  | inputs key next ih =>
      intro s h hs
      have hvalues : P (scene.resolveAll pull node key s).2 := by
        rw [resolveAll_snd]
        exact pullEdges_asked (fun source port t hask => h source port t (.inputs hask)) hs
      exact ih _ (fun source port t hask => h source port t (.afterInputs hask)) hvalues
  | warn text next ih =>
      exact fun h hs => ih (fun source port t hask => h source port t (.afterWarn hask))
        (hP.warn text hs)
  | mark m next ih =>
      exact fun h hs => ih (fun source port t hask => h source port t (.afterMark hask))
        (hP.mark m hs)
  | draw next ih =>
      exact fun h hs => ih _ (fun source port t hask => h source port t (.afterDraw hask))
        (hP.draw _ hs)

/-! ## What is reached by an ask -/

theorem edgesAsk_after {edges : List CompactEdge}
    (hkeep : ∀ edge ∈ edges, ∀ s, P s → P (scene.pullEdge pull edge s).2)
    (ask : scene.EdgesAsk pull edges s source port t) (h : P (pull source port t).2) :
    P (scene.pullEdges pull edges s).2 := by
  induction ask with
  | @here edge rest s port hname =>
      have hfirst : scene.pullEdge pull edge s = pull edge.source.toNat port s := by
        unfold pullEdge pullPort
        rw [hname]
      rw [pullEdges_cons, hfirst]
      exact pullEdges_keeps (fun e he => hkeep e (List.mem_cons_of_mem _ he)) h
  | later _ ih =>
      rw [pullEdges_cons]
      exact ih (fun e he => hkeep e (List.mem_cons_of_mem _ he)) h

/-- **What holds after one ask of a body, and is kept, holds when the body is done.** -/
theorem asks_after (hP : Session.Robust P) (hkeep : scene.EdgesKeep pull node P) {body : Body α}
    (ask : scene.Asks pull node body s source port t) (h : P (pull source port t).2) :
    P (scene.performWith pull node body s).2 := by
  induction ask with
  | @input key next s source port t hedges =>
      have hvalue : P (scene.resolve pull node key s).2 := by
        rw [resolve_snd]
        exact edgesAsk_after (fun e he => hkeep key e (List.mem_of_mem_take he)) hedges h
      exact performWith_keeps hP hkeep (next (scene.resolve pull node key s).1) hvalue
  | @inputs key next s source port t hedges =>
      have hvalues : P (scene.resolveAll pull node key s).2 := by
        rw [resolveAll_snd]
        exact edgesAsk_after (hkeep key) hedges h
      exact performWith_keeps hP hkeep (next (scene.resolveAll pull node key s).1) hvalues
  | afterInput _ ih | afterInputs _ ih | afterWarn _ ih | afterMark _ ih | afterDraw _ ih =>
      exact ih h

/-! ## Visits -/

/-- The evaluation that begins with a visit comes to another. `chain` are the nodes whose bodies
wait for the answer since then, the innermost first. -/
inductive Comes (scene : Scene) : Visit → List Nat → Visit → Prop where
  | here (visit : Visit) : Comes scene visit [] visit
  | inside {depth node : Nat} {port : String} {s : Session} {kind : OperatorKind} {source : Nat}
      {asked : String} {t : Session} {chain : List Nat} {visit : Visit} :
      scene.Runs node s kind →
      scene.Asks (scene.evaluateWithin depth) node (kind.body (scene.site node)) (s.enter node)
        source asked t →
      Comes scene ⟨depth, source, asked, t⟩ chain visit →
      Comes scene ⟨depth + 1, node, port, s⟩ (chain ++ [node]) visit

variable {first visit : Visit} {chain : List Nat}

theorem Comes.nested (h : scene.Comes first chain visit) :
    ∀ {fuel : Nat} {outer : List Nat},
      scene.Nested fuel outer first.depth first.node first.port first.session →
      scene.Nested fuel (chain ++ outer) visit.depth visit.node visit.port visit.session := by
  induction h with
  | here visit => exact fun hfirst => hfirst
  | @inside depth node port s kind source asked t chain visit hruns ask _ ih =>
      intro fuel outer hfirst
      rw [List.append_assoc]
      exact ih (.inside hfirst hruns ask)

theorem Nested.isChain {fuel depth : Nat} (h : scene.Nested fuel chain depth node port s) :
    scene.engine.Chain node chain := by
  induction h with
  | outside _ => exact Engine.chain_nil _
  | inside hnested hruns ask ih =>
      obtain ⟨hrun, -, -⟩ := hnested.guard
      exact ih.cons (Engine.kind?_lt hruns.kind_eq) (hrun ▸ hruns.idle) (asks_leads ask)

/-- **Evaluation keeps what is kept at each visit**: where a cycle is closed, where a node has no
operator, and where an operator begins and ends. -/
theorem evaluateWithin_visits (hP : Session.Robust P) (first : Visit)
    (cycle : ∀ chain depth node port s, scene.Comes first chain ⟨depth + 1, node, port, s⟩ →
      node < scene.engine.nodeCount → node ∈ s.running → P s →
      P (s.reportCycle node (scene.engine.nodeId node)))
    (missing : ∀ chain depth node port s, scene.Comes first chain ⟨depth + 1, node, port, s⟩ →
      scene.engine.kind? node = none → P s → P (scene.noteMissing node s))
    (enter : ∀ chain depth node port s kind, scene.Comes first chain ⟨depth + 1, node, port, s⟩ →
      scene.Runs node s kind → P s → P (s.enter node))
    (leave : ∀ chain depth node port s kind, scene.Comes first chain ⟨depth + 1, node, port, s⟩ →
      scene.Runs node s kind → ∀ t outputs, P t →
        P (t.leave node (scene.engine.nodeId node) kind outputs)) :
    P first.session →
      P (scene.evaluateWithin first.depth first.node first.port first.session).2 := by
  obtain ⟨depth, node, port, s⟩ := first
  induction depth generalizing node port s with
  | zero => exact fun hs => hs
  | succ depth ih =>
      intro hs
      refine evaluateWithin_elim (motive := fun r => P r.2) depth ?_ ?_ ?_ ?_ ?_
      · exact fun _ => hs
      · exact fun hnode hrun => cycle [] depth node port s (.here _) hnode hrun hs
      · exact fun _ _ _ _ => hs
      · exact fun _ _ _ hkind => missing [] depth node port s (.here _) hkind hs
      · intro kind hruns
        have hbody : P (scene.runBody (scene.evaluateWithin depth) node kind s).2 := by
          refine performWith_asked hP _ ?_ (enter [] depth node port s kind (.here _) hruns hs)
          intro source asked t hask ht
          -- The visits of a call from the body are visits of the whole evaluation.
          refine ih source asked t ?_ ?_ ?_ ?_ ht
          · exact fun chain depth' m p u hcomes => cycle _ depth' m p u (.inside hruns hask hcomes)
          · exact fun chain depth' m p u hcomes =>
              missing _ depth' m p u (.inside hruns hask hcomes)
          · exact fun chain depth' m p u kind' hcomes =>
              enter _ depth' m p u kind' (.inside hruns hask hcomes)
          · exact fun chain depth' m p u kind' hcomes =>
              leave _ depth' m p u kind' (.inside hruns hask hcomes)
        rw [execute_eq]
        exact leave [] depth node port s kind (.here _) hruns _ _ hbody

/-- **What holds after one visit, and is kept ever after, holds in the end.** -/
theorem Comes.after (hP : Session.Robust P)
    (hkeep : ∀ depth, PullKeeps (scene.evaluateWithin depth) P)
    (leave : ∀ {t : Session} {node kind outputs}, P t →
      P (t.leave node (scene.engine.nodeId node) kind outputs))
    (h : scene.Comes first chain visit) :
    P (scene.evaluateWithin visit.depth visit.node visit.port visit.session).2 →
      P (scene.evaluateWithin first.depth first.node first.port first.session).2 := by
  induction h with
  | here visit => exact fun hvisit => hvisit
  | @inside depth node port s kind source asked t chain visit hruns ask _ ih =>
      intro hvisit
      rw [evaluateWithin_run depth hruns, execute_eq]
      exact leave (asks_after hP (hkeep depth).edges ask (ih hvisit))

end Scene

end StoryGraph
