import Mathlib.Data.List.Perm.Subperm
import StoryGraph.Proofs.Memo

/-!
# Evaluation ends

Nothing in a document bounds how far its edges lead, so evaluation is given a depth beyond which
calls are cut off. The guard is what makes the bound real: it holds exactly the chain of nodes whose
bodies wait for the call at hand, a body begins only at a node outside the chain, and there are no
more nodes than the document has. So with one level more than there are nodes no call is cut off,
and further levels change nothing.
-/

namespace StoryGraph

namespace Engine

variable {engine : Engine} {nodes : List Nat}

structure Distinct (engine : Engine) (nodes : List Nat) : Prop where
  nodup : nodes.Nodup
  inRange : ∀ m ∈ nodes, m < engine.nodeCount

theorem distinct_nil : engine.Distinct [] :=
  ⟨List.nodup_nil, fun _ hm => absurd hm List.not_mem_nil⟩

theorem Distinct.cons (h : engine.Distinct nodes) {node : Nat} (hnode : node < engine.nodeCount)
    (hnew : node ∉ nodes) : engine.Distinct (node :: nodes) where
  nodup := List.nodup_cons.mpr ⟨hnew, h.nodup⟩
  inRange m hm := by
    rcases List.mem_cons.mp hm with rfl | hm
    · exact hnode
    · exact h.inRange m hm

theorem Distinct.length_le (h : engine.Distinct nodes) : nodes.length ≤ engine.nodeCount := by
  have hsub : nodes ⊆ List.range engine.nodeCount :=
    fun m hm => List.mem_range.mpr (h.inRange m hm)
  have := (List.subperm_of_subset h.nodup hsub).length_le
  rwa [List.length_range] at this

end Engine

namespace Scene

variable {scene : Scene} {pull pull' : Pull} {node : Nat} {port : String} {s t : Session}
  {P : Session → Prop} {α : Type}

/-! ## The calls that a body makes -/

/-- Finding the values of edges, one after the other from a session, comes to ask for a port of a
node in a further session. -/
inductive EdgesAsk (scene : Scene) (pull : Pull) :
    List CompactEdge → Session → Nat → String → Session → Prop where
  | here {edge : CompactEdge} {rest : List CompactEdge} {s : Session} {port : String} :
      scene.engine.strings.get? edge.sourcePort = some port →
      EdgesAsk scene pull (edge :: rest) s edge.source.toNat port s
  | later {edge : CompactEdge} {rest : List CompactEdge} {s : Session} {node : Nat}
      {port : String} {t : Session} :
      EdgesAsk scene pull rest (scene.pullEdge pull edge s).2 node port t →
      EdgesAsk scene pull (edge :: rest) s node port t

/-- Carrying out a body from a session comes to ask for a port of a node in a further session. -/
inductive Asks (scene : Scene) (pull : Pull) (node : Nat) {α : Type} :
    Body α → Session → Nat → String → Session → Prop where
  | input {key : String} {next : Value → Body α} {s : Session} {source : Nat} {port : String}
      {t : Session} :
      EdgesAsk scene pull ((scene.engine.feeds node key).take 1) s source port t →
      Asks scene pull node (.input key next) s source port t
  | afterInput {key : String} {next : Value → Body α} {s : Session} {source : Nat}
      {port : String} {t : Session} :
      Asks scene pull node (next (scene.resolve pull node key s).1)
        (scene.resolve pull node key s).2 source port t →
      Asks scene pull node (.input key next) s source port t
  | inputs {key : String} {next : List Value → Body α} {s : Session} {source : Nat}
      {port : String} {t : Session} :
      EdgesAsk scene pull (scene.engine.feeds node key) s source port t →
      Asks scene pull node (.inputs key next) s source port t
  | afterInputs {key : String} {next : List Value → Body α} {s : Session} {source : Nat}
      {port : String} {t : Session} :
      Asks scene pull node (next (scene.resolveAll pull node key s).1)
        (scene.resolveAll pull node key s).2 source port t →
      Asks scene pull node (.inputs key next) s source port t
  | afterWarn {text : String} {next : Body α} {s : Session} {source : Nat} {port : String}
      {t : Session} :
      Asks scene pull node next (s.warn text) source port t →
      Asks scene pull node (.warn text next) s source port t
  | afterMark {m : Mark} {next : Body α} {s : Session} {source : Nat} {port : String}
      {t : Session} :
      Asks scene pull node next (s.mark m) source port t →
      Asks scene pull node (.mark m next) s source port t
  | afterDraw {next : Float → Body α} {s : Session} {source : Nat} {port : String} {t : Session} :
      Asks scene pull node (next s.chance.draw.1) { s with chance := s.chance.draw.2 } source
        port t →
      Asks scene pull node (.draw next) s source port t

/-- With so much fuel at the start, evaluation comes to ask for a port of a node in a session.
`chain` are the nodes whose bodies wait for the answer, the innermost first, and `depth` is the
fuel that is left. A call from outside comes while nothing runs. -/
inductive Nested (scene : Scene) (fuel : Nat) : List Nat → Nat → Nat → String → Session → Prop where
  | outside {node : Nat} {port : String} {s : Session} :
      s.running = [] → Nested scene fuel [] fuel node port s
  | inside {chain : List Nat} {depth node : Nat} {port : String} {s : Session}
      {kind : OperatorKind} {source : Nat} {asked : String} {t : Session} :
      Nested scene fuel chain (depth + 1) node port s → scene.Runs node s kind →
      scene.Asks (scene.evaluateWithin depth) node (kind.body (scene.site node)) (s.enter node)
        source asked t →
      Nested scene fuel (node :: chain) depth source asked t

theorem edgesAsk_keeps {edges : List CompactEdge}
    (h : ∀ edge ∈ edges, ∀ s, P s → P (scene.pullEdge pull edge s).2)
    (ask : scene.EdgesAsk pull edges s node port t) (hs : P s) : P t := by
  induction ask with
  | here _ => exact hs
  | later _ ih =>
      exact ih (fun e he => h e (List.mem_cons_of_mem _ he)) (h _ List.mem_cons_self _ hs)

theorem asks_keeps (hP : Session.Robust P) (h : scene.EdgesKeep pull node P) {body : Body α}
    {source : Nat} (ask : scene.Asks pull node body s source port t) : P s → P t := by
  induction ask with
  | input hedges =>
      exact fun hs => edgesAsk_keeps (fun e he => h _ e (List.mem_of_mem_take he)) hedges hs
  | afterInput _ ih => exact fun hs => ih (resolve_keeps h hs _)
  | inputs hedges => exact fun hs => edgesAsk_keeps (h _) hedges hs
  | afterInputs _ ih => exact fun hs => ih (resolveAll_keeps h hs _)
  | afterWarn _ ih => exact fun hs => ih (hP.warn _ hs)
  | afterMark _ ih => exact fun hs => ih (hP.mark _ hs)
  | afterDraw _ ih => exact fun hs => ih (hP.draw _ hs)

theorem running_robust (chain : List Nat) :
    Session.Robust (fun s : Session => s.running = chain) :=
  ⟨fun _ h => h, fun _ h => h, fun _ h => h⟩

theorem running_pullKeeps (depth : Nat) (chain : List Nat) :
    PullKeeps (scene.evaluateWithin depth) (fun s => s.running = chain) :=
  fun node port s hs => (evaluateWithin_running depth node port s).trans hs

/-- **The guard is the chain of waiting bodies**, and the chain uses up the fuel. -/
theorem Nested.guard {fuel depth : Nat} {chain : List Nat}
    (h : scene.Nested fuel chain depth node port s) :
    s.running = chain ∧ scene.engine.Distinct chain ∧ depth + chain.length = fuel := by
  induction h with
  | outside hrun => exact ⟨hrun, Engine.distinct_nil, by simp⟩
  | @inside chain depth node port s kind source asked t _ hruns ask ih =>
      obtain ⟨hrun, hdistinct, hfuel⟩ := ih
      refine ⟨?_, hdistinct.cons (Engine.kind?_lt hruns.kind_eq) (hrun ▸ hruns.idle), ?_⟩
      · refine asks_keeps (running_robust (node :: chain)) (running_pullKeeps _ _).edges ask ?_
        show node :: s.running = node :: chain
        rw [hrun]
      · rw [List.length_cons, ← hfuel]
        omega

/-! ## More fuel changes nothing -/

/-- **Enough fuel is as good as more.** Enough is more than the nodes that are not at work. -/
theorem evaluateWithin_more (depth more : Nat) : ∀ node port s,
    scene.engine.Distinct s.running → scene.engine.nodeCount < depth + s.running.length →
    scene.evaluateWithin (depth + more) node port s = scene.evaluateWithin depth node port s := by
  induction depth with
  | zero =>
      intro node port s hs hfuel
      have := hs.length_le
      omega
  | succ depth ih =>
      intro node port s hs hfuel
      rw [Nat.add_right_comm]
      refine evaluateWithin_elim
        (motive := fun r => scene.evaluateWithin (depth + more + 1) node port s = r) depth
        (fun h => evaluateWithin_outside _ h) (fun h hrun => evaluateWithin_cycle _ h hrun)
        (fun _ h hrun hmemo => evaluateWithin_known _ h hrun hmemo)
        (fun h hrun hmemo hkind => evaluateWithin_missing _ h hrun hmemo hkind) ?_
      intro kind hruns
      -- Inside the body the node itself is at work, which pays for the level that is gone.
      have hbody : scene.runBody (scene.evaluateWithin (depth + more)) node kind s =
          scene.runBody (scene.evaluateWithin depth) node kind s := by
        refine performWith_congr (running_robust (node :: s.running))
          (running_pullKeeps _ _).edges ?_ _ rfl
        intro _ edge _ t ht
        refine pullPort_congr (fun name => ih _ name t ?_ ?_) edge.sourcePort
        · rw [ht]
          exact hs.cons (Engine.kind?_lt hruns.kind_eq) hruns.idle
        · rw [ht, List.length_cons]
          omega
      rw [evaluateWithin_run _ hruns, execute_eq, execute_eq, hbody]

theorem evaluateWithin_eq_evaluate {fuel : Nat} (hfuel : scene.engine.nodeCount < fuel)
    (hs : s.running = []) : scene.evaluateWithin fuel node port s = scene.evaluate node port s := by
  have hdistinct : scene.engine.Distinct s.running := hs ▸ Engine.distinct_nil
  have hsplit : fuel = scene.engine.nodeCount + 1 + (fuel - (scene.engine.nodeCount + 1)) := by
    omega
  rw [hsplit]
  exact evaluateWithin_more _ _ node port s hdistinct (by omega)

theorem running_open (chain : List Nat) : Session.Open (fun s : Session => s.running = chain) where
  toRobust := running_robust chain
  collect _ h := h

theorem answerWith_eq_answer {fuel : Nat} (hfuel : scene.engine.nodeCount < fuel)
    (hs : s.running = []) (call : Call) :
    scene.answerWith (scene.evaluateWithin fuel) call s = scene.answer call s :=
  answerWith_congr (running_open []) (running_pullKeeps fuel [])
    (fun _ _ _ ht => evaluateWithin_eq_evaluate hfuel ht) call hs

theorem collectRootsWith_eq {fuel : Nat} (hfuel : scene.engine.nodeCount < fuel)
    (roots : List Nat) : ∀ {s : Session}, s.running = [] →
    (collectRootsWith (scene.evaluateWithin fuel) roots s).2 =
      (collectRootsWith scene.evaluate roots s).2 := by
  induction roots with
  | nil => exact fun _ => rfl
  | cons root rest ih =>
      intro s hs
      have hroot := congrArg Prod.snd (answerWith_eq_answer hfuel hs (.collectRoot root))
      change (collectRootWith (scene.evaluateWithin fuel) root s).2 =
        (collectRootWith scene.evaluate root s).2 at hroot
      have hrest : (collectRootWith scene.evaluate root s).2.running = [] :=
        collectRootWith_keeps (running_open []) (running_pullKeeps _ []) root hs
      show (collectRootsWith (scene.evaluateWithin fuel) rest
        (collectRootWith (scene.evaluateWithin fuel) root s).2).2 =
          (collectRootsWith scene.evaluate rest (collectRootWith scene.evaluate root s).2).2
      rw [hroot]
      exact ih hrest

theorem sessionWithin_eq {engine : Engine} {fuel : Nat} (hfuel : engine.nodeCount < fuel)
    (chance : Chance) (context : Context) :
    engine.sessionWithin fuel chance context = engine.sessionFrom chance context :=
  @collectRootsWith_eq ⟨engine, context⟩ _ hfuel engine.roots _ rfl

/-- **Evaluation ends**, whatever the documents. Wherever it asks for a value, the nodes whose
bodies wait are distinct nodes of the document, so there are no more of them than the document has.
With more fuel than nodes no call is cut off, every call from outside has one answer and one final
session, and a run has one outcome. -/
theorem evaluation_ends (scene : Scene) :
    (∀ fuel chain depth node port s, scene.Nested fuel chain depth node port s →
      chain.Nodup ∧ (∀ m ∈ chain, m < scene.engine.nodeCount) ∧
      chain.length ≤ scene.engine.nodeCount ∧
      (scene.engine.nodeCount < fuel → 0 < depth)) ∧
    ∀ fuel, scene.engine.nodeCount < fuel →
      (∀ chance calls call,
        scene.answerWith (scene.evaluateWithin fuel) call (scene.after chance calls) =
          scene.answer call (scene.after chance calls)) ∧
      (∀ chance, scene.engine.sessionWithin fuel chance scene.context =
          scene.engine.sessionFrom chance scene.context ∧
        scene.engine.runWithin fuel chance scene.context =
          scene.engine.runFrom chance scene.context) ∧
      ∀ entropy, scene.engine.runWithin fuel (scene.engine.chance entropy) scene.context =
        scene.engine.run scene.context entropy := by
  constructor
  · intro fuel chain depth node port s h
    obtain ⟨-, hdistinct, hfuel⟩ := h.guard
    have hlength := hdistinct.length_le
    exact ⟨hdistinct.nodup, hdistinct.inRange, hlength, fun _ => by omega⟩
  · intro fuel hfuel
    have hsession := fun chance => sessionWithin_eq hfuel chance scene.context
    have hrun : ∀ chance, scene.engine.runWithin fuel chance scene.context =
        scene.engine.runFrom chance scene.context :=
      fun chance => congrArg (scene.engine.conclude scene.context) (hsession chance)
    refine ⟨?_, fun chance => ⟨hsession chance, hrun chance⟩, fun entropy => hrun _⟩
    intro chance calls call
    exact answerWith_eq_answer hfuel (scene.after_sound chance calls).2 call

/-- The list waits for the node on the left, which asks for the source with five of seven levels
left; seven levels are as good as six. -/
theorem fanOut_ends :
    let scene : Scene := ⟨fanOut, {}⟩
    (∃ s, scene.Nested 7 [1, 3] 5 0 "entries" s ∧
      [1, 3].Nodup ∧ (∀ m ∈ [1, 3], m < scene.engine.nodeCount) ∧ 0 < 5) ∧
    ∀ chance, scene.engine.runWithin 7 chance scene.context =
      scene.engine.runFrom chance scene.context := by
  intro scene
  obtain ⟨hchain, hfuel⟩ := evaluation_ends scene
  refine ⟨?_, fun chance => ((hfuel 7 (by decide)).2.1 chance).2⟩
  let start := scene.after (.ofSeed 7) []
  have hlist : scene.Nested 7 [] 7 3 "list" start := .outside rfl
  have hleft : scene.Nested 7 [3] 6 1 "output" (start.enter 3) :=
    .inside hlist ⟨rfl, by decide, rfl⟩ (.inputs (.here rfl))
  have hsource : scene.Nested 7 [1, 3] 5 0 "entries" ((start.enter 3).enter 1) :=
    .inside hleft ⟨rfl, by decide, rfl⟩ (.input (.here rfl))
  obtain ⟨hnodup, hlt, -, hdepth⟩ := hchain 7 [1, 3] 5 0 "entries" _ hsource
  exact ⟨_, hsource, hnodup, hlt, hdepth (by decide)⟩

end Scene

end StoryGraph
