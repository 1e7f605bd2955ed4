import StoryGraph.Proofs.Plain

/-!
# History cannot be seen

Evaluation with memo and guard gives at plain nodes what plain recursion gives, and what a session
was asked before, of cyclic nodes too, makes no difference. The memo may be filled while the guard
is at work elsewhere, so the invariant is about the memo alone: of every plain node in it, it holds
what plain recursion finds. That carries through because the nodes at work are always nodes that
the one asked for leads to: a plain node is never among them, and its sources are plain again.
-/

namespace StoryGraph

open Relation

namespace Scene

variable {scene : Scene} {pull : Pull} {node : Nat} {P : Session → Prop} {α : Type}
  {outputs? : Nat → Option Outputs}

/-! ## Carrying out as the plain way -/

/-- Along the edges into the node, from sessions where `P` holds, the values found are those that
the outputs give. -/
def EdgesFollow (scene : Scene) (pull : Pull) (outputs? : Nat → Option Outputs) (node : Nat)
    (P : Session → Prop) : Prop :=
  ∀ port, ∀ edge ∈ scene.engine.feeds node port, ∀ value,
    scene.plainEdge? outputs? edge = some value → ∀ s, P s → (scene.pullEdge pull edge s).1 = value

theorem resolve_plain (follow : scene.EdgesFollow pull outputs? node P) {port : String}
    {value : Value} (hvalue : scene.plainInput? outputs? node port = some value) {s : Session}
    (hs : P s) : (scene.resolve pull node port s).1 = value := by
  unfold plainInput? at hvalue
  unfold resolve
  cases hfeeds : scene.engine.feeds node port with
  | nil =>
      rw [hfeeds] at hvalue
      exact Option.some.inj hvalue
  | cons edge rest =>
      rw [hfeeds] at hvalue
      exact follow port edge (hfeeds ▸ List.mem_cons_self) value hvalue s hs

theorem pullEdges_plain {edges : List CompactEdge}
    (h : ∀ edge ∈ edges, ∀ s, P s → P (scene.pullEdge pull edge s).2)
    (follow : ∀ edge ∈ edges, ∀ value, scene.plainEdge? outputs? edge = some value →
      ∀ s, P s → (scene.pullEdge pull edge s).1 = value) :
    ∀ {values : List Value}, edges.mapM (scene.plainEdge? outputs?) = some values →
      ∀ {s : Session}, P s → (scene.pullEdges pull edges s).1 = values := by
  induction edges with
  | nil => exact fun hvalues _ _ => Option.some.inj hvalues
  | cons edge rest ih =>
      intro values hvalues s hs
      simp only [List.mapM_cons, Option.bind_eq_bind, Option.bind_eq_some_iff] at hvalues
      obtain ⟨value, hvalue, others, hothers, hsum⟩ := hvalues
      have hhead := follow edge List.mem_cons_self value hvalue s hs
      have htail := ih (fun e he => h e (List.mem_cons_of_mem _ he))
        (fun e he => follow e (List.mem_cons_of_mem _ he)) hothers
        (h edge List.mem_cons_self s hs)
      rw [pullEdges_cons, hhead, htail]
      exact Option.some.inj hsum

theorem resolveAll_plain (h : scene.EdgesKeep pull node P)
    (follow : scene.EdgesFollow pull outputs? node P) {port : String} {values : List Value}
    (hvalues : scene.plainInputs? outputs? node port = some values) {s : Session} (hs : P s) :
    (scene.resolveAll pull node port s).1 = values := by
  unfold plainInputs? at hvalues
  unfold resolveAll
  cases hfeeds : scene.engine.feeds node port with
  | nil =>
      rw [hfeeds] at hvalues
      exact Option.some.inj hvalues
  | cons edge rest =>
      rw [hfeeds] at hvalues
      exact pullEdges_plain (fun e he => h port e (hfeeds ▸ he))
        (fun e he => follow port e (hfeeds ▸ he)) hvalues hs

/-- **A body is carried out with the result that the plain way gives it.** -/
theorem performWith_plain (hP : Session.Robust P) (h : scene.EdgesKeep pull node P)
    (follow : scene.EdgesFollow pull outputs? node P) {body : Body α} {result : α} :
    body.plain? (scene.plainInput? outputs? node) (scene.plainInputs? outputs? node) =
      some result → ∀ {s : Session}, P s → (scene.performWith pull node body s).1 = result := by
  induction body with
  | done r => exact fun heq _ _ => Option.some.inj heq
  | input port next ih =>
      intro heq s hs
      obtain ⟨value, hvalue, hnext⟩ := Option.bind_eq_some_iff.mp heq
      rw [performWith_input, resolve_plain follow hvalue hs]
      exact ih value hnext (resolve_keeps h hs port)
  | inputs port next ih =>
      intro heq s hs
      obtain ⟨values, hvalues, hnext⟩ := Option.bind_eq_some_iff.mp heq
      rw [performWith_inputs, resolveAll_plain h follow hvalues hs]
      exact ih values hnext (resolveAll_keeps h hs port)
  | warn text next ih => exact fun heq _ hs => ih heq (hP.warn text hs)
  | mark m next ih => exact fun heq _ hs => ih heq (hP.mark m hs)
  | draw next ih => exact fun heq => absurd heq (by simp [Body.plain?])

/-! ## The memo is as the plain way -/

/-- Of every plain node in it, the memo holds what plain recursion finds. -/
def Faithful (scene : Scene) (s : Session) : Prop :=
  ∀ node outputs, scene.engine.Plain node → s.memo.lookup node = some outputs →
    scene.Yields node outputs

theorem Faithful.cons {s : Session} (h : scene.Faithful s) {outputs : Outputs}
    (hnode : scene.engine.Plain node → scene.Yields node outputs) {t : Session}
    (hmemo : t.memo = (node, outputs) :: s.memo) : scene.Faithful t := by
  intro other kept hplain hkept
  rw [hmemo, Session.lookup_memo_cons] at hkept
  by_cases he : other = node
  · rw [if_pos he] at hkept
    rw [← Option.some.inj hkept, he]
    exact hnode (he ▸ hplain)
  · rw [if_neg he] at hkept
    exact h other kept hplain hkept

/-- What the body of a node keeps: the memo is faithful, and the nodes at work stay. -/
def FaithfulAt (scene : Scene) (chain : List Nat) (s : Session) : Prop :=
  scene.Faithful s ∧ s.running = chain

theorem faithfulAt_open (chain : List Nat) : Session.Open (scene.FaithfulAt chain) :=
  { warn := fun _ h => h, mark := fun _ h => h, draw := fun _ h => h, collect := fun _ h => h }

/-- A value with a session agrees with the plain way at a port: the memo is faithful, and the value
of a plain node is the one that plain recursion finds. -/
def AgreesAt (scene : Scene) (node : Nat) (port : String) (found : Value × Session) : Prop :=
  scene.Faithful found.2 ∧ (scene.engine.Plain node → ∀ outputs, scene.Yields node outputs →
    found.1 = outputs.select port)

/-- The same for the value of an edge; and the nodes at work are those of the session before. -/
def EdgeAgrees (scene : Scene) (edge : CompactEdge) (s : Session) (found : Value × Session) :
    Prop :=
  found.2.running = s.running ∧ scene.Faithful found.2 ∧
    (scene.engine.Plain edge.source.toNat → ∀ far value,
      scene.plainEdge? (scene.plainOutputs? far) edge = some value → found.1 = value)

theorem pullEdge_agrees {edge : CompactEdge} {s : Session} (hs : scene.Faithful s)
    (hrun : PullKeeps pull fun t => t.running = s.running)
    (h : ∀ name, scene.AgreesAt edge.source.toNat name (pull edge.source.toNat name s)) :
    scene.EdgeAgrees edge s (scene.pullEdge pull edge s) := by
  refine ⟨pullPort_keeps hrun rfl edge.sourcePort, ?_⟩
  unfold pullEdge pullPort plainEdge?
  cases scene.engine.strings.get? edge.sourcePort with
  | none => exact ⟨hs, fun _ _ _ hvalue => Option.some.inj hvalue⟩
  | some name =>
      refine ⟨(h name).1, fun hplain far value hvalue => ?_⟩
      obtain ⟨outputs, houtputs, rfl⟩ := Option.map_eq_some_iff.mp hvalue
      exact (h name).2 hplain outputs ⟨far, houtputs⟩

/-- When the values of all edges into a node agree with the plain way, its operator gives what the
plain way finds. -/
theorem runBody_agrees {s : Session} {kind : OperatorKind} (hs : scene.Faithful s)
    (hkind : scene.engine.kind? node = some kind)
    (h : ∀ port, ∀ edge ∈ scene.engine.feeds node port, ∀ t,
      scene.FaithfulAt (node :: s.running) t →
        scene.EdgeAgrees edge t (scene.pullEdge pull edge t)) :
    scene.Faithful (scene.runBody pull node kind s).2 ∧
      (scene.engine.Plain node → ∀ outputs, scene.Yields node outputs →
        (scene.runBody pull node kind s).1 = outputs) := by
  have hrobust : Session.Robust (scene.FaithfulAt (node :: s.running)) :=
    (faithfulAt_open _).toRobust
  have hkeep : scene.EdgesKeep pull node (scene.FaithfulAt (node :: s.running)) := by
    intro port edge hmem t ht
    obtain ⟨hrun, hfaithful, -⟩ := h port edge hmem t ht
    exact ⟨hfaithful, hrun.trans ht.2⟩
  have henter : scene.FaithfulAt (node :: s.running) (s.enter node) := ⟨hs, rfl⟩
  refine ⟨(runBody_keeps hrobust hkeep kind henter).1, ?_⟩
  rintro hplain outputs ⟨far, hfar⟩
  cases far with
  | zero => exact absurd hfar (by simp [plainOutputs?])
  | succ far =>
      rw [plainOutputs?, hkind] at hfar
      refine performWith_plain hrobust hkeep ?_ hfar henter
      intro port edge hmem value hvalue t ht
      have hsource := hplain.of_leads (Engine.feeds_leads hmem)
      exact (h port edge hmem t ht).2.2 hsource far value hvalue

/-- **Evaluation finds at a plain node what plain recursion finds**, and leaves the memo faithful
wherever it went. The nodes at work are a chain that the node leads to, so a plain node is not
among them. -/
theorem evaluateWithin_agrees (depth : Nat) : ∀ node port s, scene.Faithful s →
    scene.engine.Chain node s.running → scene.engine.nodeCount < depth + s.running.length →
    scene.AgreesAt node port (scene.evaluateWithin depth node port s) := by
  induction depth with
  | zero =>
      intro node port s _ hchain hfuel
      have := hchain.length_le
      omega
  | succ depth ih =>
      intro node port s hs hchain hfuel
      refine evaluateWithin_elim (motive := scene.AgreesAt node port) depth ?_ ?_ ?_ ?_ ?_
      · intro hout
        refine ⟨hs, fun _ outputs houtputs => ?_⟩
        rw [houtputs.unique (yields_empty (Engine.kind?_of_le hout))]
        rfl
      · intro _ hrun
        refine ⟨fun other kept hplain hkept => hs other kept hplain ?_,
          fun hplain => absurd hrun (hplain.not_mem hchain)⟩
        rwa [Session.reportCycle_memo] at hkept
      · intro kept _ _ hmemo
        exact ⟨hs, fun hplain _ houtputs => by rw [houtputs.unique (hs node kept hplain hmemo)]⟩
      · intro _ _ _ hkind
        refine ⟨hs.cons (fun _ => yields_empty hkind) rfl, fun _ outputs houtputs => ?_⟩
        rw [houtputs.unique (yields_empty hkind)]
        rfl
      · intro kind hruns
        have hnode := Engine.kind?_lt hruns.kind_eq
        -- At work inside the body are this node and what it leads to, a chain for each source.
        have hedges : ∀ port, ∀ edge ∈ scene.engine.feeds node port, ∀ t,
            scene.FaithfulAt (node :: s.running) t →
              scene.EdgeAgrees edge t (scene.pullEdge (scene.evaluateWithin depth) edge t) := by
          intro port edge hmem t ht
          refine pullEdge_agrees ht.1 (running_pullKeeps depth _) fun name => ih _ name t ht.1 ?_ ?_
          · rw [ht.2]
            exact hchain.cons hnode hruns.idle (Engine.feeds_leads hmem)
          · rw [ht.2, List.length_cons]
            omega
        obtain ⟨hbody, hresult⟩ := runBody_agrees hs hruns.kind_eq hedges
        rw [execute_eq]
        refine ⟨hbody.cons (fun hplain => ?_) rfl, fun hplain outputs h => ?_⟩
        -- What comes into the memo is right only because plain recursion ends here as well.
        · obtain ⟨outputs, houtputs⟩ := Option.isSome_iff_exists.mp
            (plainOutputs?_isSome (depth + 1) node s.running hplain hchain hfuel)
          rw [hresult hplain outputs ⟨_, houtputs⟩]
          exact ⟨_, houtputs⟩
        · rw [hresult hplain outputs h]

/-! ## Calls from outside -/

theorem after_faithful (chance : Chance) (calls : List Call) :
    scene.FaithfulAt [] (scene.after chance calls) := by
  refine goOn_keeps (faithfulAt_open []) ?_ calls ⟨?_, rfl⟩
  · intro node port s ⟨hs, hrun⟩
    refine ⟨(evaluateWithin_agrees _ node port s hs ?_ ?_).1,
      (evaluateWithin_running _ node port s).trans hrun⟩
    · rw [hrun]
      exact Engine.chain_nil node
    · omega
  · exact fun _ _ _ hmemo => absurd hmemo (by simp [Session.start])

theorem evaluate_plain {s : Session} (hs : scene.FaithfulAt [] s) (hplain : scene.engine.Plain node)
    {outputs : Outputs} (h : scene.Yields node outputs) (port : String) :
    (scene.evaluate node port s).1 = outputs.select port ∧
      scene.FaithfulAt [] (scene.evaluate node port s).2 := by
  have hagrees := evaluateWithin_agrees (scene.engine.nodeCount + 1) node port s hs.1
    (by rw [hs.2]; exact Engine.chain_nil node) (by omega)
  exact ⟨hagrees.2 hplain outputs h, hagrees.1,
    (evaluateWithin_running _ node port s).trans hs.2⟩

/-- What a plain root adds to the fragments is made from what plain recursion finds at it. -/
theorem collectRoot_plain {s : Session} {root : Nat} (hs : scene.FaithfulAt [] s)
    (hplain : scene.engine.Plain root) (hroot : root < scene.engine.nodeCount) {outputs : Outputs}
    (h : scene.Yields root outputs) :
    scene.FaithfulAt [] (scene.collectRoot root s).2 ∧
      (scene.collectRoot root s).2.fragments = s.fragments ++ [fragmentOf outputs] := by
  obtain ⟨-, hafter⟩ := evaluate_plain hs hplain h "entries"
  obtain ⟨kept, hkept, hcollect⟩ := collectRoot_adds hroot hs.2
  rw [hcollect, ← h.unique (hafter.1 root kept hplain hkept)]
  exact ⟨hafter, rfl⟩

theorem collectRoots_plain {outputsOf : Nat → Outputs}
    (hplain : ∀ node, scene.engine.Plain node) (h : ∀ node, scene.Yields node (outputsOf node))
    {order : List Nat} (hrange : ∀ root ∈ order, root < scene.engine.nodeCount) :
    ∀ {s : Session}, scene.FaithfulAt [] s →
      (collectRootsWith scene.evaluate order s).2.fragments =
        s.fragments ++ order.map fun root => fragmentOf (outputsOf root) := by
  induction order with
  | nil => exact fun _ => (List.append_nil _).symm
  | cons root rest ih =>
      intro s hs
      obtain ⟨hfaithful, hfragments⟩ :=
        collectRoot_plain hs (hplain root) (hrange root List.mem_cons_self) (h root)
      have hrest := ih (fun m hm => hrange m (List.mem_cons_of_mem _ hm)) hfaithful
      rw [hfragments, List.append_assoc] at hrest
      exact hrest

/-- **Memo and guard cannot be seen where no cycle leads.** After any calls, of cyclic nodes too, a
plain node has the values that plain recursion finds, so two sessions agree on them. In a document
without cycles and chance gates each root adds the fragment that plain recursion finds, in whatever
order the roots are collected and whatever was asked before. -/
theorem evaluation_is_plain (scene : Scene) :
    (∀ node, scene.engine.Plain node → ∀ chance calls port,
      (∀ depth, scene.engine.nodeCount < depth →
        scene.plain? depth node port =
          some (scene.evaluate node port (scene.after chance calls)).1) ∧
      ∀ chance' calls', (scene.evaluate node port (scene.after chance calls)).1 =
        (scene.evaluate node port (scene.after chance' calls')).1) ∧
    ((∀ m, ¬TransGen scene.engine.Leads m m) →
      (∀ m, scene.engine.kind? m ≠ some .probability) →
      ∃ fragment : Nat → Fragment,
        (∀ root depth, scene.engine.nodeCount < depth →
          (scene.plainOutputs? depth root).map fragmentOf = some (fragment root)) ∧
        ∀ chance calls order, (∀ root ∈ order, root < scene.engine.nodeCount) →
          (collectRootsWith scene.evaluate order (scene.after chance calls)).2.fragments =
            (scene.after chance calls).fragments ++ order.map fragment) := by
  have hends : ∀ node, scene.engine.Plain node → ∃ outputs, ∀ depth,
      scene.engine.nodeCount < depth → scene.plainOutputs? depth node = some outputs := by
    intro node hplain
    obtain ⟨outputs, houtputs⟩ := Option.isSome_iff_exists.mp
      (plainOutputs?_isSome (scene.engine.nodeCount + 1) node [] hplain (Engine.chain_nil node)
        (by simp))
    exact ⟨outputs, fun depth hdepth => plainOutputs?_mono hdepth houtputs⟩
  constructor
  · intro node hplain chance calls port
    obtain ⟨outputs, houtputs⟩ := hends node hplain
    have hvalue : ∀ chance calls, (scene.evaluate node port (scene.after chance calls)).1 =
        outputs.select port := fun chance calls =>
      (evaluate_plain (after_faithful chance calls) hplain
        ⟨_, houtputs _ (Nat.lt_succ_self _)⟩ port).1
    refine ⟨fun depth hdepth => ?_, fun chance' calls' => ?_⟩
    · rw [plain?, houtputs depth hdepth, hvalue]
      rfl
    · rw [hvalue, hvalue]
  · intro hacyclic hsteady
    have hplain : ∀ node, scene.engine.Plain node :=
      fun _ => ⟨fun m _ => hacyclic m, fun m _ => hsteady m⟩
    choose outputsOf houtputs using fun node => hends node (hplain node)
    refine ⟨fun root => fragmentOf (outputsOf root), fun root depth hdepth => ?_, ?_⟩
    · rw [houtputs root depth hdepth]
      rfl
    · exact fun chance calls order hrange => collectRoots_plain hplain
        (fun node => ⟨_, houtputs node _ (Nat.lt_succ_self _)⟩) hrange (after_faithful chance calls)

def twoRoots : Engine where
  behavior := {
    strings := ⟨["source_entries", "output_entries", "entries"]⟩
    nodeIds := ["all", "first", "second"]
    nodes := [⟨0, ⟨[]⟩⟩, ⟨1, ⟨[]⟩⟩, ⟨1, ⟨[]⟩⟩]
    edges := [⟨0, 2, 1, 2⟩, ⟨0, 2, 2, 2⟩] }
  data := {}
  config := {}

/-- The list is plain beside the loop, and the two roots add the same in either order. -/
theorem fanOut_is_plain :
    let scene : Scene := ⟨fanOut, {}⟩
    let roots : Scene := ⟨twoRoots, {}⟩
    (scene.evaluate 3 "list" (scene.after (.ofSeed 7) [.evaluate 4 "output"])).1 =
      (scene.evaluate 3 "list" (scene.after (.ofSeed 1) [])).1 ∧
    scene.plain? 6 3 "list" = some (scene.evaluate 3 "list" (scene.after (.ofSeed 1) [])).1 ∧
    ∃ first second,
      (collectRootsWith roots.evaluate [1, 2] (roots.after (.ofSeed 7) [])).2.fragments =
        [first, second] ∧
      (collectRootsWith roots.evaluate [2, 1] (roots.after (.ofSeed 7) [])).2.fragments =
        [second, first] := by
  intro scene roots
  have hlist : scene.engine.Plain 3 :=
    Engine.plain_of_rank (· < 4) id (by decide) (by decide) (by decide)
  have hkind : ∀ m, roots.engine.kind? m ≠ some .probability := by
    intro m
    by_cases hm : m < roots.engine.nodeCount
    · revert m
      decide
    · rw [Engine.kind?_of_le (Nat.not_lt.mp hm)]
      simp
  have hroots : ∀ m, ¬TransGen roots.engine.Leads m m := fun m =>
    (Engine.plain_of_rank (fun _ => True) id (by decide) (fun m _ => hkind m)
      trivial : roots.engine.Plain m).acyclic m .refl
  obtain ⟨hvalue, -⟩ := evaluation_is_plain scene
  obtain ⟨-, hfragments⟩ := evaluation_is_plain roots
  obtain ⟨fragment, -, hcollect⟩ := hfragments hroots hkind
  refine ⟨(hvalue 3 hlist _ _ "list").2 _ _, (hvalue 3 hlist _ _ "list").1 6 (by decide), ?_⟩
  exact ⟨fragment 1, fragment 2, hcollect _ [] [1, 2] (by decide), hcollect _ [] [2, 1] (by decide)⟩

end Scene

end StoryGraph
