import StoryGraph.Proofs.Unseeded

/-!
# Runs that mirror each other

What a run does at a node is settled by what the operator is, what it sees, and where its inputs
come from. So where two engines agree on these, the one takes the course of the other. They need not
agree in full: of the edges into a port only the first counts, except where lists are joined, and
the marks of the one may be the images of those of the other. What is left is a view of sessions
that goes along with each step.

Main definitions: `Body.mapMarks`, `Session.View`, `Scene.Mirrors`.
-/

namespace StoryGraph

/-! ## Bodies with other marks -/

namespace Body

variable {α β : Type} {f : Mark → Mark} {G : Value → Prop} {D : Deed → Prop}

def mapMarks (f : Mark → Mark) : Body α → Body α
  | .done result => .done result
  | .input port next => .input port fun value => (next value).mapMarks f
  | .inputs port next => .inputs port fun values => (next values).mapMarks f
  | .warn text next => .warn text (next.mapMarks f)
  | .mark m next => .mark (f m) (next.mapMarks f)
  | .draw next => .draw fun x => (next x).mapMarks f

theorem mapMarks_id (body : Body α) : body.mapMarks id = body := by
  induction body with
  | done result => rfl
  | input port next ih => exact congrArg (Body.input port) (funext ih)
  | inputs port next ih => exact congrArg (Body.inputs port) (funext ih)
  | warn text next ih => exact congrArg (Body.warn text) ih
  | mark m next ih => exact congrArg (Body.mark m) ih
  | draw next ih => exact congrArg Body.draw (funext ih)

theorem mapMarks_bind (x : Body α) (g : α → Body β) :
    (x >>= g).mapMarks f = x.mapMarks f >>= fun a => (g a).mapMarks f := by
  induction x with
  | done result => rfl
  | input port next ih => exact congrArg (Body.input port) (funext ih)
  | inputs port next ih => exact congrArg (Body.inputs port) (funext ih)
  | warn text next ih => exact congrArg (Body.warn text) ih
  | mark m next ih => exact congrArg (Body.mark (f m)) ih
  | draw next ih => exact congrArg Body.draw (funext ih)

theorem mapMarks_markAll (marks : List Mark) :
    (markAll marks).mapMarks f = markAll (marks.map f) := by
  induction marks with
  | nil => rfl
  | cons m rest ih => exact congrArg (Body.mark (f m)) ih

theorem Does.mapMarks_eq {body : Body α} (h : body.Does (fun _ => True) D)
    (hD : ∀ m, ¬D (.mark m)) : body.mapMarks f = body := by
  induction h with
  | done result => rfl
  | input _ ih => exact congrArg (Body.input _) (funext fun value => ih value trivial)
  | inputs _ _ ih =>
      exact congrArg (Body.inputs _) (funext fun values => ih values fun _ _ => trivial)
  | warn _ _ ih => exact congrArg (Body.warn _) ih
  | mark hm _ _ => exact absurd hm (hD _)
  | draw _ ih => exact congrArg Body.draw (funext ih)

end Body

theorem Operator.body_may (kind : OperatorKind) (site : Site) :
    (kind.body site).Does (fun _ => True) (kind.May site fun _ => True) :=
  body_does Value.hereditary_true site.has_true kind

/-! ## Views of sessions -/

/-- The view goes along with each step of a run, where marks are seen as their images. -/
structure Session.View (f : Mark → Mark) (view : Session → Session) : Prop where
  memo : ∀ s, (view s).memo = s.memo
  running : ∀ s, (view s).running = s.running
  chance : ∀ s, (view s).chance = s.chance
  warn : ∀ s text, view (s.warn text) = (view s).warn text
  mark : ∀ s m, view (s.mark m) = (view s).mark (f m)
  draw : ∀ s chance, view { s with chance } = { view s with chance }
  collect : ∀ s fragment, view { s with fragments := s.fragments ++ [fragment] } =
    { view s with fragments := (view s).fragments ++ [fragment] }
  keep : ∀ s pair, view { s with memo := pair :: s.memo } =
    { view s with memo := pair :: (view s).memo }
  reportCycle : ∀ s node id, view (s.reportCycle node id) = (view s).reportCycle node id
  enter : ∀ s node, view (s.enter node) = (view s).enter node
  leave : ∀ s node id kind outputs,
    view (s.leave node id kind outputs) = (view s).leave node id kind outputs

theorem Session.view_id : Session.View id id := by
  constructor <;> intros <;> rfl

/-! ## Engines with the same nodes -/

structure Engine.SameNodes (engine engine' : Engine) : Prop where
  strings : engine'.behavior.strings = engine.behavior.strings
  nodeIds : engine'.behavior.nodeIds = engine.behavior.nodeIds
  nodes : engine'.behavior.nodes = engine.behavior.nodes

namespace Engine.SameNodes

variable {engine engine' : Engine} (h : engine.SameNodes engine')
include h

theorem nodeCount_eq : engine'.nodeCount = engine.nodeCount := by
  unfold nodeCount
  rw [h.nodes]

theorem nodeId_eq (node : Nat) : engine'.nodeId node = engine.nodeId node := by
  unfold nodeId
  rw [h.nodeIds]

theorem nodeType?_eq (node : Nat) :
    engine'.behavior.nodeType? node = engine.behavior.nodeType? node := by
  unfold BehaviorDocument.nodeType?
  rw [h.nodes, h.strings]

theorem strings_eq : engine'.strings = engine.strings := h.strings

theorem props_eq (node : Nat) : engine'.props node = engine.props node := by
  unfold props
  rw [h.nodes, h.strings_eq]

theorem property?_eq (node : Nat) (name : String) :
    engine'.property? node name = engine.property? node name := by
  unfold property?
  rw [h.props_eq, h.strings_eq]

theorem setting?_eq (node : Nat) (name : String) :
    engine'.setting? node name = engine.setting? node name := by
  unfold setting?
  rw [h.props_eq, h.strings_eq]

theorem label_eq (node : Nat) : engine'.label node = engine.label node := by
  unfold label
  rw [h.setting?_eq]

theorem kind?_eq (node : Nat) : engine'.kind? node = engine.kind? node := by
  unfold kind?
  rw [h.nodeCount_eq, h.nodeType?_eq, h.label_eq]

theorem roots_eq : engine'.roots = engine.roots := by
  have hle : engine'.rootLe = engine.rootLe := by
    funext a b
    unfold rootLe rootOrder
    rw [h.property?_eq, h.property?_eq]
  unfold roots
  rw [h.nodeCount_eq, hle]
  simp only [h.kind?_eq]

end Engine.SameNodes

/-! ## Scenes that mirror each other -/

/-- The second scene takes the course of the first, with the images of its marks. -/
structure Scene.Mirrors (f : Mark → Mark) (scene scene' : Scene) : Prop where
  nodes : scene.engine.SameNodes scene'.engine
  /-- The first edge into a port is the same. -/
  first : ∀ node port,
    (scene'.engine.feeds node port).head? = (scene.engine.feeds node port).head?
  /-- Where lists are joined all edges are the same. -/
  lists : ∀ {node}, scene.engine.kind? node = some .joinList →
    scene'.engine.feeds node "lists" = scene.engine.feeds node "lists"
  body : ∀ {node kind}, scene.engine.kind? node = some kind →
    kind.body (scene'.site node) = (kind.body (scene.site node)).mapMarks f

namespace Scene

variable {scene scene' : Scene} {f : Mark → Mark} {view : Session → Session} {pull pull' : Pull}
  {node : Nat} {α : Type}

/-- Finding values from the view of a session is finding them from the session, and viewing what
comes of it. -/
def Seen (view : Session → Session) (pull pull' : Pull) : Prop :=
  ∀ node port s, pull' node port (view s) = ((pull node port s).1, view (pull node port s).2)

theorem pullEdge_seen (hnodes : scene.engine.SameNodes scene'.engine) (h : Seen view pull pull')
    (edge : CompactEdge) (s : Session) : scene'.pullEdge pull' edge (view s) =
      ((scene.pullEdge pull edge s).1, view (scene.pullEdge pull edge s).2) := by
  unfold pullEdge pullPort
  rw [hnodes.strings_eq]
  cases scene.engine.strings.get? edge.sourcePort with
  | none => rfl
  | some name => exact h _ name s

theorem pullEdges_seen (hnodes : scene.engine.SameNodes scene'.engine) (h : Seen view pull pull')
    (edges : List CompactEdge) : ∀ s, scene'.pullEdges pull' edges (view s) =
      ((scene.pullEdges pull edges s).1, view (scene.pullEdges pull edges s).2) := by
  induction edges with
  | nil => exact fun _ => rfl
  | cons edge rest ih =>
      intro s
      rw [pullEdges_cons, pullEdges_cons, pullEdge_seen hnodes h, ih]

theorem resolve_seen (hmirror : Mirrors f scene scene') (h : Seen view pull pull') (port : String)
    (s : Session) : scene'.resolve pull' node port (view s) =
      ((scene.resolve pull node port s).1, view (scene.resolve pull node port s).2) := by
  have hfirst := hmirror.first node port
  unfold resolve
  cases hfeeds : scene.engine.feeds node port with
  | nil =>
      rw [hfeeds, List.head?_nil, List.head?_eq_none_iff] at hfirst
      rw [hfirst, hmirror.nodes.property?_eq]
      rfl
  | cons edge rest =>
      rw [hfeeds, List.head?_cons, List.head?_eq_some_iff] at hfirst
      obtain ⟨others, hothers⟩ := hfirst
      rw [hothers]
      exact pullEdge_seen hmirror.nodes h edge s

theorem resolveAll_seen (hnodes : scene.engine.SameNodes scene'.engine) (h : Seen view pull pull')
    {port : String} (hall : scene'.engine.feeds node port = scene.engine.feeds node port)
    (s : Session) : scene'.resolveAll pull' node port (view s) =
      ((scene.resolveAll pull node port s).1, view (scene.resolveAll pull node port s).2) := by
  unfold resolveAll
  rw [hall]
  cases scene.engine.feeds node port with
  | nil =>
      rw [hnodes.property?_eq]
      rfl
  | cons edge rest => exact pullEdges_seen hnodes h (edge :: rest) s

/-- A body with the images of its marks is carried out as the body, and viewed. -/
theorem performWith_seen (hmirror : Mirrors f scene scene') (hview : Session.View f view)
    (h : Seen view pull pull') {D : Deed → Prop}
    (hall : ∀ port, D (.gather port) →
      scene'.engine.feeds node port = scene.engine.feeds node port)
    {body : Body α} (hbody : body.Does (fun _ => True) D) : ∀ s : Session,
      scene'.performWith pull' node (body.mapMarks f) (view s) =
        ((scene.performWith pull node body s).1, view (scene.performWith pull node body s).2) := by
  induction hbody with
  | done result => exact fun _ => rfl
  | @input port next _ ih =>
      intro s
      rw [Body.mapMarks, performWith_input, performWith_input, resolve_seen hmirror h]
      exact ih _ trivial _
  | @inputs port next hport _ ih =>
      intro s
      rw [Body.mapMarks, performWith_inputs, performWith_inputs,
        resolveAll_seen hmirror.nodes h (hall port hport)]
      exact ih _ (fun _ _ => trivial) _
  | @warn text next _ _ ih =>
      intro s
      show scene'.performWith pull' node (next.mapMarks f) ((view s).warn text) = _
      rw [← hview.warn]
      exact ih _
  | @mark m next _ _ ih =>
      intro s
      show scene'.performWith pull' node (next.mapMarks f) ((view s).mark (f m)) = _
      rw [← hview.mark]
      exact ih _
  | @draw next _ ih =>
      intro s
      show scene'.performWith pull' node ((next (view s).chance.draw.1).mapMarks f)
        { view s with chance := (view s).chance.draw.2 } = _
      rw [hview.chance, ← hview.draw]
      exact ih _ _

theorem noteMissing_seen (hnodes : scene.engine.SameNodes scene'.engine)
    (hview : Session.View f view) (node : Nat) (s : Session) :
    scene'.noteMissing node (view s) = view (scene.noteMissing node s) := by
  unfold noteMissing
  dsimp only
  rw [hnodes.nodeType?_eq, hnodes.nodeId_eq]
  generalize "no operator for type " ++ (scene.engine.behavior.nodeType? node).getD "?" ++
    " at node " ++ scene.engine.nodeId node = text
  rw [← hview.warn]
  exact (hview.keep _ _).symm

/-- **Evaluation is mirrored**: from the view of a session it finds the same value, and leads to the
view of the same session. -/
theorem evaluateWithin_seen (hmirror : Mirrors f scene scene') (hview : Session.View f view)
    (depth : Nat) : Seen view (scene.evaluateWithin depth) (scene'.evaluateWithin depth) := by
  have hnodes := hmirror.nodes
  induction depth with
  | zero => exact fun _ _ _ => rfl
  | succ depth ih =>
      intro node port s
      have hrange : ∀ {m}, m < scene.engine.nodeCount → m < scene'.engine.nodeCount :=
        fun hm => hnodes.nodeCount_eq ▸ hm
      refine evaluateWithin_elim (motive := fun r =>
        scene'.evaluateWithin (depth + 1) node port (view s) = (r.1, view r.2)) depth ?_ ?_ ?_ ?_ ?_
      · intro hout
        exact evaluateWithin_outside _ (hnodes.nodeCount_eq ▸ hout)
      · intro hnode hrun
        rw [evaluateWithin_cycle depth (hrange hnode) (hview.running s ▸ hrun), hview.reportCycle,
          hnodes.nodeId_eq]
      · intro outputs hnode hrun hmemo
        exact evaluateWithin_known depth (hrange hnode) (hview.running s ▸ hrun)
          (hview.memo s ▸ hmemo)
      · intro hnode hrun hmemo hkind
        rw [evaluateWithin_missing depth (hrange hnode) (hview.running s ▸ hrun)
          (hview.memo s ▸ hmemo) ((hnodes.kind?_eq node).trans hkind),
          noteMissing_seen hnodes hview]
      · intro kind hruns
        have hruns' : scene'.Runs node (view s) kind :=
          ⟨(hnodes.kind?_eq node).trans hruns.kind_eq, hview.running s ▸ hruns.idle,
            hview.memo s ▸ hruns.fresh⟩
        have hall : ∀ port', kind.May (scene.site node) (fun _ => True) (.gather port') →
            scene'.engine.feeds node port' = scene.engine.feeds node port' := by
          rintro port' ⟨rfl, rfl⟩
          exact hmirror.lists hruns.kind_eq
        have hbody := performWith_seen hmirror hview ih hall
          (Operator.body_may kind (scene.site node)) (s.enter node)
        rw [← hmirror.body hruns.kind_eq, hview.enter] at hbody
        rw [evaluateWithin_run depth hruns', execute_eq, execute_eq]
        unfold runBody
        rw [hbody, hview.leave, hnodes.nodeId_eq]

theorem collectRoots_seen (hview : Session.View f view) (h : Seen view pull pull')
    (roots : List Nat) : ∀ s : Session,
      (collectRootsWith pull' roots (view s)).2 = view (collectRootsWith pull roots s).2 := by
  induction roots with
  | nil => exact fun _ => rfl
  | cons root rest ih =>
      intro s
      have hroot : (collectRootWith pull' root (view s)).2 =
          view (collectRootWith pull root s).2 := by
        have hkept : (view (pull root "entries" s).2).memo.lookup root =
            (pull root "entries" s).2.memo.lookup root := by rw [hview.memo]
        rw [collectRootWith_eq, collectRootWith_eq, h root "entries" s]
        dsimp only
        rw [hkept]
        cases (pull root "entries" s).2.memo.lookup root with
        | none => rfl
        | some outputs => exact (hview.collect _ _).symm
      show (collectRootsWith pull' rest (collectRootWith pull' root (view s)).2).2 = _
      rw [hroot]
      exact ih _

end Scene

/-- **The session of a run is mirrored.** -/
theorem Engine.sessionFrom_seen {engine engine' : Engine} {context context' : Context}
    {f : Mark → Mark} {view : Session → Session}
    (hmirror : Scene.Mirrors f ⟨engine, context⟩ ⟨engine', context'⟩) (hview : Session.View f view)
    (chance : Chance) (hstart : { Session.start engine'.config with chance } =
      view { Session.start engine.config with chance }) :
    engine'.sessionFrom chance context' = view (engine.sessionFrom chance context) := by
  have hnodes : engine.SameNodes engine' := hmirror.nodes
  have hpull := Scene.evaluateWithin_seen hmirror hview (engine.nodeCount + 1)
  unfold sessionFrom sessionWithin
  dsimp only
  rw [hstart, hnodes.roots_eq, hnodes.nodeCount_eq]
  exact Scene.collectRoots_seen hview hpull engine.roots _

end StoryGraph
