import StoryGraph.Call

/-!
# What bodies and calls keep

An operator meets the session only through the values it asks for and through what it notes or
draws. So a statement about sessions that survives notes and draws, and that finding the values of
the edges into the node keeps, is kept by a whole body, whichever of the operators it belongs to.
In the same way two ways of finding values that agree on the sessions a body comes to carry it out
alike.

Calls from outside are bodies at a node, single values or roots, so they keep and agree likewise.
-/

namespace StoryGraph

/-- Operators cannot make the statement false by what they note or draw. -/
structure Session.Robust (P : Session → Prop) : Prop where
  warn : ∀ {s : Session} (text : String), P s → P (s.warn text)
  mark : ∀ {s : Session} (m : Mark), P s → P (s.mark m)
  draw : ∀ {s : Session} (chance : Chance), P s → P { s with chance }

structure Session.Open (P : Session → Prop) : Prop extends Session.Robust P where
  collect : ∀ {s : Session} (fragments : List Fragment), P s → P { s with fragments }

namespace Scene

variable {scene : Scene} {pull pull' : Pull} {node : Nat} {P : Session → Prop} {α : Type}

/-! ## One step of carrying out -/

theorem pullEdges_cons (edge : CompactEdge) (rest : List CompactEdge) (s : Session) :
    scene.pullEdges pull (edge :: rest) s =
      ((scene.pullEdge pull edge s).1 ::
          (scene.pullEdges pull rest (scene.pullEdge pull edge s).2).1,
        (scene.pullEdges pull rest (scene.pullEdge pull edge s).2).2) := rfl

theorem performWith_input (port : String) (next : Value → Body α) (s : Session) :
    scene.performWith pull node (.input port next) s =
      scene.performWith pull node (next (scene.resolve pull node port s).1)
        (scene.resolve pull node port s).2 := rfl

theorem performWith_inputs (port : String) (next : List Value → Body α) (s : Session) :
    scene.performWith pull node (.inputs port next) s =
      scene.performWith pull node (next (scene.resolveAll pull node port s).1)
        (scene.resolveAll pull node port s).2 := rfl

/-! ## Values of ports and edges -/

/-- Finding the value of a port from a session where `P` holds leads to one where it holds. -/
def PullKeeps (pull : Pull) (P : Session → Prop) : Prop :=
  ∀ node port s, P s → P (pull node port s).2

def EdgesKeep (scene : Scene) (pull : Pull) (node : Nat) (P : Session → Prop) : Prop :=
  ∀ port, ∀ edge ∈ scene.engine.feeds node port, ∀ s, P s → P (scene.pullEdge pull edge s).2

theorem pullPort_keeps (h : PullKeeps pull P) {s : Session} (hs : P s) (port : Ref) :
    P (scene.pullPort pull node port s).2 := by
  unfold pullPort
  cases scene.engine.strings.get? port with
  | none => exact hs
  | some name => exact h node name s hs

theorem PullKeeps.edges (h : PullKeeps pull P) : scene.EdgesKeep pull node P :=
  fun _ _ _ _ hs => pullPort_keeps h hs _

theorem pullEdges_keeps {edges : List CompactEdge}
    (h : ∀ edge ∈ edges, ∀ s, P s → P (scene.pullEdge pull edge s).2) :
    ∀ {s : Session}, P s → P (scene.pullEdges pull edges s).2 := by
  induction edges with
  | nil => exact fun hs => hs
  | cons edge rest ih =>
      intro s hs
      rw [pullEdges_cons]
      exact ih (fun e he => h e (List.mem_cons_of_mem _ he)) (h edge List.mem_cons_self s hs)

theorem resolve_keeps (h : scene.EdgesKeep pull node P) {s : Session} (hs : P s) (port : String) :
    P (scene.resolve pull node port s).2 := by
  unfold resolve
  cases hf : scene.engine.feeds node port with
  | nil => exact hs
  | cons edge rest => exact h port edge (by rw [hf]; exact List.mem_cons_self) s hs

theorem resolveAll_keeps (h : scene.EdgesKeep pull node P) {s : Session} (hs : P s)
    (port : String) : P (scene.resolveAll pull node port s).2 := by
  unfold resolveAll
  cases hf : scene.engine.feeds node port with
  | nil => exact hs
  | cons edge rest =>
      refine pullEdges_keeps ?_ hs
      rw [← hf]
      exact h port

/-! ## Bodies -/

/-- **A body keeps what its edges keep.** -/
theorem performWith_keeps (hP : Session.Robust P) (h : scene.EdgesKeep pull node P)
    (body : Body α) : ∀ {s : Session}, P s → P (scene.performWith pull node body s).2 := by
  induction body with
  | done result => exact fun hs => hs
  | input port next ih => exact fun hs => ih _ (resolve_keeps h hs port)
  | inputs port next ih => exact fun hs => ih _ (resolveAll_keeps h hs port)
  | warn text next ih => exact fun hs => ih (hP.warn text hs)
  | mark m next ih => exact fun hs => ih (hP.mark m hs)
  | draw next ih => exact fun hs => ih _ (hP.draw _ hs)

/-- Two ways of finding values agree on the edges into a node, from sessions where `P` holds. -/
def EdgesAgree (scene : Scene) (pull pull' : Pull) (node : Nat) (P : Session → Prop) : Prop :=
  ∀ port, ∀ edge ∈ scene.engine.feeds node port, ∀ s, P s →
    scene.pullEdge pull edge s = scene.pullEdge pull' edge s

theorem pullPort_congr {s : Session} (agree : ∀ name, pull node name s = pull' node name s)
    (port : Ref) : scene.pullPort pull node port s = scene.pullPort pull' node port s := by
  unfold pullPort
  cases scene.engine.strings.get? port with
  | none => rfl
  | some name => exact agree name

theorem pullEdges_congr {edges : List CompactEdge}
    (h : ∀ edge ∈ edges, ∀ s, P s → P (scene.pullEdge pull edge s).2)
    (agree : ∀ edge ∈ edges, ∀ s, P s →
      scene.pullEdge pull edge s = scene.pullEdge pull' edge s) :
    ∀ {s : Session}, P s → scene.pullEdges pull edges s = scene.pullEdges pull' edges s := by
  induction edges with
  | nil => exact fun _ => rfl
  | cons edge rest ih =>
      intro s hs
      have hhead := agree edge List.mem_cons_self s hs
      have htail := ih (fun e he => h e (List.mem_cons_of_mem _ he))
        (fun e he => agree e (List.mem_cons_of_mem _ he)) (h edge List.mem_cons_self s hs)
      rw [pullEdges_cons, pullEdges_cons, ← hhead, htail]

theorem resolve_congr (agree : scene.EdgesAgree pull pull' node P) {s : Session} (hs : P s)
    (port : String) : scene.resolve pull node port s = scene.resolve pull' node port s := by
  unfold resolve
  cases hf : scene.engine.feeds node port with
  | nil => rfl
  | cons edge rest => exact agree port edge (by rw [hf]; exact List.mem_cons_self) s hs

theorem resolveAll_congr (h : scene.EdgesKeep pull node P)
    (agree : scene.EdgesAgree pull pull' node P) {s : Session} (hs : P s) (port : String) :
    scene.resolveAll pull node port s = scene.resolveAll pull' node port s := by
  unfold resolveAll
  cases hf : scene.engine.feeds node port with
  | nil => rfl
  | cons edge rest =>
      refine pullEdges_congr ?_ ?_ hs
      · rw [← hf]
        exact h port
      · rw [← hf]
        exact agree port

theorem performWith_congr (hP : Session.Robust P) (h : scene.EdgesKeep pull node P)
    (agree : scene.EdgesAgree pull pull' node P) (body : Body α) :
    ∀ {s : Session}, P s →
      scene.performWith pull node body s = scene.performWith pull' node body s := by
  induction body with
  | done result => exact fun _ => rfl
  | input port next ih =>
      intro s hs
      rw [performWith_input, performWith_input, ← resolve_congr agree hs port]
      exact ih _ (resolve_keeps h hs port)
  | inputs port next ih =>
      intro s hs
      rw [performWith_inputs, performWith_inputs, ← resolveAll_congr h agree hs port]
      exact ih _ (resolveAll_keeps h hs port)
  | warn text next ih => exact fun hs => ih (hP.warn text hs)
  | mark m next ih => exact fun hs => ih (hP.mark m hs)
  | draw next ih => exact fun hs => ih _ (hP.draw _ hs)

/-! ## Calls from outside -/

theorem collectRootWith_eq (pull : Pull) (root : Nat) (s : Session) :
    (collectRootWith pull root s).2 =
      ((pull root "entries" s).2.memo.lookup root).elim (pull root "entries" s).2 fun outputs =>
        { (pull root "entries" s).2 with
          fragments := (pull root "entries" s).2.fragments ++ [fragmentOf outputs] } := by
  simp only [collectRootWith, bind, StateT.bind, get, getThe, MonadStateOf.get, StateT.get, pure]
  obtain ⟨value, found⟩ := pull root "entries" s
  dsimp only
  cases found.memo.lookup root with
  | none => rfl
  | some outputs => rfl

theorem collectRootWith_keeps (hP : Session.Open P) (h : PullKeeps pull P) (root : Nat)
    {s : Session} (hs : P s) : P (collectRootWith pull root s).2 := by
  have hpull := h root "entries" s hs
  rw [collectRootWith_eq]
  cases (pull root "entries" s).2.memo.lookup root with
  | none => exact hpull
  | some outputs => exact hP.collect _ hpull

/-- **A call keeps what finding a value keeps.** -/
theorem answerWith_keeps (hP : Session.Open P) (h : PullKeeps pull P) (call : Call)
    {s : Session} (hs : P s) : P (scene.answerWith pull call s).2 := by
  have hbody : ∀ {α : Type} (node : Nat) (body : Body α) (f : α → Answer),
      P ((do return f (← scene.performWith pull node body) : StateM Session Answer) s).2 :=
    fun node body f => performWith_keeps hP.toRobust h.edges body hs
  cases call with
  | evaluate node port => exact h node port s hs
  | evaluatePort node port => exact pullPort_keeps h hs port
  | input node port => exact hbody node (Body.ask port) _
  | inputs node port => exact hbody node (Body.askAll port) _
  | setting node key => exact hbody node ((scene.site node).askSetting key) _
  | text node key => exact hbody node (Body.askText key) _
  | number node key default => exact hbody node (Body.askNumber key default) _
  | flag node key default => exact hbody node (Body.askFlag key default) _
  | collectRoot root => exact collectRootWith_keeps hP h root hs
  | warn text => exact hP.warn text hs
  | mark m => exact hP.mark m hs
  | draw => exact hbody 0 Body.chance _

theorem goOn_keeps (hP : Session.Open P) (h : PullKeeps scene.evaluate P) (calls : List Call) :
    ∀ {s : Session}, P s → P (scene.goOn s calls) := by
  induction calls with
  | nil => exact fun hs => hs
  | cons call rest ih => exact fun hs => ih (answerWith_keeps hP h call hs)

theorem goOn_append (s : Session) (calls later : List Call) :
    scene.goOn s (calls ++ later) = scene.goOn (scene.goOn s calls) later :=
  List.foldl_append

theorem answerWith_congr (hP : Session.Open P) (h : PullKeeps pull P)
    (agree : ∀ node port s, P s → pull node port s = pull' node port s) (call : Call)
    {s : Session} (hs : P s) : scene.answerWith pull call s = scene.answerWith pull' call s := by
  have hport : ∀ node port s, P s →
      scene.pullPort pull node port s = scene.pullPort pull' node port s :=
    fun node port s hs => pullPort_congr (fun name => agree node name s hs) port
  have hbody : ∀ {α : Type} (node : Nat) (body : Body α) (f : α → Answer),
      (do return f (← scene.performWith pull node body) : StateM Session Answer) s =
        (do return f (← scene.performWith pull' node body) : StateM Session Answer) s := by
    intro α node body f
    have hedges : scene.EdgesAgree pull pull' node P :=
      fun _ edge _ s hs => hport edge.source.toNat edge.sourcePort s hs
    have := performWith_congr hP.toRobust h.edges hedges body hs
    simp only [bind, StateT.bind]
    rw [this]
  cases call with
  | evaluate node port =>
      simp only [answerWith, bind, StateT.bind]
      rw [agree node port s hs]
  | evaluatePort node port =>
      simp only [answerWith, bind, StateT.bind]
      rw [hport node port s hs]
  | input node port => exact hbody node (Body.ask port) _
  | inputs node port => exact hbody node (Body.askAll port) _
  | setting node key => exact hbody node ((scene.site node).askSetting key) _
  | text node key => exact hbody node (Body.askText key) _
  | number node key default => exact hbody node (Body.askNumber key default) _
  | flag node key default => exact hbody node (Body.askFlag key default) _
  | collectRoot root =>
      simp only [answerWith, collectRootWith, bind, StateT.bind]
      rw [agree root "entries" s hs]
  | warn text => rfl
  | mark m => rfl
  | draw => exact hbody 0 Body.chance _

end Scene

end StoryGraph
