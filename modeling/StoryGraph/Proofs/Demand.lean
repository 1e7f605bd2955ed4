import StoryGraph.Proofs.Course
import StoryGraph.Proofs.Mirror

/-!
# What is demanded

A body asks for some of its inputs, and which ones may depend on what it got before: a switch asks
for one branch, and logic only for a right side that matters. An input that is asked for demands its
first edge, and where lists are joined all edges. So an evaluation comes to nodes upstream along
demanded edges only, and everything that it leaves of a session is about those.

Main definitions: `Scene.wanted`, `Engine.Demands`, `Scene.Spares`, `Scene.Spared`,
`Session.ChangesOnly`.
-/

namespace StoryGraph

open Relation

/-! ## Inputs that are asked for -/

namespace Scene

variable {scene : Scene} {pull : Pull} {node source : Nat} {asked : String} {s t : Session}
  {α β : Type}

/-- The inputs that a body asks for when it is carried out from a session, in their order. -/
def wanted (scene : Scene) (pull : Pull) (node : Nat) {α : Type} : Body α → Session → List String
  | .done _, _ => []
  | .input port next, s =>
    port :: wanted scene pull node (next (scene.resolve pull node port s).1)
      (scene.resolve pull node port s).2
  | .inputs port next, s =>
    port :: wanted scene pull node (next (scene.resolveAll pull node port s).1)
      (scene.resolveAll pull node port s).2
  | .warn text next, s => wanted scene pull node next (s.warn text)
  | .mark m next, s => wanted scene pull node next (s.mark m)
  | .draw next, s =>
    wanted scene pull node (next s.chance.draw.1) { s with chance := s.chance.draw.2 }

theorem wanted_bind (x : Body α) (f : α → Body β) : ∀ s : Session,
    scene.wanted pull node (x >>= f) s =
      scene.wanted pull node x s ++ scene.wanted pull node (f (scene.performWith pull node x s).1)
        (scene.performWith pull node x s).2 := by
  induction x with
  | done result => exact fun _ => rfl
  | input port next ih => exact fun s => congrArg (port :: ·) (ih _ _)
  | inputs port next ih => exact fun s => congrArg (port :: ·) (ih _ _)
  | warn text next ih => exact fun s => ih _
  | mark m next ih => exact fun s => ih _
  | draw next ih => exact fun s => ih _ _

theorem wanted_pure (result : α) (s : Session) :
    scene.wanted pull node (pure result) s = [] := rfl

/-- **A body asks along the first edge of an input that it wants**, or along any edge of one whose
values it gathers. -/
theorem asks_wanted {D : Deed → Prop} {body : Body α} (hbody : body.Does (fun _ => True) D)
    (ask : scene.Asks pull node body s source asked t) :
    ∃ port ∈ scene.wanted pull node body s, ∃ edge ∈ scene.engine.feeds node port,
      edge.source.toNat = source ∧
        (edge ∈ (scene.engine.feeds node port).take 1 ∨ D (.gather port)) := by
  induction ask with
  | input hedges =>
      obtain ⟨edge, hedge, hsource⟩ := edgesAsk_mem hedges
      exact ⟨_, List.mem_cons_self, edge, List.mem_of_mem_take hedge, hsource, .inl hedge⟩
  | inputs hedges =>
      obtain ⟨edge, hedge, hsource⟩ := edgesAsk_mem hedges
      cases hbody with
      | inputs hport _ => exact ⟨_, List.mem_cons_self, edge, hedge, hsource, .inr hport⟩
  | afterInput _ ih =>
      cases hbody with
      | input hnext =>
          obtain ⟨port, hport, hedge⟩ := ih (hnext _ trivial)
          exact ⟨port, List.mem_cons_of_mem _ hport, hedge⟩
  | afterInputs _ ih =>
      cases hbody with
      | inputs _ hnext =>
          obtain ⟨port, hport, hedge⟩ := ih (hnext _ fun _ _ => trivial)
          exact ⟨port, List.mem_cons_of_mem _ hport, hedge⟩
  | afterWarn _ ih =>
      cases hbody with
      | warn _ hnext => exact ih hnext
  | afterMark _ ih =>
      cases hbody with
      | mark _ hnext => exact ih hnext
  | afterDraw _ ih =>
      cases hbody with
      | draw hnext => exact ih (hnext _)

end Scene

/-! ## Edges that are demanded -/

namespace Engine

variable {engine : Engine}

/-- The edges into a port that are demanded with it: the first, or all where lists are joined. -/
def demanded (engine : Engine) (node : Nat) (port : String) : List CompactEdge :=
  if engine.kind? node = some .joinList ∧ port = "lists" then engine.feeds node port
  else (engine.feeds node port).take 1

/-- A demanded edge goes from the one node to the other, into a port that is not shut. -/
def Demands (engine : Engine) (shut : Nat → String → Prop) (source target : Nat) : Prop :=
  ∃ port, ¬shut target port ∧ ∃ edge ∈ engine.demanded target port, edge.source.toNat = source

theorem demanded_subset (engine : Engine) (node : Nat) (port : String) :
    engine.demanded node port ⊆ engine.feeds node port := by
  unfold demanded
  split
  · exact List.Subset.refl _
  · exact List.take_subset _ _

theorem Demands.leads {shut : Nat → String → Prop} {source target : Nat}
    (h : engine.Demands shut source target) : engine.Leads source target := by
  obtain ⟨port, -, edge, hedge, rfl⟩ := h
  exact feeds_leads (engine.demanded_subset _ _ hedge)

end Engine

/-! ## Inputs that are spared -/

namespace Scene

variable {scene : Scene} {pull : Pull} {node : Nat} {s : Session}

/-- From a session in which the node begins to run, its operator does not ask for an input, by what
it gets before: a switch for the branch that its condition is against, and logic for a right side
that cannot matter. -/
inductive Spares (scene : Scene) (pull : Pull) (node : Nat) (s : Session) :
    OperatorKind → String → Prop where
  | ifFalse :
      (scene.performWith pull node (Operator.askTruth "condition") (s.enter node)).1 = true →
      Spares scene pull node s .switch "if_false"
  | ifTrue :
      (scene.performWith pull node (Operator.askTruth "condition") (s.enter node)).1 = false →
      Spares scene pull node s .switch "if_true"
  | right {name : Option String} {t : Session} {a : Bool} :
      scene.performWith pull node ((scene.site node).askSetting "operator") (s.enter node) =
        (name, t) →
      (scene.performWith pull node (Operator.askTruth "a") t).1 = a →
      (name.getD "and" = "not" ∨ (name.getD "and" = "and" ∧ a = false) ∨
        (name.getD "and" = "or" ∧ a = true)) →
      Spares scene pull node s .logic "b"

theorem performWith_askTruth (port : String) (s : Session) :
    scene.performWith pull node (Operator.askTruth port) s =
      ((scene.resolve pull node port s).1.isTrue, (scene.resolve pull node port s).2) := rfl

theorem wanted_askTruth (port : String) (s : Session) :
    scene.wanted pull node (Operator.askTruth port) s = [port] := rfl

theorem wanted_askSetting (port : String) (s : Session) :
    ∀ key ∈ scene.wanted pull node ((scene.site node).askSetting port) s, key = port := by
  intro key hkey
  unfold Site.askSetting at hkey
  rw [wanted_bind] at hkey
  rcases List.mem_append.mp hkey with hkey | hkey
  · unfold Site.askSettingText at hkey
    split at hkey
    · rw [wanted_bind, wanted_pure, List.append_nil] at hkey
      exact List.mem_singleton.mp hkey
    · exact absurd hkey List.not_mem_nil
  · exact absurd hkey List.not_mem_nil

/-- **What is spared is not asked for.** -/
theorem Spares.not_wanted {kind : OperatorKind} {port : String}
    (h : scene.Spares pull node s kind port) :
    port ∉ scene.wanted pull node (kind.body (scene.site node)) (s.enter node) := by
  have hswitch : ∀ value, (scene.performWith pull node (Operator.askTruth "condition")
      (s.enter node)).1 = value →
      scene.wanted pull node Operator.switch (s.enter node) =
        ["condition", if value then "if_true" else "if_false"] := by
    rintro value rfl
    unfold Operator.switch
    rw [wanted_bind, wanted_askTruth, wanted_bind]
    rfl
  cases h with
  | ifFalse hcondition =>
      show _ ∉ scene.wanted pull node Operator.switch (s.enter node)
      rw [hswitch true hcondition]
      decide
  | ifTrue hcondition =>
      show _ ∉ scene.wanted pull node Operator.switch (s.enter node)
      rw [hswitch false hcondition]
      decide
  | @right name t a hname ha hspared =>
      show _ ∉ scene.wanted pull node (Operator.logic (scene.site node)) (s.enter node)
      unfold Operator.logic
      rw [wanted_bind, hname]
      dsimp only
      rw [wanted_bind, wanted_askTruth, wanted_bind, ha]
      have hright : scene.wanted pull node
          (Operator.applyLogic (scene.site node) (name.getD "and") a)
          (scene.performWith pull node (Operator.askTruth "a") t).2 = [] := by
        rcases hspared with h | ⟨h, rfl⟩ | ⟨h, rfl⟩ <;> rw [h] <;> rfl
      rw [hright, wanted_pure, List.append_nil, List.append_nil]
      intro hmem
      rcases List.mem_append.mp hmem with hmem | hmem
      · exact absurd (wanted_askSetting "operator" _ _ hmem) (by decide)
      · exact absurd hmem (by decide)

end Scene

/-! ## The nodes that an evaluation comes to -/

namespace Scene

variable {scene : Scene} {node source depth : Nat} {port asked : String} {s t : Session}
  {first visit : Visit} {chain : List Nat} {shut : Nat → String → Prop}

/-- An input of a node that its operator spares wherever it runs in the course of an evaluation. -/
def Spared (scene : Scene) (first : Visit) (node : Nat) (key : String) : Prop :=
  ∀ chain depth port s kind, scene.Comes first chain ⟨depth + 1, node, port, s⟩ →
    scene.Runs node s kind → scene.Spares (scene.evaluateWithin depth) node s kind key

theorem Spared.inside {kind : OperatorKind} {m : Nat} {key : String}
    (hruns : scene.Runs node s kind)
    (ask : scene.Asks (scene.evaluateWithin depth) node (kind.body (scene.site node)) (s.enter node)
      source asked t)
    (h : scene.Spared ⟨depth + 1, node, port, s⟩ m key) :
    scene.Spared ⟨depth, source, asked, t⟩ m key :=
  fun _ depth' port' u kind' hcomes =>
    h _ depth' port' u kind' (.inside hruns ask hcomes)

theorem asks_demands {pull : Pull} {kind : OperatorKind}
    (hkind : scene.engine.kind? node = some kind)
    (hspares : ∀ key, shut node key → scene.Spares pull node s kind key)
    (ask : scene.Asks pull node (kind.body (scene.site node)) (s.enter node) source asked t) :
    scene.engine.Demands shut source node := by
  obtain ⟨key, hkey, edge, hedge, hsource, hfirst⟩ :=
    asks_wanted (Operator.body_may kind (scene.site node)) ask
  refine ⟨key, fun hshut => (hspares key hshut).not_wanted hkey, edge, ?_, hsource⟩
  unfold Engine.demanded
  split
  · exact hedge
  · rename_i hother
    refine hfirst.resolve_right fun hgather => hother ?_
    obtain ⟨rfl, rfl⟩ : kind = .joinList ∧ key = "lists" := hgather
    exact ⟨hkind, rfl⟩

/-- **An evaluation comes only to nodes upstream** of the one that is asked, along demanded
edges. -/
theorem Comes.upstream (h : scene.Comes first chain visit) :
    (∀ m key, shut m key → scene.Spared first m key) →
      ReflTransGen (scene.engine.Demands shut) visit.node first.node := by
  induction h with
  | here visit => exact fun _ => .refl
  | @inside depth node port s kind source asked t chain visit hruns ask _ ih =>
      intro hshut
      have hspares : ∀ key, shut node key →
          scene.Spares (scene.evaluateWithin depth) node s kind key :=
        fun key hkey => hshut node key hkey [] depth port s kind (.here _) hruns
      exact (ih fun m key hkey => (hshut m key hkey).inside hruns ask).tail
        (asks_demands hruns.kind_eq hspares ask)

theorem asks_running {kind : OperatorKind}
    (ask : scene.Asks (scene.evaluateWithin depth) node (kind.body (scene.site node)) (s.enter node)
      source asked t) : t.running = node :: s.running :=
  asks_keeps (running_robust (node :: s.running)) (running_pullKeeps _ _).edges ask rfl

theorem Comes.running_eq (h : scene.Comes first chain visit) :
    visit.session.running = chain ++ first.session.running := by
  induction h with
  | here visit => rfl
  | @inside depth node port s kind source asked t chain visit hruns ask _ ih =>
      rw [ih, asks_running ask, List.append_assoc]
      rfl

/-- A node that is asked first runs no more while it waits, so what it spares then is spared. -/
theorem spared_here {key : String}
    (h : ∀ kind, scene.Runs node s kind →
      scene.Spares (scene.evaluateWithin depth) node s kind key) :
    scene.Spared ⟨depth + 1, node, port, s⟩ node key := by
  intro chain depth' port' u kind hcomes hruns
  cases hcomes with
  | here _ => exact h kind hruns
  | @inside _ _ _ _ kind' source asked t chain _ hruns' ask hinside =>
      have hrun : u.running = chain ++ t.running := hinside.running_eq
      refine absurd ?_ hruns.idle
      rw [hrun, asks_running ask]
      exact List.mem_append_right _ List.mem_cons_self

end Scene

/-! ## What is left alone -/

theorem Session.lookup_countUp {node other : Nat} (h : other ≠ node) (counts : List (Nat × Nat)) :
    (countUp node counts).lookup other = counts.lookup other := by
  induction counts with
  | nil =>
      show List.lookup other [(node, 1)] = none
      rw [List.lookup_cons, beq_false_of_ne h]
      rfl
  | cons count rest ih =>
      obtain ⟨counted, number⟩ := count
      unfold countUp
      split
      · rename_i hsame
        rw [List.lookup_cons, List.lookup_cons, hsame, beq_false_of_ne h]
      · rw [List.lookup_cons, List.lookup_cons, ih]

theorem PortValues.get?_update {node other : String} (h : other ≠ node) (change : Fields → Fields)
    (ports : PortValues) : (update node change ports).get? other = ports.get? other := by
  unfold get?
  induction ports with
  | nil =>
      show List.lookup other [(node, change [])] = none
      rw [List.lookup_cons, beq_false_of_ne h]
      rfl
  | cons kept rest ih =>
      obtain ⟨name, fields⟩ := kept
      unfold update
      split
      · rw [List.lookup_cons, beq_false_of_ne h]
      · split
        · rename_i hsame
          rw [List.lookup_cons, List.lookup_cons, ← hsame, beq_false_of_ne h]
        · rw [List.lookup_cons, List.lookup_cons, ih]

namespace Trace

variable {id other : String}

theorem record_other (h : other ≠ id) (trace : Trace) (port : String) (value : Value) :
    (trace.record id port value).ports.get? other = trace.ports.get? other ∧
      (trace.record id port value).executed = trace.executed := by
  unfold record
  split
  · exact ⟨PortValues.get?_update h _ trace.ports, rfl⟩
  · exact ⟨rfl, rfl⟩

theorem foldl_record_other (h : other ≠ id) (ports : List (String × Value)) : ∀ trace : Trace,
    (ports.foldl (fun trace (port, value) => trace.record id port value) trace).ports.get? other =
        trace.ports.get? other ∧
      (ports.foldl (fun trace (port, value) => trace.record id port value) trace).executed =
        trace.executed := by
  induction ports with
  | nil => exact fun _ => ⟨rfl, rfl⟩
  | cons port rest ih =>
      intro trace
      obtain ⟨hports, hexecuted⟩ := ih (trace.record id port.1 port.2)
      obtain ⟨hports', hexecuted'⟩ := record_other h trace port.1 port.2
      exact ⟨hports.trans hports', hexecuted.trans hexecuted'⟩

theorem note_other (h : other ≠ id) (trace : Trace) (structural : Bool) (outputs : Outputs) :
    (trace.note id structural outputs).ports.get? other = trace.ports.get? other ∧
      (other ∈ (trace.note id structural outputs).executed ↔ other ∈ trace.executed) := by
  obtain ⟨hports, hexecuted⟩ := foldl_record_other h outputs.ports trace
  unfold note
  dsimp only
  split
  · refine ⟨hports, ?_⟩
    show other ∈ addNew _ id ↔ _
    rw [mem_addNew, or_iff_left h, hexecuted]
  · exact ⟨hports, by rw [hexecuted]⟩

end Trace

/-- Of executions, memo and trace only what is about some nodes has changed. -/
structure Session.ChangesOnly (engine : Engine) (may : Nat → Prop) (s t : Session) : Prop where
  executions : ∀ node, ¬may node → t.executions.lookup node = s.executions.lookup node
  memo : ∀ node, ¬may node → t.memo.lookup node = s.memo.lookup node
  ports : ∀ id, (∀ node, may node → engine.nodeId node ≠ id) →
    t.trace.ports.get? id = s.trace.ports.get? id
  executed : ∀ id, (∀ node, may node → engine.nodeId node ≠ id) →
    (id ∈ t.trace.executed ↔ id ∈ s.trace.executed)

namespace Session.ChangesOnly

variable {engine : Engine} {may : Nat → Prop} {s t : Session} {node : Nat}

theorem refl (s : Session) : s.ChangesOnly engine may s :=
  ⟨fun _ _ => rfl, fun _ _ => rfl, fun _ _ => rfl, fun _ _ => Iff.rfl⟩

theorem congr (h : s.ChangesOnly engine may t) {u : Session}
    (hexecutions : u.executions = t.executions) (hmemo : u.memo = t.memo)
    (htrace : u.trace = t.trace) : s.ChangesOnly engine may u := by
  constructor
  · rw [hexecutions]
    exact h.executions
  · rw [hmemo]
    exact h.memo
  · rw [htrace]
    exact h.ports
  · rw [htrace]
    exact h.executed

theorem enter (h : s.ChangesOnly engine may t) (hnode : may node) :
    s.ChangesOnly engine may (t.enter node) where
  executions other hother := by
    have hne : other ≠ node := by
      rintro rfl
      exact hother hnode
    exact (lookup_countUp hne t.executions).trans (h.executions other hother)
  memo := h.memo
  ports := h.ports
  executed := h.executed

theorem remember (h : s.ChangesOnly engine may t) (hnode : may node) (outputs : Outputs) :
    s.ChangesOnly engine may { t with memo := (node, outputs) :: t.memo } where
  executions := h.executions
  memo other hother := by
    have hne : other ≠ node := by
      rintro rfl
      exact hother hnode
    show List.lookup other ((node, outputs) :: t.memo) = _
    rw [lookup_memo_cons, if_neg hne]
    exact h.memo other hother
  ports := h.ports
  executed := h.executed

theorem leave (h : s.ChangesOnly engine may t) (hnode : may node) (kind : OperatorKind)
    (outputs : Outputs) :
    s.ChangesOnly engine may (t.leave node (engine.nodeId node) kind outputs) where
  executions := h.executions
  memo := (h.remember hnode outputs).memo
  ports id hid :=
    (Trace.note_other (hid node hnode).symm t.trace _ outputs).1.trans (h.ports id hid)
  executed id hid :=
    (Trace.note_other (hid node hnode).symm t.trace _ outputs).2.trans (h.executed id hid)

end Session.ChangesOnly

@[simp] theorem Session.reportCycle_trace (s : Session) (node : Nat) (id : String) :
    (s.reportCycle node id).trace = s.trace := by
  unfold reportCycle
  split <;> rfl

namespace Scene

/-- **An evaluation leaves alone what is not demanded**: of executions, memo and trace it changes
only what is about nodes upstream along demanded edges. -/
theorem evaluateWithin_changesOnly (scene : Scene) (first : Visit) :
    first.session.ChangesOnly scene.engine
      (fun m => ReflTransGen (scene.engine.Demands (scene.Spared first)) m first.node)
      (scene.evaluateWithin first.depth first.node first.port first.session).2 := by
  have hupstream : ∀ {chain visit}, scene.Comes first chain visit →
      ReflTransGen (scene.engine.Demands (scene.Spared first)) visit.node first.node :=
    fun hcomes => hcomes.upstream fun _ _ hspared => hspared
  refine evaluateWithin_visits ⟨?_, ?_, ?_⟩ first ?_ ?_ ?_ ?_ (.refl _)
  · exact fun _ ht => ht.congr rfl rfl rfl
  · exact fun _ ht => ht.congr rfl rfl rfl
  · exact fun _ ht => ht.congr rfl rfl rfl
  · intro _ _ node _ t _ _ _ ht
    exact ht.congr (t.reportCycle_executions node _) (t.reportCycle_memo node _)
      (t.reportCycle_trace node _)
  · intro _ _ _ _ _ hcomes _ ht
    exact (ht.remember (hupstream hcomes) Outputs.empty).congr rfl rfl rfl
  · exact fun _ _ _ _ _ _ hcomes _ ht => ht.enter (hupstream hcomes)
  · exact fun _ _ _ _ _ kind hcomes _ _ outputs ht => ht.leave (hupstream hcomes) kind outputs

end Scene

end StoryGraph
