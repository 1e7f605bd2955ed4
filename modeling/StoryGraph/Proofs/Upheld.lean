import StoryGraph.Proofs.Memo
import StoryGraph.Proofs.Yields

/-!
# What a run upholds

A run hands values from node to node. If a condition on values holds of what comes in from outside,
and no operator breaks it, it holds of every value that is found or kept in a run. What is kept of
a node may be known more closely, from the operator that gave it.

Main definitions: `Session.Holds`, `Scene.Upholds`.
-/

namespace StoryGraph

/-- Everything in the memo meets a condition on nodes and what they gave. -/
def Session.Holds (R : Nat → Outputs → Prop) (s : Session) : Prop :=
  ∀ node outputs, s.memo.lookup node = some outputs → R node outputs

namespace Scene

variable {scene : Scene} {pull : Pull} {G : Value → Prop} {R : Nat → Outputs → Prop}
  {P : Session → Prop} {node : Nat} {α : Type}

/-- The values that come in from outside meet `G`, and as long as a node gets such values, it gives
outputs that meet `R` and so consist of such values. -/
structure Upholds (scene : Scene) (G : Value → Prop) (R : Nat → Outputs → Prop) : Prop where
  null : G .null
  property : ∀ {node name value}, scene.engine.property? node name = some value → G value
  body : ∀ {node kind}, scene.engine.kind? node = some kind →
    (kind.body (scene.site node)).Gives G (R node)
  missing : ∀ {node}, scene.engine.kind? node = none → R node .empty
  ports : ∀ {node outputs}, R node outputs → outputs.All G

/-- The values that are found from sessions where `P` holds meet a condition. -/
def PullGives (pull : Pull) (P : Session → Prop) (G : Value → Prop) : Prop :=
  ∀ node port s, P s → G (pull node port s).1

theorem pullPort_gives (h : PullGives pull P G) (hnull : G .null) {s : Session} (hs : P s)
    (port : Ref) : G (scene.pullPort pull node port s).1 := by
  unfold pullPort
  cases scene.engine.strings.get? port with
  | none => exact hnull
  | some name => exact h node name s hs

theorem pullEdges_gives (hkeep : PullKeeps pull P) (h : PullGives pull P G) (hnull : G .null)
    (edges : List CompactEdge) : ∀ {s : Session}, P s →
      ∀ value ∈ (scene.pullEdges pull edges s).1, G value := by
  induction edges with
  | nil => exact fun _ _ hvalue => absurd hvalue List.not_mem_nil
  | cons edge rest ih =>
      intro s hs
      rw [pullEdges_cons]
      exact List.forall_mem_cons.mpr
        ⟨pullPort_gives h hnull hs _, ih (pullPort_keeps hkeep hs _)⟩

theorem resolve_gives (hup : scene.Upholds G R) (h : PullGives pull P G) {s : Session} (hs : P s)
    (port : String) : G (scene.resolve pull node port s).1 := by
  unfold resolve
  cases scene.engine.feeds node port with
  | cons edge rest => exact pullPort_gives h hup.null hs _
  | nil =>
      show G ((scene.engine.property? node port).getD .null)
      cases hvalue : scene.engine.property? node port with
      | none => exact hup.null
      | some value => exact hup.property hvalue

theorem resolveAll_gives (hup : scene.Upholds G R) (hkeep : PullKeeps pull P)
    (h : PullGives pull P G) {s : Session} (hs : P s) (port : String) :
    ∀ value ∈ (scene.resolveAll pull node port s).1, G value := by
  unfold resolveAll
  cases scene.engine.feeds node port with
  | cons edge rest => exact pullEdges_gives hkeep h hup.null _ hs
  | nil => exact fun value hvalue => hup.property (Option.mem_toList.mp hvalue)

/-- **Carrying out a body** gives what the body gives. -/
theorem performWith_gives (hup : scene.Upholds G R) (hP : Session.Robust P)
    (hkeep : PullKeeps pull P) (h : PullGives pull P G) {Q : α → Prop} (body : Body α) :
    body.Ensures G True Q → ∀ {s : Session}, P s → Q (scene.performWith pull node body s).1 := by
  induction body with
  | done result => exact fun hbody _ _ => hbody
  | input port next ih =>
      intro hbody s hs
      exact ih _ (hbody _ (resolve_gives hup h hs port)) (resolve_keeps hkeep.edges hs port)
  | inputs port next ih =>
      intro hbody s hs
      exact ih _ (hbody _ (resolveAll_gives hup hkeep h hs port))
        (resolveAll_keeps hkeep.edges hs port)
  | warn text next ih => exact fun hbody _ hs => ih hbody (hP.warn text hs)
  | mark m next ih => exact fun hbody _ hs => ih hbody (hP.mark m hs)
  | draw next ih => exact fun hbody _ hs => ih _ (hbody.2 _) (hP.draw _ hs)

theorem holds_open (R : Nat → Outputs → Prop) : Session.Open (Session.Holds R) where
  warn _ h := h
  mark _ h := h
  draw _ h := h
  collect _ h := h

theorem holds_cons {s t : Session} (h : t.Holds R) {outputs : Outputs}
    (hmemo : s.memo = (node, outputs) :: t.memo) (hnode : R node outputs) : s.Holds R := by
  intro other kept hother
  rw [hmemo, Session.lookup_memo_cons] at hother
  split at hother
  · rename_i heq
    cases hother
    exact heq ▸ hnode
  · exact h other kept hother

/-- **One evaluation upholds the conditions**: the value that it finds, and all that the memo holds
then, meet them. -/
theorem evaluateWithin_upholds (hup : scene.Upholds G R) (depth : Nat) :
    PullGives (scene.evaluateWithin depth) (Session.Holds R) G ∧
      PullKeeps (scene.evaluateWithin depth) (Session.Holds R) := by
  have hrobust := (holds_open R).toRobust
  induction depth with
  | zero => exact ⟨fun _ _ _ _ => hup.null, fun _ _ _ hs => hs⟩
  | succ depth ih =>
      obtain ⟨hgive, hkeep⟩ := ih
      have hboth : ∀ node port s, s.Holds R →
          G (scene.evaluateWithin (depth + 1) node port s).1 ∧
            (scene.evaluateWithin (depth + 1) node port s).2.Holds R := by
        intro node port s hs
        refine evaluateWithin_elim (motive := fun r => G r.1 ∧ r.2.Holds R) depth ?_ ?_ ?_ ?_ ?_
        · exact fun _ => ⟨hup.null, hs⟩
        · intro _ _
          refine ⟨hup.null, fun other kept hother => hs other kept ?_⟩
          rwa [Session.reportCycle_memo] at hother
        · exact fun outputs _ _ hmemo =>
            ⟨(hup.ports (hs node outputs hmemo)).select hup.null, hs⟩
        · exact fun _ _ _ hkind => ⟨hup.null, holds_cons hs rfl (hup.missing hkind)⟩
        · intro kind hruns
          have henter : (s.enter node).Holds R := hs
          have hbody : R node (scene.runBody (scene.evaluateWithin depth) node kind s).1 :=
            performWith_gives hup hrobust hkeep hgive _ (hup.body hruns.kind_eq).ensures henter
          have hafter : (scene.runBody (scene.evaluateWithin depth) node kind s).2.Holds R :=
            runBody_keeps hrobust hkeep.edges kind henter
          rw [execute_eq]
          exact ⟨(hup.ports hbody).select hup.null, holds_cons hafter rfl hbody⟩
      exact ⟨fun node port s hs => (hboth node port s hs).1,
        fun node port s hs => (hboth node port s hs).2⟩

/-- **Whatever is asked of a session**, all that its memo holds meets the conditions. -/
theorem after_holds (hup : scene.Upholds G R) (chance : Chance) (calls : List Call) :
    (scene.after chance calls).Holds R :=
  goOn_keeps (holds_open R) (evaluateWithin_upholds hup _).2 calls fun _ _ h => nomatch h

end Scene

end StoryGraph
