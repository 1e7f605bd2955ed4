import StoryGraph.Proofs.Evaluation
import StoryGraph.Run

/-!
# Each operator runs at most once

The invariant relates three parts of a session: the nodes at work, the memo, and the count of
executions. A node is counted exactly when it has an operator and is at work or in the memo, and
never more than once; a node at work is not in the memo. Running an operator moves its node from
the fresh ones to those at work and from there into the memo, and nothing leaves the memo.
-/

namespace StoryGraph

namespace Session

/-- What a session says of its nodes, at every moment of a run. -/
structure Sound (engine : Engine) (s : Session) : Prop where
  distinct : s.running.Nodup
  apart : ∀ node ∈ s.running, s.memo.lookup node = none
  inRange : ∀ node, (s.memo.lookup node).isSome → node < engine.nodeCount
  once : ∀ entry ∈ s.executions, entry.2 = 1
  counted : (s.executions.map Prod.fst).Nodup
  executed : ∀ node, node ∈ s.executions.map Prod.fst ↔
    (engine.kind? node).isSome ∧ (node ∈ s.running ∨ (s.memo.lookup node).isSome)

/-- What the memo of the one session holds, that of the other holds too. -/
def Grows (s t : Session) : Prop :=
  ∀ node outputs, s.memo.lookup node = some outputs → t.memo.lookup node = some outputs

theorem Grows.refl (s : Session) : s.Grows s := fun _ _ h => h

theorem Grows.trans {s t u : Session} (h : s.Grows t) (h' : t.Grows u) : s.Grows u :=
  fun node outputs hs => h' node outputs (h node outputs hs)

theorem Sound.congr {engine : Engine} {s t : Session} (h : s.Sound engine)
    (hr : t.running = s.running) (hm : t.memo = s.memo) (he : t.executions = s.executions) :
    t.Sound engine := by
  constructor
  · rw [hr]; exact h.distinct
  · rw [hr, hm]; exact h.apart
  · rw [hm]; exact h.inRange
  · rw [he]; exact h.once
  · rw [he]; exact h.counted
  · rw [he, hr, hm]; exact h.executed

theorem sound_start (engine : Engine) (chance : Chance) :
    Sound engine { start engine.config with chance } := by
  constructor <;> simp [start]

/-! ## Entering and leaving -/

theorem countUp_of_not_mem {node : Nat} : ∀ {counts : List (Nat × Nat)},
    node ∉ counts.map Prod.fst → countUp node counts = counts ++ [(node, 1)]
  | [], _ => rfl
  | (other, count) :: rest, h => by
      rw [List.map_cons, List.mem_cons, not_or] at h
      rw [countUp, if_neg (Ne.symm h.1), countUp_of_not_mem h.2, List.cons_append]

theorem lookup_memo_cons (memo : List (Nat × Outputs)) (node other : Nat) (outputs : Outputs) :
    List.lookup other ((node, outputs) :: memo) =
      if other = node then some outputs else memo.lookup other := by
  rw [List.lookup_cons]
  by_cases h : other = node
  · rw [if_pos h, h, beq_self_eq_true]
  · rw [if_neg h, beq_false_of_ne h]

variable {engine : Engine} {s t : Session} {node : Nat}

theorem Sound.enter (h : s.Sound engine) {kind : OperatorKind}
    (hkind : engine.kind? node = some kind) (idle : node ∉ s.running)
    (fresh : s.memo.lookup node = none) : (s.enter node).Sound engine := by
  -- A counted node is at work or in the memo, so this one has not been counted yet.
  have hnew : node ∉ s.executions.map Prod.fst := by
    intro hmem
    rcases (h.executed node).mp hmem with ⟨-, hrun | hmemo⟩
    · exact idle hrun
    · rw [fresh] at hmemo
      exact absurd hmemo (by simp)
  have hcount : (s.enter node).executions = s.executions ++ [(node, 1)] := countUp_of_not_mem hnew
  constructor
  · exact List.nodup_cons.mpr ⟨idle, h.distinct⟩
  · intro other hother
    rcases List.mem_cons.mp hother with rfl | hother
    · exact fresh
    · exact h.apart other hother
  · exact h.inRange
  · intro entry hentry
    rw [hcount, List.mem_append, List.mem_singleton] at hentry
    rcases hentry with hentry | rfl
    · exact h.once entry hentry
    · rfl
  · rw [hcount, List.map_append]
    refine List.nodup_append.mpr ⟨h.counted, by simp, ?_⟩
    rintro other hother last hlast rfl
    rw [List.mem_singleton.mp hlast] at hother
    exact hnew hother
  · intro other
    show other ∈ (s.enter node).executions.map Prod.fst ↔
      (engine.kind? other).isSome ∧ (other ∈ node :: s.running ∨ (s.memo.lookup other).isSome)
    rw [hcount, List.map_append, List.mem_append, h.executed, List.mem_cons]
    by_cases hother : other = node
    · subst hother
      simp [hkind]
    · simp [hother]

/-- A session stays sound when outputs of a node come into its memo, provided that the node is not
at work any more, and was if it has an operator. -/
theorem Sound.keep (h : t.Sound engine) {u : Session} {outputs : Outputs}
    (hmemo : u.memo = (node, outputs) :: t.memo) (hexec : u.executions = t.executions)
    (hnodup : u.running.Nodup)
    (hrun : ∀ other, other ∈ u.running ↔ other ∈ t.running ∧ other ≠ node)
    (hnode : node < engine.nodeCount) (hran : (engine.kind? node).isSome → node ∈ t.running) :
    u.Sound engine := by
  constructor
  · exact hnodup
  · intro other hother
    obtain ⟨hother, hne⟩ := (hrun other).mp hother
    rw [hmemo, lookup_memo_cons, if_neg hne]
    exact h.apart other hother
  · intro other hother
    rw [hmemo, lookup_memo_cons] at hother
    by_cases he : other = node
    · exact he ▸ hnode
    · rw [if_neg he] at hother
      exact h.inRange other hother
  · rw [hexec]
    exact h.once
  · rw [hexec]
    exact h.counted
  · intro other
    rw [hexec, h.executed, hmemo, lookup_memo_cons, hrun]
    by_cases he : other = node
    · subst he
      rw [if_pos rfl]
      exact ⟨fun hold => ⟨hold.1, .inr rfl⟩, fun hnew => ⟨hnew.1, .inl (hran hnew.1)⟩⟩
    · rw [if_neg he, and_iff_left he]

theorem Sound.leave (h : t.Sound engine) {chain : List Nat} (hrun : t.running = node :: chain)
    (hnode : node < engine.nodeCount) (id : String) (kind : OperatorKind) (outputs : Outputs) :
    (t.leave node id kind outputs).Sound engine := by
  have hchain : (t.leave node id kind outputs).running = chain := by
    show t.running.erase node = chain
    rw [hrun, List.erase_cons_head]
  obtain ⟨hnew, hnodup⟩ := List.nodup_cons.mp (hrun ▸ h.distinct)
  refine h.keep rfl rfl (hchain ▸ hnodup) (fun other => ?_) hnode fun _ => ?_
  · rw [hchain, hrun, List.mem_cons]
    constructor
    · exact fun hother => ⟨.inr hother, fun he => hnew (he ▸ hother)⟩
    · rintro ⟨rfl | hother, hne⟩
      · exact absurd rfl hne
      · exact hother
  · rw [hrun]
    exact List.mem_cons_self

theorem Grows.cons (h : s.Grows t) (fresh : s.memo.lookup node = none) {u : Session}
    {outputs : Outputs} (hmemo : u.memo = (node, outputs) :: t.memo) : s.Grows u := by
  intro other kept hother
  have hne : other ≠ node := by
    rintro rfl
    rw [fresh] at hother
    exact absurd hother (by simp)
  rw [hmemo, lookup_memo_cons, if_neg hne]
  exact h other kept hother

end Session

namespace Scene

open Session

variable {scene : Scene}

/-! ## One evaluation -/

/-- What evaluation keeps, from a given session on: soundness, the nodes at work, and all that the
memo held. -/
def SoundSince (scene : Scene) (s t : Session) : Prop :=
  t.Sound scene.engine ∧ t.running = s.running ∧ s.Grows t

theorem soundSince_robust (s : Session) : Robust (scene.SoundSince s) where
  warn _ h := ⟨h.1.congr rfl rfl rfl, h.2⟩
  mark _ h := ⟨h.1.congr rfl rfl rfl, h.2⟩
  draw _ h := ⟨h.1.congr rfl rfl rfl, h.2⟩

theorem noteMissing_sound {node : Nat} {s : Session} (h : s.Sound scene.engine)
    (hnode : node < scene.engine.nodeCount) (idle : node ∉ s.running)
    (hkind : scene.engine.kind? node = none) : (scene.noteMissing node s).Sound scene.engine := by
  refine h.keep rfl rfl h.distinct (fun other => ?_) hnode fun hsome => ?_
  · exact ⟨fun hother => ⟨hother, fun he => idle (he ▸ hother)⟩, And.left⟩
  · rw [hkind] at hsome
    exact absurd hsome (by simp)

/-- **One evaluation keeps the session sound** and the memo it found, however deep calls may
nest. -/
theorem evaluateWithin_sound (depth : Nat) : ∀ node port s, s.Sound scene.engine →
    scene.SoundSince s (scene.evaluateWithin depth node port s).2 := by
  induction depth with
  | zero => exact fun _ _ s hs => ⟨hs, rfl, .refl s⟩
  | succ depth ih =>
      intro node port s hs
      refine evaluateWithin_elim (motive := fun r => scene.SoundSince s r.2) depth ?_ ?_ ?_ ?_ ?_
      · exact fun _ => ⟨hs, rfl, .refl s⟩
      · intro _ _
        refine ⟨hs.congr ?_ ?_ ?_, reportCycle_running s node _, ?_⟩
        · exact reportCycle_running s node _
        · exact reportCycle_memo s node _
        · exact reportCycle_executions s node _
        · intro other kept hother
          rw [reportCycle_memo]
          exact hother
      · exact fun _ _ _ _ => ⟨hs, rfl, .refl s⟩
      · exact fun hnode idle fresh hkind =>
          ⟨noteMissing_sound hs hnode idle hkind, rfl, (Grows.refl s).cons fresh rfl⟩
      · intro kind hruns
        have hnode := Engine.kind?_lt hruns.kind_eq
        have henter := hs.enter hruns.kind_eq hruns.idle hruns.fresh
        -- The body is judged from the session that it starts in, where the node is already at work.
        have hkeep : PullKeeps (scene.evaluateWithin depth) (scene.SoundSince (s.enter node)) := by
          intro m p t ⟨ht, hrun, hgrow⟩
          obtain ⟨ht', hrun', hgrow'⟩ := ih m p t ht
          exact ⟨ht', hrun'.trans hrun, hgrow.trans hgrow'⟩
        have hstart : scene.SoundSince (s.enter node) (s.enter node) := ⟨henter, rfl, .refl _⟩
        obtain ⟨hbody, hrun, hgrow⟩ :=
          runBody_keeps (soundSince_robust _) hkeep.edges kind hstart
        have hgrow : s.Grows (scene.runBody (scene.evaluateWithin depth) node kind s).2 := hgrow
        rw [execute_eq]
        refine ⟨hbody.leave hrun hnode _ _ _, ?_, hgrow.cons hruns.fresh rfl⟩
        exact (evaluateWithin_run depth hruns).symm ▸ evaluateWithin_running (depth + 1) node port s

/-- A node of the document that is not at work is in the memo once it was asked for. -/
theorem evaluateWithin_kept (depth : Nat) {node : Nat} (port : String) {s : Session}
    (hnode : node < scene.engine.nodeCount) (hrun : node ∉ s.running) :
    ((scene.evaluateWithin (depth + 1) node port s).2.memo.lookup node).isSome := by
  refine evaluateWithin_elim (motive := fun r => (r.2.memo.lookup node).isSome) depth ?_ ?_ ?_ ?_ ?_
  · exact fun hout => absurd hnode (Nat.not_lt.mpr hout)
  · exact fun _ hmem => absurd hmem hrun
  · intro outputs _ _ hmemo
    rw [hmemo]
    rfl
  · intro _ _ _ _
    show (List.lookup node ((node, Outputs.empty) :: s.memo)).isSome
    rw [lookup_memo_cons, if_pos rfl]
    rfl
  · intro kind _
    rw [execute_eq]
    show (List.lookup node ((node, _) :: _)).isSome
    rw [lookup_memo_cons, if_pos rfl]
    rfl

/-- A root of the document that is collected adds what the memo then holds of it. -/
theorem collectRoot_adds {root : Nat} {s : Session} (hroot : root < scene.engine.nodeCount)
    (hrun : s.running = []) : ∃ outputs,
      (scene.evaluate root "entries" s).2.memo.lookup root = some outputs ∧
      (scene.collectRoot root s).2 =
        { (scene.evaluate root "entries" s).2 with
          fragments := s.fragments ++ [fragmentOf outputs] } := by
  obtain ⟨outputs, hkept⟩ := Option.isSome_iff_exists.mp
    (evaluateWithin_kept scene.engine.nodeCount "entries" hroot
      (hrun ▸ List.not_mem_nil : root ∉ s.running))
  change (scene.evaluate root "entries" s).2.memo.lookup root = some outputs at hkept
  have hfragments : (scene.evaluate root "entries" s).2.fragments = s.fragments := by
    rw [evaluate, evaluateWithin_fragments]
  refine ⟨outputs, hkept, ?_⟩
  rw [collectRoot, collectRootWith_eq, hkept, ← hfragments]
  rfl

/-! ## Calls from outside -/

theorem soundSince_open (s : Session) : Open (scene.SoundSince s) where
  toRobust := soundSince_robust s
  collect _ h := ⟨h.1.congr rfl rfl rfl, h.2⟩

theorem evaluateWithin_pullKeeps (depth : Nat) (s : Session) :
    PullKeeps (scene.evaluateWithin depth) (scene.SoundSince s) := by
  intro node port t ⟨ht, hrun, hgrow⟩
  obtain ⟨ht', hrun', hgrow'⟩ := evaluateWithin_sound depth node port t ht
  exact ⟨ht', hrun'.trans hrun, hgrow.trans hgrow'⟩

theorem goOn_sound {s : Session} (hs : s.Sound scene.engine) (calls : List Call) :
    scene.SoundSince s (scene.goOn s calls) :=
  goOn_keeps (soundSince_open s) (evaluateWithin_pullKeeps _ s) calls ⟨hs, rfl, .refl s⟩

theorem after_sound (chance : Chance) (calls : List Call) :
    (scene.after chance calls).Sound scene.engine ∧ (scene.after chance calls).running = [] := by
  obtain ⟨hsound, hrun, -⟩ := goOn_sound (sound_start scene.engine chance) calls
  exact ⟨hsound, hrun⟩

theorem collectRoots_eq_goOn (roots : List Nat) : ∀ s : Session,
    (collectRootsWith scene.evaluate roots s).2 = scene.goOn s (roots.map Call.collectRoot) := by
  induction roots with
  | nil => exact fun _ => rfl
  | cons root rest ih => exact fun s => ih (scene.collectRoot root s).2

theorem sessionFrom_eq_after (engine : Engine) (chance : Chance) (context : Context) :
    engine.sessionFrom chance context =
      (Scene.mk engine context).after chance (engine.roots.map Call.collectRoot) :=
  collectRoots_eq_goOn engine.roots _

theorem runFrom_once (engine : Engine) (chance : Chance) (context : Context) :
    ∀ entry ∈ (engine.runFrom chance context).2.executions, entry.2 = 1 := by
  intro entry hentry
  obtain ⟨counted, hcounted, rfl⟩ := List.mem_map.mp hentry
  rw [sessionFrom_eq_after] at hcounted
  exact ((Scene.mk engine context).after_sound _ _).1.once counted hcounted

/-- **Between calls** the guard is empty, every count is one, and of the nodes with an operator
exactly those are in the memo that were counted. A node once in the memo is answered from there
ever after, and its evaluation leaves the whole session as it is. In a run, too, every count is
one. -/
theorem runs_at_most_once (scene : Scene) (chance : Chance) (calls : List Call) :
    (scene.after chance calls).running = [] ∧
    (∀ node ∈ (scene.after chance calls).running,
      (scene.after chance calls).memo.lookup node = none) ∧
    (∀ entry ∈ (scene.after chance calls).executions, entry.2 = 1) ∧
    ((scene.after chance calls).executions.map Prod.fst).Nodup ∧
    (∀ node, (scene.engine.kind? node).isSome →
      (((scene.after chance calls).memo.lookup node).isSome ↔
        node ∈ (scene.after chance calls).executions.map Prod.fst)) ∧
    (∀ node outputs, (scene.after chance calls).memo.lookup node = some outputs →
      ∀ later port, scene.evaluate node port (scene.after chance (calls ++ later)) =
        (outputs.select port, scene.after chance (calls ++ later))) ∧
    ∀ entropy, ∀ entry ∈ (scene.engine.run scene.context entropy).2.executions, entry.2 = 1 := by
  obtain ⟨hsound, hrun⟩ := scene.after_sound chance calls
  refine ⟨hrun, hsound.apart, hsound.once, hsound.counted, ?_, ?_,
    fun entropy => runFrom_once scene.engine (scene.engine.chance entropy) scene.context⟩
  · intro node hkind
    rw [hsound.executed, hrun]
    simp [hkind]
  · intro node outputs hmemo later port
    have hlater : scene.after chance (calls ++ later) =
        scene.goOn (scene.after chance calls) later := goOn_append _ calls later
    obtain ⟨-, hrun', hgrow⟩ := goOn_sound hsound later
    rw [hlater]
    refine evaluateWithin_known _ (hsound.inRange node (by rw [hmemo]; rfl)) ?_
      (hgrow node outputs hmemo)
    rw [hrun', hrun]
    exact List.not_mem_nil

/-- A source that feeds two nodes, which one list joins, and a node that feeds itself. -/
def fanOut : Engine where
  behavior := {
    strings := ⟨["source_entries", "reroute", "join_list", "entries", "input", "output", "lists"]⟩
    nodeIds := ["all", "left", "right", "both", "loop"]
    nodes := [⟨0, ⟨[]⟩⟩, ⟨1, ⟨[]⟩⟩, ⟨1, ⟨[]⟩⟩, ⟨2, ⟨[]⟩⟩, ⟨1, ⟨[]⟩⟩]
    edges := [⟨0, 3, 1, 4⟩, ⟨0, 3, 2, 4⟩, ⟨1, 5, 3, 6⟩, ⟨2, 5, 3, 6⟩, ⟨4, 5, 4, 4⟩] }
  data := {}
  config := {}

/-- The source and the loop ran once for all calls, and the loop is answered from the memo. -/
theorem fanOut_runs_once :
    let scene : Scene := ⟨fanOut, {}⟩
    let calls : List Call := [.evaluate 3 "list", .input 4 "input"]
    (scene.after (.ofSeed 7) calls).executions = [(3, 1), (1, 1), (0, 1), (2, 1), (4, 1)] ∧
    ((scene.after (.ofSeed 7) calls).memo.lookup 0).isSome ∧
    scene.evaluate 4 "output" (scene.after (.ofSeed 7) (calls ++ [.collectRoot 4])) =
      (.null, scene.after (.ofSeed 7) (calls ++ [.collectRoot 4])) := by
  intro scene calls
  obtain ⟨-, -, -, -, hcounted, hknown, -⟩ := runs_at_most_once scene (.ofSeed 7) calls
  refine ⟨by decide, (hcounted 0 (by decide)).mpr (by decide), ?_⟩
  exact hknown 4 (.single "output" .null) rfl [.collectRoot 4] "output"

end Scene

end StoryGraph
