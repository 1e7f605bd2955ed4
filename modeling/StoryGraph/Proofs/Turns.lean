import StoryGraph.Proofs.Gains
import StoryGraph.Proofs.Memo

/-!
# What turns add up to

A run only ever appends. The texts of a character grow at their ends, by what the roots give in
their order, and of the ids, node ids and warnings those are appended that are new. So what a
report says was activated is exactly what the list of activated ids gained, and over any number of
turns that list repeats nothing and loses nothing.

Main definition: `Engine.Adds`.
-/

namespace StoryGraph

variable {old : List String}

/-! ## Texts that grow -/

theorem appendLine_grows (text fragment : String) :
    ∃ added, appendLine text fragment = text ++ added := by
  unfold appendLine
  split
  · exact ⟨"", String.append_empty.symm⟩
  · split
    · exact ⟨fragment, rfl⟩
    · exact ⟨"\n" ++ fragment, String.append_assoc⟩

theorem foldl_appendLine_grows (fragments : List String) : ∀ text : String,
    ∃ added, fragments.foldl appendLine text = text ++ added := by
  induction fragments with
  | nil => exact fun text => ⟨"", String.append_empty.symm⟩
  | cons fragment rest ih =>
      intro text
      obtain ⟨line, hline⟩ := appendLine_grows text fragment
      obtain ⟨added, hadded⟩ := ih (appendLine text fragment)
      refine ⟨line ++ added, ?_⟩
      rw [List.foldl_cons, hadded, hline, String.append_assoc]

/-! ## What a fragment adds -/

namespace Tally

theorem activate_context (tally : Tally) (id : String) :
    (tally.activate id).context =
      { tally.context with activatedIds := addNew tally.context.activatedIds id } := by
  unfold activate Context.activate
  dsimp only
  split <;> rfl

theorem activate_gains {tally : Tally} (h : Gains old tally.activated tally.context.activatedIds)
    (id : String) :
    Gains old (tally.activate id).activated (tally.activate id).context.activatedIds := by
  rw [activate_context]
  unfold activate Context.activate addNew
  dsimp only
  by_cases hmem : id ∈ tally.context.activatedIds
  · simpa [hmem] using h
  · -- An id that is new to the context cannot have counted before.
    have hnot : id ∉ tally.activated :=
      fun hcounted => hmem (h.eq ▸ List.mem_append_right old hcounted)
    simpa [hmem, hnot] using h.trans (gains_new hmem)

theorem foldl_activate_context (ids : List String) : ∀ tally : Tally,
    (ids.foldl activate tally).context =
      { tally.context with activatedIds := ids.foldl addNew tally.context.activatedIds } := by
  induction ids with
  | nil => exact fun _ => rfl
  | cons id rest ih =>
      intro tally
      rw [List.foldl_cons, ih, activate_context, List.foldl_cons]

theorem foldl_activate_gains (ids : List String) : ∀ {tally : Tally},
    Gains old tally.activated tally.context.activatedIds →
    Gains old (ids.foldl activate tally).activated
      (ids.foldl activate tally).context.activatedIds := by
  induction ids with
  | nil => exact fun h => h
  | cons id rest ih => exact fun h => ih (activate_gains h id)

/-- What the fragments add to a context: of each field their texts, in their order, and their
ids. Everything else stays. -/
structure Added (fragments : List Fragment) (before after : Context) : Prop where
  rest : ∃ character activatedIds, after = { before with character, activatedIds }
  text : ∀ field, after.character.get field =
    (fragments.map (·.texts.get field)).foldl appendLine (before.character.get field)
  ids : after.activatedIds = (fragments.flatMap (·.ids)).foldl addNew before.activatedIds

theorem appendTexts_text (tally : Tally) (texts : Character) (field : TextField) :
    (tally.appendTexts texts).context.character.get field =
      appendLine (tally.context.character.get field) (texts.get field) := by
  cases field <;> rfl

theorem addFragment_added (tally : Tally) (fragment : Fragment) :
    Added [fragment] tally.context (tally.addFragment fragment).context := by
  unfold addFragment
  rw [foldl_activate_context]
  refine ⟨⟨_, _, rfl⟩, appendTexts_text tally fragment.texts, ?_⟩
  simp [appendTexts]

theorem Added.trans {fragments others : List Fragment} {before between after : Context}
    (h : Added fragments before between) (h' : Added others between after) :
    Added (fragments ++ others) before after where
  rest := by
    obtain ⟨_, _, rfl⟩ := h.rest
    obtain ⟨character, activatedIds, rfl⟩ := h'.rest
    exact ⟨character, activatedIds, rfl⟩
  text field := by rw [h'.text, h.text, List.map_append, List.foldl_append]
  ids := by rw [h'.ids, h.ids, List.flatMap_append, List.foldl_append]

theorem addFragments_added (fragments : List Fragment) : ∀ tally : Tally,
    Added fragments tally.context (fragments.foldl addFragment tally).context := by
  induction fragments with
  | nil => exact fun _ => ⟨⟨_, _, rfl⟩, fun _ => rfl, rfl⟩
  | cons fragment rest ih =>
      intro tally
      exact (addFragment_added tally fragment).trans (ih (tally.addFragment fragment))

theorem addFragments_gains (fragments : List Fragment) : ∀ {tally : Tally},
    Gains old tally.activated tally.context.activatedIds →
    Gains old (fragments.foldl addFragment tally).activated
      (fragments.foldl addFragment tally).context.activatedIds := by
  induction fragments with
  | nil => exact fun h => h
  | cons fragment rest ih => exact fun h => ih (foldl_activate_gains fragment.ids h)

end Tally

theorem Context.foldl_warn (warnings : List String) : ∀ context : Context,
    warnings.foldl warn context =
      { context with warnings := warnings.foldl addNew context.warnings } := by
  induction warnings with
  | nil => exact fun _ => rfl
  | cons warning rest ih => exact fun context => ih (context.warn warning)

/-! ## What the roots give -/

namespace Engine

variable {engine : Engine}

theorem mem_roots {node : Nat} : node ∈ engine.roots ↔
    node < engine.nodeCount ∧ (engine.kind? node).any OperatorKind.isRoot = true := by
  rw [roots, (List.mergeSort_perm _ _).mem_iff, List.mem_filter, List.mem_range]

theorem roots_length : engine.roots.length =
    (List.range engine.nodeCount).countP fun node =>
      (engine.kind? node).any OperatorKind.isRoot := by
  rw [roots, List.length_mergeSort, List.countP_eq_length_filter]

def rootFragment (engine : Engine) (chance : Chance) (context : Context) (root : Nat) : Fragment :=
  Scene.fragmentOf (((engine.sessionFrom chance context).memo.lookup root).getD .empty)

end Engine

namespace Scene

variable {scene : Scene} {s : Session}

/-- Roots that are collected add their fragments in their order, each made from what the memo holds
of its root in the end. -/
theorem collectRoots_fragments {roots : List Nat}
    (hrange : ∀ root ∈ roots, root < scene.engine.nodeCount) :
    ∀ {s : Session}, s.Sound scene.engine → s.running = [] →
      (collectRootsWith scene.evaluate roots s).2.fragments = s.fragments ++ roots.map fun root =>
        fragmentOf (((collectRootsWith scene.evaluate roots s).2.memo.lookup root).getD .empty) := by
  induction roots with
  | nil => exact fun _ _ => (List.append_nil _).symm
  | cons root rest ih =>
      intro s hs hrun
      obtain ⟨hs', hrun', -⟩ := goOn_sound hs [.collectRoot root]
      change (scene.collectRoot root s).2.Sound scene.engine at hs'
      change (scene.collectRoot root s).2.running = s.running at hrun'
      obtain ⟨outputs, hkept, hcollect⟩ := collectRoot_adds (hrange root List.mem_cons_self) hrun
      have hrest := ih (fun m hm => hrange m (List.mem_cons_of_mem _ hm)) hs' (hrun'.trans hrun)
      -- What the memo holds of the root is still there when the last root has been collected.
      have hlast : (collectRootsWith scene.evaluate rest (scene.collectRoot root s).2).2.memo.lookup
          root = some outputs := by
        rw [collectRoots_eq_goOn]
        exact (goOn_sound hs' _).2.2 root outputs (hcollect ▸ hkept)
      show (collectRootsWith scene.evaluate rest (scene.collectRoot root s).2).2.fragments =
        s.fragments ++ fragmentOf (((collectRootsWith scene.evaluate rest
          (scene.collectRoot root s).2).2.memo.lookup root).getD .empty) :: _
      have hfragments := congrArg Session.fragments hcollect
      dsimp only at hfragments
      rw [hrest, hfragments, hlast, List.append_assoc]
      rfl

end Scene

/-! ## What a run adds -/

/-- What a run may make of a context, and what its report has to say of that. -/
structure Engine.Adds (engine : Engine) (chance : Chance) (before after : Context)
    (report : RunReport) : Prop where
  chat : after.messages = before.messages
  /-- Each text grows by the texts of the roots, in their order. -/
  text : ∀ field, after.character.get field =
    (engine.roots.map fun root => (engine.rootFragment chance before root).texts.get field).foldl
      appendLine (before.character.get field)
  textKept : ∀ field, ∃ added,
    after.character.get field = before.character.get field ++ added
  activated : Gains before.activatedIds report.activatedIds after.activatedIds
  /-- No id of a root is left out. -/
  mem_activated : ∀ id, id ∈ after.activatedIds ↔
    id ∈ before.activatedIds ∨
      ∃ root ∈ engine.roots, id ∈ (engine.rootFragment chance before root).ids
  highlights : after.chatHighlights.length = before.messages.length
  debugNodes : ∃ added, Gains before.debugNodes added after.debugNodes
  warnings : ∃ added, Gains before.warnings added after.warnings
  mem_warnings : ∀ warning, warning ∈ after.warnings ↔
    warning ∈ before.warnings ∨ warning ∈ report.warnings
  roots : report.roots = (List.range engine.nodeCount).countP fun node =>
    (engine.kind? node).any OperatorKind.isRoot
  once : ∀ entry ∈ report.executions, entry.2 = 1

namespace Engine

theorem sessionFrom_fragments (engine : Engine) (chance : Chance) (context : Context) :
    (engine.sessionFrom chance context).fragments =
      engine.roots.map (engine.rootFragment chance context) := by
  have hrange : ∀ root ∈ engine.roots, root < engine.nodeCount :=
    fun root hroot => (mem_roots.mp hroot).1
  exact (Scene.mk engine context).collectRoots_fragments hrange (Session.sound_start engine chance)
    rfl

/-- **One run only appends**, and its report says what. -/
theorem runFrom_adds (engine : Engine) (chance : Chance) (context : Context) :
    engine.Adds chance context (engine.runFrom chance context).1
      (engine.runFrom chance context).2 := by
  let session := engine.sessionFrom chance context
  let tally := session.fragments.foldl Tally.addFragment { context }
  have hadded : Tally.Added session.fragments context tally.context :=
    Tally.addFragments_added session.fragments { context }
  have hgains : Gains context.activatedIds tally.activated tally.context.activatedIds :=
    Tally.addFragments_gains session.fragments (gains_nil context.activatedIds)
  have hafter : (engine.runFrom chance context).1 = tally.context.addRecords session := rfl
  have hreport : (engine.runFrom chance context).2 = ⟨tally.activated, session.warnings,
      session.executions.map fun execution => (engine.nodeId execution.1, execution.2),
      engine.roots.length⟩ := rfl
  rw [hafter, hreport]
  unfold Context.addRecords
  rw [Context.foldl_warn]
  obtain ⟨character, activatedIds, hcontext⟩ := hadded.rest
  have hmessages : tally.context.messages = context.messages := by rw [hcontext]
  have htext : ∀ field, tally.context.character.get field =
      (engine.roots.map fun root => (engine.rootFragment chance context root).texts.get field).foldl
        appendLine (context.character.get field) := by
    intro field
    rw [hadded.text, sessionFrom_fragments, List.map_map]
    rfl
  constructor
  · exact hmessages
  · exact htext
  · intro field
    obtain ⟨added, htexts⟩ := foldl_appendLine_grows _ (context.character.get field)
    exact ⟨added, (htext field).trans htexts⟩
  · exact hgains
  · intro id
    show id ∈ tally.context.activatedIds ↔ _
    rw [hadded.ids, mem_foldl_addNew, sessionFrom_fragments, List.flatMap_map, List.mem_flatMap]
  · show (session.marks.slots tally.context.messages.length).length = _
    rw [hmessages]
    simp [MarkLog.slots]
  · have : tally.context.debugNodes = context.debugNodes := by rw [hcontext]
    exact this ▸ gains_foldl_addNew session.trace.executed _
  · have : tally.context.warnings = context.warnings := by rw [hcontext]
    exact this ▸ gains_foldl_addNew session.warnings _
  · intro warning
    have : tally.context.warnings = context.warnings := by rw [hcontext]
    exact this ▸ mem_foldl_addNew session.warnings _
  · exact roots_length
  · exact Scene.runFrom_once engine chance context

/-- The run with a seed, or with what the system gives instead, is one of these. -/
theorem run_adds (engine : Engine) (context : Context) (entropy : Chance) :
    engine.Adds (engine.chance entropy) context (engine.run context entropy).1
      (engine.run context entropy).2 :=
  engine.runFrom_adds (engine.chance entropy) context

end Engine

/-! ## Turn after turn -/

namespace Context

/-- Over all turns the activated ids gain what the reports say, one report after the other. -/
theorem converse_gains (turns : List Turn) : ∀ context : Context,
    Gains context.activatedIds ((context.converse turns).2.flatMap (·.activatedIds))
      (context.converse turns).1.activatedIds := by
  induction turns with
  | nil => exact fun context => gains_nil context.activatedIds
  | cons turn rest ih =>
      intro context
      have hturn := (turn.engine.runFrom_adds turn.chance (context.hear turn.messages)).activated
      exact hturn.trans (ih (turn.engine.runFrom turn.chance (context.hear turn.messages)).1)

/-- **Turns add up.** Each run of a conversation appends to the context that it finds, as its report
says, and changes nothing else, wherever its draws begin. Over all turns the activated ids grow by
what the reports say, so none is lost, and none is repeated unless the first context did. -/
theorem turns_add_up (context : Context) (turns : List Turn) :
    (∀ (engine : Engine) (before : Context) (entropy : Chance),
      engine.Adds (engine.chance entropy) before (engine.run before entropy).1
        (engine.run before entropy).2) ∧
    (∀ earlier turn later, turns = earlier ++ turn :: later →
      let before := (context.converse earlier).1.hear turn.messages
      let (after, report) := turn.engine.runFrom turn.chance before
      turn.engine.Adds turn.chance before after report) ∧
    (context.converse turns).1.activatedIds =
      context.activatedIds ++ (context.converse turns).2.flatMap (·.activatedIds) ∧
    (context.activatedIds.Nodup → (context.converse turns).1.activatedIds.Nodup) := by
  have hgains := converse_gains turns context
  exact ⟨Engine.run_adds, fun _ turn _ _ => turn.engine.runFrom_adds turn.chance _, hgains.eq,
    hgains.nodup_new⟩

/-- Two roots that the same entries reach; the second entry repeats the id of the first. -/
def twins : Engine where
  behavior := {
    strings := ⟨["source_entries", "output_entries", "entries"]⟩
    nodeIds := ["all", "first", "second"]
    nodes := [⟨0, ⟨[]⟩⟩, ⟨1, ⟨[]⟩⟩, ⟨1, ⟨[]⟩⟩]
    edges := [⟨0, 2, 1, 2⟩, ⟨0, 2, 2, 2⟩] }
  data := {
    strings := ⟨["scenario", "A lake."]⟩
    items := [⟨"sword", 0, ⟨[(0, .string 1)]⟩⟩, ⟨"sword", 0, ⟨[]⟩⟩, ⟨"shield", 0, ⟨[]⟩⟩] }
  config := {}

theorem twins_roots : twins.roots = [1, 2] := by
  have hroots : ((List.range twins.nodeCount).filter fun node =>
      (twins.kind? node).any OperatorKind.isRoot) = [1, 2] := by decide +kernel
  have hle : twins.rootLe 1 2 = true := by decide +kernel
  rw [Engine.roots, hroots]
  simp [List.mergeSort, hle]

/-- In the first turn both roots give both ids and each counts once; in the second none counts. -/
theorem twins_add_up :
    let first : Turn := ⟨[.user "hi"], twins, .ofSeed 7⟩
    let second : Turn := ⟨[.bot "hello"], twins, .ofSeed 8⟩
    let turns : List Turn := [first, second]
    let context : Context := { activatedIds := ["shield"] }
    let before := (context.converse [first]).1.hear second.messages
    twins.Adds second.chance before (twins.runFrom second.chance before).1
      (twins.runFrom second.chance before).2 ∧
    (context.converse turns).1.activatedIds =
      context.activatedIds ++ (context.converse turns).2.flatMap (·.activatedIds) ∧
    (context.converse turns).2.map (·.activatedIds) = [["sword"], []] ∧
    (context.converse turns).1.activatedIds.Nodup := by
  intro first second turns context before
  obtain ⟨-, hadds, hgains, hnodup⟩ := turns_add_up context turns
  refine ⟨hadds [first] second [] rfl, hgains, ?_, hnodup (by decide)⟩
  simp only [turns, first, second, converse, Engine.runFrom, Engine.conclude, Engine.sessionFrom,
    Engine.sessionWithin, twins_roots]
  decide +kernel

end Context

end StoryGraph
