import StoryGraph.Proofs.Highlights
import StoryGraph.Proofs.Mirror

/-!
# Recording carries no weight

What a run records for its readers is the colours of marks, the values of ports, and what a context
shows of earlier runs. None of it is looked at again: a run without any of it takes the same course,
and gives the same but for the records. So two runs that differ only in what they record, or in what
was recorded before, agree in all else.

Main definitions: `Config.unrecorded`, `Context.unrecorded`, `Session.unrecorded`, `SameButRecords`.
-/

namespace StoryGraph

def Config.unrecorded (config : Config) : Config :=
  { config with recordTrace := false, keywordColor := "", messageColor := "" }

def Context.unrecorded (context : Context) : Context :=
  { context with chatHighlights := [], debugNodes := [], debugPorts := [], warnings := [] }

def Engine.unrecorded (engine : Engine) : Engine :=
  { engine with config := engine.config.unrecorded }

def Mark.plain (m : Mark) : Mark := { m with color := "" }

def Trace.unrecorded (trace : Trace) : Trace := { trace with keepsValues := false, ports := [] }

def Session.unrecorded (s : Session) : Session :=
  { s with marks := ⟨s.marks.marks.map Mark.plain⟩, trace := s.trace.unrecorded }

/-! ## The session goes on alike -/

namespace Trace

theorem record_unrecorded (trace : Trace) (node port : String) (value : Value) :
    (trace.record node port value).unrecorded = trace.unrecorded := by
  unfold record
  split <;> rfl

theorem foldl_record_unrecorded (node : String) (ports : List (String × Value)) : ∀ trace : Trace,
    (ports.foldl (fun trace (port, value) => trace.record node port value) trace).unrecorded =
      ports.foldl (fun trace (port, value) => trace.record node port value) trace.unrecorded := by
  induction ports with
  | nil => exact fun _ => rfl
  | cons port rest ih =>
      intro trace
      rw [List.foldl_cons, List.foldl_cons, ih, record_unrecorded]
      -- Without values nothing is noted of a port.
      rfl

theorem note_unrecorded (trace : Trace) (node : String) (structural : Bool) (outputs : Outputs) :
    (trace.note node structural outputs).unrecorded =
      trace.unrecorded.note node structural outputs := by
  unfold note
  dsimp only
  rw [← foldl_record_unrecorded]
  split <;> rfl

end Trace

/-- **Leaving out the records goes along with each step.** -/
theorem Session.view_unrecorded : Session.View Mark.plain Session.unrecorded where
  memo _ := rfl
  running _ := rfl
  chance _ := rfl
  warn _ _ := rfl
  mark s m := by
    show ({ s with marks := s.marks.record m } : Session).unrecorded =
      { s.unrecorded with marks := s.unrecorded.marks.record m.plain }
    unfold MarkLog.record
    by_cases hnonempty : m.start < m.stop
    · rw [if_pos hnonempty, if_pos (show m.plain.start < m.plain.stop from hnonempty)]
      rfl
    · rw [if_neg hnonempty, if_neg (show ¬m.plain.start < m.plain.stop from hnonempty)]
  draw _ _ := rfl
  collect _ _ := rfl
  keep _ _ := rfl
  reportCycle s node id := by
    unfold reportCycle
    by_cases hknown : s.cycles.contains node = true
    · rw [if_pos hknown, if_pos (show s.unrecorded.cycles.contains node = true from hknown)]
    · rw [if_neg hknown, if_neg (show ¬s.unrecorded.cycles.contains node = true from hknown)]
      rfl
  enter _ _ := rfl
  leave s node id kind outputs := by
    unfold Session.leave Session.unrecorded
    rw [Trace.note_unrecorded]

/-! ## Operators do alike -/

namespace Operator

open Body

variable {site : Site}

theorem marksOf_plain (color : String) (cap : Nat) (found : Find) :
    (marksOf color cap found).map Mark.plain = marksOf "" cap found := by
  unfold marksOf
  split
  · rw [List.map_map]
    rfl
  · rfl

theorem mapMarks_after {α β : Type} {x : Body α} {g g' : α → Body β}
    (hx : x.Does (fun _ => True) fun deed => ∀ m, deed ≠ .mark m)
    (h : ∀ a, g' a = (g a).mapMarks Mark.plain) : x >>= g' = (x >>= g).mapMarks Mark.plain := by
  rw [mapMarks_bind, hx.mapMarks_eq fun m hm => hm m rfl]
  exact congrArg (x >>= ·) (funext h)

theorem mapMarks_marks {β : Type} {marks marks' : List Mark} {g g' : Unit → Body β}
    (hmarks : marks' = marks.map Mark.plain) (h : ∀ a, g' a = (g a).mapMarks Mark.plain) :
    markAll marks' >>= g' = (markAll marks >>= g).mapMarks Mark.plain := by
  rw [mapMarks_bind, mapMarks_markAll, hmarks]
  exact congrArg (markAll (marks.map Mark.plain) >>= ·) (funext h)

theorem keywordFilter_plain (site : Site) :
    keywordFilter { site with config := site.config.unrecorded } =
      (keywordFilter site).mapMarks Mark.plain := by
  refine mapMarks_after (does_askItems "entries") fun entries => ?_
  refine mapMarks_after does_askMessages fun messages => ?_
  refine mapMarks_after does_askScanSettings fun settings => ?_
  refine mapMarks_after (does_askText "keyword_attribute") fun name => ?_
  refine mapMarks_marks ?_ fun _ => rfl
  rw [List.map_flatMap]
  refine List.flatMap_congr fun pair _ => ?_
  rw [List.map_flatMap]
  exact List.flatMap_congr fun found _ => (marksOf_plain _ _ found).symm

theorem conditionPatterns_config (site : Site) (config : Config) (useRegex caseSensitive : Bool)
    (conditions : List String) :
    conditionPatterns { site with config } useRegex caseSensitive conditions =
      conditionPatterns site useRegex caseSensitive conditions := by
  induction conditions with
  | nil => rfl
  | cons condition rest ih =>
      unfold conditionPatterns
      rw [ih]
      rfl

theorem messageFilter_plain (site : Site) :
    messageFilter { site with config := site.config.unrecorded } =
      (messageFilter site).mapMarks Mark.plain := by
  refine mapMarks_after does_askMessages fun messages => ?_
  refine mapMarks_after (does_askItems "conditions") fun conditions => ?_
  refine mapMarks_after (does_askFlag "use_regex" false) fun useRegex => ?_
  refine mapMarks_after does_askScanSettings fun settings => ?_
  dsimp only
  rw [conditionPatterns_config]
  refine mapMarks_after (does_conditionPatterns (fun _ _ => nofun) _ _ _) fun patterns => ?_
  refine mapMarks_marks ?_ fun _ => rfl
  rw [List.map_flatMap]
  exact List.flatMap_congr fun found _ => (marksOf_plain _ _ found).symm

/-- **Without recording every operator does alike**, with marks that have no colour. -/
theorem body_plain (kind : OperatorKind) (site : Site) :
    kind.body { site with config := site.config.unrecorded } =
      (kind.body site).mapMarks Mark.plain := by
  -- Only the two filters look at the configuration, and only they mark.
  have hother : kind ≠ .keywordFilter → kind ≠ .messageFilter →
      kind.body { site with config := site.config.unrecorded } = kind.body site →
      kind.body { site with config := site.config.unrecorded } =
        (kind.body site).mapMarks Mark.plain := by
    intro hkeyword hmessage hsame
    refine hsame.trans ((body_may kind site).mapMarks_eq fun m hm => ?_).symm
    rcases hm.1 with h | h
    · exact hkeyword h
    · exact hmessage h
  cases kind with
  | keywordFilter => exact keywordFilter_plain site
  | messageFilter => exact messageFilter_plain site
  | _ => exact hother nofun nofun rfl

end Operator

/-! ## Runs go on alike -/

namespace Engine

variable {engine : Engine} {context : Context}

theorem mirrors_unrecorded (engine : Engine) (context : Context) :
    Scene.Mirrors Mark.plain ⟨engine, context⟩ ⟨engine.unrecorded, context.unrecorded⟩ where
  nodes := ⟨rfl, rfl, rfl⟩
  first _ _ := rfl
  lists _ := rfl
  body {node kind} _ := Operator.body_plain kind ((Scene.mk engine context).site node)

/-- **A run without records comes to the same session without records.** -/
theorem sessionFrom_unrecorded (engine : Engine) (context : Context) (chance : Chance) :
    engine.unrecorded.sessionFrom chance context.unrecorded =
      (engine.sessionFrom chance context).unrecorded :=
  sessionFrom_seen (engine.mirrors_unrecorded context) Session.view_unrecorded chance rfl

end Engine

namespace Tally

def unrecorded (tally : Tally) : Tally := { tally with context := tally.context.unrecorded }

theorem activate_unrecorded (tally : Tally) (id : String) :
    (tally.activate id).unrecorded = tally.unrecorded.activate id := by
  unfold activate Context.activate
  dsimp only
  by_cases hnew : (!tally.context.activatedIds.contains id && !tally.activated.contains id) = true
  · have hnew' : (!tally.unrecorded.context.activatedIds.contains id &&
        !tally.unrecorded.activated.contains id) = true := hnew
    rw [if_pos hnew, if_pos hnew']
    rfl
  · have hold : ¬(!tally.unrecorded.context.activatedIds.contains id &&
        !tally.unrecorded.activated.contains id) = true := hnew
    rw [if_neg hnew, if_neg hold]
    rfl

theorem foldl_activate_unrecorded (ids : List String) : ∀ tally : Tally,
    (ids.foldl activate tally).unrecorded = ids.foldl activate tally.unrecorded := by
  induction ids with
  | nil => exact fun _ => rfl
  | cons id rest ih =>
      intro tally
      rw [List.foldl_cons, List.foldl_cons, ih, activate_unrecorded]

theorem addFragments_unrecorded (fragments : List Fragment) : ∀ tally : Tally,
    (fragments.foldl addFragment tally).unrecorded =
      fragments.foldl addFragment tally.unrecorded := by
  induction fragments with
  | nil => exact fun _ => rfl
  | cons fragment rest ih =>
      intro tally
      rw [List.foldl_cons, List.foldl_cons, ih]
      congr 1
      exact foldl_activate_unrecorded fragment.ids (tally.appendTexts fragment.texts)

end Tally

def Context.rangesAt (context : Context) (slot : Nat) : List (Nat × Nat) :=
  (context.chatHighlights.getD slot []).flatMap (·.ranges)

/-- Two outcomes of runs differ in nothing but what was recorded: the colours of highlights, the
values of ports, and what earlier runs had left. -/
structure SameButRecords (outcome outcome' : Context × RunReport) : Prop where
  report : outcome.2 = outcome'.2
  messages : outcome.1.messages = outcome'.1.messages
  character : outcome.1.character = outcome'.1.character
  activatedIds : outcome.1.activatedIds = outcome'.1.activatedIds
  /-- For every message the same ranges are highlighted, in whatever colours. -/
  ranges : ∀ slot range, range ∈ outcome.1.rangesAt slot ↔ range ∈ outcome'.1.rangesAt slot

namespace Engine

variable {engine engine' : Engine} {context context' : Context} {s s' : Session}

theorem conclude_eq (engine : Engine) (context : Context) (s : Session) :
    let tally := s.fragments.foldl Tally.addFragment { context }
    (engine.conclude context s).1.unrecorded = tally.context.unrecorded ∧
    (engine.conclude context s).2 = ⟨tally.activated, s.warnings,
      s.executions.map fun execution => (engine.nodeId execution.1, execution.2),
      engine.roots.length⟩ := by
  refine ⟨?_, rfl⟩
  show (Context.addRecords _ s).unrecorded = _
  unfold Context.addRecords
  rw [Context.foldl_warn]
  rfl

theorem mem_rangesAt {slot : Nat} {range : Nat × Nat} :
    range ∈ (engine.conclude context s).1.rangesAt slot ↔
      slot < context.messages.length ∧ ∃ m ∈ s.marks.marks,
        m.message = context.messages.length - 1 - slot ∧ (m.start, m.stop) = range := by
  unfold Context.rangesAt
  rw [conclude_highlights, List.mem_flatMap, List.getD_eq_getElem?_getD]
  by_cases hslot : slot < context.messages.length
  · rw [MarkLog.slots_getElem? hslot, Option.getD_some]
    constructor
    · rintro ⟨highlight, hmem, hrange⟩
      obtain ⟨m, hm, hmessage, -, heq⟩ := MarkLog.mem_highlightsOf.mp ⟨highlight, hmem, rfl, hrange⟩
      exact ⟨hslot, m, hm, hmessage, heq⟩
    · rintro ⟨-, m, hm, hmessage, heq⟩
      obtain ⟨highlight, hmem, -, hrange⟩ :=
        MarkLog.mem_highlightsOf.mpr ⟨m, hm, hmessage, rfl, heq⟩
      exact ⟨highlight, hmem, hrange⟩
  · have hnone : (s.marks.slots context.messages.length)[slot]? = none := by
      rw [List.getElem?_eq_none_iff]
      simpa [MarkLog.slots] using hslot
    rw [hnone]
    constructor
    · rintro ⟨_, hmem, -⟩
      exact absurd hmem List.not_mem_nil
    · rintro ⟨hlt, -⟩
      exact absurd hlt hslot

/-- **What sessions agree on but for the records, runs agree on.** -/
theorem conclude_same (hid : ∀ node, engine.nodeId node = engine'.nodeId node)
    (hroots : engine.roots = engine'.roots) (hcontext : context.unrecorded = context'.unrecorded)
    (hs : s.unrecorded = s'.unrecorded) :
    SameButRecords (engine.conclude context s) (engine'.conclude context' s') := by
  have hfragments : s.fragments = s'.fragments := (congrArg Session.fragments hs :)
  have hwarnings : s.warnings = s'.warnings := (congrArg Session.warnings hs :)
  have hexecutions : s.executions = s'.executions := (congrArg Session.executions hs :)
  have hmessages : context.messages = context'.messages := (congrArg Context.messages hcontext :)
  have hmarks : s.marks.marks.map Mark.plain = s'.marks.marks.map Mark.plain :=
    (congrArg (fun s : Session => s.marks.marks) hs :)
  have htally : (s.fragments.foldl Tally.addFragment { context }).unrecorded =
      (s'.fragments.foldl Tally.addFragment { context := context' }).unrecorded := by
    rw [Tally.addFragments_unrecorded, Tally.addFragments_unrecorded, hfragments]
    unfold Tally.unrecorded
    dsimp only
    rw [hcontext]
  obtain ⟨hafter, hreport⟩ := engine.conclude_eq context s
  obtain ⟨hafter', hreport'⟩ := engine'.conclude_eq context' s'
  have hrest : (engine.conclude context s).1.unrecorded =
      (engine'.conclude context' s').1.unrecorded := by
    rw [hafter, hafter']
    exact congrArg Tally.context htally
  constructor
  · rw [hreport, hreport', hwarnings, hexecutions, hroots]
    have hactivated := congrArg Tally.activated htally
    simp only [hid]
    congr 1
  · exact (congrArg Context.messages hrest :)
  · exact (congrArg Context.character hrest :)
  · exact (congrArg Context.activatedIds hrest :)
  · intro slot range
    rw [mem_rangesAt, mem_rangesAt, hmessages]
    refine and_congr_right fun _ => ?_
    -- Whether there is such a mark can be told without its colour.
    have hplain : ∀ marks : List Mark, (∃ m ∈ marks,
        m.message = context'.messages.length - 1 - slot ∧ (m.start, m.stop) = range) ↔
          ∃ m ∈ marks.map Mark.plain,
            m.message = context'.messages.length - 1 - slot ∧ (m.start, m.stop) = range := by
      intro marks
      simp only [List.mem_map, exists_exists_and_eq_and]
      exact Iff.rfl
    rw [hplain s.marks.marks, hplain s'.marks.marks, hmarks]

/-- **Recording carries no weight.** Where configurations differ at most in what is recorded and in
colours, and contexts at most in what earlier runs recorded, runs on the same documents give the
same but for the records, wherever their draws begin. -/
theorem recording_has_no_weight (behavior : BehaviorDocument) (data : DataDocument)
    {config config' : Config} (hconfig : config.unrecorded = config'.unrecorded)
    {context context' : Context} (hcontext : context.unrecorded = context'.unrecorded) :
    (∀ chance, SameButRecords ((Engine.mk behavior data config).runFrom chance context)
      ((Engine.mk behavior data config').runFrom chance context')) ∧
    ∀ entropy, SameButRecords ((Engine.mk behavior data config).run context entropy)
      ((Engine.mk behavior data config').run context' entropy) := by
  have hfrom : ∀ chance, SameButRecords ((Engine.mk behavior data config).runFrom chance context)
      ((Engine.mk behavior data config').runFrom chance context') := by
    intro chance
    refine conclude_same (fun _ => rfl) rfl hcontext ?_
    have hengine : (Engine.mk behavior data config).unrecorded =
        (Engine.mk behavior data config').unrecorded := by
      unfold Engine.unrecorded
      dsimp only
      rw [hconfig]
    rw [← sessionFrom_unrecorded, ← sessionFrom_unrecorded, hengine, hcontext]
  refine ⟨hfrom, fun entropy => ?_⟩
  have hchance : config.chance entropy = config'.chance entropy := by
    have hseed : config.seed = config'.seed := (congrArg Config.seed hconfig :)
    unfold Config.chance
    rw [hseed]
  unfold Engine.run Engine.chance
  dsimp only
  rw [← hchance]
  exact hfrom (config.chance entropy)

/-- The keyword is marked in another colour, nothing is traced, and there is an old warning: the
same range is highlighted. -/
theorem lookout_records_no_weight :
    let config : Config := { recordTrace := false, keywordColor := "#000000" }
    let context : Context := { messages := [.user "my sword", .bot "hm"] }
    let context' : Context := { context with warnings := ["old"], debugNodes := ["chat"] }
    let other : Engine := ⟨lookout.behavior, lookout.data, config⟩
    lookout.config.unrecorded = config.unrecorded ∧ context.unrecorded = context'.unrecorded ∧
    SameButRecords (lookout.run context) (other.run context') ∧
    (3, 8) ∈ (other.run context').1.rangesAt 1 := by
  intro config context context' other
  have hconfig : lookout.config.unrecorded = config.unrecorded := rfl
  have hcontext : context.unrecorded = context'.unrecorded := rfl
  have hsame : SameButRecords (lookout.run context) (other.run context') :=
    (recording_has_no_weight lookout.behavior lookout.data hconfig hcontext).2 _
  have hrange : (3, 8) ∈ (lookout.run context).1.rangesAt 1 := by
    simp only [Engine.run, Engine.runFrom, Engine.conclude, Engine.sessionFrom, Engine.sessionWithin,
      lookout_roots]
    decide +kernel
  exact ⟨hconfig, hcontext, hsame, (hsame.ranges 1 (3, 8)).mp hrange⟩

end Engine

end StoryGraph
