import StoryGraph.Proofs.Scans

/-!
# Entries are split by their keywords

A filter by keywords gives on one side the entries of which a keyword occurs in a message that is
looked at, and on the other side all others, both in the order in which they came. How many ranges
are marked, and whether a message is known to be in the chat, has no weight for that. What is marked
are the first ranges of each entry in each message.

Main definitions: `KeywordReading`, `KeywordReading.Hears`, `KeywordReading.Marks`. Main result:
`Scene.keywords_split`.
-/

namespace StoryGraph

namespace Operator

/-- What a filter by keywords reads before it looks at anything. -/
structure KeywordReading where
  entries : List Value
  messages : List Value
  settings : ScanSettings
  attributeName : String

def askKeywordReading (site : Site) : Body KeywordReading := do
  let entries ← Body.askItems "entries"
  let messages ← askMessages site
  let settings ← askScanSettings site
  let attributeName := (← Body.askText "keyword_attribute").getD site.config.keywordAttribute
  return ⟨entries, messages, settings, attributeName⟩

namespace KeywordReading

variable {reading other : KeywordReading} {entry : Value}

/-! ## What is found -/

def patterns (reading : KeywordReading) (entry : Value) : List TextPattern :=
  keywordsOf entry reading.attributeName reading.settings.caseSensitive

def found (reading : KeywordReading) (entry : Value) : List Find :=
  finds (reading.patterns entry)
    (eligible reading.messages reading.settings.sender reading.settings.depth)

def marks (reading : KeywordReading) (color : String) : List Mark :=
  reading.entries.flatMap fun entry =>
    (reading.found entry).flatMap (marksOf color reading.settings.cap)

def outputs (reading : KeywordReading) : Outputs :=
  ⟨[("entries", .list (reading.entries.filter fun entry => !(reading.found entry).isEmpty)),
    ("unmatched", .list (reading.entries.filter fun entry => (reading.found entry).isEmpty))]⟩

theorem keywordFilter_eq (site : Site) : keywordFilter site = askKeywordReading site >>= fun r => do
    Body.markAll (r.marks site.config.keywordColor)
    return r.outputs := by
  unfold keywordFilter askKeywordReading
  simp only [Body.bind_assoc, Body.pure_bind]
  refine congrArg _ (funext fun entries => congrArg _ (funext fun messages =>
    congrArg _ (funext fun settings => congrArg _ (funext fun name => ?_))))
  simp only [List.partition_eq_filter_filter, List.filter_map, List.map_map, List.flatMap_map,
    Function.comp_def, Bool.not_not, List.map_id']
  rfl

/-! ## What it says -/

def HasPattern (reading : KeywordReading) (entry : Value) (pattern : TextPattern) : Prop :=
  ∃ value, entry.attribute? reading.attributeName = some value ∧
    ∃ keyword ∈ splitKeywords value,
      TextPattern.ofKeyword? keyword reading.settings.caseSensitive = some pattern

def Scans (reading : KeywordReading) (position : Nat) (message : Value) : Prop :=
  reading.settings.Scans reading.messages position message

/-- A keyword of the entry matches at least one character of a message that is looked at. -/
def Hears (reading : KeywordReading) (entry : Value) : Prop :=
  ∃ pattern, reading.HasPattern entry pattern ∧ ∃ position message,
    reading.Scans position message ∧
      ∃ range ∈ pattern.spans (Candidate.ofValue position message).text, range.1 < range.2

/-- The mark is one of the first ranges of an entry in a message whose place in the chat is
known. -/
def Marks (reading : KeywordReading) (color : String) (m : Mark) : Prop :=
  ∃ entry ∈ reading.entries, ∃ position message, reading.Scans position message ∧
    (Candidate.ofValue position message).index = some m.message ∧ m.color = color ∧
      ∃ spans,
        AllSpans (reading.patterns entry) (Candidate.ofValue position message).text spans ∧
        (m.start, m.stop) ∈ firstItems reading.settings.cap spans

theorem mem_patterns {pattern : TextPattern} :
    pattern ∈ reading.patterns entry ↔ reading.HasPattern entry pattern := by
  unfold patterns keywordsOf HasPattern
  cases entry.attribute? reading.attributeName with
  | none => simp
  | some value =>
      simp only [Option.map_some, Option.getD_some, List.mem_filterMap, Option.some.injEq,
        exists_eq_left']

theorem HasPattern.isMade {pattern : TextPattern} (h : reading.HasPattern entry pattern) :
    pattern.IsMade := by
  obtain ⟨_, -, keyword, -, hpattern⟩ := h
  exact ⟨keyword, _, .inl hpattern⟩

/-- **An entry is a hit exactly if it is heard of.** -/
theorem found_ne_nil_iff : reading.found entry ≠ [] ↔ reading.Hears entry := by
  unfold found
  rw [Ne, finds_eq_nil_iff]
  push Not
  constructor
  · rintro ⟨candidate, hcandidate, pattern, hpattern, hspans⟩
    obtain ⟨position, message, hscans, rfl⟩ := mem_eligible_iff.mp hcandidate
    obtain ⟨range, hrange⟩ := List.exists_mem_of_ne_nil _ hspans
    have hpattern := mem_patterns.mp hpattern
    exact ⟨pattern, hpattern, position, message, hscans, range, hrange,
      hpattern.isMade.spans_nonempty range hrange⟩
  · rintro ⟨pattern, hpattern, position, message, hscans, range, hrange, -⟩
    exact ⟨_, mem_eligible_iff.mpr ⟨position, message, hscans, rfl⟩, pattern,
      mem_patterns.mpr hpattern, List.ne_nil_of_mem hrange⟩

theorem marks_nonempty (reading : KeywordReading) (color : String) :
    ∀ m ∈ reading.marks color, m.start < m.stop := by
  intro m hm
  obtain ⟨entry, -, hm⟩ := List.mem_flatMap.mp hm
  exact flatMap_marksOf_nonempty (fun pattern hpattern => (mem_patterns.mp hpattern).isMade) m hm

/-- **What is marked is what should be.** -/
theorem mem_marks {color : String} {m : Mark} :
    m ∈ reading.marks color ↔ reading.Marks color m := by
  unfold marks Marks found
  simp only [List.mem_flatMap (b := m) (l := reading.entries), mem_flatMap_marksOf,
    mem_eligible_iff, allSpans_iff, exists_eq_left]
  refine exists_congr fun entry => and_congr_right fun _ => ?_
  constructor
  · rintro ⟨_, ⟨position, message, hscans, rfl⟩, hmark⟩
    exact ⟨position, message, hscans, hmark⟩
  · rintro ⟨position, message, hscans, hmark⟩
    exact ⟨_, ⟨position, message, hscans, rfl⟩, hmark⟩

open Classical in
theorem outputs_eq (reading : KeywordReading) : reading.outputs =
    ⟨[("entries", .list (reading.entries.filter (reading.Hears ·))),
      ("unmatched", .list (reading.entries.filter (¬reading.Hears ·)))]⟩ := by
  have hfound : ∀ entry, (reading.found entry).isEmpty = decide (¬reading.Hears entry) := by
    intro entry
    rw [Bool.eq_iff_iff, List.isEmpty_iff, decide_eq_true_iff, ← found_ne_nil_iff, not_not]
  unfold outputs
  simp only [hfound, decide_not, Bool.not_not]

/-! ## What has no weight -/

/-- What a filter sees of a message besides its place in the chat: the text, and whose it is. -/
def words (message : Value) : String × Option Bool :=
  ((Candidate.ofValue 0 message).text, (message.get? "is_bot").bind Value.toBool?)

/-- The readings are the same but for how much is marked, and for what messages have besides their
words. -/
structure Alike (reading other : KeywordReading) : Prop where
  entries : other.entries = reading.entries
  messages : other.messages.map words = reading.messages.map words
  sender : other.settings.sender = reading.settings.sender
  caseSensitive : other.settings.caseSensitive = reading.settings.caseSensitive
  depth : other.settings.depth = reading.settings.depth
  attributeName : other.attributeName = reading.attributeName

theorem Alike.symm (h : reading.Alike other) : other.Alike reading :=
  ⟨h.entries.symm, h.messages.symm, h.sender.symm, h.caseSensitive.symm, h.depth.symm,
    h.attributeName.symm⟩

theorem candidate_text (position : Nat) (message : Value) :
    (Candidate.ofValue position message).text = (words message).1 := by
  cases message <;> rfl

theorem Alike.scans (h : reading.Alike other) {position : Nat} {message : Value}
    (hscans : reading.Scans position message) :
    ∃ same, other.Scans position same ∧ words same = words message := by
  obtain ⟨hstands, hcounts, hrecent⟩ := hscans
  have hget : (other.messages.map words)[position]? = some (words message) := by
    rw [h.messages, List.getElem?_map, hstands]
    rfl
  rw [List.getElem?_map] at hget
  obtain ⟨same, hsame, hwords⟩ := Option.map_eq_some_iff.mp hget
  have hcount : ∀ (sender : Sender) (messages : List Value) (n : Nat),
      (messages.drop n).countP sender.counts =
        ((messages.map words).drop n).countP fun said => sender.accepts said.2 := by
    intro sender messages n
    rw [← List.map_drop, List.countP_map]
    rfl
  refine ⟨same, ⟨hsame, ?_, ?_⟩, hwords⟩
  · show other.settings.sender.accepts (words same).2 = true
    rw [h.sender, hwords]
    exact hcounts
  · rw [hcount] at hrecent ⊢
    rw [h.sender, h.depth, h.messages]
    exact hrecent

theorem Alike.hears (h : reading.Alike other) (hentry : reading.Hears entry) :
    other.Hears entry := by
  obtain ⟨pattern, hpattern, position, message, hscans, hrange⟩ := hentry
  obtain ⟨same, hsame, hwords⟩ := h.scans hscans
  refine ⟨pattern, ?_, position, same, hsame, ?_⟩
  · unfold HasPattern
    rw [h.attributeName, h.caseSensitive]
    exact hpattern
  · rw [candidate_text, hwords, ← candidate_text]
    exact hrange

theorem Alike.outputs (h : reading.Alike other) : other.outputs = reading.outputs := by
  have hhears : other.Hears = reading.Hears :=
    funext fun entry => propext ⟨h.symm.hears, h.hears⟩
  rw [outputs_eq, outputs_eq, h.entries, hhears]

end KeywordReading

end Operator

namespace Scene

open Operator

variable {scene : Scene} {pull : Pull} {node : Nat}

theorem execute_keywordFilter {s t : Session} {reading : KeywordReading}
    (hread : scene.performWith pull node (askKeywordReading (scene.site node)) (s.enter node) =
      (reading, t)) :
    (scene.execute pull node .keywordFilter s).1 = reading.outputs ∧
      (scene.execute pull node .keywordFilter s).2.marks.marks =
        (reading.marks scene.engine.config.keywordColor).reverse ++ t.marks.marks := by
  obtain ⟨houtputs, hmarks⟩ :=
    execute_filter .keywordFilter (KeywordReading.keywordFilter_eq (scene.site node)) hread
  rw [List.filter_eq_self.mpr fun m hm => decide_eq_true (reading.marks_nonempty _ m hm)] at hmarks
  exact ⟨houtputs, hmarks⟩

open Classical in
/-- **Entries are split by their keywords.** Whatever the inputs and settings are that a filter
reads, it gives each entry on one side, in order: among the hits exactly if a keyword of it matches
in a message that is looked at. To the marks that there were it adds exactly the first ranges of
each entry in each message with a place in the chat. Another run that reads the same but for how
much is marked and where messages stand in the chat gives the same. -/
theorem keywords_split (scene : Scene) (pull : Pull) (node : Nat) (s : Session) :
    ∃ reading t,
      scene.performWith pull node (askKeywordReading (scene.site node)) (s.enter node) =
        (reading, t) ∧
      (scene.execute pull node .keywordFilter s).1 =
        ⟨[("entries", .list (reading.entries.filter (reading.Hears ·))),
          ("unmatched", .list (reading.entries.filter (¬reading.Hears ·)))]⟩ ∧
      (∃ added, (scene.execute pull node .keywordFilter s).2.marks.marks =
          added ++ t.marks.marks ∧
        ∀ m, m ∈ added ↔ reading.Marks scene.engine.config.keywordColor m) ∧
      ∀ (scene' : Scene) (pull' : Pull) (node' : Nat) (s' : Session) (other : KeywordReading)
        (t' : Session),
        scene'.performWith pull' node' (askKeywordReading (scene'.site node')) (s'.enter node') =
          (other, t') → reading.Alike other →
        (scene'.execute pull' node' .keywordFilter s').1 =
          (scene.execute pull node .keywordFilter s).1 := by
  generalize hread : scene.performWith pull node (askKeywordReading (scene.site node))
    (s.enter node) = read
  obtain ⟨reading, t⟩ := read
  obtain ⟨houtputs, hmarks⟩ := execute_keywordFilter hread
  refine ⟨reading, t, rfl, ?_, ⟨_, hmarks, fun m => ?_⟩, ?_⟩
  · rw [houtputs, KeywordReading.outputs_eq]
  · rw [List.mem_reverse, KeywordReading.mem_marks]
  · intro scene' pull' node' s' other t' hother halike
    rw [houtputs, (execute_keywordFilter hother).1, halike.outputs]

end Scene

end StoryGraph
