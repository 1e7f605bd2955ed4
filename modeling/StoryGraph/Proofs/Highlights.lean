import Mathlib.Data.String.Basic
import StoryGraph.Proofs.Unseeded

/-!
# Highlights lie inside their messages

A filter learns from a record which message of the chat it stands for and what its text is. So a
mark lies in the message that it names if every record with an index is that of a message. This
holds of all that comes into a run, as long as no entry calls a property of its own `index`, and no
operator builds records. What is marked is then shown: each mark in the slot of its message, and
nothing else in any slot.

Main definitions: `Context.IsHeard`, `Mark.Inside`, `Context.Shows`.
-/

namespace StoryGraph

/-! ## What slots show -/

section

variable {α : Type} {lt : α → α → Bool}

theorem mem_insertAscending (htie : ∀ a b, lt a b = false → lt b a = false → a = b)
    {item other : α} {items : List α} :
    other ∈ insertAscending lt item items ↔ other = item ∨ other ∈ items := by
  induction items with
  | nil => exact List.mem_cons
  | cons first rest ih =>
      unfold insertAscending
      split
      · exact List.mem_cons
      · rename_i hless
        split
        · rw [List.mem_cons, ih, List.mem_cons]
          exact or_left_comm
        · rename_i hmore
          -- The item is already there.
          have hsame : item = first :=
            htie item first (Bool.eq_false_iff.mpr hless) (Bool.eq_false_iff.mpr hmore)
          rw [hsame, List.mem_cons, or_self_left]

theorem mem_foldl_insertAscending (htie : ∀ a b, lt a b = false → lt b a = false → a = b)
    {other : α} (items : List α) : ∀ sorted : List α,
    other ∈ items.foldl (fun sorted item => insertAscending lt item sorted) sorted ↔
      other ∈ sorted ∨ other ∈ items := by
  induction items with
  | nil => exact fun sorted => (or_iff_left List.not_mem_nil).symm
  | cons item rest ih =>
      intro sorted
      rw [List.foldl_cons, ih, mem_insertAscending htie, List.mem_cons, or_assoc]
      exact or_left_comm

theorem mem_ascending (htie : ∀ a b, lt a b = false → lt b a = false → a = b) {item : α}
    {items : List α} : item ∈ ascending lt items ↔ item ∈ items := by
  unfold ascending
  rw [mem_foldl_insertAscending htie]
  exact or_iff_right List.not_mem_nil

end

theorem rangeLt_tie (a b : Nat × Nat) (hless : rangeLt a b = false) (hmore : rangeLt b a = false) :
    a = b := by
  simp only [rangeLt, Bool.or_eq_false_iff, Bool.and_eq_false_iff, decide_eq_false_iff_not,
    beq_eq_false_iff_ne] at hless hmore
  exact Prod.ext (by omega) (by omega)

theorem stringLt_tie (a b : String) (hless : decide (a < b) = false)
    (hmore : decide (b < a) = false) : a = b :=
  le_antisymm (not_lt.mp (decide_eq_false_iff_not.mp hmore))
    (not_lt.mp (decide_eq_false_iff_not.mp hless))

namespace MarkLog

variable {log : MarkLog} {message : Nat} {color : String} {range : Nat × Nat}

/-- **A message is highlighted as it was marked.** -/
theorem mem_highlightsOf :
    (∃ highlight ∈ log.highlightsOf message, highlight.color = color ∧ range ∈ highlight.ranges) ↔
      ∃ m ∈ log.marks, m.message = message ∧ m.color = color ∧ (m.start, m.stop) = range := by
  have hmarks : ∀ m, m ∈ log.marks.filter (·.message == message) ↔
      m ∈ log.marks ∧ m.message = message := by
    intro m
    rw [List.mem_filter, beq_iff_eq]
  have hranges : range ∈ rangesOf (log.marks.filter (·.message == message)) color ↔
      ∃ m ∈ log.marks, m.message = message ∧ m.color = color ∧ (m.start, m.stop) = range := by
    unfold rangesOf
    rw [mem_ascending rangeLt_tie, List.mem_map]
    simp only [List.mem_filter, beq_iff_eq, and_assoc]
  constructor
  · rintro ⟨highlight, hmem, rfl, hrange⟩
    obtain ⟨shown, -, rfl⟩ := List.mem_map.mp hmem
    exact hranges.mp hrange
  · rintro ⟨m, hm, hmessage, rfl, hrange⟩
    refine ⟨⟨m.color, rangesOf _ m.color⟩, List.mem_map.mpr ⟨m.color, ?_, rfl⟩, rfl, ?_⟩
    · rw [mem_ascending stringLt_tie]
      exact List.mem_map_of_mem ((hmarks m).mpr ⟨hm, hmessage⟩)
    · exact hranges.mpr ⟨m, hm, hmessage, rfl, hrange⟩

theorem slots_getElem? {count k : Nat} (h : k < count) :
    (log.slots count)[k]? = some (log.highlightsOf (count - 1 - k)) := by
  unfold slots
  rw [List.getElem?_map, List.getElem?_reverse (by rwa [List.length_range]), List.length_range,
    List.getElem?_range (by omega)]
  rfl

end MarkLog

/-! ## What marks are made in -/

theorem Message.toRecord_get? (message : Message) (index : Nat) :
    (message.toRecord index).get? "message" = some (.text message.message) ∧
      (message.toRecord index).get? "index" = some (.ofNat index) := by
  have hdate : message.date.toList = [] ∨ ∃ date, message.date.toList = [date] := by
    cases message.date with
    | none => exact .inl rfl
    | some date => exact .inr ⟨date, rfl⟩
  unfold Message.toRecord
  rcases hdate with hnone | ⟨date, hsome⟩
  · rw [hnone]
    simp [Value.ofFields, Value.get?, Fields.ofList, Fields.get?_insert]
  · rw [hsome]
    simp [Value.ofFields, Value.get?, Fields.ofList, Fields.get?_insert]

/-- The mark is a range of characters of the message of the chat that it names. -/
structure Mark.Inside (chat : List Message) (m : Mark) : Prop where
  nonempty : m.start < m.stop
  bounded : ∃ message, chat[m.message]? = some message ∧ m.stop ≤ message.message.length

/-- Every record with an index, anywhere in the value, is the record of a message of the chat. -/
def Context.IsHeard (context : Context) : Value → Prop :=
  Value.EveryRecord fun fields =>
    (Fields.get? fields "index").isSome → Value.record fields ∈ chatRecords context.messages

theorem Mark.LiesIn.inside {context : Context} {m : Mark} {value : Value} (h : m.LiesIn value)
    (hvalue : context.IsHeard value) (hm : m.start < m.stop) : m.Inside context.messages := by
  obtain ⟨position, hindex, hstop⟩ := h
  cases value with
  | record fields =>
      change (Fields.get? fields "index").bind Value.toNat? = some m.message at hindex
      change m.stop ≤ (((Fields.get? fields "message").map Value.display).getD "").length at hstop
      have hsome : (Fields.get? fields "index").isSome := by
        cases hget : Fields.get? fields "index" with
        | none => exact nomatch hget ▸ hindex
        | some _ => rfl
      obtain ⟨⟨message, index⟩, hmem, heq⟩ := List.mem_map.mp (hvalue fields .self hsome)
      obtain ⟨htext, hnumber⟩ := message.toRecord_get? index
      rw [show message.toRecord index = .record fields from heq] at htext hnumber
      rw [show Fields.get? fields "message" = _ from htext] at hstop
      rw [show Fields.get? fields "index" = _ from hnumber] at hindex
      obtain rfl : index = m.message := Option.some.inj hindex
      exact ⟨hm, message, List.mk_mem_zipIdx_iff_getElem?.mp hmem, hstop⟩
  | _ => exact nomatch hindex

namespace Engine

variable {engine : Engine} {context : Context}

def Unindexed (engine : Engine) : Prop :=
  ∀ entry ∈ engine.data.entries, "index" ∉ entry.properties.map Prod.fst

instance (engine : Engine) : Decidable engine.Unindexed :=
  inferInstanceAs (Decidable (∀ entry ∈ engine.data.entries, _))

/-- The record of an entry has a field by such a name only if the entry has such a property. -/
theorem entry_unindexed (h : engine.Unindexed) {fields : Fields}
    (hfields : Value.record fields ∈ engine.entries) : Fields.get? fields "index" = none := by
  obtain ⟨entry, hentry, heq⟩ := List.mem_map.mp hfields
  by_contra hget
  obtain ⟨value, hvalue⟩ := Option.ne_none_iff_exists'.mp hget
  have hmem := Fields.mem_of_get? hvalue
  cases (Entry.toRecord_eq entry).symm.trans heq
  rcases Fields.mem_foldl (R := fun pair other => other = pair)
    (fun _ _ _ => Entry.mem_addProperty) entry.properties hmem with ⟨_, hproperty, rfl⟩ | hown
  · exact h entry hentry (List.mem_map_of_mem hproperty)
  · have hown := Fields.mem_ofList hown
    simp at hown

theorem site_heard (h : engine.Unindexed) (context : Context) (node : Nat) :
    ((Scene.mk engine context).site node).Has context.IsHeard where
  entries := by
    refine entries_everyRecord (fun _ _ _ h => nomatch h) fun fields hfields hindex => ?_
    rw [entry_unindexed h hfields] at hindex
    exact nomatch hindex
  messages := chatRecords_everyRecord fun _ h _ => h

end Engine

/-! ## Runs -/

@[simp] theorem Session.reportCycle_marks (s : Session) (node : Nat) (id : String) :
    (s.reportCycle node id).marks = s.marks := by
  unfold reportCycle
  split <;> rfl

def Session.MarksInside (chat : List Message) (s : Session) : Prop :=
  ∀ m ∈ s.marks.marks, m.Inside chat

namespace Engine

variable {engine : Engine} {context : Context}

/-- **Marks stay inside** whatever a run does, as long as records with an index are messages. -/
theorem withstands_marksInside (engine : Engine) (context : Context) :
    (Scene.mk engine context).Withstands context.IsHeard
      (Session.MarksInside context.messages) where
  bears _ :=
    { warn := fun _ hs => hs
      draw := fun _ hs => hs
      mark := by
        rintro s m ⟨-, message, hmessage, hlies⟩ hs
        show ∀ other ∈ (s.marks.record m).marks, other.Inside context.messages
        unfold MarkLog.record
        split
        · rename_i hnonempty
          exact List.forall_mem_cons.mpr ⟨hlies.inside hmessage hnonempty, hs⟩
        · exact hs }
  cycle _ hs := by
    unfold Session.MarksInside
    rw [Session.reportCycle_marks]
    exact hs
  missing hs := hs
  enter hs := hs
  leave hs := hs

theorem sessionFrom_marksInside (h : engine.Unindexed) (chance : Chance) :
    (engine.sessionFrom chance context).MarksInside context.messages := by
  have hG : Value.Hereditary context.IsHeard := Value.hereditary_everyRecord _
  have hsite := engine.site_heard h context
  have hproperty : ∀ {node name value}, engine.property? node name = some value →
      context.IsHeard value :=
    property?_everyRecord fun _ _ _ h => nomatch h
  exact sessionFrom_withstands (Scene.upholds_all hG hsite hproperty) hG hsite (engine.withstands_marksInside context)
    (fun _ hs => hs) fun _ hm => absurd hm List.not_mem_nil

end Engine

/-- The highlights of a chat, the latest message first, are ranges of their messages, and show all
of the marks. -/
structure Context.Shows (context : Context) (slots : List (List Highlight)) (marks : List Mark) :
    Prop where
  /-- There is one slot for each message. -/
  length_eq : slots.length = context.messages.length
  inside : ∀ k highlights, slots[k]? = some highlights →
    ∃ message, context.messages[context.messages.length - 1 - k]? = some message ∧
      ∀ highlight ∈ highlights, ∀ range ∈ highlight.ranges,
        range.1 < range.2 ∧ range.2 ≤ message.message.length
  /-- No mark is dropped. -/
  shown : ∀ m ∈ marks, m.message < context.messages.length ∧
    ∃ highlights, slots[context.messages.length - 1 - m.message]? = some highlights ∧
      ∃ highlight ∈ highlights, highlight.color = m.color ∧ (m.start, m.stop) ∈ highlight.ranges

theorem Session.MarksInside.shows {context : Context} {s : Session}
    (h : s.MarksInside context.messages) :
    context.Shows (s.marks.slots context.messages.length) s.marks.marks where
  length_eq := by simp [MarkLog.slots]
  inside := by
    intro k highlights hslot
    have hk : k < context.messages.length := by
      obtain ⟨hlt, -⟩ := List.getElem?_eq_some_iff.mp hslot
      simpa [MarkLog.slots] using hlt
    rw [MarkLog.slots_getElem? hk] at hslot
    cases hslot
    have hindex : context.messages.length - 1 - k < context.messages.length := by omega
    refine ⟨_, List.getElem?_eq_getElem hindex, fun highlight hhighlight range hrange => ?_⟩
    obtain ⟨m, hm, hmessage, -, rfl⟩ :=
      MarkLog.mem_highlightsOf.mp ⟨highlight, hhighlight, rfl, hrange⟩
    obtain ⟨hnonempty, message, hget, hstop⟩ := h m hm
    rw [hmessage, List.getElem?_eq_getElem hindex] at hget
    cases hget
    exact ⟨hnonempty, hstop⟩
  shown := by
    intro m hm
    obtain ⟨-, message, hget, -⟩ := h m hm
    obtain ⟨hlt, -⟩ := List.getElem?_eq_some_iff.mp hget
    refine ⟨hlt, _, MarkLog.slots_getElem? (by omega), ?_⟩
    have hslot : context.messages.length - 1 - (context.messages.length - 1 - m.message) =
        m.message := by omega
    rw [hslot]
    exact MarkLog.mem_highlightsOf.mpr ⟨m, hm, rfl, rfl, rfl⟩

namespace Engine

/-- **Highlights lie inside their messages.** If no entry calls a property `index`, every range
that a run leaves in a slot is a range of characters of the slot's message, and every mark that was
made is shown, wherever the draws begin. -/
theorem highlights_lie_inside (engine : Engine) (context : Context) (h : engine.Unindexed) :
    (∀ entropy, engine.run context entropy = engine.runFrom (engine.chance entropy) context) ∧
    ∀ chance, context.Shows (engine.runFrom chance context).1.chatHighlights
      (engine.sessionFrom chance context).marks.marks := by
  refine ⟨fun _ => rfl, fun chance => ?_⟩
  have hinside : (engine.sessionFrom chance context).MarksInside context.messages :=
    sessionFrom_marksInside h chance
  show context.Shows (engine.conclude context (engine.sessionFrom chance context)).1.chatHighlights _
  rw [conclude_highlights]
  exact hinside.shows

/-- The chat reaches a filter of keywords through a slice and a gate of chance. -/
def lookout : Engine where
  behavior := {
    strings := ⟨["source_entries", "source_messages", "slice", "probability", "keyword_filter",
      "output_entries", "entries", "messages", "list", "value", "chance"]⟩
    nodeIds := ["lore", "chat", "latest", "perhaps", "heard", "result"]
    nodes := [⟨0, ⟨[]⟩⟩, ⟨1, ⟨[]⟩⟩, ⟨2, ⟨[]⟩⟩, ⟨3, ⟨[(10, .number 1)]⟩⟩, ⟨4, ⟨[]⟩⟩, ⟨5, ⟨[]⟩⟩]
    edges := [⟨1, 7, 2, 8⟩, ⟨2, 8, 3, 9⟩, ⟨3, 9, 4, 7⟩, ⟨0, 6, 4, 6⟩, ⟨4, 6, 5, 6⟩] }
  data := {
    strings := ⟨["keywords", "sword"]⟩
    items := [⟨"excalibur", 0, ⟨[(0, .string 1)]⟩⟩] }
  config := {}

theorem lookout_roots : lookout.roots = [5] := by
  have hroots : ((List.range lookout.nodeCount).filter fun node =>
      (lookout.kind? node).any OperatorKind.isRoot) = [5] := by decide +kernel
  rw [Engine.roots, hroots]
  exact List.mergeSort_singleton 5

/-- The keyword is found in the first of two messages, which is the last to be shown. -/
theorem lookout_highlights :
    let context : Context := { messages := [.user "my sword", .bot "hm"] }
    lookout.Unindexed ∧
    context.Shows (lookout.run context).1.chatHighlights
      (lookout.sessionFrom lookout.chance context).marks.marks ∧
    (lookout.run context).1.chatHighlights = [[], [⟨"#ffd54f", [(3, 8)]⟩]] := by
  intro context
  have hdata : lookout.Unindexed := by decide +kernel
  obtain ⟨hrun, hshows⟩ := lookout.highlights_lie_inside context hdata
  refine ⟨hdata, hrun _ ▸ hshows lookout.chance, ?_⟩
  simp only [Engine.run, Engine.runFrom, Engine.conclude, Engine.sessionFrom, Engine.sessionWithin,
    lookout_roots]
  decide +kernel

end Engine

end StoryGraph
