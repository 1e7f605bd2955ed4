import Mathlib.Algebra.Order.BigOperators.Group.Finset
import StoryGraph.Proofs.Highlights
import StoryGraph.Proofs.KeywordSplit

/-!
# How much is marked

Filters can be told to mark only the first ranges at a time. A filter of messages looks at a message
with all its patterns at once, so that is a bound for the message. A filter by keywords looks at a
message once for each entry, so it is a bound for the entry in the message: two entries may have
twice as many ranges there.

Main definition: `rangesOn`. Main result: `Scene.caps_hold`.
-/

namespace StoryGraph

namespace Operator

def marksOn (i : Nat) (marks : List Mark) : List Mark := marks.filter (·.message == i)

def rangesOn (i : Nat) (marks : List Mark) : Finset (Nat × Nat) :=
  ((marksOn i marks).map fun m => (m.start, m.stop)).toFinset

def timesIn (messages : List Value) (i : Nat) : Nat :=
  messages.countP fun message => (Candidate.ofValue 0 message).index == some i

section

variable {i cap : Nat} {color : String} {marks more : List Mark} {patterns : List TextPattern}
  {candidates : List Candidate} {range : Nat × Nat}

theorem mem_rangesOn : range ∈ rangesOn i marks ↔
    ∃ m ∈ marks, m.message = i ∧ (m.start, m.stop) = range := by
  simp only [rangesOn, marksOn, List.mem_toFinset, List.mem_map, List.mem_filter, beq_iff_eq,
    and_assoc]

theorem rangesOn_reverse : rangesOn i marks.reverse = rangesOn i marks := by
  ext range
  simp only [mem_rangesOn, List.mem_reverse]

theorem marksOn_append : marksOn i (marks ++ more) = marksOn i marks ++ marksOn i more :=
  List.filter_append ..

/-- Empty marks are left out, and the order is turned around; that adds no mark. -/
theorem length_marksOn_noted : (marksOn i (marks.filter fun m => m.start < m.stop).reverse).length ≤
    (marksOn i marks).length := by
  unfold marksOn
  rw [List.filter_reverse, List.length_reverse]
  exact (List.filter_sublist.filter _).length_le

theorem rangesOn_noted_subset :
    rangesOn i (marks.filter fun m => m.start < m.stop).reverse ⊆ rangesOn i marks := by
  intro range hrange
  obtain ⟨m, hm, hmark⟩ := mem_rangesOn.mp hrange
  exact mem_rangesOn.mpr ⟨m, List.mem_of_mem_filter (List.mem_reverse.mp hm), hmark⟩

/-! ## One look at a message -/

theorem length_firstItems_le {α : Type} (hcap : 0 < cap) (items : List α) :
    (firstItems cap items).length ≤ cap := by
  unfold firstItems
  rw [if_neg (Nat.ne_of_gt hcap)]
  exact List.length_take_le cap items

theorem length_marksOn_marksOf_le (i : Nat) (color : String) (hcap : 0 < cap) (found : Find) :
    (marksOn i (marksOf color cap found)).length ≤
      if found.candidate.index == some i then cap else 0 := by
  split
  · refine Nat.le_trans (List.length_filter_le ..) ?_
    unfold marksOf
    split
    · rw [List.length_map]
      exact length_firstItems_le hcap _
    · exact Nat.zero_le cap
  · rename_i hindex
    have hnone : marksOn i (marksOf color cap found) = [] := by
      refine List.filter_eq_nil_iff.mpr fun m hm hmessage => ?_
      rw [(mem_marksOf_iff.mp hm).1, eq_of_beq hmessage, beq_self_eq_true] at hindex
      exact hindex rfl
    rw [hnone]
    exact Nat.zero_le 0

theorem length_marksOn_finds_le (hcap : 0 < cap) (candidates : List Candidate) :
    (marksOn i ((finds patterns candidates).flatMap (marksOf color cap))).length ≤
      cap * candidates.countP (·.index == some i) := by
  rw [flatMap_finds]
  induction candidates with
  | nil => exact Nat.zero_le _
  | cons candidate rest ih =>
      have hhead := length_marksOn_marksOf_le i color hcap
        ⟨candidate, spansOf patterns candidate.text⟩
      rw [List.flatMap_cons, marksOn_append, List.length_append, List.countP_cons]
      split at hhead
      · rename_i hindex
        rw [if_pos hindex, Nat.mul_succ]
        omega
      · rename_i hindex
        rw [if_neg hindex, Nat.add_zero]
        omega

theorem countP_eligible_le (messages : List Value) (sender : Sender) (depth : Nat) :
    (eligible messages sender depth).countP (·.index == some i) ≤ timesIn messages i := by
  have hlast : ∀ {α : Type} (items : List α), (lastItems depth items).Sublist items := by
    intro α items
    unfold lastItems
    split
    · exact List.Sublist.refl items
    · exact List.drop_sublist _ items
  have hindex : ∀ item : Value × Nat,
      (Candidate.ofValue item.2 item.1).index = (Candidate.ofValue 0 item.1).index := by
    rintro ⟨value, position⟩
    cases value <;> rfl
  calc (eligible messages sender depth).countP (·.index == some i)
      ≤ ((messages.zipIdx.map fun item => Candidate.ofValue item.2 item.1)).countP
          (·.index == some i) :=
        ((hlast _).trans (List.filter_sublist.map _)).countP_le
    _ = messages.zipIdx.countP fun item => (Candidate.ofValue 0 item.1).index == some i := by
        rw [List.countP_map]
        simp only [Function.comp_def, hindex]
    _ = timesIn messages i := by
        rw [timesIn, ← List.zipIdx_map_fst 0 messages, List.countP_map, List.zipIdx_map_fst]
        rfl

/-! ## Messages of the chat -/

def FromChat (chat : List Message) (messages : List Value) : Prop :=
  ∀ message ∈ messages, message ∈ chatRecords chat

variable {chat : List Message} {messages : List Value} {settings : ScanSettings}
  {message : Message}

theorem FromChat.text_eq (h : FromChat chat messages) {candidate : Candidate}
    (hcandidate : candidate ∈ eligible messages settings.sender settings.depth)
    (hindex : candidate.index = some i) (hi : chat[i]? = some message) :
    candidate.text = message.message := by
  obtain ⟨position, value, hscans, rfl⟩ := mem_eligible_iff.mp hcandidate
  obtain ⟨⟨said, index⟩, hmem, heq⟩ :=
    List.mem_map.mp (h value (List.mem_of_getElem? hscans.stands))
  obtain ⟨htext, hnumber⟩ := said.toRecord_get? index
  rw [show said.toRecord index = value from heq] at htext hnumber
  cases value with
  | record fields =>
      change (Fields.get? fields "index").bind Value.toNat? = some i at hindex
      rw [show Fields.get? fields "index" = _ from hnumber] at hindex
      obtain rfl : index = i := Option.some.inj hindex
      have hsaid : chat[index]? = some said := List.mk_mem_zipIdx_iff_getElem?.mp hmem
      obtain rfl : said = message := Option.some.inj (hsaid.symm.trans hi)
      change ((Fields.get? fields "message").map Value.display).getD "" = said.message
      rw [show Fields.get? fields "message" = _ from htext]
      rfl
  | _ => exact nomatch hindex

/-- **What patterns mark in a message** are the first ranges of all of them there. -/
theorem FromChat.mem_rangesOn_finds (h : FromChat chat messages) (hi : chat[i]? = some message) :
    range ∈ rangesOn i ((finds patterns (eligible messages settings.sender settings.depth)).flatMap
        (marksOf color cap)) ↔
      (∃ candidate ∈ eligible messages settings.sender settings.depth,
        candidate.index = some i) ∧ range ∈ firstItems cap (spansOf patterns message.message) := by
  simp only [mem_rangesOn, mem_flatMap_marksOf]
  constructor
  · rintro ⟨m, ⟨candidate, hcandidate, hindex, -, hrange⟩, rfl, rfl⟩
    rw [h.text_eq hcandidate hindex hi] at hrange
    exact ⟨⟨candidate, hcandidate, hindex⟩, hrange⟩
  · rintro ⟨⟨candidate, hcandidate, hindex⟩, hrange⟩
    rw [← h.text_eq hcandidate hindex hi] at hrange
    exact ⟨⟨i, color, range.1, range.2⟩, ⟨candidate, hcandidate, hindex, rfl, hrange⟩, rfl, rfl⟩

end

/-! ## Filters of messages -/

/-- What a filter of messages reads before it looks at anything. -/
structure MessageReading where
  messages : List Value
  settings : ScanSettings
  /-- The conditions, with the patterns of those that are usable. -/
  patterns : List (String × Option TextPattern)

def askMessageReading (site : Site) : Body MessageReading := do
  let messages ← askMessages site
  let conditions := ((← Body.askItems "conditions").map Value.display).filter fun condition =>
    !(Text.trim condition).isEmpty
  let useRegex ← Body.askFlag "use_regex" false
  let settings ← askScanSettings site
  let patterns ← conditionPatterns site useRegex settings.caseSensitive conditions
  return ⟨messages, settings, patterns⟩

namespace MessageReading

def candidates (reading : MessageReading) : List Candidate :=
  eligible reading.messages reading.settings.sender reading.settings.depth

def found (reading : MessageReading) : List Find :=
  finds (reading.patterns.filterMap (·.2)) reading.candidates

def marks (reading : MessageReading) (color : String) : List Mark :=
  reading.found.flatMap (marksOf color reading.settings.cap)

def outputs (reading : MessageReading) : Outputs :=
  let (hitMessages, otherMessages) := reading.messages.zipIdx.partition fun (_, position) =>
    reading.found.any (·.candidate.position == position)
  let (hitConditions, otherConditions) := reading.patterns.partition fun (_, pattern) =>
    matchesSome reading.candidates pattern
  ⟨[
    ("matched_messages", .list (hitMessages.map (·.1))),
    ("unmatched_messages", .list (otherMessages.map (·.1))),
    ("matched_conditions", .list (hitConditions.map fun (condition, _) => .text condition)),
    ("unmatched_conditions", .list (otherConditions.map fun (condition, _) => .text condition)),
    ("matched", .bool !hitMessages.isEmpty)]⟩

theorem messageFilter_eq (site : Site) : messageFilter site = askMessageReading site >>= fun r => do
    Body.markAll (r.marks site.config.messageColor)
    return r.outputs := by
  unfold messageFilter askMessageReading
  simp only [Body.bind_assoc, Body.pure_bind]
  rfl

/-- In a message of the chat no more ranges are marked than are to be marked at a time; and no more
marks are made than that for each time that the message is in the list. -/
structure Capped (reading : MessageReading) (chat : List Message) (added : List Mark) : Prop where
  card_le : ∀ i < chat.length, (rangesOn i added).card ≤ reading.settings.cap
  length_le : ∀ i, (marksOn i added).length ≤ reading.settings.cap * timesIn reading.messages i

variable {reading : MessageReading} {chat : List Message} {color : String}

theorem capped (hcap : 0 < reading.settings.cap) (h : FromChat chat reading.messages) :
    reading.Capped chat ((reading.marks color).filter fun m => m.start < m.stop).reverse where
  card_le i hi := by
    have hsubset : rangesOn i (reading.marks color) ⊆ (firstItems reading.settings.cap
        (spansOf (reading.patterns.filterMap (·.2)) chat[i].message)).toFinset :=
      fun range hrange => List.mem_toFinset.mpr
        ((h.mem_rangesOn_finds (List.getElem?_eq_getElem hi)).mp hrange).2
    calc (rangesOn i ((reading.marks color).filter fun m => m.start < m.stop).reverse).card
        ≤ _ := Finset.card_le_card (rangesOn_noted_subset.trans hsubset)
      _ ≤ _ := List.toFinset_card_le _
      _ ≤ reading.settings.cap := length_firstItems_le hcap _
  length_le i :=
    calc (marksOn i ((reading.marks color).filter fun m => m.start < m.stop).reverse).length
        ≤ (marksOn i (reading.marks color)).length := length_marksOn_noted
      _ ≤ reading.settings.cap * reading.candidates.countP (·.index == some i) :=
        length_marksOn_finds_le hcap _
      _ ≤ reading.settings.cap * timesIn reading.messages i :=
        Nat.mul_le_mul_left _ (countP_eligible_le ..)

end MessageReading

/-! ## Filters by keywords -/

namespace KeywordReading

variable {reading : KeywordReading} {chat : List Message} {color : String} {i : Nat}
  {message : Message}

def heardIn (reading : KeywordReading) (text : String) : List Value :=
  reading.entries.filter fun entry => !(spansOf (reading.patterns entry) text).isEmpty

def LooksAt (reading : KeywordReading) (i : Nat) : Prop :=
  ∃ position message, reading.Scans position message ∧
    (Candidate.ofValue position message).index = some i

open Classical in
/-- In a message of the chat the first ranges of each entry are marked. So no more ranges are marked
than are to be marked at a time for each entry that is heard of there. -/
structure Capped (reading : KeywordReading) (chat : List Message) (added : List Mark) : Prop where
  mem_iff : ∀ i message, chat[i]? = some message → ∀ range, range ∈ rangesOn i added ↔
    reading.LooksAt i ∧ ∃ entry ∈ reading.entries,
      range ∈ firstItems reading.settings.cap (spansOf (reading.patterns entry) message.message)
  card_le : ∀ i message, chat[i]? = some message → (rangesOn i added).card ≤
    (reading.heardIn message.message).toFinset.card * reading.settings.cap
  length_le : ∀ i message, chat[i]? = some message → (marksOn i added).length ≤
    (reading.heardIn message.message).length *
      (reading.settings.cap * timesIn reading.messages i)

theorem mem_rangesOn_marks (h : FromChat chat reading.messages) (hi : chat[i]? = some message)
    (range : Nat × Nat) : range ∈ rangesOn i (reading.marks color) ↔
      reading.LooksAt i ∧ ∃ entry ∈ reading.entries,
        range ∈ firstItems reading.settings.cap
          (spansOf (reading.patterns entry) message.message) := by
  have hlooks : (∃ candidate ∈ eligible reading.messages reading.settings.sender
      reading.settings.depth, candidate.index = some i) ↔ reading.LooksAt i := by
    constructor
    · rintro ⟨_, hcandidate, hindex⟩
      obtain ⟨position, said, hscans, rfl⟩ := mem_eligible_iff.mp hcandidate
      exact ⟨position, said, hscans, hindex⟩
    · rintro ⟨position, said, hscans, hindex⟩
      exact ⟨_, mem_eligible_iff.mpr ⟨position, said, hscans, rfl⟩, hindex⟩
  have hentry : range ∈ rangesOn i (reading.marks color) ↔ ∃ entry ∈ reading.entries,
      range ∈ rangesOn i ((reading.found entry).flatMap (marksOf color reading.settings.cap)) := by
    simp only [mem_rangesOn, marks, List.mem_flatMap (l := reading.entries)]
    constructor
    · rintro ⟨m, ⟨entry, hmem, hm⟩, hmark⟩
      exact ⟨entry, hmem, m, hm, hmark⟩
    · rintro ⟨entry, hmem, m, hm, hmark⟩
      exact ⟨m, ⟨entry, hmem, hm⟩, hmark⟩
  rw [hentry]
  constructor
  · rintro ⟨entry, hmem, hrange⟩
    obtain ⟨hlook, hrange⟩ := (h.mem_rangesOn_finds hi).mp hrange
    exact ⟨hlooks.mp hlook, entry, hmem, hrange⟩
  · rintro ⟨hlook, entry, hmem, hrange⟩
    exact ⟨entry, hmem, (h.mem_rangesOn_finds hi).mpr ⟨hlooks.mpr hlook, hrange⟩⟩

theorem mem_heardIn {entry : Value} (hmem : entry ∈ reading.entries) {text : String}
    {range : Nat × Nat}
    (hrange : range ∈ firstItems reading.settings.cap (spansOf (reading.patterns entry) text)) :
    entry ∈ reading.heardIn text := by
  refine List.mem_filter.mpr ⟨hmem, ?_⟩
  simpa using List.ne_nil_of_mem (mem_firstItems hrange)

open Classical in
theorem card_rangesOn_le (hcap : 0 < reading.settings.cap) (h : FromChat chat reading.messages)
    (hi : chat[i]? = some message) : (rangesOn i (reading.marks color)).card ≤
      (reading.heardIn message.message).toFinset.card * reading.settings.cap := by
  have hsubset : rangesOn i (reading.marks color) ⊆
      (reading.heardIn message.message).toFinset.biUnion fun entry =>
        (firstItems reading.settings.cap
          (spansOf (reading.patterns entry) message.message)).toFinset := by
    intro range hrange
    obtain ⟨-, entry, hmem, hrange⟩ := (mem_rangesOn_marks h hi range).mp hrange
    exact Finset.mem_biUnion.mpr
      ⟨entry, List.mem_toFinset.mpr (mem_heardIn hmem hrange), List.mem_toFinset.mpr hrange⟩
  exact (Finset.card_le_card hsubset).trans (Finset.card_biUnion_le_card_mul _ _ _ fun entry _ =>
    (List.toFinset_card_le _).trans (length_firstItems_le hcap _))

theorem length_marksOn_entry_le (color : String) (hcap : 0 < reading.settings.cap)
    (h : FromChat chat reading.messages) (hi : chat[i]? = some message) (entry : Value) :
    (marksOn i ((reading.found entry).flatMap (marksOf color reading.settings.cap))).length ≤
      if !(spansOf (reading.patterns entry) message.message).isEmpty
      then reading.settings.cap * timesIn reading.messages i else 0 := by
  split
  · exact (length_marksOn_finds_le hcap _).trans
      (Nat.mul_le_mul_left _ (countP_eligible_le ..))
  · rename_i hheard
    refine Nat.le_of_eq (List.length_eq_zero_iff.mpr (List.eq_nil_iff_forall_not_mem.mpr ?_))
    intro m hm
    obtain ⟨hm, hmessage⟩ := List.mem_filter.mp hm
    have hrange := (h.mem_rangesOn_finds hi).mp
      (mem_rangesOn.mpr ⟨m, hm, eq_of_beq hmessage, rfl⟩)
    refine hheard ?_
    simpa using List.ne_nil_of_mem (mem_firstItems hrange.2)

theorem length_marksOn_le (hcap : 0 < reading.settings.cap) (h : FromChat chat reading.messages)
    (hi : chat[i]? = some message) : (marksOn i (reading.marks color)).length ≤
      (reading.heardIn message.message).length *
        (reading.settings.cap * timesIn reading.messages i) := by
  unfold marks heardIn
  induction reading.entries with
  | nil => exact Nat.zero_le _
  | cons entry rest ih =>
      have hhead := length_marksOn_entry_le color hcap h hi entry
      rw [List.flatMap_cons, marksOn_append, List.length_append, List.filter_cons]
      split at hhead
      · rename_i hheard
        rw [if_pos hheard, List.length_cons, Nat.succ_mul]
        omega
      · rename_i hheard
        rw [if_neg hheard]
        omega

theorem capped (hcap : 0 < reading.settings.cap) (h : FromChat chat reading.messages) :
    reading.Capped chat (reading.marks color).reverse where
  mem_iff i message hi range := by
    rw [rangesOn_reverse]
    exact mem_rangesOn_marks h hi range
  card_le i message hi := by
    rw [rangesOn_reverse]
    exact card_rangesOn_le hcap h hi
  length_le i message hi := by
    rw [marksOn, List.filter_reverse, List.length_reverse]
    exact length_marksOn_le hcap h hi

end KeywordReading

end Operator

namespace Scene

open Operator

variable {scene : Scene} {node : Nat}

theorem fromChat_unwired (pull : Pull) (h : (scene.site node).hasInput "messages" = false)
    (s : Session) :
    FromChat scene.context.messages
        (scene.performWith pull node (askMessageReading (scene.site node)) s).1.messages ∧
      FromChat scene.context.messages
        (scene.performWith pull node (askKeywordReading (scene.site node)) s).1.messages := by
  have hmessages : askMessages (scene.site node) = pure (scene.site node).messages := by
    unfold askMessages
    rw [h]
    rfl
  unfold askMessageReading askKeywordReading
  simp only [hmessages, Body.pure_bind, performWith_bind]
  exact ⟨fun _ hm => hm, fun _ hm => hm⟩

/-- **What a cap bounds.** A filter of messages that is given messages of the chat marks no more
ranges in one of them than it is to mark at a time. A filter by keywords marks so many ranges for
each entry: those that it marks in a message are the first ranges of all entries together, which are
no more than for each entry that is heard of there. -/
theorem caps_hold (scene : Scene) (pull : Pull) (node : Nat) (s : Session) :
    (∃ reading t added,
      scene.performWith pull node (askMessageReading (scene.site node)) (s.enter node) =
        (reading, t) ∧
      (scene.execute pull node .messageFilter s).2.marks.marks = added ++ t.marks.marks ∧
      (0 < reading.settings.cap → FromChat scene.context.messages reading.messages →
        reading.Capped scene.context.messages added)) ∧
    ∃ reading t added,
      scene.performWith pull node (askKeywordReading (scene.site node)) (s.enter node) =
        (reading, t) ∧
      (scene.execute pull node .keywordFilter s).2.marks.marks = added ++ t.marks.marks ∧
      (0 < reading.settings.cap → FromChat scene.context.messages reading.messages →
        reading.Capped scene.context.messages added) := by
  constructor
  · generalize hread : scene.performWith pull node (askMessageReading (scene.site node))
      (s.enter node) = read
    obtain ⟨reading, t⟩ := read
    obtain ⟨-, hmarks⟩ :=
      execute_filter .messageFilter (MessageReading.messageFilter_eq (scene.site node)) hread
    exact ⟨reading, t, _, rfl, hmarks, fun hcap h => MessageReading.capped hcap h⟩
  · generalize hread : scene.performWith pull node (askKeywordReading (scene.site node))
      (s.enter node) = read
    obtain ⟨reading, t⟩ := read
    obtain ⟨-, hmarks⟩ := execute_keywordFilter hread
    exact ⟨reading, t, _, rfl, hmarks, fun hcap h => KeywordReading.capped hcap h⟩

end Scene

namespace Engine

open Operator

/-- Two entries, and a filter of each kind that is to mark one range at a time. -/
def armoury : Engine where
  behavior := {
    strings := ⟨["source_entries", "keyword_filter", "message_filter", "entries", "match_cap",
      "conditions", "sword", "shield"]⟩
    nodeIds := ["lore", "heard", "said"]
    nodes := [⟨0, ⟨[]⟩⟩, ⟨1, ⟨[(4, .number 1)]⟩⟩,
      ⟨2, ⟨[(4, .number 1), (5, .list [.string 6, .string 7])]⟩⟩]
    edges := [⟨0, 3, 1, 3⟩] }
  data := {
    strings := ⟨["keywords", "sword", "shield"]⟩
    items := [⟨"sword", 1, ⟨[(0, .string 1)]⟩⟩, ⟨"shield", 2, ⟨[(0, .string 2)]⟩⟩] }
  config := {}

def muster : Scene := ⟨armoury, { messages := [.user "sword shield"] }⟩

/-- The filter of messages marks one range, though both conditions hold; the filter by keywords is
held to one for each entry. -/
theorem muster_capped :
    (∃ reading t added,
      muster.performWith muster.evaluate 2 (askMessageReading (muster.site 2))
        ((Session.start {}).enter 2) = (reading, t) ∧
      (muster.execute muster.evaluate 2 .messageFilter (.start {})).2.marks.marks =
        added ++ t.marks.marks ∧
      reading.settings.cap = 1 ∧ FromChat muster.context.messages reading.messages ∧
      (rangesOn 0 added).card ≤ 1) ∧
    ∃ reading t added,
      muster.performWith muster.evaluate 1 (askKeywordReading (muster.site 1))
        ((Session.start {}).enter 1) = (reading, t) ∧
      (muster.execute muster.evaluate 1 .keywordFilter (.start {})).2.marks.marks =
        added ++ t.marks.marks ∧
      reading.settings.cap = 1 ∧ FromChat muster.context.messages reading.messages ∧
      reading.Capped muster.context.messages added := by
  constructor
  · obtain ⟨⟨reading, t, added, hread, hmarks, hcapped⟩, -⟩ :=
      muster.caps_hold muster.evaluate 2 (.start {})
    have hcap : reading.settings.cap = 1 := by
      have hsettings : (muster.performWith muster.evaluate 2 (askMessageReading (muster.site 2))
          ((Session.start {}).enter 2)).1.settings.cap = 1 := by decide +kernel
      rwa [hread] at hsettings
    have hnone : (muster.site 2).hasInput "messages" = false := by decide +kernel
    have hchat := (Scene.fromChat_unwired muster.evaluate hnone ((Session.start {}).enter 2)).1
    rw [hread] at hchat
    have hcard := (hcapped (hcap ▸ Nat.one_pos) hchat).card_le 0 Nat.one_pos
    exact ⟨reading, t, added, hread, hmarks, hcap, hchat, hcap ▸ hcard⟩
  · obtain ⟨-, reading, t, added, hread, hmarks, hcapped⟩ :=
      muster.caps_hold muster.evaluate 1 (.start {})
    have hcap : reading.settings.cap = 1 := by
      have hsettings : (muster.performWith muster.evaluate 1 (askKeywordReading (muster.site 1))
          ((Session.start {}).enter 1)).1.settings.cap = 1 := by decide +kernel
      rwa [hread] at hsettings
    have hnone : (muster.site 1).hasInput "messages" = false := by decide +kernel
    have hchat := (Scene.fromChat_unwired muster.evaluate hnone ((Session.start {}).enter 1)).2
    rw [hread] at hchat
    exact ⟨reading, t, added, hread, hmarks, hcap, hchat, hcapped (hcap ▸ Nat.one_pos) hchat⟩

/-- The filter by keywords marks two ranges, one for each entry. -/
theorem muster_exceeds : ∃ reading t,
    muster.performWith muster.evaluate 1 (askKeywordReading (muster.site 1))
      ((Session.start {}).enter 1) = (reading, t) ∧
    reading.settings.cap = 1 ∧ FromChat muster.context.messages reading.messages ∧
    t.marks.marks = [] ∧
    rangesOn 0 (muster.execute muster.evaluate 1 .keywordFilter (.start {})).2.marks.marks =
      {(0, 5), (6, 12)} := by
  have hnone : (muster.site 1).hasInput "messages" = false := by decide +kernel
  have hchat := (Scene.fromChat_unwired muster.evaluate hnone ((Session.start {}).enter 1)).2
  exact ⟨_, _, rfl, by decide +kernel, hchat, by decide +kernel, by decide +kernel⟩

end Engine

end StoryGraph
