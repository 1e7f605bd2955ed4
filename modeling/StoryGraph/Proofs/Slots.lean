import Mathlib.Algebra.GroupWithZero.Nat
import Mathlib.Data.List.Destutter
import Mathlib.Data.List.Sort
import StoryGraph.Proofs.Highlights
import StoryGraph.Proofs.Scans

/-!
# Slots of marks

What the slots of a chat show depends only on which marks were made, not on their order or on how
often one was made. A slot is told by its marks: its colours ascend, each has a range, and the
ranges of a colour ascend. Marks may also be kept sorted by message and by colour from the first,
and the slots be filled one message after the other; that shows the same.

Main definitions: `SlotFor`, `MarkTable`. Main statement: `MarkLog.marks_are_shown`.
-/

namespace StoryGraph

/-! ## Ascending lists -/

section

variable {α : Type} {lt : α → α → Bool}

/-- **Putting an item in its place keeps the order.** -/
theorem pairwise_insertAscending (htrans : ∀ a b c, lt a b = true → lt b c = true → lt a c = true)
    (htie : ∀ a b, lt a b = false → lt b a = false → a = b) (item : α) {items : List α}
    (h : items.Pairwise fun a b => lt a b = true) :
    (insertAscending lt item items).Pairwise fun a b => lt a b = true := by
  induction items with
  | nil => exact List.pairwise_singleton _ _
  | cons first rest ih =>
      obtain ⟨hfirst, hrest⟩ := List.pairwise_cons.mp h
      unfold insertAscending
      split
      · rename_i hless
        refine List.pairwise_cons.mpr ⟨fun later hlater => ?_, h⟩
        rcases List.mem_cons.mp hlater with rfl | hlater
        · exact hless
        · exact htrans _ _ _ hless (hfirst later hlater)
      · split
        · rename_i hmore
          refine List.pairwise_cons.mpr ⟨fun later hlater => ?_, ih hrest⟩
          rcases (mem_insertAscending htie).mp hlater with rfl | hlater
          · exact hmore
          · exact hfirst later hlater
        · exact h

theorem pairwise_ascending (htrans : ∀ a b c, lt a b = true → lt b c = true → lt a c = true)
    (htie : ∀ a b, lt a b = false → lt b a = false → a = b) (items : List α) :
    (ascending lt items).Pairwise fun a b => lt a b = true :=
  List.foldlRecOn items _ List.Pairwise.nil fun _ h item _ =>
    pairwise_insertAscending htrans htie item h

end

theorem rangeLt_iff {a b : Nat × Nat} :
    rangeLt a b = true ↔ a.1 < b.1 ∨ a.1 = b.1 ∧ a.2 < b.2 := by
  simp [rangeLt]

theorem rangeLt_trans (a b c : Nat × Nat) (hab : rangeLt a b = true) (hbc : rangeLt b c = true) :
    rangeLt a c = true := by
  rw [rangeLt_iff] at hab hbc ⊢
  omega

theorem stringLt_trans (a b c : String) (hab : decide (a < b) = true)
    (hbc : decide (b < c) = true) : decide (a < c) = true :=
  decide_eq_true (String.lt_trans (of_decide_eq_true hab) (of_decide_eq_true hbc))

theorem ranges_eq {ranges others : List (Nat × Nat)}
    (h : ranges.Pairwise fun a b => a.1 < b.1 ∨ a.1 = b.1 ∧ a.2 < b.2)
    (h' : others.Pairwise fun a b => a.1 < b.1 ∨ a.1 = b.1 ∧ a.2 < b.2)
    (hsame : ∀ range, range ∈ ranges ↔ range ∈ others) : ranges = others := by
  have : Std.Antisymm fun a b : Nat × Nat => a.1 < b.1 ∨ a.1 = b.1 ∧ a.2 < b.2 :=
    ⟨fun a b hab hba => by omega⟩
  have : Std.Irrefl fun a b : Nat × Nat => a.1 < b.1 ∨ a.1 = b.1 ∧ a.2 < b.2 :=
    ⟨fun a haa => by omega⟩
  exact h.eq_of_mem_iff h' hsame

/-! ## What a slot shows -/

/-- A slot shows what marks ask for in a message. The colours ascend and each has a range, and the
ranges of a colour ascend and are those of the marks by this colour that hold a character. -/
structure SlotFor (marks : List Mark) (message : Nat) (slot : List Highlight) : Prop where
  colors : slot.Pairwise fun a b => a.color < b.color
  nonempty : ∀ highlight ∈ slot, highlight.ranges ≠ []
  ranges : ∀ highlight ∈ slot,
    highlight.ranges.Pairwise fun a b => a.1 < b.1 ∨ a.1 = b.1 ∧ a.2 < b.2
  shown : ∀ color start stop,
    (∃ highlight ∈ slot, highlight.color = color ∧ (start, stop) ∈ highlight.ranges) ↔
      start < stop ∧ ⟨message, color, start, stop⟩ ∈ marks

namespace SlotFor

variable {marks others : List Mark} {message place : Nat} {slot slot' : List Highlight}
  {highlight other : Highlight}

theorem eq_of_color (h : SlotFor marks message slot) (hmem : highlight ∈ slot)
    (hother : other ∈ slot) (hcolor : highlight.color = other.color) : highlight = other := by
  by_contra hne
  have hsym : Std.Symm fun a b : Highlight => a.color ≠ b.color := ⟨fun _ _ => Ne.symm⟩
  have hdistinct : slot.Pairwise fun a b => a.color ≠ b.color := h.colors.imp String.ne_of_lt
  exact hdistinct.forall hmem hother hne hcolor

theorem mem_ranges (h : SlotFor marks message slot) (hmem : highlight ∈ slot) {start stop : Nat} :
    (start, stop) ∈ highlight.ranges ↔
      start < stop ∧ ⟨message, highlight.color, start, stop⟩ ∈ marks := by
  rw [← h.shown]
  constructor
  · exact fun hrange => ⟨highlight, hmem, rfl, hrange⟩
  · rintro ⟨other, hother, hcolor, hrange⟩
    exact h.eq_of_color hother hmem hcolor ▸ hrange

/-- What one slot shows is shown by the slot of a message that is marked alike. -/
theorem subset (h : SlotFor marks message slot) (h' : SlotFor others place slot')
    (hsame : ∀ color start stop, start < stop →
      (⟨message, color, start, stop⟩ ∈ marks ↔ ⟨place, color, start, stop⟩ ∈ others)) :
    slot ⊆ slot' := by
  intro highlight hmem
  obtain ⟨⟨start, stop⟩, hrange⟩ := List.exists_mem_of_ne_nil _ (h.nonempty highlight hmem)
  obtain ⟨hlt, hmark⟩ := (h.mem_ranges hmem).mp hrange
  obtain ⟨other, hother, hcolor, -⟩ :=
    (h'.shown _ _ _).mpr ⟨hlt, (hsame _ _ _ hlt).mp hmark⟩
  have hranges : highlight.ranges = other.ranges := by
    refine ranges_eq (h.ranges highlight hmem) (h'.ranges other hother) fun ⟨first, last⟩ => ?_
    rw [h.mem_ranges hmem, h'.mem_ranges hother, hcolor]
    exact and_congr_right fun hlt => hsame _ _ _ hlt
  have heq : highlight = other := by
    cases highlight
    cases other
    simp_all
  exact heq ▸ hother

/-- **A slot is told by its marks.** -/
theorem eq_of_same (h : SlotFor marks message slot) (h' : SlotFor others place slot')
    (hsame : ∀ color start stop, start < stop →
      (⟨message, color, start, stop⟩ ∈ marks ↔ ⟨place, color, start, stop⟩ ∈ others)) :
    slot = slot' := by
  have : Std.Antisymm fun a b : Highlight => a.color < b.color :=
    ⟨fun _ _ hab hba => absurd hba (String.lt_asymm hab)⟩
  have : Std.Irrefl fun a b : Highlight => a.color < b.color := ⟨fun _ => String.lt_irrefl _⟩
  refine h.colors.eq_of_mem_iff h'.colors fun highlight => ⟨fun hmem => ?_, fun hmem => ?_⟩
  · exact h.subset h' hsame hmem
  · exact h'.subset h (fun color start stop hlt => (hsame color start stop hlt).symm) hmem

theorem unique (h : SlotFor marks message slot) (h' : SlotFor marks message slot') :
    slot = slot' :=
  h.eq_of_same h' fun _ _ _ _ => Iff.rfl

end SlotFor

namespace MarkLog

variable {marks : List Mark} {m : Mark}

theorem mem_record : m ∈ (marks.foldl record .empty).marks ↔ m ∈ marks ∧ m.start < m.stop := by
  rw [foldl_record]
  simp [empty]

/-- **A log shows the marks that were made.** -/
theorem slotFor_highlightsOf (marks : List Mark) (message : Nat) :
    SlotFor marks message ((marks.foldl record .empty).highlightsOf message) where
  colors := by
    unfold highlightsOf
    refine List.pairwise_map.mpr ((pairwise_ascending stringLt_trans stringLt_tie _).imp ?_)
    exact fun hlt => of_decide_eq_true hlt
  nonempty := by
    intro highlight hmem hempty
    obtain ⟨color, hcolor, rfl⟩ := List.mem_map.mp hmem
    obtain ⟨m, hm, rfl⟩ := List.mem_map.mp ((mem_ascending stringLt_tie).mp hcolor)
    have hrange : (m.start, m.stop) ∈
        rangesOf ((marks.foldl record .empty).marks.filter (·.message == message)) m.color :=
      (mem_ascending rangeLt_tie).mpr (List.mem_map.mpr
        ⟨m, List.mem_filter.mpr ⟨hm, beq_self_eq_true _⟩, rfl⟩)
    exact List.ne_nil_of_mem hrange hempty
  ranges := by
    intro highlight hmem
    obtain ⟨color, -, rfl⟩ := List.mem_map.mp hmem
    exact (pairwise_ascending rangeLt_trans rangeLt_tie _).imp rangeLt_iff.mp
  shown := by
    intro color start stop
    rw [mem_highlightsOf]
    simp only [mem_record]
    constructor
    · rintro ⟨⟨_, _, _, _⟩, ⟨hmem, hlt⟩, rfl, rfl, heq⟩
      cases heq
      exact ⟨hlt, hmem⟩
    · rintro ⟨hlt, hmem⟩
      exact ⟨_, ⟨hmem, hlt⟩, rfl, rfl, rfl⟩

end MarkLog

/-! ## Marks by message and by colour -/

abbrev ColorTable := Std.TreeMap String (List (Nat × Nat))

/-- Marks that are sorted when they come: for each message, the ranges of each colour. -/
structure MarkTable where
  messages : Std.TreeMap Nat ColorTable

namespace MarkTable

def empty : MarkTable := ⟨∅⟩

def colorsOf (table : MarkTable) (message : Nat) : ColorTable :=
  table.messages.getD message ∅

def rangesOf (table : MarkTable) (message : Nat) (color : String) : List (Nat × Nat) :=
  (table.colorsOf message).getD color []

def record (table : MarkTable) (m : Mark) : MarkTable :=
  if m.start < m.stop then
    ⟨table.messages.insert m.message ((table.colorsOf m.message).insert m.color
      (table.rangesOf m.message m.color ++ [(m.start, m.stop)]))⟩
  else table

def size (table : MarkTable) : Nat :=
  (table.messages.toList.map fun entry => (entry.2.toList.map fun kept => kept.2.length).sum).sum

/-- The highlights for the ranges of each colour: in order, and a range that comes again left
out. -/
def slotOf (colors : ColorTable) : List Highlight :=
  colors.toList.map fun kept => ⟨kept.1, (kept.2.mergeSort rangeLe).destutter (· ≠ ·)⟩

/-- Fills the slot of a message, counted from the end of the chat, if the chat has the message. -/
def fill (count : Nat) (slots : List (List Highlight))
    (entry : Nat × ColorTable) : List (List Highlight) :=
  if entry.1 < count then slots.set (count - 1 - entry.1) (slotOf entry.2) else slots

def slots (table : MarkTable) (count : Nat) : List (List Highlight) :=
  table.messages.toList.foldl (fill count) (List.replicate count [])

section

variable {table : MarkTable} {marks : List Mark} {m : Mark} {message count k : Nat}
  {color : String}

theorem colorsOf_record (h : m.start < m.stop) : (table.record m).colorsOf message =
    if m.message = message then (table.colorsOf m.message).insert m.color
      (table.rangesOf m.message m.color ++ [(m.start, m.stop)])
    else table.colorsOf message := by
  unfold record
  rw [if_pos h, colorsOf, Std.TreeMap.getD_insert]
  simp only [Std.LawfulEqCmp.compare_eq_iff_eq, colorsOf]

theorem rangesOf_record (h : m.start < m.stop) : (table.record m).rangesOf message color =
    table.rangesOf message color ++
      if m.message = message ∧ m.color = color then [(m.start, m.stop)] else [] := by
  rw [rangesOf, colorsOf_record h]
  by_cases hmessage : m.message = message
  · subst hmessage
    rw [if_pos rfl, Std.TreeMap.getD_insert]
    by_cases hcolor : m.color = color
    · subst hcolor
      rw [if_pos Std.ReflCmp.compare_self, if_pos ⟨rfl, rfl⟩]
    · rw [if_neg (mt Std.LawfulEqCmp.compare_eq_iff_eq.mp hcolor), if_neg fun h => hcolor h.2,
        List.append_nil]
      rfl
  · rw [if_neg hmessage, if_neg fun h => hmessage h.1, List.append_nil]
    rfl

theorem mem_rangesOf_record (h : m.start < m.stop) {start stop : Nat} :
    (start, stop) ∈ (table.record m).rangesOf message color ↔
      (start, stop) ∈ table.rangesOf message color ∨ ⟨message, color, start, stop⟩ = m := by
  rw [rangesOf_record h, List.mem_append]
  refine or_congr_right ⟨fun hmem => ?_, ?_⟩
  · split at hmem
    · rename_i hsame
      obtain ⟨rfl, rfl⟩ := hsame
      cases List.mem_singleton.mp hmem
      rfl
    · exact absurd hmem List.not_mem_nil
  · rintro rfl
    rw [if_pos ⟨rfl, rfl⟩]
    exact List.mem_singleton_self _

theorem nonempty_record (h : m.start < m.stop)
    (hkept : ∀ (message : Nat) (color : String) (ranges : List (Nat × Nat)),
      (table.colorsOf message)[color]? = some ranges → ranges ≠ [])
    (message : Nat) (color : String) (ranges : List (Nat × Nat))
    (hranges : ((table.record m).colorsOf message)[color]? = some ranges) : ranges ≠ [] := by
  rw [colorsOf_record h] at hranges
  split at hranges
  · rw [Std.TreeMap.getElem?_insert] at hranges
    split at hranges
    · cases hranges
      exact List.append_ne_nil_of_right_ne_nil _ (List.cons_ne_nil _ _)
    · exact hkept _ _ _ hranges
  · exact hkept _ _ _ hranges

/-! ### Sums over a table -/

section

variable {α β : Type} [Ord α] [Std.TransOrd α] [Std.LawfulEqOrd α] [DecidableEq α]
  {t : Std.TreeMap α β} {key : α} {kept : β}

theorem toList_perm_of_getElem? (h : t[key]? = some kept) :
    t.toList.Perm ((key, kept) :: t.toList.filter fun entry => ¬(key == entry.1) = true) := by
  have hnodup : t.toList.Nodup := by
    refine Std.TreeMap.distinct_keys_toList.imp fun hne heq => hne ?_
    rw [heq]
    exact Std.ReflCmp.compare_self
  refine (List.perm_ext_iff_of_nodup hnodup ?_).mpr fun entry => ?_
  · exact List.nodup_cons.mpr ⟨by simp, hnodup.filter _⟩
  · rw [List.mem_cons, List.mem_filter, Std.TreeMap.mem_toList_iff_getElem?_eq_some]
    by_cases hentry : key = entry.1
    · subst hentry
      simp [h, Prod.ext_iff, eq_comm]
    · simp [hentry, Prod.ext_iff, Ne.symm hentry]

theorem filter_toList_of_getElem? (h : t[key]? = none) :
    (t.toList.filter fun entry => ¬(key == entry.1) = true) = t.toList := by
  refine List.filter_eq_self.mpr fun entry hentry => decide_eq_true fun hkey => ?_
  rw [eq_of_beq hkey, Std.TreeMap.mem_toList_iff_getElem?_eq_some.mp hentry] at h
  exact nomatch h

theorem sum_insert (t : Std.TreeMap α β) (key : α) (value fallback : β) (f : β → Nat)
    (hfallback : f fallback = 0) :
    ((t.insert key value).toList.map fun entry => f entry.2).sum + f (t.getD key fallback) =
      (t.toList.map fun entry => f entry.2).sum + f value := by
  have hold : (t.toList.map fun entry => f entry.2).sum = f (t.getD key fallback) +
      ((t.toList.filter fun entry => ¬(key == entry.1) = true).map fun entry => f entry.2).sum := by
    rw [Std.TreeMap.getD_eq_getD_getElem?]
    cases hkey : t[key]? with
    | none => rw [filter_toList_of_getElem? hkey, Option.getD_none, hfallback, Nat.zero_add]
    | some kept =>
        rw [((toList_perm_of_getElem? hkey).map _).sum_nat]
        rfl
  have hnew : ((t.insert key value).toList.map fun entry => f entry.2).sum = f value +
      ((t.toList.filter fun entry => ¬(key == entry.1) = true).map fun entry => f entry.2).sum := by
    rw [(Std.TreeMap.toList_insert_perm.map _).sum_nat]
    rfl
  omega

end

theorem size_record (h : m.start < m.stop) : (table.record m).size = table.size + 1 := by
  have hcolors := sum_insert (table.colorsOf m.message) m.color
    (table.rangesOf m.message m.color ++ [(m.start, m.stop)]) [] List.length rfl
  have hmessages := sum_insert table.messages m.message ((table.colorsOf m.message).insert m.color
    (table.rangesOf m.message m.color ++ [(m.start, m.stop)])) ∅
    (fun colors => (colors.toList.map fun kept => kept.2.length).sum) rfl
  rw [List.length_append, List.length_singleton] at hcolors
  change _ + (table.rangesOf m.message m.color).length = _ at hcolors
  change _ + ((table.colorsOf m.message).toList.map fun kept => kept.2.length).sum =
    table.size + _ at hmessages
  rw [record, if_pos h, size]
  dsimp only at hmessages ⊢
  omega

/-! ### What is kept -/

/-- The table keeps the ranges of the marks, each as often as it was marked. -/
structure Keeps (table : MarkTable) (marks : List Mark) : Prop where
  mem_ranges : ∀ message color start stop, (start, stop) ∈ table.rangesOf message color ↔
    start < stop ∧ ⟨message, color, start, stop⟩ ∈ marks
  nonempty : ∀ (message : Nat) (color : String) (ranges : List (Nat × Nat)),
    (table.colorsOf message)[color]? = some ranges → ranges ≠ []
  size_eq : table.size = marks.countP fun m => m.start < m.stop

theorem keeps_empty : Keeps empty [] where
  mem_ranges message color start stop := by simp [empty, rangesOf, colorsOf]
  nonempty message color ranges h := by simp [empty, colorsOf] at h
  size_eq := rfl

/-- **One more mark** is kept with those before it. -/
theorem Keeps.record (h : table.Keeps marks) (m : Mark) :
    (table.record m).Keeps (marks ++ [m]) := by
  by_cases hlt : m.start < m.stop
  · refine ⟨fun message color start stop => ?_, nonempty_record hlt h.nonempty, ?_⟩
    · rw [mem_rangesOf_record hlt, h.mem_ranges, List.mem_append, List.mem_singleton, and_or_left]
      refine or_congr_right ⟨?_, And.right⟩
      rintro rfl
      exact ⟨hlt, rfl⟩
    · rw [size_record hlt, h.size_eq, List.countP_append, List.countP_singleton,
        if_pos (decide_eq_true hlt)]
  · have hsame : table.record m = table := if_neg hlt
    rw [hsame]
    refine ⟨fun message color start stop => ?_, h.nonempty, ?_⟩
    · rw [h.mem_ranges, List.mem_append, List.mem_singleton]
      refine and_congr_right fun hrange => (or_iff_left ?_).symm
      rintro rfl
      exact hlt hrange
    · rw [h.size_eq, List.countP_append, List.countP_singleton, if_neg (by simpa using hlt)]
      rfl

/-- **All marks that come are kept.** -/
theorem keeps_foldl (marks : List Mark) : (marks.foldl MarkTable.record .empty).Keeps marks := by
  induction marks using List.reverseRecOn with
  | nil => exact keeps_empty
  | append_singleton marks m ih =>
      rw [List.foldl_append]
      exact ih.record m

/-! ### What its slots show -/

theorem ascending_destutter (ranges : List (Nat × Nat)) :
    (∀ range, range ∈ (ranges.mergeSort rangeLe).destutter (· ≠ ·) ↔ range ∈ ranges) ∧
      ((ranges.mergeSort rangeLe).destutter (· ≠ ·)).Pairwise
        fun a b => a.1 < b.1 ∨ a.1 = b.1 ∧ a.2 < b.2 := by
  have hsorted := pairwise_mergeSort_rangeLe ranges
  have : Std.Antisymm fun a b : Nat × Nat => a.1 < b.1 ∨ a.1 = b.1 ∧ a.2 ≤ b.2 :=
    ⟨fun a b hab hba => Prod.ext (by omega) (by omega)⟩
  -- In a list in order, what comes again comes next.
  rw [hsorted.destutter_eq_dedup]
  constructor
  · exact fun range => List.mem_dedup.trans List.mem_mergeSort
  · refine ((hsorted.sublist (List.dedup_sublist _)).and (List.nodup_dedup _)).imp ?_
    rintro a b ⟨hle, hne⟩
    rcases hle with hlt | ⟨hfirst, hle⟩
    · exact .inl hlt
    · exact .inr ⟨hfirst, Nat.lt_of_le_of_ne hle fun hlast => hne (Prod.ext hfirst hlast)⟩

theorem rangesOf_eq {ranges : List (Nat × Nat)}
    (h : (color, ranges) ∈ (table.colorsOf message).toList) :
    table.rangesOf message color = ranges := by
  rw [rangesOf, Std.TreeMap.getD_eq_getD_getElem?,
    Std.TreeMap.mem_toList_iff_getElem?_eq_some.mp h, Option.getD_some]

/-- **What is kept for a message makes its slot.** -/
theorem Keeps.slotFor (h : table.Keeps marks) (message : Nat) :
    SlotFor marks message (slotOf (table.colorsOf message)) where
  colors := by
    unfold slotOf
    refine List.pairwise_map.mpr (Std.TreeMap.ordered_keys_toList.imp fun hlt => ?_)
    exact compare_lt_iff_lt.mp hlt
  nonempty := by
    intro highlight hmem hempty
    obtain ⟨⟨color, ranges⟩, hkept, rfl⟩ := List.mem_map.mp hmem
    have hne := h.nonempty message color ranges
      (Std.TreeMap.mem_toList_iff_getElem?_eq_some.mp hkept)
    obtain ⟨range, hrange⟩ := List.exists_mem_of_ne_nil _ hne
    exact List.ne_nil_of_mem (((ascending_destutter ranges).1 range).mpr hrange) hempty
  ranges := by
    intro highlight hmem
    obtain ⟨⟨color, ranges⟩, -, rfl⟩ := List.mem_map.mp hmem
    exact (ascending_destutter ranges).2
  shown := by
    intro color start stop
    rw [← h.mem_ranges]
    constructor
    · rintro ⟨highlight, hmem, rfl, hrange⟩
      obtain ⟨⟨color, ranges⟩, hkept, rfl⟩ := List.mem_map.mp hmem
      rw [rangesOf_eq hkept]
      exact ((ascending_destutter ranges).1 _).mp hrange
    · intro hrange
      have hkept : (color, table.rangesOf message color) ∈ (table.colorsOf message).toList := by
        rw [Std.TreeMap.mem_toList_iff_getElem?_eq_some, rangesOf,
          Std.TreeMap.getD_eq_getD_getElem?]
        cases hcolor : (table.colorsOf message)[color]? with
        | none =>
            rw [rangesOf, Std.TreeMap.getD_eq_getD_getElem?, hcolor] at hrange
            exact absurd hrange List.not_mem_nil
        | some ranges => rfl
      exact ⟨_, List.mem_map_of_mem hkept, rfl, ((ascending_destutter _).1 _).mpr hrange⟩

theorem length_fill (count : Nat) (slots : List (List Highlight))
    (entry : Nat × ColorTable) :
    (fill count slots entry).length = slots.length := by
  unfold fill
  split
  · exact List.length_set
  · rfl

theorem foldl_fill_of_ne (hk : k < count)
    (entries : List (Nat × ColorTable))
    (h : ∀ entry ∈ entries, entry.1 ≠ count - 1 - k) : ∀ slots : List (List Highlight),
    (entries.foldl (fill count) slots)[k]? = slots[k]? := by
  induction entries with
  | nil => exact fun _ => rfl
  | cons entry rest ih =>
      intro slots
      obtain ⟨hentry, hrest⟩ := List.forall_mem_cons.mp h
      rw [List.foldl_cons, ih hrest, fill]
      split
      · exact List.getElem?_set_ne (by omega)
      · rfl

/-- **Each message fills its slot.** -/
theorem foldl_fill_of_mem (hk : k < count) {colors : ColorTable}
    (entries : List (Nat × ColorTable))
    (hdistinct : entries.Pairwise fun a b => a.1 ≠ b.1) (h : (count - 1 - k, colors) ∈ entries) :
    ∀ slots : List (List Highlight), slots.length = count →
      (entries.foldl (fill count) slots)[k]? = some (slotOf colors) := by
  induction entries with
  | nil => exact absurd h List.not_mem_nil
  | cons entry rest ih =>
      intro slots hlength
      obtain ⟨hfirst, hrest⟩ := List.pairwise_cons.mp hdistinct
      rw [List.foldl_cons]
      rcases List.mem_cons.mp h with rfl | h
      · rw [foldl_fill_of_ne hk rest fun entry hentry => (hfirst entry hentry).symm, fill,
          if_pos (by omega), show count - 1 - (count - 1 - k) = k by omega]
        exact List.getElem?_set_self (hlength ▸ hk)
      · exact ih hrest h _ ((length_fill count slots entry).trans hlength)

theorem length_slots (table : MarkTable) (count : Nat) : (table.slots count).length = count := by
  unfold slots
  refine List.foldlRecOn (motive := fun filled : List (List Highlight) => filled.length = count)
    table.messages.toList _
    List.length_replicate fun slots hslots entry _ => ?_
  exact (length_fill count slots entry).trans hslots

theorem slots_getElem? (table : MarkTable) (hk : k < count) :
    (table.slots count)[k]? = some (slotOf (table.colorsOf (count - 1 - k))) := by
  have hdistinct : table.messages.toList.Pairwise fun a b => a.1 ≠ b.1 :=
    Std.TreeMap.distinct_keys_toList.imp fun hne heq => hne (compare_eq_iff_eq.mpr heq)
  rw [slots, colorsOf, Std.TreeMap.getD_eq_getD_getElem?]
  cases hmessage : table.messages[count - 1 - k]? with
  | none =>
      have hne : ∀ entry ∈ table.messages.toList, entry.1 ≠ count - 1 - k := by
        rintro ⟨message, colors⟩ hentry rfl
        rw [Std.TreeMap.mem_toList_iff_getElem?_eq_some.mp hentry] at hmessage
        exact nomatch hmessage
      rw [foldl_fill_of_ne hk _ hne, List.getElem?_replicate_of_lt hk]
      rfl
  | some colors =>
      have hmem := Std.TreeMap.mem_toList_iff_getElem?_eq_some.mpr hmessage
      exact foldl_fill_of_mem hk _ hdistinct hmem _ List.length_replicate

end

end MarkTable

/-! ## Slots -/

namespace MarkLog

theorem length_slots (log : MarkLog) (count : Nat) : (log.slots count).length = count := by
  simp [slots]

theorem slots_eq_of_same {marks others : List Mark} {count : Nat}
    (h : ∀ m : Mark, m.start < m.stop → m.message < count → (m ∈ others ↔ m ∈ marks)) :
    (others.foldl record .empty).slots count = (marks.foldl record .empty).slots count := by
  refine List.ext_getElem? fun k => ?_
  by_cases hk : k < count
  · rw [slots_getElem? hk, slots_getElem? hk]
    refine congrArg some ((slotFor_highlightsOf others _).eq_of_same (slotFor_highlightsOf marks _)
      fun color start stop hlt => ?_)
    exact h ⟨count - 1 - k, color, start, stop⟩ hlt (by show count - 1 - k < count; omega)
  · rw [List.getElem?_eq_none (by rw [length_slots]; omega),
      List.getElem?_eq_none (by rw [length_slots]; omega)]

/-- Marks that are sorted when they come show what they show when they are sorted at the end. -/
theorem slots_table (marks : List Mark) (count : Nat) :
    (marks.foldl MarkTable.record .empty).slots count =
      (marks.foldl record .empty).slots count := by
  refine List.ext_getElem? fun k => ?_
  by_cases hk : k < count
  · rw [MarkTable.slots_getElem? _ hk, slots_getElem? hk]
    exact congrArg some (((MarkTable.keeps_foldl marks).slotFor _).unique
      (slotFor_highlightsOf marks _))
  · rw [List.getElem?_eq_none (by rw [MarkTable.length_slots]; omega),
      List.getElem?_eq_none (by rw [length_slots]; omega)]

theorem size_foldl_record (marks : List Mark) :
    (marks.foldl record .empty).size = marks.countP fun m => m.start < m.stop := by
  rw [foldl_record, size, empty, List.append_nil, List.length_reverse, List.countP_eq_length_filter]

/-- **All marks are shown, and nothing else.** A chat has a slot for each message, the latest first,
and the slot shows what was marked in the message. So the order of the marks does not matter, nor
how often one was made, nor any that is empty or in no message of the chat; but all that are not
empty are counted. Marks that are sorted by message and by colour when they come show and count the
same. -/
theorem marks_are_shown (marks : List Mark) (count : Nat) :
    ((marks.foldl record .empty).slots count).length = count ∧
    (∀ k < count, ∃ slot, ((marks.foldl record .empty).slots count)[k]? = some slot ∧
      SlotFor marks (count - 1 - k) slot ∧
      ∀ other, SlotFor marks (count - 1 - k) other → other = slot) ∧
    (∀ others : List Mark,
      (∀ m : Mark, m.start < m.stop → m.message < count → (m ∈ others ↔ m ∈ marks)) →
        (others.foldl record .empty).slots count = (marks.foldl record .empty).slots count) ∧
    (marks.foldl record .empty).size = marks.countP (fun m => m.start < m.stop) ∧
    (marks.foldl MarkTable.record .empty).slots count =
      (marks.foldl record .empty).slots count ∧
    (marks.foldl MarkTable.record .empty).size = (marks.foldl record .empty).size := by
  refine ⟨length_slots _ _, fun k hk => ?_, fun others => slots_eq_of_same, size_foldl_record marks,
    slots_table marks count, ?_⟩
  · have hslot := slotFor_highlightsOf marks (count - 1 - k)
    exact ⟨_, slots_getElem? hk, hslot, fun other hother => hother.unique hslot⟩
  · rw [(MarkTable.keeps_foldl marks).size_eq, size_foldl_record]

/-- Marks in a chat of three messages. One of them comes twice, one is empty and one is in no
message. -/
def watchMarks : List Mark :=
  [⟨0, "gold", 0, 3⟩, ⟨2, "gold", 5, 9⟩, ⟨2, "gold", 1, 2⟩, ⟨2, "gold", 5, 9⟩, ⟨2, "blue", 0, 1⟩,
    ⟨1, "gold", 4, 4⟩, ⟨5, "gold", 0, 1⟩]

/-- The last message shows both colours, and the chat shows the same for fewer marks backwards. -/
theorem watchMarks_are_shown :
    0 < 3 ∧ SlotFor watchMarks 2 [⟨"blue", [(0, 1)]⟩, ⟨"gold", [(1, 2), (5, 9)]⟩] ∧
    (∀ m : Mark, m.start < m.stop → m.message < 3 →
      (m ∈ (watchMarks.take 5).reverse ↔ m ∈ watchMarks)) ∧
    ((watchMarks.take 5).reverse.foldl record .empty).slots 3 =
      [[⟨"blue", [(0, 1)]⟩, ⟨"gold", [(1, 2), (5, 9)]⟩], [], [⟨"gold", [(0, 3)]⟩]] ∧
    (watchMarks.foldl record .empty).size = 6 := by
  obtain ⟨-, hslots, hothers, hsize, -⟩ := marks_are_shown watchMarks 3
  have hshown : (watchMarks.foldl record .empty).slots 3 =
      [[⟨"blue", [(0, 1)]⟩, ⟨"gold", [(1, 2), (5, 9)]⟩], [], [⟨"gold", [(0, 3)]⟩]] := by
    decide +kernel
  have hsame : ∀ m : Mark, m.start < m.stop → m.message < 3 →
      (m ∈ (watchMarks.take 5).reverse ↔ m ∈ watchMarks) := by
    intro m hlt hmessage
    rw [List.mem_reverse]
    refine ⟨List.mem_of_mem_take, fun hmem => ?_⟩
    simp only [watchMarks, List.mem_cons, List.not_mem_nil, or_false] at hmem
    -- The last two are empty or in no message, and the others are among the first five.
    rcases hmem with rfl | rfl | rfl | rfl | rfl | rfl | rfl <;> revert hlt hmessage <;> decide
  refine ⟨by decide, ?_, hsame, (hothers _ hsame).trans hshown, hsize.trans (by decide)⟩
  obtain ⟨slot, hslot, hshows, -⟩ := hslots 0 (by decide)
  rw [hshown] at hslot
  cases hslot
  exact hshows

end MarkLog

end StoryGraph
