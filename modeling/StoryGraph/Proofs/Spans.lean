import StoryGraph.Operator.Selection

/-!
# What is found lies inside the text

Whatever a keyword or a regular expression finds in a text is a range of the text's characters. A
keyword is compared character by character, so its matches end where the text ends at the latest. A
thread of a search moves on only over a character that is there, so no place beyond the text is
ever reached. A filter marks such ranges, in the messages that it was given.

Main definition: `Mark.LiesIn`.
-/

namespace StoryGraph

/-! ## Keywords -/

namespace Keyword

variable {keyword : Keyword}

theorem agrees_length {text : List Char} (h : keyword.agrees text = true) :
    keyword.stem.length = text.length := by
  unfold agrees at h
  simp only [Bool.and_eq_true, beq_iff_eq] at h
  exact h.1

theorem matchLength?_le {before : Option Char} {text : List Char} {size : Nat}
    (h : keyword.matchLength? before text = some size) : size ≤ text.length := by
  unfold matchLength? at h
  dsimp only at h
  split at h
  · exact nomatch h
  · split at h
    · exact nomatch h
    · rename_i hagrees
      -- The stem was found in full, so the text is at least as long.
      have hstem : keyword.stem.length ≤ text.length := by
        have hlength := agrees_length (by simpa using hagrees)
        rw [List.length_take] at hlength
        omega
      split at h
      · exact nomatch h
      · split at h <;> cases h
        · have htail := (List.takeWhile_sublist (l := text.drop keyword.stem.length)
            Text.isWord).length_le
          rw [List.length_drop] at htail
          omega
        · exact hstem

theorem spansFrom_inside (text : List Char) : ∀ {skip position : Nat} {before : Option Char},
    ∀ range ∈ keyword.spansFrom skip position before text,
      range.1 ≤ range.2 ∧ range.2 ≤ position + text.length := by
  induction text with
  | nil =>
      intro skip position before range hrange
      simp [spansFrom] at hrange
  | cons c rest ih =>
      intro skip position before range hrange
      rw [List.length_cons]
      -- What is found in the rest of the text ends where the text ends.
      have hrest : ∀ {skip}, range ∈ keyword.spansFrom skip (position + 1) (some c) rest →
          range.1 ≤ range.2 ∧ range.2 ≤ position + (rest.length + 1) := by
        intro skip hmem
        have := ih range hmem
        omega
      cases skip with
      | succ skip => exact hrest hrange
      | zero =>
          rw [spansFrom] at hrange
          split at hrange
          · rename_i size hsize
            rcases List.mem_cons.mp hrange with rfl | hmem
            · have := matchLength?_le hsize
              rw [List.length_cons] at this
              exact ⟨Nat.le_add_right position size, by dsimp only; omega⟩
            · exact hrest hmem
          · exact hrest hrange

end Keyword

/-! ## Regular expressions -/

namespace Pattern

/-- The thread began at or before the place where it stands, and that is a place of the text. -/
structure Thread.Inside (text : Array Char) (thread : Thread) : Prop where
  ordered : thread.start ≤ thread.position
  bounded : thread.position ≤ text.size

structure Match.Inside (text : Array Char) (found : Match) : Prop where
  ordered : found.start ≤ found.stop
  bounded : found.stop ≤ text.size

namespace Program

variable {program : Program} {text : Array Char}

theorem successors_inside {thread : Thread} (h : thread.Inside text) :
    ∀ next ∈ program.successors text thread, next.Inside text := by
  intro next hnext
  unfold successors at hnext
  split at hnext
  · split at hnext
    · rename_i hchar
      split at hnext
      · obtain ⟨hlt, -⟩ := Array.getElem?_eq_some_iff.mp hchar
        rw [List.mem_singleton.mp hnext]
        exact ⟨Nat.le_succ_of_le h.ordered, hlt⟩
      · exact absurd hnext List.not_mem_nil
    · exact absurd hnext List.not_mem_nil
  · -- A condition looks at the characters on both sides and moves over neither.
    generalize (if thread.position = 0 then none else text[thread.position - 1]?) = before at hnext
    dsimp only at hnext
    split at hnext
    · rw [List.mem_singleton.mp hnext]
      exact ⟨h.ordered, h.bounded⟩
    · exact absurd hnext List.not_mem_nil
  · rcases List.mem_cons.mp hnext with rfl | hnext
    · exact ⟨h.ordered, h.bounded⟩
    · rw [List.mem_singleton.mp hnext]
      exact ⟨h.ordered, h.bounded⟩
  · rw [List.mem_singleton.mp hnext]
    exact ⟨h.ordered, h.bounded⟩
  · exact absurd hnext List.not_mem_nil

theorem explore_inside (bound : Nat) : ∀ {seen : Std.HashSet (Nat × Nat)} {threads : List Thread}
    {found : Match}, (∀ thread ∈ threads, thread.Inside text) →
    program.explore text bound seen threads = some found → found.Inside text := by
  induction bound with
  | zero => exact fun _ h => nomatch h
  | succ bound ih =>
      intro seen threads found hthreads hfound
      cases threads with
      | nil => exact nomatch hfound
      | cons thread rest =>
          obtain ⟨hthread, hrest⟩ := List.forall_mem_cons.mp hthreads
          rw [explore] at hfound
          split at hfound
          · exact ih hrest hfound
          · split at hfound
            · cases hfound
              exact ⟨hthread.ordered, hthread.bounded⟩
            · exact ih (List.forall_mem_append.mpr ⟨successors_inside hthread, hrest⟩) hfound

/-- **A match that a search finds is a range of the text.** -/
theorem search_inside {first : Nat} {found : Match} (h : program.search text first = some found) :
    found.Inside text := by
  refine explore_inside _ (List.forall_mem_map.mpr fun start hstart => ?_) h
  obtain ⟨hfirst, hlast⟩ := List.mem_range'_1.mp hstart
  exact ⟨Nat.le_refl start, by dsimp only; omega⟩

theorem next?_inside {stop : Nat} {found : Match} (h : program.next? text stop = some found) :
    found.Inside text := by
  unfold next? at h
  split at h
  · rename_i hsearch
    split at h
    · exact search_inside h
    · cases h
      exact search_inside hsearch
  · exact nomatch h

theorem findAfter_inside (bound : Nat) : ∀ {stop : Nat},
    ∀ found ∈ program.findAfter text bound stop, found.Inside text := by
  induction bound with
  | zero => exact fun _ h => absurd h List.not_mem_nil
  | succ bound ih =>
      intro stop found hfound
      rw [findAfter] at hfound
      split at hfound
      · rename_i hnext
        rcases List.mem_cons.mp hfound with rfl | hfound
        · exact next?_inside hnext
        · exact ih found hfound
      · exact absurd hfound List.not_mem_nil

theorem findAll_inside : ∀ found ∈ program.findAll text, found.Inside text := by
  intro found hfound
  unfold findAll at hfound
  split at hfound
  · rename_i hsearch
    rcases List.mem_cons.mp hfound with rfl | hfound
    · exact search_inside hsearch
    · exact findAfter_inside _ found hfound
  · exact absurd hfound List.not_mem_nil

end Program

end Pattern

/-! ## Finds in messages -/

/-- **Whatever a pattern finds in a text is a range of its characters.** -/
theorem TextPattern.spans_inside {pattern : TextPattern} {text : String} :
    ∀ range ∈ pattern.spans text, range.1 ≤ range.2 ∧ range.2 ≤ text.length := by
  intro range hrange
  rw [← String.length_toList]
  cases pattern with
  | keyword keyword =>
      have := Keyword.spansFrom_inside text.toList range hrange
      omega
  | regex source regex =>
      obtain ⟨found, hfound, rfl⟩ := List.mem_map.mp hrange
      have hinside := Pattern.Program.findAll_inside found (List.mem_filter.mp hfound).1
      have hsize : text.toList.toArray.size = text.toList.length := List.size_toArray
      exact ⟨hinside.ordered, hsize ▸ hinside.bounded⟩

theorem mem_spansOf {patterns : List TextPattern} {text : String} {range : Nat × Nat}
    (h : range ∈ spansOf patterns text) : range.2 ≤ text.length := by
  obtain ⟨pattern, -, hrange⟩ := List.mem_flatMap.mp ((List.mergeSort_perm _ _).mem_iff.mp h)
  exact (TextPattern.spans_inside range hrange).2

theorem mem_lastItems {α : Type} {depth : Nat} {items : List α} {item : α}
    (h : item ∈ lastItems depth items) : item ∈ items := by
  unfold lastItems at h
  split at h
  · exact h
  · exact List.mem_of_mem_drop h

theorem mem_firstItems {α : Type} {cap : Nat} {items : List α} {item : α}
    (h : item ∈ firstItems cap items) : item ∈ items := by
  unfold firstItems at h
  split at h
  · exact h
  · exact List.mem_of_mem_take h

theorem mem_eligible {messages : List Value} {sender : Sender} {depth : Nat} {candidate : Candidate}
    (h : candidate ∈ eligible messages sender depth) :
    ∃ message ∈ messages, ∃ position, candidate = .ofValue position message := by
  obtain ⟨⟨message, position⟩, hmem, rfl⟩ := List.mem_map.mp (mem_lastItems h)
  exact ⟨message, List.fst_mem_of_mem_zipIdx (List.mem_filter.mp hmem).1, position, rfl⟩

/-- The mark is made in the message of the chat that the value says it is, and ends with its text at
the latest. -/
def Mark.LiesIn (m : Mark) (message : Value) : Prop :=
  ∃ position, (Candidate.ofValue position message).index = some m.message ∧
    m.stop ≤ (Candidate.ofValue position message).text.length

namespace Operator

/-- **A filter marks inside the messages that it was given.** -/
theorem mem_marksOf {patterns : List TextPattern} {messages : List Value} {sender : Sender}
    {depth cap : Nat} {color : String} {found : Find} {m : Mark}
    (hfound : found ∈ finds patterns (eligible messages sender depth))
    (hm : m ∈ marksOf color cap found) : ∃ message ∈ messages, m.LiesIn message := by
  obtain ⟨candidate, hcandidate, rfl⟩ := List.mem_map.mp (List.mem_filter.mp hfound).1
  obtain ⟨message, hmessage, position, rfl⟩ := mem_eligible hcandidate
  unfold marksOf at hm
  split at hm
  · rename_i index hindex
    obtain ⟨range, hrange, rfl⟩ := List.mem_map.mp hm
    exact ⟨message, hmessage, position, hindex, mem_spansOf (mem_firstItems hrange)⟩
  · exact absurd hm List.not_mem_nil

end Operator

end StoryGraph
