import Mathlib.Data.List.Basic
import StoryGraph.Proofs.Evaluation
import StoryGraph.Proofs.Spans
import StoryGraph.Proofs.WholeWords

/-!
# Scanning

A filter first reads all its inputs; what it marks and gives follows from what it has read. It looks
at the messages of its sender that fewer than so many of the same come after, and in each of them
marks the first ranges of all that its patterns match.

Main definitions: `ScanSettings.Scans`, `AllSpans`. Main results: `execute_filter`,
`mem_eligible_iff`, `allSpans_iff`.
-/

namespace StoryGraph

/-! ## Reading, then marking -/

namespace Body

variable {α β γ : Type}

theorem bind_assoc (x : Body α) (f : α → Body β) (g : β → Body γ) :
    x >>= f >>= g = x >>= fun a => f a >>= g := by
  induction x with
  | done result => rfl
  | input port next ih => exact congrArg (Body.input port) (funext ih)
  | inputs port next ih => exact congrArg (Body.inputs port) (funext ih)
  | warn text next ih => exact congrArg (Body.warn text) ih
  | mark m next ih => exact congrArg (Body.mark m) ih
  | draw next ih => exact congrArg Body.draw (funext ih)

theorem pure_bind (result : α) (f : α → Body β) : (pure result : Body α) >>= f = f result := rfl

end Body

theorem MarkLog.foldl_record (marks : List Mark) (log : MarkLog) :
    marks.foldl MarkLog.record log =
      ⟨(marks.filter fun m => m.start < m.stop).reverse ++ log.marks⟩ := by
  induction marks generalizing log with
  | nil => rfl
  | cons m rest ih =>
      rw [List.foldl_cons, ih, record, List.filter_cons]
      by_cases hm : m.start < m.stop
      · simp [hm]
      · simp [hm]

namespace Scene

variable {scene : Scene} {pull : Pull} {node : Nat} {α β : Type}

theorem performWith_bind (x : Body α) (f : α → Body β) : ∀ s : Session,
    scene.performWith pull node (x >>= f) s =
      scene.performWith pull node (f (scene.performWith pull node x s).1)
        (scene.performWith pull node x s).2 := by
  induction x with
  | done result => exact fun _ => rfl
  | input port next ih => exact fun s => ih _ _
  | inputs port next ih => exact fun s => ih _ _
  | warn text next ih => exact fun s => ih _
  | mark m next ih => exact fun s => ih _
  | draw next ih => exact fun s => ih _ _

theorem performWith_markAll (marks : List Mark) : ∀ s : Session,
    (scene.performWith pull node (Body.markAll marks) s).2 =
      { s with marks := marks.foldl MarkLog.record s.marks } := by
  induction marks with
  | nil => exact fun _ => rfl
  | cons m rest ih => exact fun s => ih (s.mark m)

/-- When all that an operator needs has been read, the rest of its body follows. -/
theorem runBody_of_reading {ρ : Type} (kind : OperatorKind) {read : Body ρ}
    {rest : ρ → Body Outputs} (hbody : kind.body (scene.site node) = read >>= rest)
    {s t : Session} {r : ρ}
    (hread : scene.performWith pull node read (s.enter node) = (r, t)) :
    scene.runBody pull node kind s = scene.performWith pull node (rest r) t := by
  rw [runBody, hbody, performWith_bind, hread]

/-- **A filter at work.** The outputs and the marks follow from what was read, whatever the session
and however inputs are found. -/
theorem execute_filter {ρ : Type} (kind : OperatorKind) {read : Body ρ} {marks : ρ → List Mark}
    {outputs : ρ → Outputs}
    (hbody : kind.body (scene.site node) = read >>= fun r => do
      Body.markAll (marks r)
      return outputs r) {s t : Session} {r : ρ}
    (hread : scene.performWith pull node read (s.enter node) = (r, t)) :
    (scene.execute pull node kind s).1 = outputs r ∧
      (scene.execute pull node kind s).2.marks.marks =
        ((marks r).filter fun m => m.start < m.stop).reverse ++ t.marks.marks := by
  have hrun := runBody_of_reading kind hbody hread
  rw [performWith_bind, performWith_markAll, MarkLog.foldl_record] at hrun
  rw [execute_eq, hrun]
  exact ⟨rfl, rfl⟩

end Scene

/-! ## Messages that are looked at -/

def Sender.counts (sender : Sender) (message : Value) : Bool :=
  sender.accepts ((message.get? "is_bot").bind Value.toBool?)

/-- The message at the position counts and, if there is a depth, is one of the last so many that
do. -/
structure Operator.ScanSettings.Scans (settings : Operator.ScanSettings) (messages : List Value)
    (position : Nat) (message : Value) : Prop where
  stands : messages[position]? = some message
  counts : settings.sender.counts message
  recent : settings.depth = 0 ∨
    (messages.drop (position + 1)).countP settings.sender.counts < settings.depth

section

variable {α : Type} {p : α → Bool} {depth : Nat}

theorem lastItems_cons_of_lt {item : α} {items : List α} (h : depth = 0 ∨ items.length < depth) :
    lastItems depth (item :: items) = item :: lastItems depth items := by
  unfold lastItems
  rcases h with hzero | hlt
  · rw [if_pos hzero, if_pos hzero]
  · rw [if_neg (by omega), if_neg (by omega), List.length_cons, Nat.sub_eq_zero_of_le hlt,
      Nat.sub_eq_zero_of_le (Nat.le_of_lt hlt)]
    rfl

theorem lastItems_cons_of_le {item : α} {items : List α} (hpos : depth ≠ 0)
    (hle : depth ≤ items.length) : lastItems depth (item :: items) = lastItems depth items := by
  unfold lastItems
  rw [if_neg hpos, if_neg hpos, List.length_cons, Nat.succ_sub hle]
  rfl

/-- The last so many of the items that count are those that fewer of them come after. -/
theorem mem_lastItems_filter {item : α} {items : List α} :
    item ∈ lastItems depth (items.filter p) ↔ ∃ i, items[i]? = some item ∧ p item ∧
      (depth = 0 ∨ (items.drop (i + 1)).countP p < depth) := by
  induction items with
  | nil => simp [lastItems]
  | cons other rest ih =>
      have hlater : (∃ i, (other :: rest)[i + 1]? = some item ∧ p item ∧
          (depth = 0 ∨ ((other :: rest).drop (i + 1 + 1)).countP p < depth)) ↔
          item ∈ lastItems depth (rest.filter p) := by
        simp only [List.getElem?_cons_succ, List.drop_succ_cons, ih]
      rw [← Nat.or_exists_add_one, hlater, List.getElem?_cons_zero, Option.some.injEq,
        List.drop_one, List.tail_cons, List.countP_eq_length_filter]
      by_cases hother : p other
      · rw [List.filter_cons_of_pos hother]
        by_cases hfew : depth = 0 ∨ (rest.filter p).length < depth
        · rw [lastItems_cons_of_lt hfew, List.mem_cons]
          exact or_congr_left ⟨fun h => ⟨h.symm, h ▸ hother, hfew⟩, fun h => h.1.symm⟩
        · rw [lastItems_cons_of_le (by omega) (by omega)]
          exact (or_iff_right fun h => hfew h.2.2).symm
      · rw [List.filter_cons_of_neg hother]
        exact (or_iff_right fun h : other = item ∧ _ => hother (h.1 ▸ h.2.1)).symm

end

/-- **What is looked at.** -/
theorem mem_eligible_iff {settings : Operator.ScanSettings} {messages : List Value}
    {candidate : Candidate} : candidate ∈ eligible messages settings.sender settings.depth ↔
    ∃ position message, settings.Scans messages position message ∧
      candidate = .ofValue position message := by
  have hcount : ∀ n, (messages.zipIdx.drop n).countP (fun item => settings.sender.counts item.1) =
      (messages.drop n).countP settings.sender.counts := by
    intro n
    rw [← List.zipIdx_map_fst 0 messages, ← List.map_drop, List.countP_map, List.zipIdx_map_fst]
    rfl
  have hscans : ∀ position message, settings.Scans messages position message ↔
      (message, position) ∈ lastItems settings.depth
        (messages.zipIdx.filter fun item => settings.sender.counts item.1) := by
    intro position message
    rw [mem_lastItems_filter (p := fun item : Value × Nat => settings.sender.counts item.1)]
    simp only [hcount, List.getElem?_zipIdx, Nat.zero_add, Option.map_eq_some_iff, Prod.mk.injEq]
    constructor
    · rintro ⟨hstands, hcounts, hrecent⟩
      exact ⟨position, ⟨message, hstands, rfl, rfl⟩, hcounts, hrecent⟩
    · rintro ⟨i, ⟨_, hstands, rfl, rfl⟩, hcounts, hrecent⟩
      exact ⟨hstands, hcounts, hrecent⟩
  have hmap : ∀ {α β : Type} (f : α → β) (depth : Nat) (items : List α),
      lastItems depth (items.map f) = (lastItems depth items).map f := by
    intro α β f depth items
    unfold lastItems
    split
    · rfl
    · rw [List.length_map, List.map_drop]
  show candidate ∈ lastItems settings.depth (List.map _ (List.filter _ messages.zipIdx)) ↔ _
  rw [hmap, List.mem_map]
  simp only [hscans, Prod.exists]
  constructor
  · rintro ⟨message, position, hmem, rfl⟩
    exact ⟨position, message, hmem, rfl⟩
  · rintro ⟨position, message, hmem, rfl⟩
    exact ⟨message, position, hmem, rfl⟩

/-! ## Ranges -/

structure AllSpans (patterns : List TextPattern) (text : String) (spans : List (Nat × Nat)) :
    Prop where
  perm : spans.Perm (patterns.flatMap (·.spans text))
  ascending : spans.Pairwise fun a b => a.1 < b.1 ∨ a.1 = b.1 ∧ a.2 ≤ b.2

theorem rangeLe_iff {a b : Nat × Nat} : rangeLe a b ↔ a.1 < b.1 ∨ a.1 = b.1 ∧ a.2 ≤ b.2 := by
  simp [rangeLe]

theorem pairwise_mergeSort_rangeLe (ranges : List (Nat × Nat)) :
    (ranges.mergeSort rangeLe).Pairwise fun a b => a.1 < b.1 ∨ a.1 = b.1 ∧ a.2 ≤ b.2 := by
  refine (List.pairwise_mergeSort (fun a b c hab hbc => ?_) (fun a b => ?_) _).imp rangeLe_iff.mp
  · rw [rangeLe_iff] at hab hbc ⊢
    omega
  · rw [Bool.or_eq_true, rangeLe_iff, rangeLe_iff]
    omega

theorem allSpans_spansOf (patterns : List TextPattern) (text : String) :
    AllSpans patterns text (spansOf patterns text) :=
  ⟨List.mergeSort_perm _ _, pairwise_mergeSort_rangeLe _⟩

theorem allSpans_iff {patterns : List TextPattern} {text : String} {spans : List (Nat × Nat)} :
    AllSpans patterns text spans ↔ spans = spansOf patterns text := by
  refine ⟨fun h => ?_, fun h => h ▸ allSpans_spansOf patterns text⟩
  have hsorted := allSpans_spansOf patterns text
  refine (h.perm.trans hsorted.perm.symm).eq_of_pairwise (fun a b _ _ hab hba => ?_) h.ascending
    hsorted.ascending
  exact Prod.ext (by omega) (by omega)

namespace Keyword

variable {keyword : Keyword}

theorem stem_ne_nil {text : String} {caseSensitive : Bool}
    (h : ofText? text caseSensitive = some keyword) : keyword.stem ≠ [] := by
  obtain ⟨hstem, hkeyword⟩ := ofText?_eq_some h
  have hsame : keyword.stem = stemOf text := by rw [hkeyword]
  rw [hsame]
  exact hstem

theorem matchLength?_pos (hstem : keyword.stem ≠ []) {before : Option Char} {text : List Char}
    {size : Nat} (h : keyword.matchLength? before text = some size) : 0 < size := by
  have hpos := List.length_pos_iff.mpr hstem
  unfold matchLength? at h
  dsimp only at h
  split at h
  · exact nomatch h
  · split at h
    · exact nomatch h
    · split at h
      · exact nomatch h
      · split at h <;> cases h <;> omega

theorem spansFrom_nonempty (hstem : keyword.stem ≠ []) (text : List Char) :
    ∀ {skip position : Nat} {before : Option Char},
    ∀ range ∈ keyword.spansFrom skip position before text, range.1 < range.2 := by
  induction text with
  | nil =>
      intro skip position before range hrange
      simp [spansFrom] at hrange
  | cons c rest ih =>
      intro skip position before range hrange
      cases skip with
      | succ skip => exact ih range hrange
      | zero =>
          rw [spansFrom] at hrange
          split at hrange
          · rename_i size hsize
            rcases List.mem_cons.mp hrange with rfl | hrange
            · exact Nat.lt_add_of_pos_right (matchLength?_pos hstem hsize)
            · exact ih range hrange
          · exact ih range hrange

end Keyword

def TextPattern.IsMade (pattern : TextPattern) : Prop :=
  ∃ text caseSensitive, TextPattern.ofKeyword? text caseSensitive = some pattern ∨
    TextPattern.ofRegex? text caseSensitive = some pattern

/-- **What is found holds at least one character.** -/
theorem TextPattern.IsMade.spans_nonempty {pattern : TextPattern} (h : pattern.IsMade)
    {text : String} : ∀ range ∈ pattern.spans text, range.1 < range.2 := by
  intro range hrange
  obtain ⟨source, caseSensitive, hkeyword | hregex⟩ := h
  · unfold TextPattern.ofKeyword? at hkeyword
    obtain ⟨keyword, hmade, rfl⟩ := Option.map_eq_some_iff.mp hkeyword
    exact Keyword.spansFrom_nonempty (Keyword.stem_ne_nil hmade) text.toList range hrange
  · unfold TextPattern.ofRegex? at hregex
    obtain ⟨regex, -, rfl⟩ := Option.map_eq_some_iff.mp hregex
    obtain ⟨found, hfound, rfl⟩ := List.mem_map.mp hrange
    obtain ⟨hfound, hlong⟩ := List.mem_filter.mp hfound
    have hinside := Pattern.Program.findAll_inside found hfound
    exact Nat.lt_of_le_of_ne hinside.ordered (by simpa [Pattern.Match.isEmpty] using hlong)

theorem mem_spansOf_iff {patterns : List TextPattern} {text : String} {range : Nat × Nat} :
    range ∈ spansOf patterns text ↔ ∃ pattern ∈ patterns, range ∈ pattern.spans text :=
  (List.mergeSort_perm _ _).mem_iff.trans List.mem_flatMap

/-! ## Marks -/

namespace Operator

variable {patterns : List TextPattern} {candidates : List Candidate} {color : String} {cap : Nat}
  {m : Mark}

theorem mem_marksOf_iff {found : Find} : m ∈ marksOf color cap found ↔
    found.candidate.index = some m.message ∧ m.color = color ∧
      (m.start, m.stop) ∈ firstItems cap found.spans := by
  unfold marksOf
  split
  · rename_i index hindex
    rw [hindex, List.mem_map, Option.some.injEq]
    constructor
    · rintro ⟨range, hrange, rfl⟩
      exact ⟨rfl, rfl, hrange⟩
    · rintro ⟨rfl, rfl, hrange⟩
      exact ⟨_, hrange, rfl⟩
  · rename_i hindex
    rw [hindex]
    exact ⟨fun h => absurd h List.not_mem_nil, fun h => nomatch h.1⟩

theorem flatMap_finds : (finds patterns candidates).flatMap (marksOf color cap) =
    candidates.flatMap fun candidate =>
      marksOf color cap ⟨candidate, spansOf patterns candidate.text⟩ := by
  have hnone : ∀ candidate, marksOf color cap ⟨candidate, []⟩ = [] := fun candidate =>
    List.eq_nil_iff_forall_not_mem.mpr fun m hm =>
      List.not_mem_nil (mem_firstItems (mem_marksOf_iff.mp hm).2.2)
  induction candidates with
  | nil => rfl
  | cons candidate rest ih =>
      rw [List.flatMap_cons, ← ih, finds, List.map_cons, List.filter_cons]
      cases hspans : spansOf patterns candidate.text with
      | nil =>
          rw [hnone]
          rfl
      | cons range spans => rfl

/-- **What is marked** for some patterns: the first ranges in each message whose place in the chat
is known. -/
theorem mem_flatMap_marksOf : m ∈ (finds patterns candidates).flatMap (marksOf color cap) ↔
    ∃ candidate ∈ candidates, candidate.index = some m.message ∧ m.color = color ∧
      (m.start, m.stop) ∈ firstItems cap (spansOf patterns candidate.text) := by
  simp only [flatMap_finds, List.mem_flatMap, mem_marksOf_iff]

/-- Marks for patterns that were made from texts hold at least one character. -/
theorem flatMap_marksOf_nonempty (h : ∀ pattern ∈ patterns, pattern.IsMade) :
    ∀ m ∈ (finds patterns candidates).flatMap (marksOf color cap), m.start < m.stop := by
  intro m hm
  obtain ⟨candidate, -, -, -, hrange⟩ := mem_flatMap_marksOf.mp hm
  obtain ⟨pattern, hpattern, hspan⟩ := mem_spansOf_iff.mp (mem_firstItems hrange)
  exact (h pattern hpattern).spans_nonempty _ hspan

theorem finds_eq_nil_iff : finds patterns candidates = [] ↔
    ∀ candidate ∈ candidates, ∀ pattern ∈ patterns, pattern.spans candidate.text = [] := by
  unfold finds
  simp only [List.filter_eq_nil_iff, List.forall_mem_map, List.isEmpty_iff, Bool.not_eq_true',
    Bool.not_eq_false]
  refine forall₂_congr fun candidate _ => ?_
  rw [← List.flatMap_eq_nil_iff, ← List.perm_nil, ← List.perm_nil]
  exact (List.mergeSort_perm _ _).congr_left []

end Operator

end StoryGraph
