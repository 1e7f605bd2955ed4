import StoryGraph.Proofs.Caps
import StoryGraph.Proofs.Dealt
import StoryGraph.Proofs.Gains

/-!
# Messages and conditions are sorted into buckets

A filter of messages deals its messages out to those that are hit and the others, and its conditions
to those that are met and the others, each in their order. A message is hit if it is one of those
that are looked at and some condition matches in it; a condition is met if it matches in some
message that is looked at. A condition that is no regular expression where one is asked for matches
nowhere and is warned of.

Main definitions: `ConditionReading`, `ConditionReading.Hits`, `ConditionReading.Meets`. Main
result: `Scene.buckets_are_exact`.
-/

namespace StoryGraph

namespace Operator

/-- What a filter of messages reads before it makes patterns of its conditions. -/
structure ConditionReading where
  messages : List Value
  /-- The conditions as they are wired in. -/
  given : List Value
  useRegex : Bool
  settings : ScanSettings

def askConditionReading (site : Site) : Body ConditionReading := do
  let messages ← askMessages site
  let given ← Body.askItems "conditions"
  let useRegex ← Body.askFlag "use_regex" false
  let settings ← askScanSettings site
  return ⟨messages, given, useRegex, settings⟩

namespace ConditionReading

variable {reading : ConditionReading} {condition : String}

def conditions (reading : ConditionReading) : List String :=
  (reading.given.map Value.display).filter fun condition => !(Text.trim condition).isEmpty

def pattern? (reading : ConditionReading) (condition : String) : Option TextPattern :=
  if reading.useRegex then TextPattern.ofRegex? condition reading.settings.caseSensitive
  else TextPattern.ofKeyword? condition reading.settings.caseSensitive

/-- Whether a regular expression is asked for and the condition is none. -/
def malformed (reading : ConditionReading) (condition : String) : Bool :=
  reading.useRegex &&
    (TextPattern.ofRegex? condition reading.settings.caseSensitive).isNone

def complaint (site : Site) (condition : String) : String :=
  "invalid regex " ++ Text.quoted condition ++ " at node " ++ site.nodeId

def withPatterns (reading : ConditionReading) : MessageReading :=
  ⟨reading.messages, reading.settings,
    reading.conditions.map fun condition => (condition, reading.pattern? condition)⟩

theorem pattern?_of_malformed (h : reading.malformed condition = true) :
    reading.pattern? condition = none := by
  obtain ⟨hregex, hnone⟩ := Bool.and_eq_true_iff.mp h
  rw [pattern?, if_pos hregex, Option.isNone_iff_eq_none.mp hnone]

theorem isMade_of_pattern? {pattern : TextPattern}
    (h : reading.pattern? condition = some pattern) : pattern.IsMade := by
  refine ⟨condition, reading.settings.caseSensitive, ?_⟩
  unfold pattern? at h
  split at h
  · exact .inr h
  · exact .inl h

/-! ## Making patterns -/

section

variable (scene : Scene) (pull : Scene.Pull) (node : Nat)

theorem performWith_conditionPattern (reading : ConditionReading) (condition : String)
    (s : Session) :
    scene.performWith pull node (conditionPattern (scene.site node) reading.useRegex
        reading.settings.caseSensitive condition) s =
      (reading.pattern? condition,
        if reading.malformed condition then s.warn (complaint (scene.site node) condition)
        else s) := by
  unfold conditionPattern pattern? malformed
  cases reading.useRegex with
  | false => rfl
  | true =>
      cases hpattern : TextPattern.ofRegex? condition reading.settings.caseSensitive <;> rfl

/-- Every condition gets its pattern, and the malformed ones are warned of in their order. -/
theorem performWith_conditionPatterns (reading : ConditionReading) (conditions : List String) :
    ∀ s : Session,
      scene.performWith pull node (conditionPatterns (scene.site node) reading.useRegex
          reading.settings.caseSensitive conditions) s =
        (conditions.map fun condition => (condition, reading.pattern? condition),
          ((conditions.filter reading.malformed).map (complaint (scene.site node))).foldl
            Session.warn s) := by
  induction conditions with
  | nil => exact fun _ => rfl
  | cons condition rest ih =>
      intro s
      rw [conditionPatterns, Scene.performWith_bind, performWith_conditionPattern,
        Scene.performWith_bind, ih]
      cases hmalformed : reading.malformed condition with
      | true =>
          rw [List.filter_cons_of_pos hmalformed]
          rfl
      | false =>
          rw [List.filter_cons_of_neg (by simp [hmalformed])]
          rfl

theorem messageFilter_eq (site : Site) :
    messageFilter site = askConditionReading site >>= fun reading => do
      let patterns ← conditionPatterns site reading.useRegex reading.settings.caseSensitive
        reading.conditions
      Body.markAll (MessageReading.marks ⟨reading.messages, reading.settings, patterns⟩
        site.config.messageColor)
      return MessageReading.outputs ⟨reading.messages, reading.settings, patterns⟩ := by
  rw [MessageReading.messageFilter_eq]
  unfold askMessageReading askConditionReading
  simp only [Body.bind_assoc, Body.pure_bind]
  rfl

end

/-! ## What is hit and what is met -/

def Matches (reading : ConditionReading) (condition : String) (candidate : Candidate) : Prop :=
  ∃ pattern, reading.pattern? condition = some pattern ∧
    ∃ range ∈ pattern.spans candidate.text, range.1 < range.2

/-- The message at the position is looked at, and some condition matches in it. -/
def Hits (reading : ConditionReading) (position : Nat) (message : Value) : Prop :=
  reading.settings.Scans reading.messages position message ∧
    ∃ condition ∈ reading.conditions, reading.Matches condition (.ofValue position message)

def Meets (reading : ConditionReading) (condition : String) : Prop :=
  ∃ position message, reading.settings.Scans reading.messages position message ∧
    reading.Matches condition (.ofValue position message)

theorem matches_iff {candidate : Candidate} : reading.Matches condition candidate ↔
    ∃ pattern, reading.pattern? condition = some pattern ∧
      ∃ range, range ∈ pattern.spans candidate.text := by
  refine exists_congr fun pattern => and_congr_right fun hpattern => exists_congr fun range => ?_
  exact and_iff_left_of_imp ((isMade_of_pattern? hpattern).spans_nonempty range)

theorem not_meets_of_malformed (h : reading.malformed condition = true) :
    ¬ reading.Meets condition := by
  rintro ⟨position, message, -, pattern, hpattern, -⟩
  rw [pattern?_of_malformed h] at hpattern
  exact nomatch hpattern

theorem ofValue_position (position : Nat) (message : Value) :
    (Candidate.ofValue position message).position = position := by
  cases message <;> rfl

/-- Something is found in a message that is looked at exactly if a condition matches in it. -/
theorem mem_found_iff {candidate : Candidate} :
    (∃ found ∈ reading.withPatterns.found, found.candidate = candidate) ↔
      candidate ∈ reading.withPatterns.candidates ∧
        ∃ condition ∈ reading.conditions, reading.Matches condition candidate := by
  have hspans : (spansOf (reading.withPatterns.patterns.filterMap (·.2))
      candidate.text).isEmpty = false ↔
        ∃ condition ∈ reading.conditions, reading.Matches condition candidate := by
    simp only [List.isEmpty_eq_false_iff_exists_mem, mem_spansOf_iff, withPatterns,
      List.mem_filterMap, List.mem_map, matches_iff]
    constructor
    · rintro ⟨range, pattern, ⟨_, ⟨condition, hcondition, rfl⟩, hpattern⟩, hrange⟩
      exact ⟨condition, hcondition, pattern, hpattern, range, hrange⟩
    · rintro ⟨condition, hcondition, pattern, hpattern, range, hrange⟩
      exact ⟨range, pattern, ⟨_, ⟨condition, hcondition, rfl⟩, hpattern⟩, hrange⟩
  unfold MessageReading.found finds
  simp only [List.mem_filter, List.mem_map, Bool.not_eq_true']
  constructor
  · rintro ⟨_, ⟨⟨candidate', hcandidate, rfl⟩, hsome⟩, rfl⟩
    exact ⟨hcandidate, hspans.mp hsome⟩
  · rintro ⟨hcandidate, hmatches⟩
    exact ⟨_, ⟨⟨candidate, hcandidate, rfl⟩, hspans.mpr hmatches⟩, rfl⟩

/-- **A message is put to the hits exactly if it is hit**: its place in the list is that of a
message in which something was found. -/
theorem any_found_iff {item : Value × Nat} (hitem : item ∈ reading.messages.zipIdx) :
    (reading.withPatterns.found.any (·.candidate.position == item.2)) = true ↔
      reading.Hits item.2 item.1 := by
  obtain ⟨message, position⟩ := item
  have hstands : reading.messages[position]? = some message :=
    List.mk_mem_zipIdx_iff_getElem?.mp hitem
  rw [List.any_eq_true]
  constructor
  · rintro ⟨found, hfound, hposition⟩
    obtain ⟨hcandidate, hmatches⟩ := mem_found_iff.mp ⟨found, hfound, rfl⟩
    obtain ⟨place, said, hscans, heq⟩ := mem_eligible_iff.mp hcandidate
    -- The message in which something was found is the one at the position.
    obtain rfl : place = position := by
      rw [← ofValue_position place said, ← heq]
      exact eq_of_beq hposition
    obtain rfl : said = message := Option.some.inj (hscans.stands.symm.trans hstands)
    exact ⟨hscans, heq ▸ hmatches⟩
  · rintro ⟨hscans, hmatches⟩
    obtain ⟨found, hfound, heq⟩ := mem_found_iff.mpr
      ⟨mem_eligible_iff.mpr ⟨position, message, hscans, rfl⟩, hmatches⟩
    exact ⟨found, hfound, by rw [heq, ofValue_position, beq_self_eq_true]⟩

/-- **A condition is put to the met ones exactly if it is met.** -/
theorem matchesSome_iff :
    matchesSome reading.withPatterns.candidates (reading.pattern? condition) = true ↔
      reading.Meets condition := by
  unfold matchesSome Meets
  simp only [Option.any_eq_true, List.any_eq_true, Bool.not_eq_true',
    List.isEmpty_eq_false_iff_exists_mem, matches_iff]
  constructor
  · rintro ⟨pattern, hpattern, candidate, hcandidate, hspans⟩
    obtain ⟨position, message, hscans, rfl⟩ := mem_eligible_iff.mp hcandidate
    exact ⟨position, message, hscans, pattern, hpattern, hspans⟩
  · rintro ⟨position, message, hscans, pattern, hpattern, hspans⟩
    exact ⟨pattern, hpattern, _, mem_eligible_iff.mpr ⟨position, message, hscans, rfl⟩, hspans⟩

/-! ## Buckets -/

/-- The messages, each with its place, are dealt out by whether they are hit, and the conditions by
whether they are met. -/
structure Sorts (reading : ConditionReading) (hits others : List (Value × Nat))
    (met unmet : List String) : Prop where
  messages : DealtBy (fun item => reading.Hits item.2 item.1) hits others reading.messages.zipIdx
  conditions : DealtBy reading.Meets met unmet reading.conditions

theorem Sorts.hits_iff_met {hits others : List (Value × Nat)} {met unmet : List String}
    (h : reading.Sorts hits others met unmet) : hits ≠ [] ↔ met ≠ [] := by
  constructor
  · intro hhits
    obtain ⟨⟨message, position⟩, hitem⟩ := List.exists_mem_of_ne_nil _ hhits
    obtain ⟨hscans, condition, hcondition, hmatches⟩ := h.messages.holds _ hitem
    exact List.ne_nil_of_mem
      (h.conditions.mem_first.mpr ⟨hcondition, position, message, hscans, hmatches⟩)
  · intro hmet
    obtain ⟨condition, hitem⟩ := List.exists_mem_of_ne_nil _ hmet
    obtain ⟨hcondition, position, message, hscans, hmatches⟩ := h.conditions.mem_first.mp hitem
    have hmem : (message, position) ∈ reading.messages.zipIdx :=
      List.mk_mem_zipIdx_iff_getElem?.mpr hscans.stands
    exact List.ne_nil_of_mem
      (h.messages.mem_first.mpr ⟨hmem, hscans, condition, hcondition, hmatches⟩)

def outputsOf (hits others : List (Value × Nat)) (met unmet : List String) (matched : Bool) :
    Outputs :=
  ⟨[("matched_messages", .list (hits.map Prod.fst)),
    ("unmatched_messages", .list (others.map Prod.fst)),
    ("matched_conditions", .list (met.map .text)),
    ("unmatched_conditions", .list (unmet.map .text)),
    ("matched", .bool matched)]⟩

/-- **The buckets that the filter fills are right.** -/
theorem exists_sorts (reading : ConditionReading) : ∃ hits others met unmet,
    reading.Sorts hits others met unmet ∧
      reading.withPatterns.outputs = outputsOf hits others met unmet !hits.isEmpty := by
  have hmessages : ∀ item ∈ reading.messages.zipIdx,
      reading.withPatterns.found.any (·.candidate.position == item.2) = true ↔
        reading.Hits item.2 item.1 := fun _ => any_found_iff
  have hconditions : ∀ condition ∈ reading.conditions,
      matchesSome reading.withPatterns.candidates (reading.pattern? condition) = true ↔
        reading.Meets condition := fun _ _ => matchesSome_iff
  refine ⟨_, _, _, _, ⟨dealtBy_filter hmessages, dealtBy_filter hconditions⟩, ?_⟩
  unfold MessageReading.outputs
  simp only [List.partition_eq_filter_filter]
  simp only [outputsOf, withPatterns, List.filter_map, List.map_map, Function.comp_def]

end ConditionReading

end Operator

namespace Scene

open Operator

variable {scene : Scene} {pull : Pull} {node : Nat}

theorem execute_messageFilter {s t : Session} {reading : ConditionReading}
    (hread : scene.performWith pull node (askConditionReading (scene.site node)) (s.enter node) =
      (reading, t)) :
    (scene.execute pull node .messageFilter s).1 = reading.withPatterns.outputs ∧
      (scene.execute pull node .messageFilter s).2.warnings =
        ((reading.conditions.filter reading.malformed).map
          (ConditionReading.complaint (scene.site node))).foldl addNew t.warnings := by
  have hwarnings : ∀ (texts : List String) (u : Session),
      (texts.foldl Session.warn u).warnings = texts.foldl addNew u.warnings := by
    intro texts
    induction texts with
    | nil => exact fun _ => rfl
    | cons text rest ih => exact fun u => ih (u.warn text)
  have hrun := runBody_of_reading .messageFilter (ConditionReading.messageFilter_eq _) hread
  rw [performWith_bind, ConditionReading.performWith_conditionPatterns, performWith_bind,
    performWith_markAll] at hrun
  rw [execute_eq, hrun]
  exact ⟨rfl, hwarnings _ t⟩

/-- **The buckets are exact.** Whatever a filter of messages reads, it deals its messages out, in
their order, by whether they are hit, and its conditions by whether they are met; it says whether a
message was hit, which is so exactly if a condition was met. A condition that is malformed is not
met, and those are warned of and nothing else. -/
theorem buckets_are_exact (scene : Scene) (pull : Pull) (node : Nat) (s : Session) :
    ∃ reading t hits others met unmet matched,
      scene.performWith pull node (askConditionReading (scene.site node)) (s.enter node) =
        (reading, t) ∧
      (scene.execute pull node .messageFilter s).1 =
        ConditionReading.outputsOf hits others met unmet matched ∧
      reading.Sorts hits others met unmet ∧
      (matched = true ↔ hits ≠ []) ∧ (hits ≠ [] ↔ met ≠ []) ∧
      (∀ condition, reading.malformed condition = true → condition ∉ met) ∧
      ∀ text, text ∈ (scene.execute pull node .messageFilter s).2.warnings ↔
        text ∈ t.warnings ∨ ∃ condition ∈ reading.conditions,
          reading.malformed condition = true ∧
            text = ConditionReading.complaint (scene.site node) condition := by
  generalize hread : scene.performWith pull node (askConditionReading (scene.site node))
    (s.enter node) = read
  obtain ⟨reading, t⟩ := read
  obtain ⟨houtputs, hwarnings⟩ := execute_messageFilter hread
  obtain ⟨hits, others, met, unmet, hsorts, heq⟩ := reading.exists_sorts
  refine ⟨reading, t, hits, others, met, unmet, _, rfl, houtputs.trans heq, hsorts, ?_,
    hsorts.hits_iff_met, ?_, ?_⟩
  · rw [Bool.not_eq_true', List.isEmpty_eq_false_iff]
  · intro condition hmalformed hmet
    exact ConditionReading.not_meets_of_malformed hmalformed (hsorts.conditions.holds _ hmet)
  · intro text
    rw [hwarnings, mem_foldl_addNew, List.mem_map]
    simp only [List.mem_filter, and_assoc, eq_comm]

end Scene

end StoryGraph
