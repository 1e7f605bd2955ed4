import StoryGraph.Proofs.Dealt
import StoryGraph.Proofs.Scans

/-!
# Negated comparisons are complements

A negated comparison holds exactly where the plain one does not, for a missing attribute, a single
value and a list of any depth. So a filter by an attribute that asks for all candidates with a
negated comparison keeps exactly what the one that asks for some candidate with the plain comparison
rejects, and the other way round.

Main definitions: `Comparison.Negates`, `AttributeReading.Keeps`, `AttributeReading.Opposes`. Main
result: `Scene.negations_are_complements`.
-/

namespace StoryGraph

namespace Comparison

inductive Negates : Comparison → Comparison → Prop where
  | equal : Negates notEqual equal
  | contains : Negates notContains contains

variable {negated plain : Comparison}

theorem Negates.holdsFor_eq (h : Negates negated plain) (candidate value : Value) :
    negated.holdsFor candidate value = !plain.holdsFor candidate value := by
  cases h with
  | equal => cases value <;> simp only [holdsFor, holdsForSingle]
  | contains => cases value <;> simp only [holdsFor, holdsForSingle]

/-- **A negated comparison holds exactly where the plain one does not.** -/
theorem Negates.holds_eq (h : Negates negated plain) (found : Option Value) (candidate : Value) :
    negated.holds found candidate = !plain.holds found candidate := by
  cases found with
  | none => cases h <;> rfl
  | some value => exact h.holdsFor_eq candidate value

def Opposite (c d : Comparison) : Prop := Negates c d ∨ Negates d c

theorem Opposite.symm {c d : Comparison} (h : Opposite c d) : Opposite d c := Or.symm h

theorem Opposite.holds_eq {c d : Comparison} (h : Opposite c d) (found : Option Value)
    (candidate : Value) : c.holds found candidate = !d.holds found candidate := by
  rcases h with h | h
  · exact h.holds_eq found candidate
  · rw [h.holds_eq found candidate, Bool.not_not]

end Comparison

namespace Operator

open Comparison (Opposite)

/-! ## Filters by an attribute -/

/-- What a filter by an attribute reads before it looks at anything. -/
structure AttributeReading where
  entries : List Value
  name : String
  operator : String
  candidates : List Value
  mode : Option String

def askAttributeReading (site : Site) : Body AttributeReading := do
  let entries ← Body.askItems "entries"
  let name := (← Body.askText "attribute_name").getD ""
  let operator := (← site.askSetting "operator").getD "=="
  let candidates ← Body.askItems "values"
  let mode ← site.askSetting "mode"
  return ⟨entries, name, operator, candidates, mode⟩

namespace AttributeReading

variable {reading other : AttributeReading} {entry : Value}

def requiresAll (reading : AttributeReading) : Bool :=
  reading.mode == some "all" || reading.mode == some "and"

def split (site : Site) (reading : AttributeReading) : Body Outputs :=
  match Comparison.ofText? reading.operator with
  | some comparison =>
    let (kept, rejected) := splitByAttribute comparison reading.name reading.requiresAll
      reading.candidates reading.entries
    return (Outputs.single "entries" (.list kept)).add "rejected" (.list rejected)
  | none => do
    site.tell ("unknown operator " ++ Text.quoted reading.operator)
    return (Outputs.single "entries" (.list [])).add "rejected" (.list reading.entries)

theorem entryFilter_eq (site : Site) :
    entryFilter site = askAttributeReading site >>= split site := by
  unfold entryFilter askAttributeReading
  simp only [Body.bind_assoc, Body.pure_bind]
  rfl

/-- The operator is known, and the attribute of the entry compares with every candidate or with some
candidate, as is asked for. -/
def Keeps (reading : AttributeReading) (entry : Value) : Prop :=
  ∃ comparison ∈ Comparison.ofText? reading.operator,
    if reading.requiresAll then
      ∀ candidate ∈ reading.candidates,
        comparison.holds (entry.attribute? reading.name) candidate = true
    else
      ∃ candidate ∈ reading.candidates,
        comparison.holds (entry.attribute? reading.name) candidate = true

instance (reading : AttributeReading) (entry : Value) : Decidable (reading.Keeps entry) :=
  inferInstanceAs (Decidable (∃ comparison ∈ Comparison.ofText? reading.operator, ite ..))

/-- The two filters look at the same with opposite comparisons, one for all candidates and the other
for some. -/
structure Opposes (reading other : AttributeReading) : Prop where
  entries : other.entries = reading.entries
  name : other.name = reading.name
  candidates : other.candidates = reading.candidates
  operator : ∃ c d, Comparison.ofText? reading.operator = some c ∧
    Comparison.ofText? other.operator = some d ∧ Opposite c d
  mode : other.requiresAll = !reading.requiresAll

theorem Opposes.symm (h : reading.Opposes other) : other.Opposes reading where
  entries := h.entries.symm
  name := h.name.symm
  candidates := h.candidates.symm
  operator := by
    obtain ⟨c, d, hc, hd, hopposite⟩ := h.operator
    exact ⟨d, c, hd, hc, hopposite.symm⟩
  mode := by rw [h.mode, Bool.not_not]

/-- What compares with every candidate in one filter compares with none in the other. -/
theorem Opposes.keeps_of_requiresAll (h : reading.Opposes other)
    (hall : reading.requiresAll = true) : other.Keeps entry ↔ ¬ reading.Keeps entry := by
  obtain ⟨c, d, hc, hd, hopposite⟩ := h.operator
  have hsome : other.requiresAll = false := by rw [h.mode, hall, Bool.not_true]
  unfold Keeps
  simp [hc, hd, hall, hsome, h.name, h.candidates, hopposite.holds_eq]

/-- **Opposite filters keep opposite entries.** -/
theorem Opposes.keeps_iff (h : reading.Opposes other) :
    other.Keeps entry ↔ ¬ reading.Keeps entry := by
  cases hmode : reading.requiresAll with
  | true => exact h.keeps_of_requiresAll hmode
  | false =>
      have hother : other.requiresAll = true := by rw [h.mode, hmode, Bool.not_false]
      rw [h.symm.keeps_of_requiresAll hother, not_not]

def outputs (reading : AttributeReading) : Outputs :=
  ⟨[("entries", .list (reading.entries.filter (reading.Keeps ·))),
    ("rejected", .list (reading.entries.filter (¬ reading.Keeps ·)))]⟩

/-- **The filter splits its entries** by whether it keeps them, in their order. -/
theorem performWith_split (scene : Scene) (pull : Scene.Pull) (node : Nat)
    (reading : AttributeReading) (t : Session) :
    (scene.performWith pull node (reading.split (scene.site node)) t).1 = reading.outputs := by
  unfold split outputs
  cases hoperator : Comparison.ofText? reading.operator with
  | none =>
      have hnone : ∀ entry, ¬ reading.Keeps entry := by
        rintro entry ⟨comparison, hknown, -⟩
        rw [hoperator] at hknown
        exact nomatch hknown
      simp only [hnone, decide_false, List.filter_false, not_false_eq_true, decide_true,
        List.filter_true]
      rfl
  | some comparison =>
      have hkeeps : ∀ entry, decide (reading.Keeps entry) =
          if reading.requiresAll then
            reading.candidates.all (comparison.holds (entry.attribute? reading.name))
          else reading.candidates.any (comparison.holds (entry.attribute? reading.name)) := by
        intro entry
        rw [Bool.eq_iff_iff, decide_eq_true_iff, Keeps]
        cases reading.requiresAll <;> simp [hoperator]
      simp only [decide_not, hkeeps, splitByAttribute, List.partition_eq_filter_filter]
      rfl

end AttributeReading

end Operator

namespace Scene

open Operator

variable {scene : Scene} {pull : Pull} {node : Nat}

theorem execute_entryFilter {s t : Session} {reading : AttributeReading}
    (hread : scene.performWith pull node (askAttributeReading (scene.site node)) (s.enter node) =
      (reading, t)) : (scene.execute pull node .entryFilter s).1 = reading.outputs := by
  rw [execute_eq, runBody_of_reading .entryFilter (AttributeReading.entryFilter_eq _) hread]
  exact AttributeReading.performWith_split scene pull node reading t

/-- **Negated comparisons are complements.** Of any attribute, missing, single or a list of any
depth, and any candidate `!=` holds exactly where `==` does not, and `not contains` exactly where
`contains` does not. Whatever a filter by an attribute reads, it deals its entries out to its two
sides, in their order, by whether it keeps them. And a filter that looks at the same with the
opposite comparison, for all candidates where the other one is for some, has the same sides
exchanged. -/
theorem negations_are_complements :
    (∀ (found : Option Value) (candidate : Value),
      (Comparison.notEqual.holds found candidate = true ↔
        ¬ Comparison.equal.holds found candidate = true) ∧
      (Comparison.notContains.holds found candidate = true ↔
        ¬ Comparison.contains.holds found candidate = true)) ∧
    ∀ (scene : Scene) (pull : Pull) (node : Nat) (s : Session),
      ∃ reading t kept rejected,
        scene.performWith pull node (askAttributeReading (scene.site node)) (s.enter node) =
          (reading, t) ∧
        (scene.execute pull node .entryFilter s).1 =
          ⟨[("entries", .list kept), ("rejected", .list rejected)]⟩ ∧
        DealtBy reading.Keeps kept rejected reading.entries ∧
        ∀ (scene' : Scene) (pull' : Pull) (node' : Nat) (s' : Session) (other : AttributeReading)
          (t' : Session),
          scene'.performWith pull' node' (askAttributeReading (scene'.site node'))
            (s'.enter node') = (other, t') → reading.Opposes other →
          (scene'.execute pull' node' .entryFilter s').1 =
            ⟨[("entries", .list rejected), ("rejected", .list kept)]⟩ := by
  constructor
  · intro found candidate
    rw [Comparison.Negates.equal.holds_eq, Comparison.Negates.contains.holds_eq]
    simp
  · intro scene pull node s
    generalize hread : scene.performWith pull node (askAttributeReading (scene.site node))
      (s.enter node) = read
    obtain ⟨reading, t⟩ := read
    refine ⟨reading, t, _, _, rfl, execute_entryFilter hread, ?_, ?_⟩
    · simp only [decide_not]
      exact dealtBy_filter fun entry _ => decide_eq_true_iff
    · intro scene' pull' node' s' other t' hother hopposes
      rw [execute_entryFilter hother]
      simp only [AttributeReading.outputs, hopposes.entries, hopposes.keeps_iff, not_not]

end Scene

namespace Engine

open Operator

/-- Three entries, of which one has no kind and one has two, and two filters by their kind that are
opposite to each other. -/
def rivals : Engine where
  behavior := {
    strings := ⟨["source_entries", "entry_filter", "entries", "attribute_name", "operator", "mode",
      "values", "kind", "!=", "==", "all", "blade", "relic"]⟩
    nodeIds := ["lore", "others", "finds"]
    nodes := [⟨0, ⟨[]⟩⟩,
      ⟨1, ⟨[(3, .string 7), (4, .string 8), (5, .string 10), (6, .list [.string 11, .string 12])]⟩⟩,
      ⟨1, ⟨[(3, .string 7), (4, .string 9), (6, .list [.string 11, .string 12])]⟩⟩]
    edges := [⟨0, 2, 1, 2⟩, ⟨0, 2, 2, 2⟩] }
  data := {
    strings := ⟨["kind", "heirloom", "blade", "armour", "Rumour", "Sword", "Shield"]⟩
    items := [⟨"rumour", 4, ⟨[]⟩⟩, ⟨"sword", 5, ⟨[(0, .list [.string 1, .string 2])]⟩⟩,
      ⟨"shield", 6, ⟨[(0, .string 3)]⟩⟩] }
  config := {}

/-- The one keeps the entry without a kind and the shield, the other one the sword. -/
theorem rivals_exchange :
    let scene : Scene := ⟨rivals, {}⟩
    ∃ reading t other t' kept rejected,
      scene.performWith scene.evaluate 1 (askAttributeReading (scene.site 1))
        ((Session.start {}).enter 1) = (reading, t) ∧
      scene.performWith scene.evaluate 2 (askAttributeReading (scene.site 2))
        ((Session.start {}).enter 2) = (other, t') ∧
      reading.Opposes other ∧
      (scene.execute scene.evaluate 1 .entryFilter (.start {})).1 =
        ⟨[("entries", .list kept), ("rejected", .list rejected)]⟩ ∧
      (scene.execute scene.evaluate 2 .entryFilter (.start {})).1 =
        ⟨[("entries", .list rejected), ("rejected", .list kept)]⟩ ∧
      kept.map Value.id? = [some "rumour", some "shield"] ∧
      rejected.map Value.id? = [some "sword"] := by
  intro scene
  obtain ⟨reading, t, kept, rejected, hread, hsides, -, hexchange⟩ :=
    Scene.negations_are_complements.2 scene scene.evaluate 1 (.start {})
  have hopposes : reading.Opposes
      (scene.performWith scene.evaluate 2 (askAttributeReading (scene.site 2))
        ((Session.start {}).enter 2)).1 := by
    obtain rfl : _ = reading := congrArg Prod.fst hread
    exact {
      entries := rfl
      name := by decide +kernel
      candidates := rfl
      operator := ⟨.notEqual, .equal, by decide +kernel, by decide +kernel, .inl .equal⟩
      mode := by decide +kernel }
  refine ⟨reading, t, _, _, kept, rejected, hread, rfl, hopposes, hsides,
    hexchange scene scene.evaluate 2 (.start {}) _ _ rfl hopposes, ?_, ?_⟩
  · have hkept : (((scene.execute scene.evaluate 1 .entryFilter (.start {})).1.select
        "entries").toItems.map Value.id?) = [some "rumour", some "shield"] := by decide +kernel
    rwa [hsides] at hkept
  · have hrejected : (((scene.execute scene.evaluate 1 .entryFilter (.start {})).1.select
        "rejected").toItems.map Value.id?) = [some "sword"] := by decide +kernel
    rwa [hsides] at hrejected

end Engine

end StoryGraph
