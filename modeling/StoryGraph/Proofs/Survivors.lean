import StoryGraph.Operator.Lists
import StoryGraph.Proofs.Ports
import StoryGraph.Proofs.Scans

/-!
# Joined lists lose repeats only

Of the items with one key a joined list keeps the first one, or the last one if that is asked for,
and each in its place. So which items stay is told by their positions: those that no item with the
same key comes before, or after. Taking the last of each is taking the first of each backwards.

Main definitions: `Operator.StandsAt`, `Operator.HasAt`. Main result:
`Scene.joining_removes_only_repeats`.
-/

namespace StoryGraph

namespace Operator

section

variable {key : Value → String} {keepLast : Bool} {seen : List String} {item : Value}
  {items rest kept : List Value} {P Q : Nat → Prop}

/-! ## Items at positions -/

/-- The item at a position stands for its key: of all items with the key it is the first one, or the
last one if that is kept. -/
def StandsAt (key : Value → String) (keepLast : Bool) (items : List Value) (i : Nat) : Prop :=
  ∃ item, items[i]? = some item ∧
    ∀ j other, items[j]? = some other → key other = key item → if keepLast then j ≤ i else i ≤ j

/-- A list is what another one has at the positions that meet a condition, in their order. -/
def HasAt (P : Nat → Prop) (items kept : List Value) : Prop :=
  ∃ positions : List Nat, positions.Pairwise (· < ·) ∧ (∀ i, i ∈ positions ↔ P i) ∧
    positions.map (items[·]?) = kept.map some

theorem HasAt.congr (h : HasAt P items kept) (hiff : ∀ i, P i ↔ Q i) : HasAt Q items kept := by
  obtain ⟨positions, hascending, hmem, hmap⟩ := h
  exact ⟨positions, hascending, fun i => (hmem i).trans (hiff i), hmap⟩

theorem hasAt_nil (h : ∀ i, ¬ P i) : HasAt P [] [] :=
  ⟨[], .nil, fun i => iff_of_false List.not_mem_nil (h i), rfl⟩

theorem HasAt.skip (h : HasAt P rest kept) (item : Value) :
    HasAt (fun i => ∃ j, i = j + 1 ∧ P j) (item :: rest) kept := by
  obtain ⟨positions, hascending, hmem, hmap⟩ := h
  refine ⟨positions.map (· + 1), ?_, ?_, ?_⟩
  · exact hascending.map _ fun _ _ => Nat.succ_lt_succ
  · intro i
    simp only [List.mem_map, hmem]
    constructor
    · rintro ⟨j, hj, rfl⟩
      exact ⟨j, rfl, hj⟩
    · rintro ⟨j, rfl, hj⟩
      exact ⟨j, hj, rfl⟩
  · rw [List.map_map, ← hmap]
    rfl

theorem HasAt.cons (h : HasAt P rest kept) (item : Value) :
    HasAt (fun i => i = 0 ∨ ∃ j, i = j + 1 ∧ P j) (item :: rest) (item :: kept) := by
  obtain ⟨positions, hascending, hmem, hmap⟩ := h.skip item
  refine ⟨0 :: positions, ?_, fun i => ?_, ?_⟩
  · refine List.pairwise_cons.mpr ⟨fun i hi => ?_, hascending⟩
    obtain ⟨j, rfl, -⟩ := (hmem i).mp hi
    exact Nat.succ_pos j
  · rw [List.mem_cons, hmem]
  · rw [List.map_cons, List.map_cons, hmap]
    rfl

theorem HasAt.reverse (h : HasAt P items.reverse kept) (hrange : ∀ i, P i → i < items.length) :
    HasAt (fun i => i < items.length ∧ P (items.length - 1 - i)) items kept.reverse := by
  obtain ⟨positions, hascending, hmem, hmap⟩ := h
  refine ⟨(positions.map (items.length - 1 - ·)).reverse, ?_, ?_, ?_⟩
  · rw [List.pairwise_reverse, List.pairwise_map]
    refine hascending.imp_of_mem fun {i j} hi hj hlt => ?_
    have := hrange j ((hmem j).mp hj)
    omega
  · intro i
    simp only [List.mem_reverse, List.mem_map, hmem]
    constructor
    · rintro ⟨j, hj, rfl⟩
      have := hrange j hj
      refine ⟨by omega, ?_⟩
      rwa [show items.length - 1 - (items.length - 1 - j) = j by omega]
    · rintro ⟨hi, hP⟩
      exact ⟨_, hP, by omega⟩
  · rw [List.map_reverse, List.map_reverse, ← hmap, List.map_map]
    congr 1
    refine List.map_congr_left fun i hi => ?_
    exact (List.getElem?_reverse (hrange i ((hmem i).mp hi))).symm

/-! ## The first of each key -/

/-- The item at a position is the first one of its key, and its key was not seen before. -/
def LeadsAt (key : Value → String) (seen : List String) (items : List Value) (i : Nat) : Prop :=
  ∃ item, items[i]? = some item ∧ key item ∉ seen ∧
    ∀ j other, items[j]? = some other → key other = key item → i ≤ j

theorem leadsAt_zero : LeadsAt key seen (item :: rest) 0 ↔ key item ∉ seen := by
  unfold LeadsAt
  simp

theorem leadsAt_succ_of_mem (hseen : key item ∈ seen) {i : Nat} :
    LeadsAt key seen (item :: rest) (i + 1) ↔ LeadsAt key seen rest i := by
  constructor
  · rintro ⟨found, hfound, hnew, hfirst⟩
    refine ⟨found, hfound, hnew, fun j other hother heq => ?_⟩
    exact Nat.le_of_succ_le_succ (hfirst (j + 1) other hother heq)
  · rintro ⟨found, hfound, hnew, hfirst⟩
    refine ⟨found, hfound, hnew, fun j other hother heq => ?_⟩
    cases j with
    | zero =>
        cases hother
        exact absurd (heq ▸ hseen) hnew
    | succ j => exact Nat.succ_le_succ (hfirst j other hother heq)

theorem leadsAt_succ {i : Nat} :
    LeadsAt key seen (item :: rest) (i + 1) ↔ LeadsAt key (key item :: seen) rest i := by
  constructor
  · rintro ⟨found, hfound, hnew, hfirst⟩
    refine ⟨found, hfound, ?_, fun j other hother heq => ?_⟩
    · rw [List.mem_cons, not_or]
      exact ⟨fun heq => absurd (hfirst 0 item rfl heq.symm) (Nat.not_succ_le_zero i), hnew⟩
    · exact Nat.le_of_succ_le_succ (hfirst (j + 1) other hother heq)
  · rintro ⟨found, hfound, hnew, hfirst⟩
    rw [List.mem_cons, not_or] at hnew
    refine ⟨found, hfound, hnew.2, fun j other hother heq => ?_⟩
    cases j with
    | zero =>
        cases hother
        exact absurd heq.symm hnew.1
    | succ j => exact Nat.succ_le_succ (hfirst j other hother heq)

/-- **What the loop keeps are the first items of all new keys**, each in its place. -/
theorem firstOfEach_hasAt (key : Value → String) (items : List Value) : ∀ seen : List String,
    HasAt (LeadsAt key seen items) items (firstOfEach key seen items) := by
  induction items with
  | nil => exact fun seen => hasAt_nil fun i ⟨_, hitem, _⟩ => nomatch hitem
  | cons item rest ih =>
      intro seen
      unfold firstOfEach
      split
      · rename_i hseen
        have hseen : key item ∈ seen := List.contains_iff_mem.mp hseen
        refine ((ih seen).skip item).congr fun i => ?_
        cases i with
        | zero => simp [leadsAt_zero, hseen]
        | succ i => simp [leadsAt_succ_of_mem hseen]
      · rename_i hnew
        have hnew : key item ∉ seen := mt List.contains_iff_mem.mpr hnew
        refine ((ih (key item :: seen)).cons item).congr fun i => ?_
        cases i with
        | zero => simp [leadsAt_zero, hnew]
        | succ i => simp [leadsAt_succ]

theorem firstOfEach_sublist (key : Value → String) (items : List Value) : ∀ seen : List String,
    (firstOfEach key seen items).Sublist items := by
  induction items with
  | nil => exact fun _ => .slnil
  | cons item rest ih =>
      intro seen
      unfold firstOfEach
      split
      · exact (ih seen).cons item
      · exact (ih _).cons_cons item

theorem mem_keys_firstOfEach {k : String} : ∀ {seen : List String},
    k ∈ (firstOfEach key seen items).map key ↔ k ∈ items.map key ∧ k ∉ seen := by
  induction items with
  | nil => simp [firstOfEach]
  | cons item rest ih =>
      intro seen
      unfold firstOfEach
      split
      · rename_i hseen
        have hseen : key item ∈ seen := List.contains_iff_mem.mp hseen
        rw [ih, List.map_cons, List.mem_cons]
        refine and_congr_left fun hnew => (or_iff_right ?_).symm
        rintro rfl
        exact hnew hseen
      · rename_i hnew
        have hnew : key item ∉ seen := mt List.contains_iff_mem.mpr hnew
        rw [List.map_cons, List.map_cons, List.mem_cons, List.mem_cons, ih, List.mem_cons, not_or]
        by_cases hk : k = key item
        · simp [hk, hnew]
        · simp [hk]

theorem nodup_keys_firstOfEach (key : Value → String) (items : List Value) :
    ∀ seen : List String, ((firstOfEach key seen items).map key).Nodup := by
  induction items with
  | nil => exact fun _ => .nil
  | cons item rest ih =>
      intro seen
      unfold firstOfEach
      split
      · exact ih seen
      · refine List.nodup_cons.mpr ⟨fun hmem => ?_, ih _⟩
        exact (mem_keys_firstOfEach.mp hmem).2 List.mem_cons_self

theorem firstOfEach_eq_self : ∀ {seen : List String}, (items.map key).Nodup →
    (∀ item ∈ items, key item ∉ seen) → firstOfEach key seen items = items := by
  induction items with
  | nil => exact fun _ _ => rfl
  | cons item rest ih =>
      intro seen hnodup hnew
      obtain ⟨hitem, hrest⟩ := List.nodup_cons.mp hnodup
      obtain ⟨hfirst, hothers⟩ := List.forall_mem_cons.mp hnew
      unfold firstOfEach
      rw [if_neg (mt List.contains_iff_mem.mp hfirst), ih hrest]
      intro other hother
      rw [List.mem_cons, not_or]
      exact ⟨fun heq => hitem (heq ▸ List.mem_map_of_mem hother), hothers other hother⟩

/-! ## Deduplication -/

variable {sameness : Sameness}

structure Thins (key : Value → String) (keepLast : Bool) (items kept : List Value) : Prop where
  sublist : kept.Sublist items
  /-- No key comes twice. -/
  distinct : (kept.map key).Nodup
  /-- No key is lost. -/
  keys : ∀ k, k ∈ kept.map key ↔ k ∈ items.map key
  /-- Of each key the first or the last item is there, in its place. -/
  places : HasAt (StandsAt key keepLast items) items kept

theorem deduplicate_first (h : sameness ≠ .never) (items : List Value) :
    deduplicate sameness false items = firstOfEach sameness.key [] items := by
  unfold deduplicate
  rw [if_neg h, if_neg Bool.false_ne_true]

/-- **The last of each is the first of each, backwards.** -/
theorem deduplicate_last (sameness : Sameness) (items : List Value) :
    deduplicate sameness true items = (deduplicate sameness false items.reverse).reverse := by
  by_cases h : sameness = .never
  · unfold deduplicate
    rw [if_pos h, if_pos h, List.reverse_reverse]
  · rw [deduplicate_first h]
    unfold deduplicate
    rw [if_neg h, if_pos rfl]

theorem thins_first (key : Value → String) (items : List Value) :
    Thins key false items (firstOfEach key [] items) where
  sublist := firstOfEach_sublist key items []
  distinct := nodup_keys_firstOfEach key items []
  keys k := by simp [mem_keys_firstOfEach]
  places := (firstOfEach_hasAt key items []).congr fun i => by simp [LeadsAt, StandsAt]

theorem standsAt_reverse {i : Nat} : StandsAt key true items i ↔
    i < items.length ∧ StandsAt key false items.reverse (items.length - 1 - i) := by
  have hlookup : ∀ j, j < items.length → items.reverse[j]? = items[items.length - 1 - j]? :=
    fun j hj => List.getElem?_reverse hj
  have hlt : ∀ {xs : List Value} {j : Nat} {x : Value}, xs[j]? = some x → j < xs.length :=
    fun h => (List.getElem?_eq_some_iff.mp h).1
  constructor
  · rintro ⟨item, hitem, hlast⟩
    have hi := hlt hitem
    refine ⟨hi, item, ?_, fun j other hother heq => ?_⟩
    · rw [hlookup _ (by omega), show items.length - 1 - (items.length - 1 - i) = i by omega]
      exact hitem
    · have hj := hlt hother
      rw [List.length_reverse] at hj
      rw [hlookup j hj] at hother
      have hle : items.length - 1 - j ≤ i := hlast _ other hother heq
      show items.length - 1 - i ≤ j
      omega
  · rintro ⟨hi, item, hitem, hfirst⟩
    rw [hlookup _ (by omega), show items.length - 1 - (items.length - 1 - i) = i by omega] at hitem
    refine ⟨item, hitem, fun j other hother heq => ?_⟩
    have hj := hlt hother
    have hle : items.length - 1 - i ≤ items.length - 1 - j := by
      refine hfirst _ other ?_ heq
      rw [hlookup _ (by omega), show items.length - 1 - (items.length - 1 - j) = j by omega]
      exact hother
    show j ≤ i
    omega

theorem Thins.reverse (h : Thins key false items.reverse kept) :
    Thins key true items kept.reverse where
  sublist := by
    have := h.sublist.reverse
    rwa [List.reverse_reverse] at this
  distinct := by
    rw [List.map_reverse, List.nodup_reverse]
    exact h.distinct
  keys k := by
    rw [List.map_reverse, List.mem_reverse, h.keys, List.map_reverse, List.mem_reverse]
  places := by
    refine (h.places.reverse ?_).congr fun i => standsAt_reverse.symm
    rintro i ⟨item, hitem, -⟩
    have := (List.getElem?_eq_some_iff.mp hitem).1
    rwa [List.length_reverse] at this

/-- **Deduplication removes repeats and nothing else.** -/
theorem deduplicate_thins (h : sameness ≠ .never) (keepLast : Bool) (items : List Value) :
    Thins sameness.key keepLast items (deduplicate sameness keepLast items) := by
  cases keepLast with
  | false =>
      rw [deduplicate_first h]
      exact thins_first sameness.key items
  | true =>
      rw [deduplicate_last, deduplicate_first h]
      exact (thins_first sameness.key items.reverse).reverse

-- Of a place that is repeated the last is kept, where that is asked for.
example : (deduplicate .identity true
    [.text "lake", .text "north", .text "lake", .text "coast"]).map Value.display =
      ["north", "lake", "coast"] := by cbv

theorem deduplicate_eq_self (h : sameness ≠ .never) (hdistinct : (items.map sameness.key).Nodup)
    (keepLast : Bool) : deduplicate sameness keepLast items = items := by
  have hfirst : ∀ others : List Value, (others.map sameness.key).Nodup →
      firstOfEach sameness.key [] others = others :=
    fun others hothers => firstOfEach_eq_self hothers fun _ _ => List.not_mem_nil
  cases keepLast with
  | false => rw [deduplicate_first h, hfirst items hdistinct]
  | true =>
      rw [deduplicate_last, deduplicate_first h, hfirst, List.reverse_reverse]
      rw [List.map_reverse, List.nodup_reverse]
      exact hdistinct

end

/-! ## The operator -/

/-- What the operator for joining reads: the lists, how items are told apart, and which of those
that are the same is kept. -/
structure JoinReading where
  lists : List Value
  dedupe : Option String
  keep : Option String

def askJoinReading (site : Site) : Body JoinReading := do
  let lists ← Body.askAll "lists"
  let dedupe ← site.askSetting "dedupe"
  let keep ← site.askSetting "keep"
  return ⟨lists, dedupe, keep⟩

namespace JoinReading

def items (reading : JoinReading) : List Value := reading.lists.flatMap Value.toItems

def sameness (reading : JoinReading) : Sameness := .ofSetting reading.dedupe

def keepsLast (reading : JoinReading) : Bool := reading.keep == some "last"

def outputs (reading : JoinReading) : Outputs :=
  .single "list" (.list (deduplicate reading.sameness reading.keepsLast reading.items))

theorem joinList_eq (site : Site) :
    joinList site = askJoinReading site >>= fun reading => return reading.outputs := by
  unfold joinList askJoinReading
  simp only [Body.bind_assoc, Body.pure_bind]
  rfl

end JoinReading

end Operator

namespace Scene

open Operator

variable {scene : Scene} {pull : Pull} {node : Nat} {s t : Session} {reading : JoinReading}

theorem lists_eq
    (hread : scene.performWith pull node (askJoinReading (scene.site node)) s = (reading, t)) :
    reading.lists = (scene.resolveAll pull node "lists" s).1 := by
  obtain rfl : _ = reading := congrArg Prod.fst hread
  unfold askJoinReading
  rw [performWith_bind, performWith_bind, performWith_bind]
  rfl

theorem resolveAll_of_feeds {port : String} {edges : List CompactEdge}
    (hedges : scene.engine.feeds node port = edges) (hne : edges ≠ []) :
    scene.resolveAll pull node port s = edges.mapM (scene.pullEdge pull) s := by
  have hpull : ∀ others : List CompactEdge,
      scene.pullEdges pull others = others.mapM (scene.pullEdge pull) := by
    intro others
    induction others with
    | nil => rfl
    | cons edge rest ih =>
        rw [List.mapM_cons, ← ih]
        rfl
  unfold resolveAll
  rw [hedges]
  split
  · exact absurd rfl hne
  · rw [hpull]

theorem execute_joinList
    (hread : scene.performWith pull node (askJoinReading (scene.site node)) (s.enter node) =
      (reading, t)) : (scene.execute pull node .joinList s).1 = reading.outputs := by
  rw [execute_eq, runBody_of_reading .joinList (JoinReading.joinList_eq _) hread]
  rfl

/-- **Joining removes repeats and nothing else.** By identity and by id, of each key one item stays,
the first one or the last one, in its place; to deduplicate again changes nothing; and keeping the
last is keeping the first backwards. The operator for joining does so with the items of all its
lists, in the order of the edges, and if neither way is set it gives them all. -/
theorem joining_removes_only_repeats :
    (∀ (sameness : Sameness) (keepLast : Bool) (items : List Value), sameness ≠ .never →
      Thins sameness.key keepLast items (deduplicate sameness keepLast items) ∧
      ∀ keepLast' : Bool, deduplicate sameness keepLast' (deduplicate sameness keepLast items) =
        deduplicate sameness keepLast items) ∧
    (∀ (sameness : Sameness) (items : List Value), deduplicate sameness true items =
      (deduplicate sameness false items.reverse).reverse) ∧
    ∀ (scene : Scene) (pull : Pull) (node : Nat) (s : Session),
      ∃ reading t,
        scene.performWith pull node (askJoinReading (scene.site node)) (s.enter node) =
          (reading, t) ∧
        (∀ edges, scene.engine.feeds node "lists" = edges → edges ≠ [] →
          reading.lists = (edges.mapM (scene.pullEdge pull) (s.enter node)).1) ∧
        (scene.execute pull node .joinList s).1 = ⟨[("list", .list
          (deduplicate (.ofSetting reading.dedupe) (reading.keep == some "last")
            (reading.lists.flatMap Value.toItems)))]⟩ ∧
        (reading.dedupe ≠ some "identity" → reading.dedupe ≠ some "value" →
          reading.dedupe ≠ some "id" → (scene.execute pull node .joinList s).1 =
            ⟨[("list", .list (reading.lists.flatMap Value.toItems))]⟩) := by
  refine ⟨?_, deduplicate_last, ?_⟩
  · intro sameness keepLast items h
    have hthins := deduplicate_thins h keepLast items
    exact ⟨hthins, deduplicate_eq_self h hthins.distinct⟩
  · intro scene pull node s
    generalize hread : scene.performWith pull node (askJoinReading (scene.site node))
      (s.enter node) = read
    obtain ⟨reading, t⟩ := read
    refine ⟨reading, t, rfl, ?_, execute_joinList hread, ?_⟩
    · intro edges hedges hne
      rw [lists_eq hread, resolveAll_of_feeds hedges hne]
    · intro hidentity hvalue hid
      have hnever : reading.sameness = .never := by
        unfold JoinReading.sameness Sameness.ofSetting
        split
        · contradiction
        · contradiction
        · contradiction
        · rfl
      have hall : deduplicate reading.sameness reading.keepsLast reading.items = reading.items :=
        if_pos hnever
      rw [execute_joinList hread, JoinReading.outputs, hall]
      rfl

end Scene

namespace Engine

open Operator

/-- Two lists of places with one in common, joined without looking for repeats. -/
def crossing : Engine where
  behavior := {
    strings := ⟨["reroute", "join_list", "input", "output", "lists", "north", "lake", "coast"]⟩
    nodeIds := ["inland", "shore", "all"]
    nodes := [⟨0, ⟨[(2, .list [.string 5, .string 6])]⟩⟩,
      ⟨0, ⟨[(2, .list [.string 6, .string 7])]⟩⟩, ⟨1, ⟨[]⟩⟩]
    edges := [⟨0, 3, 2, 4⟩, ⟨1, 3, 2, 4⟩] }
  data := {}
  config := {}

/-- All places come in the order of the edges. -/
theorem crossing_is_joined :
    let scene : Scene := ⟨crossing, {}⟩
    let places : List Value := [.text "lake", .text "north", .text "lake", .text "coast"]
    Sameness.identity ≠ .never ∧
      Thins Value.identityKey true places (deduplicate .identity true places) ∧
      (scene.execute scene.evaluate 2 .joinList (.start {})).1 = ⟨[("list", .list
        [.text "north", .text "lake", .text "lake", .text "coast"])]⟩ := by
  intro scene places
  obtain ⟨hthins, -, hjoins⟩ := Scene.joining_removes_only_repeats
  have hne : Sameness.identity ≠ .never := nofun
  refine ⟨hne, (hthins .identity true places hne).1, ?_⟩
  obtain ⟨reading, t, hread, hlists, -, hnever⟩ := hjoins scene scene.evaluate 2 (.start {})
  have hdedupe : reading.dedupe = none := by
    obtain rfl : _ = reading := congrArg Prod.fst hread
    rfl
  have hedges : scene.engine.feeds 2 "lists" = [⟨0, 3, 2, 4⟩, ⟨1, 3, 2, 4⟩] := by decide
  rw [hnever (by rw [hdedupe]; nofun) (by rw [hdedupe]; nofun) (by rw [hdedupe]; nofun),
    hlists _ hedges (List.cons_ne_nil _ _)]
  rfl

end Engine

end StoryGraph
