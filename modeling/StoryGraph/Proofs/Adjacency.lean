import Mathlib.Combinatorics.SimpleGraph.Basic
import Mathlib.Data.Nat.Find
import StoryGraph.Proofs.Alike
import StoryGraph.Proofs.Distances

/-!
# Entries at a distance

The entries of a pool are the vertices of a graph: an edge joins two of them where a property of
one has, at any depth, a text or a number that names the other. A name means the last entry with
that id. The operator gives exactly the entries whose shortest path from the start is as long as
asked for.

Main definitions: `Value.Mentions`, `Operator.IsLast`, `Operator.poolGraph`. Main result:
`Operator.adjacency_is_exact`.
-/

namespace StoryGraph

open Operator (reference? references referencesOf referencesIn entryReferences)

/-! ## What values refer to -/

namespace Value

inductive Names : Value → String → Prop where
  | text (s : String) : Names (.text s) s
  | number (n : Number) : Names (.number n) (Value.number n).display
  | record {fields : Fields} {s : String} :
      (Value.record fields).id? = some s → Names (.record fields) s

/-- The text of a text or a number that stands in the value, at any depth. -/
def Holds (value : Value) (s : String) : Prop :=
  ∃ part, part.Within value ∧ reference? part = some s

/-- The text stands in a property of the record, at any depth; the id is no such property. -/
def Mentions (entry : Value) (s : String) : Prop :=
  ∃ fields, entry = .record fields ∧ ∃ field ∈ fields, field.1 ≠ "id" ∧ field.2.Holds s

variable {s : String}

theorem holds_list {items : List Value} :
    (Value.list items).Holds s ↔ ∃ item ∈ items, item.Holds s := by
  constructor
  · rintro ⟨part, hpart, hs⟩
    cases hpart with
    | self => exact nomatch hs
    | item hitem hpart => exact ⟨_, hitem, part, hpart, hs⟩
  · rintro ⟨item, hitem, part, hpart, hs⟩
    exact ⟨part, .item hitem hpart, hs⟩

theorem holds_record {fields : Fields} :
    (Value.record fields).Holds s ↔ ∃ field ∈ fields, field.2.Holds s := by
  constructor
  · rintro ⟨part, hpart, hs⟩
    cases hpart with
    | self => exact nomatch hs
    | field hfield hpart => exact ⟨_, hfield, part, hpart, hs⟩
  · rintro ⟨field, hfield, part, hpart, hs⟩
    exact ⟨part, .field hfield hpart, hs⟩

theorem holds_single {value : Value} (hlist : ∀ items, value ≠ .list items)
    (hrecord : ∀ fields, value ≠ .record fields) : value.Holds s ↔ reference? value = some s := by
  constructor
  · rintro ⟨part, hpart, hs⟩
    cases hpart with
    | self => exact hs
    | item => exact absurd rfl (hlist _)
    | field => exact absurd rfl (hrecord _)
  · exact fun hs => ⟨value, .self, hs⟩

end Value

namespace Operator

mutual

theorem mem_references {s : String} : ∀ {value : Value}, s ∈ references value ↔ value.Holds s
  | .null | .bool _ | .text _ | .number _ => by
      refine Iff.trans ?_ (Value.holds_single (by nofun) (by nofun)).symm
      rw [references, Option.mem_toList]
      all_goals exact nofun
  | .list items => by rw [references, mem_referencesOf, Value.holds_list]
  | .record fields => by rw [references, mem_referencesIn_iff, Value.holds_record]

theorem mem_referencesOf {s : String} : ∀ {items : List Value},
    s ∈ referencesOf items ↔ ∃ item ∈ items, item.Holds s
  | [] => by simp [referencesOf]
  | item :: rest => by
      rw [referencesOf, List.mem_append, mem_references, mem_referencesOf,
        List.exists_mem_cons_iff]

theorem mem_referencesIn_iff {s : String} : ∀ {fields : List (String × Value)},
    s ∈ referencesIn fields ↔ ∃ field ∈ fields, field.2.Holds s
  | [] => by simp [referencesIn]
  | (name, value) :: rest => by
      rw [referencesIn, List.mem_append, mem_references, mem_referencesIn_iff,
        List.exists_mem_cons_iff]

end

theorem mem_entryReferences_iff {entry : Value} {s : String} :
    s ∈ entryReferences entry ↔ entry.Mentions s := by
  cases entry with
  | record fields =>
      show s ∈ referencesIn (Fields.erase fields "id") ↔ _
      rw [mem_referencesIn_iff]
      constructor
      · rintro ⟨field, hfield, hs⟩
        obtain ⟨hmem, hid⟩ := List.mem_filter.mp hfield
        exact ⟨fields, rfl, field, hmem, bne_iff_ne.mp hid, hs⟩
      · rintro ⟨_, heq, field, hmem, hid, hs⟩
        cases heq
        exact ⟨field, List.mem_filter.mpr ⟨hmem, bne_iff_ne.mpr hid⟩, hs⟩
  | _ => exact ⟨nofun, fun ⟨_, h, _⟩ => nomatch h⟩

/-! ## Positions of ids -/

structure IsLast (pool : List Value) (id : String) (position : Nat) : Prop where
  holds : (pool[position]?).bind Value.id? = some id
  last : ∀ later, position < later → (pool[later]?).bind Value.id? ≠ some id

variable {pool : List Value} {id : String} {i j : Nat}

theorem IsLast.unique (hi : IsLast pool id i) (hj : IsLast pool id j) : i = j := by
  rcases Nat.lt_trichotomy i j with hlt | heq | hlt
  · exact absurd hj.holds (hi.last j hlt)
  · exact heq
  · exact absurd hi.holds (hj.last i hlt)

theorem IsLast.entry (h : IsLast pool id i) : ∃ entry, pool[i]? = some entry ∧
    entry.id? = some id := Option.bind_eq_some_iff.mp h.holds

theorem IsLast.lt (h : IsLast pool id i) : i < pool.length := by
  obtain ⟨entry, hentry, -⟩ := h.entry
  exact (List.getElem?_eq_some_iff.mp hentry).1

theorem exists_isLast (h : (pool[i]?).bind Value.id? = some id) : ∃ j, IsLast pool id j := by
  have hbound : ∀ k, (pool[k]?).bind Value.id? = some id → k ≤ pool.length := by
    intro k hk
    obtain ⟨entry, hentry, -⟩ := Option.bind_eq_some_iff.mp hk
    exact Nat.le_of_lt (List.getElem?_eq_some_iff.mp hentry).1
  refine ⟨Nat.findGreatest (fun k => (pool[k]?).bind Value.id? = some id) pool.length, ?_, ?_⟩
  · exact Nat.findGreatest_spec (P := fun k => (pool[k]?).bind Value.id? = some id) (hbound i h) h
  · exact fun later hlater hid => Nat.findGreatest_is_greatest hlater (hbound later hid) hid

/-- **What an id is looked up as.** -/
theorem position?_eq_some_iff : position? (pool.map Value.id?) id = some i ↔ IsLast pool id i := by
  have hlast : ∀ {i}, IsLast pool id i → position? (pool.map Value.id?) id = some i := by
    intro i h
    obtain ⟨entry, hentry, hid⟩ := h.entry
    obtain ⟨hlt, hget⟩ := List.getElem?_eq_some_iff.mp hentry
    have hafter : some id ∉ (pool.drop (i + 1)).map Value.id? := by
      intro hmem
      obtain ⟨other, hother, hsame⟩ := List.mem_map.mp hmem
      obtain ⟨k, hk⟩ := List.mem_iff_getElem?.mp hother
      rw [List.getElem?_drop] at hk
      exact h.last (i + 1 + k) (by omega) (by rw [hk]; exact hsame)
    have hsplit : pool = pool.take i ++ entry :: pool.drop (i + 1) := by
      rw [← hget, List.getElem_cons_drop, List.take_append_drop]
    have hposition : position?
        ((pool.take i).map Value.id? ++ some id :: (pool.drop (i + 1)).map Value.id?) id =
          some ((pool.take i).map Value.id?).length := position?_of_last hafter
    rw [List.length_map, List.length_take, Nat.min_eq_left (Nat.le_of_lt hlt)] at hposition
    rw [hsplit, List.map_append, List.map_cons, hid]
    exact hposition
  refine ⟨fun h => ?_, hlast⟩
  obtain ⟨⟨found, k⟩, hfind, rfl⟩ := Option.map_eq_some_iff.mp h
  have hmem := List.mem_reverse.mp (List.mem_of_find?_eq_some hfind)
  have htest := List.find?_some hfind
  have hfound : found = some id := eq_of_beq htest
  have hk := List.mem_zipIdx_iff_getElem?.mp hmem
  rw [List.getElem?_map, Option.map_eq_some_iff, hfound] at hk
  obtain ⟨j, hj⟩ := exists_isLast (Option.bind_eq_some_iff.mpr hk)
  exact Option.some.inj (h.symm.trans (hlast hj)) ▸ hj

/-! ## Neighbours -/

section

variable {neighbours : List (List Nat)} {a b p q : Nat}

theorem length_link : (link a b neighbours).length = neighbours.length := List.length_modify ..

theorem mem_link : q ∈ (link a b neighbours).getD p [] ↔
    q ∈ neighbours.getD p [] ∨ a < neighbours.length ∧ p = a ∧ q = b := by
  rw [link, List.getD_eq_getElem?_getD, List.getD_eq_getElem?_getD, List.getElem?_modify]
  by_cases hp : p = a
  · subst hp
    by_cases hlt : p < neighbours.length
    · rw [List.getElem?_eq_getElem hlt]
      simp only [Option.map_eq_map, Option.map_some, Option.getD_some, ↓reduceIte]
      split
      · rename_i hknown
        have hmem : b ∈ neighbours[p] := List.contains_iff_mem.mp hknown
        exact ⟨.inl, fun h => h.elim id fun h => h.2.2 ▸ hmem⟩
      · rw [List.mem_append, List.mem_singleton]
        tauto
    · rw [List.getElem?_eq_none (Nat.not_lt.mp hlt)]
      exact ⟨.inl, fun h => h.resolve_right fun h => hlt h.1⟩
  · simp only [Option.map_eq_map, Ne.symm hp, ↓reduceIte, Option.map_id_fun', id_eq]
    exact ⟨.inl, fun h => h.resolve_right fun h => hp h.2.1⟩

theorem mem_foldl_link {found : List Nat} (ha : a < neighbours.length)
    (hfound : ∀ b ∈ found, b < neighbours.length) :
    (found.foldl (fun neighbours b => link b a (link a b neighbours)) neighbours).length =
        neighbours.length ∧
      (q ∈ (found.foldl (fun neighbours b => link b a (link a b neighbours))
          neighbours).getD p [] ↔
        q ∈ neighbours.getD p [] ∨ p = a ∧ q ∈ found ∨ q = a ∧ p ∈ found) := by
  induction found generalizing neighbours with
  | nil => simp
  | cons b rest ih =>
      obtain ⟨hb, hrest⟩ := List.forall_mem_cons.mp hfound
      have hlength : (link b a (link a b neighbours)).length = neighbours.length := by
        rw [length_link, length_link]
      obtain ⟨ihlength, ihmem⟩ := @ih (link b a (link a b neighbours))
        (hlength.symm ▸ ha) (hlength.symm ▸ hrest)
      refine ⟨ihlength.trans hlength, ?_⟩
      rw [List.foldl_cons, ihmem, mem_link, mem_link, length_link, List.mem_cons, List.mem_cons]
      grind

theorem mem_foldl_links {rows : List (List Nat × Nat)}
    (hrows : ∀ row ∈ rows, row.2 < neighbours.length ∧ ∀ b ∈ row.1, b < neighbours.length) :
    q ∈ (rows.foldl (fun neighbours (found, a) =>
        found.foldl (fun neighbours b => link b a (link a b neighbours)) neighbours)
        neighbours).getD p [] ↔
      q ∈ neighbours.getD p [] ∨
        ∃ row ∈ rows, p = row.2 ∧ q ∈ row.1 ∨ q = row.2 ∧ p ∈ row.1 := by
  induction rows generalizing neighbours with
  | nil => simp
  | cons row rest ih =>
      obtain ⟨⟨ha, hfound⟩, hrest⟩ := List.forall_mem_cons.mp hrows
      obtain ⟨hlength, hmem⟩ := mem_foldl_link (p := p) (q := q) ha hfound
      rw [List.foldl_cons, ih (hlength.symm ▸ hrest), hmem, List.exists_mem_cons_iff, or_assoc]

theorem mem_relations {targets : List (List Nat)}
    (h : ∀ found ∈ targets, ∀ b ∈ found, b < targets.length) :
    q ∈ (relations targets).getD p [] ↔ q ∈ targets.getD p [] ∨ p ∈ targets.getD q [] := by
  have hrow : ∀ found a, (found, a) ∈ targets.zipIdx ↔ targets[a]? = some found :=
    fun found a => List.mem_zipIdx_iff_getElem?
  have hnone : q ∉ (targets.map fun _ => ([] : List Nat)).getD p [] := by
    rw [List.getD_eq_getElem?_getD, List.getElem?_map]
    cases targets[p]? <;> exact List.not_mem_nil
  have hgetD : ∀ a b, b ∈ targets.getD a [] ↔ ∃ found, targets[a]? = some found ∧ b ∈ found := by
    intro a b
    rw [List.getD_eq_getElem?_getD]
    cases targets[a]? <;> simp
  rw [relations, mem_foldl_links, or_iff_right hnone, hgetD, hgetD]
  · constructor
    · rintro ⟨⟨found, a⟩, hmem, ⟨rfl, hq⟩ | ⟨rfl, hp⟩⟩
      · exact .inl ⟨found, (hrow _ _).mp hmem, hq⟩
      · exact .inr ⟨found, (hrow _ _).mp hmem, hp⟩
    · rintro (⟨found, hget, hq⟩ | ⟨found, hget, hp⟩)
      · exact ⟨(found, p), (hrow _ _).mpr hget, .inl ⟨rfl, hq⟩⟩
      · exact ⟨(found, q), (hrow _ _).mpr hget, .inr ⟨rfl, hp⟩⟩
  · rintro ⟨found, a⟩ hmem
    have hget := (hrow _ _).mp hmem
    rw [List.length_map]
    exact ⟨(List.getElem?_eq_some_iff.mp hget).1, h found (List.mem_of_getElem? hget)⟩

end

/-! ## The graph of a pool -/

def Refers (pool : List Value) (i j : Nat) : Prop :=
  ∃ entry, pool[i]? = some entry ∧ ∃ s, entry.Mentions s ∧ IsLast pool s j

theorem Refers.lt (h : Refers pool i j) : i < pool.length ∧ j < pool.length := by
  obtain ⟨entry, hentry, s, -, hlast⟩ := h
  exact ⟨(List.getElem?_eq_some_iff.mp hentry).1, hlast.lt⟩

/-- The positions of a pool, where an edge joins two entries if one of them refers to the other. -/
def poolGraph (pool : List Value) : SimpleGraph Nat := .fromRel (Refers pool)

def startsOf (pool starts : List Value) : Set Nat :=
  {j | ∃ start ∈ starts, ∃ s, start.Names s ∧ IsLast pool s j}

theorem refersTo_iff : RefersTo pool i j ↔ Refers pool i j ∧ j ≠ i := by
  unfold RefersTo targets Refers
  rw [List.getD_eq_getElem?_getD, List.getElem?_map, List.getElem?_zipIdx, Nat.zero_add]
  cases pool[i]? with
  | none => simp
  | some entry =>
      show j ∈ ((entryReferences entry).filterMap _).filter _ ↔ _
      simp only [List.mem_filter, List.mem_filterMap, bne_iff_ne, position?_eq_some_iff,
        mem_entryReferences_iff, Option.some.injEq, exists_eq_left']

theorem lists_poolGraph (pool : List Value) :
    Search.Lists (poolGraph pool) (relations (targets pool)) pool.length := by
  have hlength : (targets pool).length = pool.length := by
    rw [targets, List.length_map, List.length_zipIdx]
  have hrefers : ∀ p q, q ∈ (targets pool).getD p [] ↔ Refers pool p q ∧ q ≠ p :=
    fun p q => refersTo_iff
  constructor
  · intro p q
    rw [mem_relations, hrefers, hrefers, poolGraph, SimpleGraph.fromRel_adj]
    · tauto
    · intro found hfound b hb
      obtain ⟨p, hp⟩ := List.mem_iff_getElem?.mp hfound
      have hmem : b ∈ (targets pool).getD p [] := by
        rw [List.getD_eq_getElem?_getD, hp]
        exact hb
      rw [hlength]
      exact ((hrefers p b).mp hmem).1.lt.2
  · intro p q hadj
    rcases (SimpleGraph.fromRel_adj ..).mp hadj with ⟨-, h | h⟩
    · exact h.lt.2
    · exact h.lt.1

theorem names_iff {start : Value} {s : String} :
    ((reference? start).orElse fun _ => start.id?) = some s ↔ start.Names s := by
  constructor
  · intro h
    cases start with
    | text t => exact Option.some.inj h ▸ .text t
    | number n => exact Option.some.inj h ▸ .number n
    | record fields => exact .record h
    | _ => exact nomatch h
  · rintro (_ | _ | h)
    · rfl
    · rfl
    · exact h

theorem mem_startsOf {starts : List Value} :
    j ∈ starts.filterMap (startPosition? (pool.map Value.id?)) ↔ j ∈ startsOf pool starts := by
  simp only [List.mem_filterMap, startPosition?, Option.bind_eq_some_iff, names_iff,
    position?_eq_some_iff]
  exact Iff.rfl

/-! ## What is found -/

open Classical in
/-- The entries at the positions at a distance from some others, in pool order. -/
noncomputable def entriesAt (pool : List Value) (starts : Set Nat) (distance : Nat) : List Value :=
  (pool.zipIdx.filter fun item => AtDistance (poolGraph pool) starts distance item.2).map (·.1)

open Classical in
theorem mem_entriesAt {starts : Set Nat} {distance : Nat} {entry : Value} :
    entry ∈ entriesAt pool starts distance ↔
      ∃ p, pool[p]? = some entry ∧ AtDistance (poolGraph pool) starts distance p := by
  unfold entriesAt
  simp only [List.mem_map, List.mem_filter, decide_eq_true_iff, Prod.exists,
    List.mem_zipIdx_iff_getElem?, exists_and_right, exists_eq_right]

open Classical in
theorem entriesFrom_eq {starts : Set Nat} (hstarts : ∀ p ∈ starts, p < pool.length)
    {order : List Nat} (horder : ∀ p, p ∈ order ↔ p ∈ starts) (distance : Nat) :
    entriesFrom pool order distance = entriesAt pool starts distance := by
  refine congrArg (List.map Prod.fst) (List.filter_congr fun item _ => ?_)
  rw [Bool.eq_iff_iff, beq_iff_eq, decide_eq_true_iff]
  exact explore_eq_distance_iff (lists_poolGraph pool) hstarts horder distance item.2

theorem startsOf_lt {starts : List Value} : ∀ p ∈ startsOf pool starts, p < pool.length := by
  rintro p ⟨_, _, _, _, hlast⟩
  exact hlast.lt

theorem entriesAtDistance_eq (pool starts : List Value) (distance : Nat) :
    entriesAtDistance pool starts distance = entriesAt pool (startsOf pool starts) distance :=
  entriesFrom_eq startsOf_lt (fun _ => mem_startsOf) distance

/-- **Adjacency is exact.** The entries found are those at the distance by the shortest paths in the
graph of the pool, each once and in pool order; and a search that looks at the starts in another
order, or at some of them again, finds the same. -/
theorem adjacency_is_exact (pool starts : List Value) (distance : Nat) :
    entriesAtDistance pool starts distance = entriesAt pool (startsOf pool starts) distance ∧
      ∀ order : List Nat, (∀ p, p ∈ order ↔ p ∈ startsOf pool starts) →
        entriesFrom pool order distance = entriesAt pool (startsOf pool starts) distance :=
  ⟨entriesAtDistance_eq pool starts distance,
    fun _ horder => entriesFrom_eq startsOf_lt horder distance⟩

/-- Three years, of which the second mentions the others, one of them by its number. -/
def years : List Value := [
  .record [("id", .text "411")],
  .record [("id", .text "412"),
    ("near", .list [.number (.int 411), .record [("next", .text "413")]])],
  .record [("id", .text "413")]]

/-- From the last year the first one is two steps away, and from both of them the second is one. -/
theorem years_are_exact :
    (∀ p, p ∈ [2, 0, 2] ↔ p ∈ startsOf years [.number (.int 411), .record [("id", .text "413")]]) ∧
    entriesFrom years [2, 0, 2] 1 =
      entriesAt years (startsOf years [.number (.int 411), .record [("id", .text "413")]]) 1 ∧
    (entriesFrom years [2, 0, 2] 1).map Value.id? = [some "412"] ∧
    (entriesAtDistance years [.text "413"] 2).map Value.id? = [some "411"] := by
  have hstarts : [.number (.int 411), .record [("id", .text "413")]].filterMap
      (startPosition? (years.map Value.id?)) = [0, 2] := by decide +kernel
  have horder : ∀ p, p ∈ [2, 0, 2] ↔
      p ∈ startsOf years [.number (.int 411), .record [("id", .text "413")]] := by
    intro p
    rw [← mem_startsOf, hstarts]
    simp only [List.mem_cons, List.not_mem_nil, or_false]
    tauto
  exact ⟨horder, (adjacency_is_exact years _ 1).2 [2, 0, 2] horder, by decide +kernel,
    by decide +kernel⟩

end Operator
end StoryGraph
