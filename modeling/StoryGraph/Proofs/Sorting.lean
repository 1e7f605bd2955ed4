import StoryGraph.Proofs.Normal
import StoryGraph.Proofs.NumericOrder
import StoryGraph.Proofs.Scans

/-!
# Sorting is sound

Each value has a place in a linear order: numbers by size, behind them the other values by their
texts, and last the items that lack what is sorted by. Items compare as their places do, so the
comparison is a total preorder, whatever texts read as numbers. What the operator for sorting gives
is then told by three conditions, and by no others: it has the items of the input, in ascending
order, with items that compare equal in the order of the input.

Main definitions: `Value.place`, `Operator.placeBy`, `Operator.SortedFrom`. Main result:
`Scene.sorting_is_sound`.
-/

namespace StoryGraph

/-! ## The order of values -/

namespace Value

def place (value : Value) : Int ⊕ₗ String :=
  match value.number? with
  | some x => Sum.inlₗ (Binary64.orderKey x)
  | none => Sum.inrₗ value.foldedText

/-- **Values compare as their places do.** -/
theorem compare_eq_place (a b : Value) : a.compare b = Ord.compare a.place b.place := by
  unfold compare place
  cases a.number? with
  | some x =>
      cases b.number? with
      | some y => exact (compare_of_strictMono Sum.Lex.inl_strictMono _ _).symm
      | none => exact (compare_lt_iff_lt.mpr (Sum.Lex.inl_lt_inr _ _)).symm
  | none =>
      cases b.number? with
      | some y => exact (compare_gt_iff_gt.mpr (Sum.Lex.inl_lt_inr _ _)).symm
      | none => exact (compare_of_strictMono Sum.Lex.inr_strictMono _ _).symm

/-- The order of values is a total preorder. -/
instance : Std.TransCmp compare := by
  have hplace : compare = compareOn place := by
    funext a b
    exact compare_eq_place a b
  rw [hplace]
  infer_instance

theorem number?_isFinite {value : Value} {x : Float} (hfits : value.FitsWords)
    (h : value.number? = some x) : Binary64.isFinite x = true := by
  cases value with
  | number n =>
      cases h
      exact number_finite hfits
  | text s => exact (Option.filter_eq_some_iff.mp h).2
  | _ => exact nomatch h

/-- **Values that read as numbers are ordered as those numbers.** -/
theorem compare_of_numbers {a b : Value} {x y : Float} (ha : a.FitsWords) (hb : b.FitsWords)
    (hx : a.number? = some x) (hy : b.number? = some y) :
    (a.compare b = .lt ↔ x < y) ∧ (a.compare b = .eq ↔ (x == y) = true) := by
  have hcompare : a.compare b = Binary64.compare x y := by
    unfold compare
    rw [hx, hy]
  have hxfinite := number?_isFinite ha hx
  have hyfinite := number?_isFinite hb hy
  rw [hcompare]
  exact ⟨(Binary64.lt_iff_compare hxfinite hyfinite).symm,
    (Binary64.beq_iff_compare hxfinite hyfinite).symm⟩

-- A numeral that is too large for a double counts as a text, and so stands behind the numbers.
example : (Value.text " 7 ").compare (.text "1e400") = .lt := by decide +kernel

end Value

namespace Operator

/-! ## The order of items -/

variable {name : Option String} {sorted other items : List Value}

/-- Where an item stands among all items; those that lack the attribute stand last. -/
def placeBy (name : Option String) (item : Value) : WithTop (Int ⊕ₗ String) :=
  match sortKey? name item with
  | some key => (key.place : WithTop (Int ⊕ₗ String))
  | none => ⊤

/-- **Items compare as their places do.** -/
theorem compareBy_eq_place (name : Option String) (a b : Value) :
    compareBy name a b = Ord.compare (placeBy name a) (placeBy name b) := by
  unfold compareBy placeBy
  cases sortKey? name a with
  | some x =>
      cases sortKey? name b with
      | some y =>
          dsimp only
          rw [Value.compare_eq_place]
          exact (compare_of_strictMono WithTop.coe_strictMono _ _).symm
      | none => exact (compare_lt_iff_lt.mpr (WithTop.coe_lt_top _)).symm
  | none =>
      cases sortKey? name b with
      | some y => exact (compare_gt_iff_gt.mpr (WithTop.coe_lt_top _)).symm
      | none => exact (compare_eq_iff_eq.mpr rfl).symm

/-- The order of items is a total preorder. -/
instance (name : Option String) : Std.TransCmp (compareBy name) := by
  have hplace : compareBy name = compareOn (placeBy name) := by
    funext a b
    exact compareBy_eq_place name a b
  rw [hplace]
  infer_instance

theorem compareBy_self (name : Option String) (a : Value) : compareBy name a a = .eq :=
  Std.ReflCmp.compare_self

theorem compareBy_swap (name : Option String) (a b : Value) :
    compareBy name b a = (compareBy name a b).swap :=
  Std.OrientedCmp.eq_swap

theorem compareBy_missing {a b : Value} (ha : (sortKey? name a).isSome = true)
    (hb : sortKey? name b = none) : compareBy name a b = .lt := by
  obtain ⟨key, hkey⟩ := Option.isSome_iff_exists.mp ha
  unfold compareBy
  rw [hkey, hb]

/-! ## Sorted lists -/

def peers (name : Option String) (item : Value) (items : List Value) : List Value :=
  items.filter (compareBy name item · == .eq)

variable {a b item : Value} {rest : List Value}

theorem peers_cons_of_eq (h : compareBy name item a = .eq) :
    peers name item (a :: rest) = a :: peers name item rest := by
  unfold peers
  rw [List.filter_cons, if_pos (beq_iff_eq.mpr h)]

theorem peers_cons_of_ne (h : compareBy name item a ≠ .eq) :
    peers name item (a :: rest) = peers name item rest := by
  unfold peers
  rw [List.filter_cons, if_neg (mt beq_iff_eq.mp h)]

/-- A list is sorted out of another one: it has the same items, in ascending order, and those that
compare equal to any one item stand in it as they stood before. -/
structure SortedFrom (name : Option String) (items sorted : List Value) : Prop where
  perm : sorted.Perm items
  ascending : sorted.Pairwise fun a b => (compareBy name a b).isLE
  stable : ∀ item, peers name item sorted = peers name item items

theorem sortBy_eq (name : Option String) (items : List Value) :
    sortBy name items = items.mergeSort fun a b => (compareBy name a b).isLE := by
  have hle : ∀ o : Ordering, (o != .gt) = o.isLE := by decide
  unfold sortBy
  simp only [hle]

/-- Items that compare equal to one item are in ascending order as they stand. -/
theorem peers_ascending (name : Option String) (item : Value) (items : List Value) :
    (peers name item items).Pairwise fun a b => (compareBy name a b).isLE := by
  refine List.pairwise_of_forall_mem_list fun a ha b hb => ?_
  have ha : compareBy name item a = .eq := eq_of_beq (List.mem_filter.mp ha).2
  have hb : compareBy name item b = .eq := eq_of_beq (List.mem_filter.mp hb).2
  have hab : compareBy name a b = .eq := Std.TransCmp.eq_trans (Std.OrientedCmp.eq_symm ha) hb
  rw [hab]
  rfl

/-- **Sorting gives what the three conditions ask for.** -/
theorem sortBy_sortedFrom (name : Option String) (items : List Value) :
    SortedFrom name items (sortBy name items) := by
  have htrans : ∀ a b c, (compareBy name a b).isLE = true → (compareBy name b c).isLE = true →
      (compareBy name a c).isLE = true := fun _ _ _ => Std.TransCmp.isLE_trans
  have htotal : ∀ a b, ((compareBy name a b).isLE || (compareBy name b a).isLE) = true := by
    intro a b
    rw [compareBy_swap name a b]
    cases compareBy name a b <;> rfl
  rw [sortBy_eq]
  refine ⟨List.mergeSort_perm _ _, List.pairwise_mergeSort htrans htotal items, fun item => ?_⟩
  -- What is in order as it stands keeps its order, and nothing else is equal to the item.
  have hkept := List.sublist_mergeSort htrans htotal (peers_ascending name item items)
    List.filter_sublist
  have hpeers := hkept.filter (compareBy name item · == .eq)
  simp only [peers, List.filter_filter, Bool.and_self] at hpeers
  refine (hpeers.eq_of_length ?_).symm
  exact ((List.mergeSort_perm items _).filter _).length_eq.symm

theorem head_isLE
    (h : (a :: rest).Pairwise fun a b => (compareBy name a b).isLE) (hb : b ∈ a :: rest) :
    (compareBy name a b).isLE = true := by
  rcases List.mem_cons.mp hb with rfl | hb
  · rw [compareBy_self]
    rfl
  · exact (List.pairwise_cons.mp h).1 b hb

/-- Ascending lists of the same items are equal if those at one place stand alike in both. -/
theorem eq_of_ascending (hperm : sorted.Perm other)
    (hsorted : sorted.Pairwise fun a b => (compareBy name a b).isLE)
    (hother : other.Pairwise fun a b => (compareBy name a b).isLE)
    (halike : ∀ item, peers name item sorted = peers name item other) : sorted = other := by
  induction sorted generalizing other with
  | nil => exact (List.nil_perm.mp hperm).symm
  | cons a rest ih =>
      cases other with
      | nil => exact absurd hperm.length_eq (by simp)
      | cons b rest' =>
          -- Each head is below the other one, so both are peers, and the order of peers is told.
          have hequal : compareBy name a b = .eq := by
            have hab := head_isLE hsorted (hperm.mem_iff.mpr List.mem_cons_self)
            have hba := head_isLE hother (hperm.mem_iff.mp List.mem_cons_self)
            exact Std.OrientedCmp.isLE_antisymm hab hba
          have hhead : a = b := by
            have hpeers := halike a
            rw [peers_cons_of_eq (compareBy_self name a), peers_cons_of_eq hequal] at hpeers
            exact (List.cons.inj hpeers).1
          subst hhead
          have htails : ∀ item, peers name item rest = peers name item rest' := by
            intro item
            have hpeers := halike item
            by_cases hitem : compareBy name item a = .eq
            · rw [peers_cons_of_eq hitem, peers_cons_of_eq hitem] at hpeers
              exact (List.cons.inj hpeers).2
            · rwa [peers_cons_of_ne hitem, peers_cons_of_ne hitem] at hpeers
          congr 1
          exact ih ((List.perm_cons a).mp hperm) (List.pairwise_cons.mp hsorted).2
            (List.pairwise_cons.mp hother).2 htails

/-- **The three conditions admit one list only.** -/
theorem SortedFrom.unique (h : SortedFrom name items sorted) (h' : SortedFrom name items other) :
    sorted = other :=
  eq_of_ascending (h.perm.trans h'.perm.symm) h.ascending h'.ascending
    fun item => (h.stable item).trans (h'.stable item).symm

/-! ## The operator -/

/-- What the operator for sorting reads: the items, and the attribute to sort by. -/
def askSortReading : Body (List Value × Option String) := do
  let items ← Body.askItems "entries"
  let name ← Body.askText "attribute"
  return (items, name)

def sortOutputs (reading : List Value × Option String) : Outputs :=
  let sorted := sortBy reading.2 reading.1
  (Outputs.single "sorted" (.list sorted)).add "reversed" (.list sorted.reverse)

theorem sort_eq : sort = askSortReading >>= fun reading => return sortOutputs reading := by
  unfold sort askSortReading
  simp only [Body.bind_assoc, Body.pure_bind]
  rfl

end Operator

namespace Scene

open Operator

/-- **Sorting is sound.** Values, and items by any attribute, are compared by a total preorder in
which an item that lacks the attribute comes behind every item that has it. Whatever the operator
for sorting reads, `sorted` is the one list with the items that were read, in ascending order and
those that compare equal as they stood, and `reversed` is that list backwards. -/
theorem sorting_is_sound :
    (∀ a b c : Value, a.compare a = .eq ∧ b.compare a = (a.compare b).swap ∧
      ((a.compare b).isLE = true → (b.compare c).isLE = true → (a.compare c).isLE = true)) ∧
    (∀ (name : Option String) (a b c : Value), compareBy name a a = .eq ∧
      compareBy name b a = (compareBy name a b).swap ∧
      ((compareBy name a b).isLE = true → (compareBy name b c).isLE = true →
        (compareBy name a c).isLE = true) ∧
      ((sortKey? name a).isSome = true → sortKey? name b = none → compareBy name a b = .lt)) ∧
    ∀ (scene : Scene) (pull : Pull) (node : Nat) (s : Session),
      ∃ items name t sorted,
        scene.performWith pull node askSortReading (s.enter node) = ((items, name), t) ∧
        (scene.execute pull node .sort s).1 =
          ⟨[("sorted", .list sorted), ("reversed", .list sorted.reverse)]⟩ ∧
        SortedFrom name items sorted ∧
        ∀ other, SortedFrom name items other → other = sorted := by
  refine ⟨?_, ?_, ?_⟩
  · intro a b c
    exact ⟨Std.ReflCmp.compare_self, Std.OrientedCmp.eq_swap, Std.TransCmp.isLE_trans⟩
  · intro name a b c
    exact ⟨compareBy_self name a, compareBy_swap name a b, Std.TransCmp.isLE_trans,
      compareBy_missing⟩
  · intro scene pull node s
    generalize hread : scene.performWith pull node askSortReading (s.enter node) = read
    obtain ⟨⟨items, name⟩, t⟩ := read
    have hsorted := sortBy_sortedFrom name items
    refine ⟨items, name, t, _, rfl, ?_, hsorted, fun other hother => hother.unique hsorted⟩
    rw [execute_eq, runBody_of_reading .sort sort_eq hread]
    rfl

end Scene

end StoryGraph
