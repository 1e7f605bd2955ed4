import StoryGraph.Proofs.PrintedNumerals
import StoryGraph.Value.Comparison

/-!
# Orderings and equality

`>=` and `<=` ask for an order, in which numbers and other values are apart and null has no place;
`==` compares by text what are not two numbers. So `>=` is `>` or `==` exactly where what is equal
has an order. That fails in two ways only: for a number and a list that is written as the number is,
and for a null, which is written as the empty text is.

Main definitions: `Value.leaves`, `Comparison.Apart`. Main result:
`Comparison.orderings_agree_with_equality`.
-/

namespace StoryGraph

namespace Value

/-! ## Elements -/

mutual

/-- The elements of a list, at any depth. A value that is no list is its own only element. -/
def leaves : Value → List Value
  | .list items => leavesOfAll items
  | value => [value]

def leavesOfAll : List Value → List Value
  | [] => []
  | item :: rest => leaves item ++ leavesOfAll rest

end

theorem leaves_single {value : Value} (h : ∀ items, value ≠ .list items) :
    value.leaves = [value] := by
  cases value with
  | list items => exact absurd rfl (h items)
  | _ => rfl

mutual

/-- What items inherit from their list holds for the elements, and none of them is a list. -/
theorem forall_mem_leaves {P : Value → Prop}
    (hitem : ∀ items, P (.list items) → ∀ item ∈ items, P item) :
    ∀ value : Value, P value → ∀ e ∈ value.leaves, P e ∧ ∀ items, e ≠ .list items
  | .list items, h, e, he => forall_mem_leavesOfAll hitem items (hitem items h) e he
  | .null, h, _, he | .bool _, h, _, he | .number _, h, _, he | .text _, h, _, he
  | .record _, h, _, he => by
      obtain rfl := List.mem_singleton.mp he
      exact ⟨h, fun _ => nofun⟩

theorem forall_mem_leavesOfAll {P : Value → Prop}
    (hitem : ∀ items, P (.list items) → ∀ item ∈ items, P item) :
    ∀ values : List Value, (∀ value ∈ values, P value) →
      ∀ e ∈ leavesOfAll values, P e ∧ ∀ items, e ≠ .list items
  | value :: rest, h, e, he => by
      obtain ⟨hvalue, hrest⟩ := List.forall_mem_cons.mp h
      rcases List.mem_append.mp he with he | he
      · exact forall_mem_leaves hitem value hvalue e he
      · exact forall_mem_leavesOfAll hitem rest hrest e he

end

end Value

namespace Comparison

variable {comparison : Comparison} {candidate : Value}

def Plain (comparison : Comparison) : Prop :=
  comparison ≠ notEqual ∧ comparison ≠ notContains

mutual

theorem holdsFor_eq_any (hplain : comparison.Plain) :
    ∀ value : Value, comparison.holdsFor candidate value =
      value.leaves.any (comparison.holdsForSingle · candidate)
  | .list items => by
      rw [Value.leaves, ← holdsForSome_eq_any hplain items]
      unfold holdsFor
      split
      · exact absurd rfl hplain.1
      · exact absurd rfl hplain.2
      · rfl
  | .null | .bool _ | .number _ | .text _ | .record _ => by
      simp only [holdsFor, Value.leaves, List.any_cons, List.any_nil, Bool.or_false]

theorem holdsForSome_eq_any (hplain : comparison.Plain) :
    ∀ items : List Value, comparison.holdsForSome candidate items =
      (Value.leavesOfAll items).any (comparison.holdsForSingle · candidate)
  | [] => by rw [holdsForSome, Value.leavesOfAll, List.any_nil]
  | item :: rest => by
      rw [holdsForSome, Value.leavesOfAll, List.any_append, holdsFor_eq_any hplain item,
        holdsForSome_eq_any hplain rest]

end

/-- **A comparison that is not negated holds for a value if it holds for some element.** -/
theorem holds_iff_exists_leaf (hplain : comparison.Plain) (a b : Value) :
    comparison.holds (some a) b = true ↔
      ∃ e ∈ a.leaves, comparison.holdsForSingle e b = true := by
  show comparison.holdsFor b a = true ↔ _
  rw [holdsFor_eq_any hplain, List.any_eq_true]

theorem holds_single (hplain : comparison.Plain) {a : Value} (hsingle : ∀ items, a ≠ .list items)
    (b : Value) : comparison.holds (some a) b = true ↔ comparison.holdsForSingle a b = true := by
  rw [holds_iff_exists_leaf hplain, Value.leaves_single hsingle]
  simp only [List.mem_singleton, exists_eq_left]

/-! ## Single values -/

variable {e b : Value}

/-- There is an order between two numbers, and between two values neither of which is a number or
null. -/
theorem isSome_order?_iff : (order? e b).isSome = true ↔
    e.number?.isSome = b.number?.isSome ∧ e ≠ .null ∧ b ≠ .null := by
  have hnull : ∀ value : Value, value.isNull = true ↔ value = .null := by
    intro value
    cases value <;> simp [Value.isNull]
  have hnumber : ∀ {value : Value} {x : Float}, value.number? = some x → value ≠ .null := by
    rintro _ x hx rfl
    exact nomatch hx
  unfold order?
  cases he : e.number? with
  | some x =>
      cases hb : b.number? with
      | some y => simp [hnumber he, hnumber hb]
      | none => simp
  | none =>
      cases hb : b.number? with
      | some y => simp
      | none =>
          rw [Ne, Ne, ← hnull e, ← hnull b]
          cases e.isNull <;> cases b.isNull <;> simp

theorem looselyEqual_of_order? {o : Ordering} (h : order? e b = some o) :
    looselyEqual e b = true ↔ o = .eq := by
  have hnull : b.isNull = false := by
    have hb := (isSome_order?_iff.mp (Option.isSome_of_eq_some h)).2.2
    cases b with
    | null => exact absurd rfl hb
    | _ => rfl
  unfold looselyEqual
  unfold order? at h
  rw [hnull, if_neg Bool.false_ne_true]
  split at h
  · rename_i hx hy
    rw [hx, hy]
    cases h
    show (Binary64.orderKey _ == Binary64.orderKey _) = true ↔ compare _ _ = _
    rw [beq_iff_eq, compare_eq_iff_eq]
  · rename_i hx hy
    rw [hx, hy]
    split at h
    · exact nomatch h
    · cases h
      show (e.foldedText == b.foldedText) = true ↔ _
      rw [beq_iff_eq, compare_eq_iff_eq]
  · exact nomatch h

/-- The two may be equal, but have no order: a null, which is written as the empty text, or a number
and a list, which may be written as the number is. -/
inductive Apart : Value → Value → Prop where
  | null {b : Value} : Apart .null b
  | number {e : Value} {items : List Value} : e.number?.isSome = true → Apart e (.list items)

theorem isSome_number?_eq_of_looselyEqual (he : e.FitsWords) (hb : b.FitsWords)
    (hsingle : ∀ items, e ≠ .list items) (hcandidate : ∀ items, b ≠ .list items)
    (h : looselyEqual e b = true) : e.number?.isSome = b.number?.isSome := by
  unfold looselyEqual at h
  split at h
  · exact absurd h Bool.false_ne_true
  · split at h
    · rename_i hx hy
      rw [hx, hy]
      rfl
    · have hfolded : Text.lowercase e.display = Text.lowercase b.display := eq_of_beq h
      rw [Value.isSome_number? he hsingle, Value.isSome_number? hb hcandidate,
        ← Value.numeral?_lowercase e.display, hfolded, Value.numeral?_lowercase]

/-- **What is equal has an order, unless it is apart.** -/
theorem isSome_order?_of_looselyEqual (he : e.FitsWords) (hb : b.FitsWords)
    (hsingle : ∀ items, e ≠ .list items) (h : looselyEqual e b = true) :
    (order? e b).isSome = true ↔ ¬ Apart e b := by
  rw [isSome_order?_iff]
  constructor
  · rintro ⟨hnumbers, hnull, -⟩ hapart
    cases hapart with
    | null => exact hnull rfl
    | number hnumber =>
        rw [hnumber] at hnumbers
        exact nomatch hnumbers
  · intro hapart
    refine ⟨?_, ?_, ?_⟩
    · by_cases hlist : ∃ items, b = .list items
      · obtain ⟨items, rfl⟩ := hlist
        exact Bool.eq_false_iff.mpr fun hnumber => hapart (.number hnumber)
      · exact isSome_number?_eq_of_looselyEqual he hb hsingle (not_exists.mp hlist) h
    · rintro rfl
      exact hapart .null
    · rintro rfl
      exact nomatch h

/-- **To be equal in order is to be equal without being apart.** -/
theorem order?_eq_iff (he : e.FitsWords) (hb : b.FitsWords) (hsingle : ∀ items, e ≠ .list items) :
    order? e b = some .eq ↔ looselyEqual e b = true ∧ ¬ Apart e b := by
  constructor
  · intro h
    have hequal := (looselyEqual_of_order? h).mpr rfl
    refine ⟨hequal, (isSome_order?_of_looselyEqual he hb hsingle hequal).mp ?_⟩
    rw [h]
    rfl
  · rintro ⟨hequal, hapart⟩
    obtain ⟨o, ho⟩ := Option.isSome_iff_exists.mp
      ((isSome_order?_of_looselyEqual he hb hsingle hequal).mpr hapart)
    rw [ho, (looselyEqual_of_order? ho).mp hequal]

/-! ## Orderings -/

/-- The first comparison asks for the order of the second one or for equality. -/
inductive Widens : Comparison → Comparison → Prop where
  | greater : Widens greaterOrEqual greater
  | less : Widens lessOrEqual less

variable {wide strict : Comparison} {a : Value}

theorem Widens.plain (h : Widens wide strict) : wide.Plain ∧ strict.Plain := by
  cases h with
  | greater => exact ⟨⟨nofun, nofun⟩, ⟨nofun, nofun⟩⟩
  | less => exact ⟨⟨nofun, nofun⟩, ⟨nofun, nofun⟩⟩

theorem equal_plain : equal.Plain := ⟨nofun, nofun⟩

/-- Of single values the wider comparison holds where the strict one does or the order is
equality. -/
theorem Widens.holdsForSingle_iff (h : Widens wide strict) (e b : Value) :
    wide.holdsForSingle e b = true ↔
      strict.holdsForSingle e b = true ∨ order? e b = some .eq := by
  cases h with
  | greater =>
      unfold holdsForSingle
      cases order? e b with
      | none => simp
      | some o => cases o <;> simp
  | less =>
      unfold holdsForSingle
      cases order? e b with
      | none => simp
      | some o => cases o <;> simp

/-- **The wider comparison holds where the strict one does, or where some element is equal and not
apart.** -/
theorem Widens.holds_iff (h : Widens wide strict) (ha : a.FitsWords) (hb : b.FitsWords) :
    wide.holds (some a) b = true ↔ strict.holds (some a) b = true ∨
      ∃ e ∈ a.leaves, equal.holds (some e) b = true ∧ ¬ Apart e b := by
  obtain ⟨hwide, hstrict⟩ := h.plain
  have hleaves := Value.forall_mem_leaves (fun _ => Value.fitsWords_list.mp) a ha
  have hequal : ∀ e ∈ a.leaves, order? e b = some .eq ↔
      equal.holds (some e) b = true ∧ ¬ Apart e b := by
    intro e he
    obtain ⟨hfits, hsingle⟩ := hleaves e he
    rw [order?_eq_iff hfits hb hsingle, holds_single equal_plain hsingle]
    exact Iff.rfl
  rw [holds_iff_exists_leaf hwide, holds_iff_exists_leaf hstrict]
  simp only [h.holdsForSingle_iff]
  constructor
  · rintro ⟨e, he, hless | heq⟩
    · exact .inl ⟨e, he, hless⟩
    · exact .inr ⟨e, he, (hequal e he).mp heq⟩
  · rintro (⟨e, he, hless⟩ | ⟨e, he, heq⟩)
    · exact ⟨e, he, .inl hless⟩
    · exact ⟨e, he, .inr ((hequal e he).mpr heq)⟩

theorem not_apart (hnull : e ≠ .null) (hlist : ∀ items, b ≠ .list items) : ¬ Apart e b := by
  intro h
  cases h with
  | null => exact hnull rfl
  | number _ => exact hlist _ rfl

/-- **Without nulls and without a list for a candidate** the wider comparison is the strict one or
equality. -/
theorem Widens.holds_iff_or (h : Widens wide strict) (ha : a.FitsWords) (hb : b.FitsWords)
    (hnull : ∀ e ∈ a.leaves, e ≠ .null) (hlist : ∀ items, b ≠ .list items) :
    wide.holds (some a) b = true ↔
      strict.holds (some a) b = true ∨ equal.holds (some a) b = true := by
  have hleaves := Value.forall_mem_leaves (fun _ => Value.fitsWords_list.mp) a ha
  rw [h.holds_iff ha hb, holds_iff_exists_leaf equal_plain a]
  refine or_congr_right ?_
  constructor
  · rintro ⟨e, he, hequal, -⟩
    exact ⟨e, he, (holds_single equal_plain (hleaves e he).2 b).mp hequal⟩
  · rintro ⟨e, he, hequal⟩
    exact ⟨e, he, (holds_single equal_plain (hleaves e he).2 b).mpr hequal,
      not_apart (hnull e he) hlist⟩

theorem at_most_one (hsingle : ∀ items, a ≠ .list items) :
    ¬ (less.holds (some a) b = true ∧ equal.holds (some a) b = true) ∧
    ¬ (equal.holds (some a) b = true ∧ greater.holds (some a) b = true) ∧
    ¬ (less.holds (some a) b = true ∧ greater.holds (some a) b = true) := by
  have hless : less.holds (some a) b = true ↔ order? a b = some .lt := by
    rw [holds_single Widens.less.plain.2 hsingle]
    simp [holdsForSingle, Option.any_eq_true]
  have hgreater : greater.holds (some a) b = true ↔ order? a b = some .gt := by
    rw [holds_single Widens.greater.plain.2 hsingle]
    simp [holdsForSingle, Option.any_eq_true]
  rw [hless, hgreater, holds_single equal_plain hsingle]
  refine ⟨?_, ?_, ?_⟩
  · rintro ⟨horder, hequal⟩
    exact nomatch (looselyEqual_of_order? horder).mp hequal
  · rintro ⟨hequal, horder⟩
    exact nomatch (looselyEqual_of_order? horder).mp hequal
  · rintro ⟨hlt, hgt⟩
    rw [hlt] at hgt
    exact nomatch hgt

/-- **Orderings agree with equality where there is an order.** `>=` holds exactly where `>` does or
some element is equal to the candidate and not apart from it, and so with `<=` and `<`. So if the
candidate is no list and no element is null, `>=` is `>` or `==` and `<=` is `<` or `==`. And of a
value that is no list at most one of `<`, `==` and `>` holds. -/
theorem orderings_agree_with_equality (ha : a.FitsWords) (hb : b.FitsWords) :
    (∀ wide strict : Comparison, Widens wide strict →
      (wide.holds (some a) b = true ↔ strict.holds (some a) b = true ∨
        ∃ e ∈ a.leaves, equal.holds (some e) b = true ∧ ¬ Apart e b) ∧
      ((∀ e ∈ a.leaves, e ≠ .null) → (∀ items, b ≠ .list items) →
        (wide.holds (some a) b = true ↔
          strict.holds (some a) b = true ∨ equal.holds (some a) b = true))) ∧
    ((∀ items, a ≠ .list items) →
      ¬ (less.holds (some a) b = true ∧ equal.holds (some a) b = true) ∧
      ¬ (equal.holds (some a) b = true ∧ greater.holds (some a) b = true) ∧
      ¬ (less.holds (some a) b = true ∧ greater.holds (some a) b = true)) := by
  refine ⟨fun wide strict h => ?_, at_most_one⟩
  exact ⟨h.holds_iff ha hb, h.holds_iff_or ha hb⟩

/-- At a list with a text and a number, and a number. -/
theorem orderings_agree_at_mixed :
    (Value.list [.text "b", .ofNat 3]).FitsWords ∧ (Value.ofNat 3).FitsWords ∧
      greaterOrEqual.holds (some (.list [.text "b", .ofNat 3])) (.ofNat 3) = true := by
  have ha : (Value.list [.text "b", .ofNat 3]).FitsWords := by
    simp [Value.ofNat]
  have hb : (Value.ofNat 3).FitsWords := by
    simp [Value.ofNat]
  refine ⟨ha, hb, ?_⟩
  obtain ⟨hwidens, -⟩ := orderings_agree_with_equality ha hb
  refine ((hwidens greaterOrEqual greater .greater).2 ?_ nofun).mpr (.inr (by decide +kernel))
  have hleaves : (Value.list [.text "b", .ofNat 3]).leaves = [.text "b", .ofNat 3] := rfl
  rw [hleaves]
  exact List.forall_mem_cons.mpr ⟨nofun, List.forall_mem_singleton.mpr nofun⟩

/-- A number equals a list that is written as the number is, and has no order with it; so a null
among the elements with the empty text. -/
theorem equal_without_order :
    equal.holds (some (.ofNat 5)) (.list [.ofNat 5]) = true ∧
      greaterOrEqual.holds (some (.ofNat 5)) (.list [.ofNat 5]) = false ∧
      lessOrEqual.holds (some (.ofNat 5)) (.list [.ofNat 5]) = false ∧
    equal.holds (some (.list [.null])) (.text "") = true ∧
      greaterOrEqual.holds (some (.list [.null])) (.text "") = false ∧
      lessOrEqual.holds (some (.list [.null])) (.text "") = false := by
  decide +kernel

end Comparison

end StoryGraph
