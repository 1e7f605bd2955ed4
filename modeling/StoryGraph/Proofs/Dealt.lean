import Mathlib.Data.List.Basic

/-!
# Dealing out

A list can be split so that nothing is lost, nothing comes twice and the order stays. `Dealt` says
so of the two parts, and `DealtBy` says besides by which property the list is split. A test that
tells whether the property holds splits it so.

Main definitions: `Dealt`, `DealtBy`. Main statement: `dealtBy_filter`.
-/

namespace StoryGraph

/-- A list is dealt out to two others: each member goes to one of them, in its turn. -/
inductive Dealt {α : Type} : (first second items : List α) → Prop where
  | nil : Dealt [] [] []
  | first {a : α} {as bs items : List α} : Dealt as bs items → Dealt (a :: as) bs (a :: items)
  | second {b : α} {as bs items : List α} : Dealt as bs items → Dealt as (b :: bs) (b :: items)

namespace Dealt

variable {α : Type} {as bs items : List α}

theorem length_eq (h : Dealt as bs items) : as.length + bs.length = items.length := by
  induction h with
  | nil => rfl
  | first _ ih =>
      simp only [List.length_cons]
      omega
  | second _ ih =>
      simp only [List.length_cons]
      omega

theorem mem_iff (h : Dealt as bs items) {item : α} : item ∈ items ↔ item ∈ as ∨ item ∈ bs := by
  induction h with
  | nil => simp
  | first _ ih => rw [List.mem_cons, List.mem_cons, ih, or_assoc]
  | second _ ih => rw [List.mem_cons, List.mem_cons, ih, or_left_comm]

end Dealt

section

variable {α : Type} {P : α → Prop} {as bs items : List α} {item : α}

/-- A list is dealt out to the members that have a property and those that have not. -/
structure DealtBy (P : α → Prop) (first second items : List α) : Prop where
  dealt : Dealt first second items
  holds : ∀ item ∈ first, P item
  fails : ∀ item ∈ second, ¬ P item

theorem DealtBy.mem_first (h : DealtBy P as bs items) : item ∈ as ↔ item ∈ items ∧ P item := by
  constructor
  · intro hitem
    exact ⟨h.dealt.mem_iff.mpr (.inl hitem), h.holds item hitem⟩
  · rintro ⟨hitem, hP⟩
    rcases h.dealt.mem_iff.mp hitem with hfirst | hsecond
    · exact hfirst
    · exact absurd hP (h.fails item hsecond)

/-- **A test deals a list out**: to those that pass it and those that do not. -/
theorem dealt_filter (p : α → Bool) (items : List α) :
    Dealt (items.filter p) (items.filter (!p ·)) items := by
  induction items with
  | nil => exact .nil
  | cons item rest ih =>
      cases h : p item with
      | true =>
          rw [List.filter_cons_of_pos h, List.filter_cons_of_neg (by simp [h])]
          exact .first ih
      | false =>
          rw [List.filter_cons_of_neg (by simp [h]), List.filter_cons_of_pos (by simp [h])]
          exact .second ih

/-- A test that tells whether a property holds deals a list out by the property. -/
theorem dealtBy_filter {p : α → Bool} (h : ∀ item ∈ items, p item = true ↔ P item) :
    DealtBy P (items.filter p) (items.filter (!p ·)) items where
  dealt := dealt_filter p items
  holds := by
    intro item hitem
    obtain ⟨hmem, htest⟩ := List.mem_filter.mp hitem
    exact (h item hmem).mp htest
  fails := by
    intro item hitem hP
    obtain ⟨hmem, hnot⟩ := List.mem_filter.mp hitem
    rw [(h item hmem).mpr hP] at hnot
    exact Bool.false_ne_true hnot

end

end StoryGraph
