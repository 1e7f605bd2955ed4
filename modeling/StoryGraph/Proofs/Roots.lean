import StoryGraph.Proofs.NumericOrder
import StoryGraph.Proofs.Turns

/-!
# The order of roots

Roots are evaluated by ascending numbers, and those with equal numbers by their positions. They are
sorted by an order of all doubles in which the negative zero comes before the positive one, though
the two are equal as numbers. So a later root with the negative zero comes before an earlier one
with the positive zero, and that is the only way in which roots are out of order.

Main definitions: `Engine.Precedes`, `Engine.ComesBefore`. Main result:
`Engine.roots_ascend_iff`.
-/

namespace StoryGraph

namespace Binary64

variable {x y : Float}

/-! ## The order with two zeros -/

theorem signedOrderKey_eq (x : Float) : signedOrderKey x =
    if bits x < 2 ^ 63 then (bits x : Int) else 2 ^ 63 - 1 - (bits x : Int) := by
  have hword := bits_lt x
  unfold signedOrderKey
  dsimp only
  rw [isNegative_eq]
  simp only [decide_eq_true_eq]
  split <;> split <;> omega

theorem signedOrderKey_inj (h : signedOrderKey x = signedOrderKey y) : x = y := by
  rw [signedOrderKey_eq, signedOrderKey_eq] at h
  apply eq_of_bits
  split at h <;> split at h <;> omega

/-- **The order is that of the numbers, with the negative zero before the positive one.** -/
theorem signedOrderKey_lt_iff : signedOrderKey x < signedOrderKey y ↔
    orderKey x < orderKey y ∨ x = -0.0 ∧ y = 0.0 := by
  have hx := bits_lt x
  have hy := bits_lt y
  rw [eq_negative_zero_iff, eq_zero_iff, signedOrderKey_eq, signedOrderKey_eq, orderKey_eq,
    orderKey_eq]
  split <;> split <;> omega

theorem isFinite_zero : isFinite 0 = true := by decide

theorem isFinite_one : isFinite 1 = true := by decide

end Binary64

open Binary64 (isFinite isFinite_zero isFinite_one signedOrderKey)

/-! ## Numbers of roots -/

theorem Value.isFinite_numeral? (s : String) : isFinite ((numeral? s).getD 0) = true := by
  cases h : numeral? s with
  | none => exact isFinite_zero
  | some x => exact (Option.filter_eq_some_iff.mp h).2

/-- **A stored value is read as a finite double**, whatever the document holds. -/
theorem Compact.isFinite_toNumber (table : StringTable) : ∀ value : Compact,
    isFinite (value.decompress table).toNumber = true
  | .null => isFinite_zero
  | .bool true => isFinite_one
  | .bool false => isFinite_zero
  | .number x => by
      rw [decompress, Value.ofFloat]
      split
      · rename_i hsmall
        have hbound := of_decide_eq_true (Bool.and_eq_true_iff.mp hsmall).2
        exact Binary64.isFinite_ofInt (by omega)
      · split
        · rename_i y _
          exact y.isFinite
        · exact isFinite_zero
  | .string ref => by
      rw [decompress, textOf]
      split
      · rename_i s _
        exact Value.isFinite_numeral? s
      · exact isFinite_zero
  | .list [] => isFinite_zero
  | .list [item] => isFinite_toNumber table item
  | .list (_ :: _ :: _) => isFinite_zero
  | .attribute _ _ _ => isFinite_zero

namespace Engine

variable {engine : Engine} {a b c : Nat}

theorem isFinite_rootOrder (engine : Engine) (node : Nat) :
    isFinite (engine.rootOrder node) = true := by
  unfold rootOrder property?
  cases (engine.props node).get? "order" with
  | none => exact isFinite_zero
  | some value => exact value.isFinite_toNumber engine.strings

theorem rootOrder_lt_iff : engine.rootOrder a < engine.rootOrder b ↔
    Binary64.orderKey (engine.rootOrder a) < Binary64.orderKey (engine.rootOrder b) := by
  rw [Binary64.lt_iff_compare (engine.isFinite_rootOrder a) (engine.isFinite_rootOrder b)]
  exact compare_lt_iff_lt

theorem rootOrder_beq_iff : (engine.rootOrder a == engine.rootOrder b) = true ↔
    Binary64.orderKey (engine.rootOrder a) = Binary64.orderKey (engine.rootOrder b) := by
  rw [Binary64.beq_iff_compare (engine.isFinite_rootOrder a) (engine.isFinite_rootOrder b)]
  exact compare_eq_iff_eq

/-! ## The order of evaluation -/

theorem pairwise_or {R : Nat → Nat → Prop} {items : List Nat} (h : items.Pairwise R)
    (ha : a ∈ items) (hb : b ∈ items) (hne : a ≠ b) : R a b ∨ R b a := by
  have hsymm : Std.Symm fun a b => R a b ∨ R b a := ⟨fun _ _ => Or.symm⟩
  have heither : items.Pairwise fun a b => R a b ∨ R b a := h.imp .inl
  exact heither.forall ha hb hne

/-- The number of the one root is smaller, or the numbers are equal and its position is smaller. -/
def Precedes (engine : Engine) (a b : Nat) : Prop :=
  engine.rootOrder a < engine.rootOrder b ∨
    (engine.rootOrder a == engine.rootOrder b) = true ∧ a < b

/-- The number of the one root is the negative zero, and that of the other the positive zero. -/
def ZerosApart (engine : Engine) (a b : Nat) : Prop :=
  engine.rootOrder a = -0.0 ∧ engine.rootOrder b = 0.0

/-- Where one root stands before another: its number is smaller, or it is the negative zero and the
other one the positive zero, or they have the same number and its position is smaller. -/
def ComesBefore (engine : Engine) (a b : Nat) : Prop :=
  engine.rootOrder a < engine.rootOrder b ∨ engine.ZerosApart a b ∨
    engine.rootOrder a = engine.rootOrder b ∧ a < b

theorem rootLe_iff : engine.rootLe a b = true ↔
    signedOrderKey (engine.rootOrder a) < signedOrderKey (engine.rootOrder b) ∨
      signedOrderKey (engine.rootOrder a) = signedOrderKey (engine.rootOrder b) ∧ a ≤ b := by
  simp [rootLe]

theorem comesBefore_of_rootLe (h : engine.rootLe a b = true) (hne : a ≠ b) :
    engine.ComesBefore a b := by
  rw [rootLe_iff, Binary64.signedOrderKey_lt_iff, ← rootOrder_lt_iff] at h
  rcases h with (hlt | hzeros) | ⟨hsame, hle⟩
  · exact .inl hlt
  · exact .inr (.inl hzeros)
  · exact .inr (.inr ⟨Binary64.signedOrderKey_inj hsame, Nat.lt_of_le_of_ne hle hne⟩)

theorem roots_nodup (engine : Engine) : engine.roots.Nodup := by
  rw [roots, (List.mergeSort_perm _ _).nodup_iff]
  exact List.nodup_range.filter _

/-- **Each root comes before those that are evaluated after it.** -/
theorem roots_comesBefore (engine : Engine) : engine.roots.Pairwise engine.ComesBefore := by
  have hsorted : engine.roots.Pairwise fun a b => engine.rootLe a b = true := by
    refine List.pairwise_mergeSort (fun a b c hab hbc => ?_) (fun a b => ?_) _
    · rw [rootLe_iff] at hab hbc ⊢
      omega
    · rw [Bool.or_eq_true, rootLe_iff, rootLe_iff]
      omega
  refine (hsorted.and engine.roots_nodup).imp fun {a b} h => ?_
  exact comesBefore_of_rootLe h.1 h.2

theorem ZerosApart.beq (h : engine.ZerosApart a b) :
    (engine.rootOrder a == engine.rootOrder b) = true := by
  rw [h.1, h.2]
  decide

theorem ZerosApart.not_lt (h : engine.ZerosApart a b) :
    ¬ engine.rootOrder a < engine.rootOrder b ∧ ¬ engine.rootOrder b < engine.rootOrder a := by
  rw [h.1, h.2]
  decide

theorem ZerosApart.ne (h : engine.ZerosApart a b) : engine.rootOrder a ≠ engine.rootOrder b := by
  intro heq
  rw [h.1, h.2] at heq
  exact absurd (congrArg Binary64.bits heq) (by decide)

/-- The two zeros are out of order exactly if the negative one is the later root. -/
theorem ComesBefore.precedes_iff (h : engine.ComesBefore a b) :
    engine.Precedes a b ↔ ¬ (engine.ZerosApart a b ∧ b ≤ a) := by
  constructor
  · rintro (hlt | ⟨-, hlt⟩) ⟨hzeros, hle⟩
    · exact hzeros.not_lt.1 hlt
    · omega
  · intro hin
    rcases h with hlt | hzeros | ⟨hsame, hlt⟩
    · exact .inl hlt
    · refine .inr ⟨hzeros.beq, ?_⟩
      by_contra hle
      exact hin ⟨hzeros, Nat.not_lt.mp hle⟩
    · refine .inr ⟨?_, hlt⟩
      rw [rootOrder_beq_iff, hsame]

theorem ZerosApart.not_comesBefore (h : engine.ZerosApart a b) : ¬ engine.ComesBefore b a := by
  rintro (hlt | hzeros | ⟨hsame, -⟩)
  · exact h.not_lt.2 hlt
  · exact h.ne (hzeros.2.trans h.2.symm)
  · exact h.ne hsame.symm

/-- **Roots are evaluated by their numbers, but for the two zeros.** Every root is listed once, and
nothing else is. Each comes before those behind it, and that is by its number, or by its position
where the numbers are equal, exactly if no root with the negative zero has a larger position than
one with the positive zero. -/
theorem roots_ascend_iff (engine : Engine) :
    engine.roots.Nodup ∧
    (∀ node, node ∈ engine.roots ↔
      node < engine.nodeCount ∧ (engine.kind? node).any OperatorKind.isRoot = true) ∧
    engine.roots.Pairwise engine.ComesBefore ∧
    (engine.roots.Pairwise engine.Precedes ↔
      ∀ a ∈ engine.roots, ∀ b ∈ engine.roots, engine.ZerosApart a b → a < b) := by
  have hbefore := engine.roots_comesBefore
  refine ⟨engine.roots_nodup, fun _ => mem_roots, hbefore, ?_⟩
  constructor
  · intro hprecedes a ha b hb hzeros
    -- One of the two is listed before the other, and it must be the one with the negative zero.
    have hne : a ≠ b := by
      rintro rfl
      exact hzeros.ne rfl
    rcases pairwise_or (hbefore.and hprecedes) ha hb hne with ⟨hcomes, hin⟩ | ⟨hcomes, -⟩
    · by_contra hle
      exact hcomes.precedes_iff.mp hin ⟨hzeros, Nat.not_lt.mp hle⟩
    · exact absurd hcomes hzeros.not_comesBefore
  · intro hzeros
    refine hbefore.imp_of_mem fun {a b} ha hb hcomes => hcomes.precedes_iff.mpr ?_
    rintro ⟨hapart, hle⟩
    have := hzeros a ha b hb hapart
    omega

/-- Three roots, whose numbers are the positive zero, the negative zero as a text, and half. -/
def finale : Engine where
  behavior := {
    strings := ⟨["output_context", "order", "-0"]⟩
    nodeIds := ["late", "early", "half"]
    nodes := [⟨0, ⟨[(1, .number 0)]⟩⟩, ⟨0, ⟨[(1, .string 2)]⟩⟩, ⟨0, ⟨[(1, .number 0.5)]⟩⟩]
    edges := [] }
  data := {}
  config := {}

theorem finale_roots : finale.roots = [1, 0, 2] := by
  have hroots : ((List.range finale.nodeCount).filter fun node =>
      (finale.kind? node).any OperatorKind.isRoot) = [0, 1, 2] := by decide +kernel
  have hle : finale.rootLe 0 1 = false ∧ finale.rootLe 0 2 = true ∧ finale.rootLe 1 2 = true := by
    decide +kernel
  rw [Engine.roots, hroots]
  simp [List.mergeSort, hle]

/-- The numbers of the first two are equal, and the later root is evaluated first. -/
theorem finale_is_out_of_order :
    finale.roots = [1, 0, 2] ∧ (finale.rootOrder 1 == finale.rootOrder 0) = true ∧
    ¬ finale.roots.Pairwise finale.Precedes := by
  have hnone : ¬ finale.Precedes 1 0 := by
    unfold Precedes
    decide +kernel
  refine ⟨finale_roots, by decide +kernel, fun h => ?_⟩
  rw [finale_roots] at h
  exact hnone ((List.pairwise_cons.mp h).1 0 (by simp))

/-- Three roots in order: the negative zero stands before the positive one, and the number one half
is written in two ways. -/
def overture : Engine where
  behavior := {
    strings := ⟨["output_entries", "order", "-0", "0.5"]⟩
    nodeIds := ["half", "first", "also half", "second"]
    nodes := [⟨0, ⟨[(1, .number 0.5)]⟩⟩, ⟨0, ⟨[(1, .string 2)]⟩⟩, ⟨0, ⟨[(1, .string 3)]⟩⟩, ⟨0, ⟨[]⟩⟩]
    edges := [] }
  data := {}
  config := {}

theorem overture_ascends :
    (∀ a ∈ overture.roots, ∀ b ∈ overture.roots, overture.ZerosApart a b → a < b) ∧
    overture.roots.Pairwise overture.Precedes := by
  have hzeros : ∀ a ∈ overture.roots, ∀ b ∈ overture.roots, overture.ZerosApart a b → a < b := by
    intro a ha b hb
    have hall : ∀ a < overture.nodeCount, ∀ b < overture.nodeCount,
        (Binary64.bits (overture.rootOrder a) = 2 ^ 63 → Binary64.bits (overture.rootOrder b) = 0 →
          a < b) := by decide +kernel
    rintro ⟨hminus, hplus⟩
    refine hall a (mem_roots.mp ha).1 b (mem_roots.mp hb).1 ?_ ?_
    · exact Binary64.eq_negative_zero_iff.mp hminus
    · exact Binary64.eq_zero_iff.mp hplus
  exact ⟨hzeros, (roots_ascend_iff overture).2.2.2.mpr hzeros⟩

end Engine

end StoryGraph
