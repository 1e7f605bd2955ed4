import Mathlib.Algebra.Order.Field.Power
import Mathlib.Algebra.Order.Floor.Semifield
import Mathlib.Data.Rat.Floor
import Mathlib.Tactic.Positivity
import StoryGraph.Proofs.Scans

/-!
# Windows of lists

The operator that cuts a window out of a list reads three numbers. The first one says where the
window begins and is rounded toward zero; a negative one counts from the end of the list. The others
are how many items there are at most and how far apart they stand, and are rounded down. Rounding
stops at the largest word, and no list reaches so far. So every item of the window stands where the
numbers say, and no item is missing.

Main definitions: `Binary64.value`, `Operator.IsWindow`. Main statement:
`Scene.windows_are_exact`.
-/

namespace StoryGraph

namespace Binary64

/-! ## Rounding -/

def value (x : Float) : ℚ :=
  if isNegative x then -(significand x * 2 ^ scale x) else significand x * 2 ^ scale x

def towardZero (q : ℚ) : ℤ := if 0 ≤ q then ⌊q⌋ else ⌈q⌉

theorem towardZero_neg (q : ℚ) : towardZero (-q) = -towardZero q := by
  unfold towardZero
  rcases lt_trichotomy q 0 with hneg | rfl | hpos
  · rw [if_pos (by linarith), if_neg (not_le.mpr hneg), Int.floor_neg]
  · simp
  · rw [if_neg (by linarith), if_pos hpos.le, Int.ceil_neg]

theorem towardZero_toNat (q : ℚ) : (towardZero q).toNat = ⌊max 0 q⌋₊ := by
  unfold towardZero
  split
  · rename_i hq
    rw [max_eq_right hq]
    rfl
  · rename_i hq
    have hneg : ⌈q⌉ ≤ 0 := Int.ceil_le.mpr (by rw [Int.cast_zero]; exact (not_le.mp hq).le)
    rw [max_eq_left (not_le.mp hq).le, Nat.floor_zero, Int.toNat_of_nonpos hneg]

theorem wholePart_eq (x : Float) : (wholePart x).1 = ⌊(significand x : ℚ) * 2 ^ scale x⌋₊ := by
  unfold wholePart
  cases scale x with
  | ofNat k =>
      show significand x * 2 ^ k = _
      rw [Int.ofNat_eq_natCast, zpow_natCast]
      exact_mod_cast (Nat.floor_natCast (R := ℚ) (significand x * 2 ^ k)).symm
  | negSucc k =>
      show significand x / 2 ^ (k + 1) = _
      have hpower : ((2 : ℚ) ^ (k + 1)) = (2 ^ (k + 1) : ℕ) := by push_cast; rfl
      rw [zpow_negSucc, ← div_eq_mul_inv, hpower, Nat.floor_div_natCast, Nat.floor_natCast]

/-- **The integer that is left when a double loses its fraction.** -/
theorem truncate_eq (x : Float) : truncate x = towardZero (value x) := by
  have hsize : (0 : ℚ) ≤ significand x * 2 ^ scale x := by positivity
  have hwhole : ((wholePart x).1 : ℤ) = towardZero (significand x * 2 ^ scale x) := by
    rw [wholePart_eq, towardZero, if_pos hsize]
    exact Int.natCast_floor_eq_floor hsize
  unfold truncate value
  split
  · rw [towardZero_neg, hwhole]
  · exact hwhole

/-- **A count is the number rounded down**, as far as a word reaches. -/
theorem toCount_eq (x : Float) : toCount x = min ⌊max 0 (value x)⌋₊ (2 ^ 64 - 1) := by
  rw [toCount, truncate_eq, towardZero_toNat]

end Binary64

namespace Operator

open Binary64

/-! ## Windows -/

section

variable {α : Type}

theorem getElem?_everyNth {step : Nat} (hstep : 0 < step) (items : List α) :
    ∀ wait k : Nat, (everyNth step wait items)[k]? = items[wait + k * step]? := by
  induction items with
  | nil => exact fun _ _ => rfl
  | cons item rest ih =>
      intro wait k
      cases wait with
      | succ wait =>
          rw [everyNth, ih, show wait + 1 + k * step = wait + k * step + 1 by omega,
            List.getElem?_cons_succ]
      | zero =>
          cases k with
          | zero => simp [everyNth]
          | succ k =>
              have hplace : 0 + (k + 1) * step = step - 1 + k * step + 1 := by
                rw [Nat.succ_mul]
                omega
              rw [everyNth, List.getElem?_cons_succ, ih, hplace, List.getElem?_cons_succ]

/-- The items of a window: the first one, and with each the one a stride after it, as long as there
are any in the list and the limit is not reached. There is no limit if it is zero. -/
def IsWindow (first limit stride : Nat) (items window : List α) : Prop :=
  ∀ k, window[k]? = if limit = 0 ∨ k < limit then items[first + k * stride]? else none

variable {first limit stride : Nat} {items others : List α}

theorem isWindow_window (start : Int) (count : Nat) (hstep : 0 < stride) (items : List α) :
    IsWindow (windowStart items.length start) count stride items
      (window start count stride items) := by
  intro k
  have hitem : (everyNth stride 0 (items.drop (windowStart items.length start)))[k]? =
      items[windowStart items.length start + k * stride]? := by
    rw [getElem?_everyNth hstep, List.getElem?_drop, Nat.zero_add]
  unfold window
  dsimp only
  by_cases hcount : count = 0
  · rw [if_pos hcount, if_pos (.inl hcount), hitem]
  · rw [if_neg hcount, List.getElem?_take, hitem]
    simp only [hcount, false_or]

theorem IsWindow.unique (h : IsWindow first limit stride items others) {window : List α}
    (hwindow : IsWindow first limit stride items window) : window = others :=
  List.ext_getElem? fun k => (hwindow k).trans (h k).symm

theorem isWindow_self (items : List α) : IsWindow 0 0 1 items items := by
  intro k
  rw [if_pos (.inl rfl), Nat.zero_add, Nat.mul_one]

theorem getElem?_saturated (hlength : items.length < 2 ^ 64) (first stride k : Nat) :
    items[first + k * max 1 (min stride (2 ^ 64 - 1))]? = items[first + k * max 1 stride]? := by
  rcases Nat.lt_or_ge stride (2 ^ 64) with hstride | hstride
  · rw [Nat.min_eq_left (by omega)]
  · cases k with
    | zero => rw [Nat.zero_mul, Nat.zero_mul]
    | succ k =>
        have hfar : ∀ n, 2 ^ 64 - 1 ≤ n → items.length ≤ first + (k + 1) * n := by
          intro n hn
          rw [Nat.succ_mul]
          omega
        rw [List.getElem?_eq_none (hfar _ (by omega)), List.getElem?_eq_none (hfar _ (by omega))]

/-- **Rounding that stops at the largest word is not seen**, for no list is so long. -/
theorem IsWindow.of_saturated (hlength : items.length < 2 ^ 64)
    (h : IsWindow first (min limit (2 ^ 64 - 1)) (max 1 (min stride (2 ^ 64 - 1))) items others) :
    IsWindow first limit (max 1 stride) items others := by
  intro k
  rw [h k, getElem?_saturated hlength]
  have hlimit : min limit (2 ^ 64 - 1) = 0 ↔ limit = 0 := by omega
  by_cases hreach : k < 2 ^ 64 - 1
  · have hbelow : k < min limit (2 ^ 64 - 1) ↔ k < limit := by omega
    simp only [hlimit, hbelow]
  · -- The item would lie beyond the list.
    have hplace : k ≤ k * max 1 stride := Nat.le_mul_of_pos_right k (by omega)
    rw [List.getElem?_eq_none (by omega), ite_self, ite_self]

end

/-- Where a window begins in a list of a length: a negative start counts from the end. -/
def firstPlace (length : Nat) (start : ℚ) : Nat :=
  if 0 ≤ towardZero start then (towardZero start).toNat else length - (towardZero start).natAbs

theorem windowStart_truncate (length : Nat) (x : Float) :
    windowStart length (truncate x) = firstPlace length (value x) := by
  rw [windowStart, firstPlace, truncate_eq]
  by_cases hneg : towardZero (value x) < 0
  · rw [if_pos hneg, if_neg (not_le.mpr hneg)]
  · rw [if_neg hneg, if_pos (not_lt.mp hneg)]

/-! ## The operator -/

structure SliceReading where
  items : List Value
  start : Float
  count : Float
  step : Float

def askSliceReading : Body SliceReading := do
  let items ← Body.askItems "list"
  let start ← Body.askNumber "start" 0
  let count ← Body.askNumber "count" 0
  let step ← Body.askNumber "step" 1
  return ⟨items, start, count, step⟩

namespace SliceReading

variable {reading : SliceReading}

def window (reading : SliceReading) : List Value :=
  Operator.window (truncate reading.start) (toCount reading.count)
    (max 1 (toCount reading.step)) reading.items

theorem slice_eq : slice =
    askSliceReading >>= fun reading => return .single "list" (.list reading.window) := by
  unfold slice askSliceReading Body.askCount
  simp only [Body.bind_assoc, Body.pure_bind]
  rfl

theorem isWindow (reading : SliceReading) :
    IsWindow (firstPlace reading.items.length (value reading.start))
      (min ⌊max 0 (value reading.count)⌋₊ (2 ^ 64 - 1))
      (max 1 (min ⌊value reading.step⌋₊ (2 ^ 64 - 1))) reading.items reading.window := by
  have hstep : ⌊max 0 (value reading.step)⌋₊ = ⌊value reading.step⌋₊ := by
    rcases le_total 0 (value reading.step) with hpos | hneg
    · rw [max_eq_right hpos]
    · rw [max_eq_left hneg, Nat.floor_zero, Nat.floor_of_nonpos hneg]
  rw [← hstep, ← toCount_eq, ← toCount_eq, ← windowStart_truncate]
  exact isWindow_window _ _ (by omega) reading.items

end SliceReading

end Operator

namespace Scene

open Operator Binary64

/-- **Windows are exact.** Whatever the operator for windows reads, it gives a list, and the list is
the window that begins where the first number says, has as many items as the second says and as
many steps between them as the third says. How far numbers are rounded matters to no list that a
memory holds. The neutral numbers leave the list as it is. -/
theorem windows_are_exact (scene : Scene) (pull : Pull) (node : Nat) (s : Session) :
    ∃ reading t window,
      scene.performWith pull node askSliceReading (s.enter node) = (reading, t) ∧
      (scene.execute pull node .slice s).1 = ⟨[("list", .list window)]⟩ ∧
      IsWindow (firstPlace reading.items.length (value reading.start))
        (min ⌊max 0 (value reading.count)⌋₊ (2 ^ 64 - 1))
        (max 1 (min ⌊value reading.step⌋₊ (2 ^ 64 - 1))) reading.items window ∧
      (reading.items.length < 2 ^ 64 →
        IsWindow (firstPlace reading.items.length (value reading.start))
          ⌊max 0 (value reading.count)⌋₊ (max 1 ⌊value reading.step⌋₊) reading.items window) ∧
      (value reading.start = 0 → value reading.count = 0 → value reading.step = 1 →
        window = reading.items) := by
  generalize hread : scene.performWith pull node askSliceReading (s.enter node) = read
  obtain ⟨reading, t⟩ := read
  have hwindow := reading.isWindow
  refine ⟨reading, t, reading.window, rfl, ?_, hwindow, fun hlength => hwindow.of_saturated hlength,
    fun hstart hcount hstep => ?_⟩
  · rw [execute_eq, runBody_of_reading .slice SliceReading.slice_eq hread]
    rfl
  · rw [hstart, hcount, hstep] at hwindow
    simp only [firstPlace, towardZero] at hwindow
    norm_num at hwindow
    exact (isWindow_self reading.items).unique hwindow

end Scene

namespace Engine

open Operator Binary64

/-- Six animals, some of them looked at from the fourth last one on, and all of them. -/
def parade : Engine where
  behavior := {
    strings := ⟨["slice", "list", "start", "count", "step", "elk", "fox", "hare", "lynx", "owl",
      "wolf"]⟩
    nodeIds := ["glimpse", "whole"]
    nodes := [
      ⟨0, ⟨[(1, .list [.string 5, .string 6, .string 7, .string 8, .string 9, .string 10]),
        (2, .number (-4.5)), (3, .number 2.75), (4, .number 2.5)]⟩⟩,
      ⟨0, ⟨[(1, .list [.string 5, .string 6, .string 7, .string 8, .string 9, .string 10])]⟩⟩]
    edges := [] }
  data := {}
  config := {}

/-- The fractions are cut off: two animals are seen, with one between them that is not. -/
theorem parade_is_cut :
    let scene : Scene := ⟨parade, {}⟩
    let animals : List Value :=
      [.text "elk", .text "fox", .text "hare", .text "lynx", .text "owl", .text "wolf"]
    animals.length < 2 ^ 64 ∧ value 0 = 0 ∧ value 1 = 1 ∧
      (scene.execute scene.evaluate 0 .slice (.start {})).1 =
        ⟨[("list", .list [.text "hare", .text "owl"])]⟩ ∧
      (scene.execute scene.evaluate 1 .slice (.start {})).1 = ⟨[("list", .list animals)]⟩ := by
  intro scene animals
  have hlength : animals.length < 2 ^ 64 := by decide
  have hzero : value 0 = 0 := by decide +kernel
  have hone : value 1 = 1 := by decide +kernel
  refine ⟨hlength, hzero, hone, ?_, ?_⟩
  · obtain ⟨reading, t, window, hread, houtputs, -, hexact, -⟩ :=
      Scene.windows_are_exact scene scene.evaluate 0 (.start {})
    obtain rfl : (⟨animals, -4.5, 2.75, 2.5⟩ : SliceReading) = reading := congrArg Prod.fst hread
    have hfirst : firstPlace animals.length (value (-4.5)) = 2 := by decide +kernel
    have hlimit : ⌊max 0 (value 2.75)⌋₊ = 2 := by decide +kernel
    have hstride : max 1 ⌊value 2.5⌋₊ = 2 := by decide +kernel
    have hwindow := hexact hlength
    rw [hfirst, hlimit, hstride] at hwindow
    have hseen : IsWindow 2 2 2 animals [.text "hare", .text "owl"] := by
      rintro (_ | _ | k) <;> rfl
    rw [houtputs, hwindow.unique hseen]
  · obtain ⟨reading, t, window, hread, houtputs, -, -, hall⟩ :=
      Scene.windows_are_exact scene scene.evaluate 1 (.start {})
    obtain rfl : (⟨animals, 0, 0, 1⟩ : SliceReading) = reading := congrArg Prod.fst hread
    rw [houtputs, hall hzero hzero hone]

end Engine

end StoryGraph
