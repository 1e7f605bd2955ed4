import Mathlib
import StoryGraph.Proofs.Finite
import StoryGraph.Value

/-!
# Small integers are exact

An integer below `2 ^ 53` is its own nearest double: its bits are told outright, and rounding them
toward zero gives it back. So the number that a double reads as reads as itself again.

Main statements: `Binary64.truncate_ofInt`, `Value.ofFloat_toFloat`.
-/

namespace StoryGraph.Binary64

open Float.Model UnpackedFloat

/-! ## Bits -/

/-- **Bits with an exponent in range are kept** when they become a double. -/
theorem bits_ofBits {b : UInt64} (h : b.toNat / 2 ^ 52 % 2 ^ 11 ≠ 2047) :
    bits (Float.ofBits b) = b.toNat := by
  have hexponent : @unpackExponent Format.binary64 b.toBitVec ≠ -1#11 := by
    intro heq
    apply h
    rw [← UInt64.toNat_toBitVec, ← toNat_unpackExponent, heq]
    rfl
  have hnumber : ¬ @isNaNBits Format.binary64 b.toBitVec = true := by
    intro hnan
    exact hexponent (of_decide_eq_true hnan).1
  have hpacked : UnpackedFloat.pack Format.binary64
      (UnpackedFloat.unpack Format.binary64 b.toBitVec) = b.toBitVec := by
    rw [@pack_unpack Format.binary64 b.toBitVec (by decide), if_neg hnumber]
  exact congrArg BitVec.toNat hpacked

/-- The bits of the nearest double, where they are not those of an infinity or of NaN. -/
theorem bits_nearest {negative : Bool} {numerator denominator : Nat}
    (h : nearestBits numerator denominator < infinityBits) :
    bits (nearest negative numerator denominator) =
      nearestBits numerator denominator + if negative then 2 ^ 63 else 0 := by
  have hmagnitude : nearestBits numerator denominator < 2047 * 2 ^ 52 := h
  have hword : ∀ k, k < 2 ^ 64 → (UInt64.ofNat k).toNat = k := fun _ => UInt64.toNat_ofNat_of_lt
  have hbits : (UInt64.ofNat (nearestBits numerator denominator +
      if negative then 2 ^ 63 else 0)).toNat =
        nearestBits numerator denominator + if negative then 2 ^ 63 else 0 := by
    apply hword
    split <;> omega
  unfold nearest
  rw [bits_ofBits, hbits]
  rw [hbits]
  split <;> omega

/-! ## Integers with no more than 53 binary digits -/

def normalised (m : Nat) : Nat := m * 2 ^ (52 - m.log2)

theorem log2_le_of_lt {m : Nat} (h : m < 2 ^ 53) : m.log2 ≤ 52 := by
  by_cases hm : m = 0
  · simp [hm]
  · have := (Nat.log2_lt hm).mpr h
    omega

theorem normalised_bounds {m : Nat} (hpos : 0 < m) (h : m < 2 ^ 53) :
    2 ^ 52 ≤ normalised m ∧ normalised m < 2 ^ 53 := by
  have hlog := log2_le_of_lt h
  have hlow : 2 ^ m.log2 ≤ m := Nat.log2_self_le (by omega)
  have hhigh : m < 2 ^ (m.log2 + 1) := Nat.lt_log2_self
  unfold normalised
  constructor
  · calc 2 ^ 52 = 2 ^ m.log2 * 2 ^ (52 - m.log2) := by
          rw [← Nat.pow_add]; congr 1; omega
      _ ≤ m * 2 ^ (52 - m.log2) := Nat.mul_le_mul_right _ hlow
  · calc m * 2 ^ (52 - m.log2) < 2 ^ (m.log2 + 1) * 2 ^ (52 - m.log2) :=
          Nat.mul_lt_mul_of_pos_right hhigh (Nat.two_pow_pos _)
      _ = 2 ^ 53 := by rw [← Nat.pow_add]; congr 1; omega

/-- The grid of doubles around such an integer is the one on which it has 53 binary digits. -/
theorem gridExponent_exact {m : Nat} (hpos : 0 < m) (h : m < 2 ^ 53) :
    gridExponent m 1 = (m.log2 : Int) - 52 := by
  have hlog := log2_le_of_lt h
  have hlow : 2 ^ m.log2 ≤ m := Nat.log2_self_le (by omega)
  have hone : Nat.log2 1 = 0 := by decide
  -- The first guess is one too small, so the number does not fit it.
  have hguess : (m.log2 : Int) - (0 : Nat) - 53 = Int.negSucc (52 - m.log2) := by omega
  have htoo : ¬ m * 2 ^ (52 - m.log2 + 1) / 1 < 2 ^ 53 := by
    have : 2 ^ m.log2 * 2 ^ (52 - m.log2 + 1) ≤ m * 2 ^ (52 - m.log2 + 1) :=
      Nat.mul_le_mul_right _ hlow
    rw [← Nat.pow_add, show m.log2 + (52 - m.log2 + 1) = 53 by omega] at this
    omega
  unfold gridExponent
  dsimp only
  rw [hone, hguess]
  simp only [decide_eq_false htoo, Bool.false_eq_true, if_false]
  omega

theorem divideToEven_one (n : Nat) : divideToEven n 1 = n := by
  simp [divideToEven, Nat.mod_one]

theorem multiplesOf_exact {m : Nat} (h : m < 2 ^ 53) :
    multiplesOf ((m.log2 : Int) - 52) m 1 = normalised m := by
  have hlog := log2_le_of_lt h
  unfold multiplesOf normalised
  by_cases htop : m.log2 = 52
  · rw [htop]
    show divideToEven m (1 * 2 ^ 0) = m * 2 ^ 0
    rw [Nat.pow_zero, Nat.mul_one, Nat.mul_one, divideToEven_one]
  · have hexponent : (m.log2 : Int) - 52 = Int.negSucc (51 - m.log2) := by omega
    rw [hexponent]
    show divideToEven (m * 2 ^ (51 - m.log2 + 1)) 1 = _
    rw [divideToEven_one, show 51 - m.log2 + 1 = 52 - m.log2 by omega]

theorem nearestBits_exact {m : Nat} (hpos : 0 < m) (h : m < 2 ^ 53) :
    nearestBits m 1 = (m.log2 + 1023) * 2 ^ 52 + (normalised m - 2 ^ 52) := by
  have hlog := log2_le_of_lt h
  obtain ⟨hlow, hhigh⟩ := normalised_bounds hpos h
  unfold nearestBits
  rw [if_neg (by omega)]
  dsimp only
  -- The leading bit of the significand is not stored: it is one, because of the bounds.
  rw [gridExponent_exact hpos h, multiplesOf_exact h]
  unfold infinityBits
  omega

section

variable {n : Int}

theorem bits_ofInt (h : n.natAbs < 2 ^ 53) :
    bits (ofInt n) = nearestBits n.natAbs 1 + if n < 0 then 2 ^ 63 else 0 := by
  have hfinite : nearestBits n.natAbs 1 < infinityBits := nearestBits_lt (by omega)
  unfold ofInt
  rw [bits_nearest hfinite]
  simp only [decide_eq_true_eq]

theorem isNegative_ofInt (h : n.natAbs < 2 ^ 53) : isNegative (ofInt n) = decide (n < 0) := by
  have hfinite : nearestBits n.natAbs 1 < 2047 * 2 ^ 52 := nearestBits_lt (by omega)
  unfold isNegative
  rw [bits_ofInt h]
  by_cases hneg : n < 0
  · rw [if_pos hneg, decide_eq_true hneg, beq_iff_eq]
    omega
  · rw [if_neg hneg, decide_eq_false hneg, beq_eq_false_iff_ne]
    omega

theorem exponentField_ofInt (hne : n ≠ 0) (h : n.natAbs < 2 ^ 53) :
    exponentField (ofInt n) = n.natAbs.log2 + 1023 := by
  have hlog := log2_le_of_lt h
  have hbounds := normalised_bounds (Int.natAbs_pos.mpr hne) h
  unfold exponentField
  rw [bits_ofInt h, nearestBits_exact (Int.natAbs_pos.mpr hne) h]
  split <;> omega

theorem fractionField_ofInt (hne : n ≠ 0) (h : n.natAbs < 2 ^ 53) :
    fractionField (ofInt n) = normalised n.natAbs - 2 ^ 52 := by
  have hlog := log2_le_of_lt h
  have hbounds := normalised_bounds (Int.natAbs_pos.mpr hne) h
  unfold fractionField
  rw [bits_ofInt h, nearestBits_exact (Int.natAbs_pos.mpr hne) h]
  split <;> omega

/-- **Nothing is cut off** from such an integer. -/
theorem wholePart_ofInt (h : n.natAbs < 2 ^ 53) : wholePart (ofInt n) = (n.natAbs, true) := by
  by_cases hzero : n = 0
  · subst hzero
    decide +kernel
  have hlog := log2_le_of_lt h
  have hexponent := exponentField_ofInt hzero h
  have hsignificand : significand (ofInt n) = normalised n.natAbs := by
    have hbounds := normalised_bounds (Int.natAbs_pos.mpr hzero) h
    unfold significand
    rw [hexponent, if_neg (by omega), fractionField_ofInt hzero h]
    omega
  have hscale : scale (ofInt n) = (n.natAbs.log2 : Int) - 52 := by
    unfold scale
    rw [hexponent, if_neg (by omega)]
    omega
  unfold wholePart
  rw [hscale, hsignificand]
  unfold normalised
  by_cases htop : n.natAbs.log2 = 52
  · rw [htop]
    show (n.natAbs * 2 ^ 0 * 2 ^ 0, true) = _
    simp
  · have hdown : (n.natAbs.log2 : Int) - 52 = Int.negSucc (51 - n.natAbs.log2) := by omega
    rw [hdown]
    show (n.natAbs * 2 ^ (52 - n.natAbs.log2) / 2 ^ (51 - n.natAbs.log2 + 1),
      n.natAbs * 2 ^ (52 - n.natAbs.log2) % 2 ^ (51 - n.natAbs.log2 + 1) == 0) = _
    rw [show 51 - n.natAbs.log2 + 1 = 52 - n.natAbs.log2 by omega,
      Nat.mul_div_cancel _ (Nat.two_pow_pos _), Nat.mul_mod_left]
    rfl

/-- **Such an integer is given back** by rounding its double toward zero. -/
theorem truncate_ofInt (h : n.natAbs < 2 ^ 53) : truncate (ofInt n) = n := by
  unfold truncate
  rw [isNegative_ofInt h, wholePart_ofInt h]
  simp only [decide_eq_true_eq]
  split <;> omega

theorem isIntegral_ofInt (h : n.natAbs < 2 ^ 53) : isIntegral (ofInt n) = true := by
  unfold isIntegral
  rw [isFinite_ofInt (by omega), wholePart_ofInt h]
  rfl

end

end StoryGraph.Binary64

namespace StoryGraph.Value

/-! ## What a double reads as -/

theorem ofFloat_ofInt {n : Int} (h : n.natAbs < 9 * 10 ^ 15) :
    ofFloat (Binary64.ofInt n) = .number (.int n) := by
  have hexact : n.natAbs < 2 ^ 53 := by omega
  unfold ofFloat
  rw [Binary64.isIntegral_ofInt hexact, Binary64.truncate_ofInt hexact, Bool.true_and,
    if_pos (decide_eq_true h)]

theorem ofFloat_of_fraction {x : FiniteDouble} (h : Binary64.isIntegral x.val = false) :
    ofFloat x.val = .number (.real x) := by
  unfold ofFloat
  rw [h, Bool.false_and, if_neg Bool.false_ne_true, FiniteDouble.ofFloat?_val]

theorem ofFloat_number {x : Float} (h : Binary64.isFinite x = true) :
    ∃ n, ofFloat x = .number n := by
  unfold ofFloat
  split
  · exact ⟨_, rfl⟩
  · rw [show FiniteDouble.ofFloat? x = some ⟨x, h⟩ from FiniteDouble.ofFloat?_val ⟨x, h⟩]
    exact ⟨_, rfl⟩

/-- **The number that a double reads as reads as itself.** -/
theorem ofFloat_toFloat {x : Float} {n : Number} (h : ofFloat x = .number n) :
    ofFloat n.toFloat = .number n := by
  unfold ofFloat at h
  split at h
  · rename_i hsmall
    obtain ⟨-, hsmall⟩ := Bool.and_eq_true_iff.mp hsmall
    cases h
    exact ofFloat_ofInt (of_decide_eq_true hsmall)
  · rename_i hlarge
    split at h
    · rename_i y hy
      cases h
      show ofFloat y.val = _
      rw [FiniteDouble.val_of_ofFloat? hy]
      unfold ofFloat
      rw [if_neg hlarge, hy]
    · exact nomatch h

end StoryGraph.Value
