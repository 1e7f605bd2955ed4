import Mathlib
import StoryGraph.Number.Binary64

/-!
# Integers have finite doubles

The double nearest to a 64-bit integer is finite: its exponent stays far below the one that is kept
for the infinities.
-/

namespace StoryGraph.Binary64

open Float.Model UnpackedFloat

/-! ## Bits that are read back -/

theorem toNat_unpackExponent (v : BitVec 64) :
    (@unpackExponent Format.binary64 v).toNat = v.toNat / 2 ^ 52 % 2 ^ 11 := by
  simp [unpackExponent, BitVec.extractLsb_toNat, Nat.shiftRight_eq_div_pow]

/-- A number with an exponent in range is not packed as one of the infinities. -/
theorem unpackExponent_pack_finite (sign : Sign) {m : Nat} (hm : 0 < m) {e : Int}
    (he : e + 1075 < 2047) :
    unpackExponent (UnpackedFloat.pack Format.binary64 (.finite sign m e hm)) ≠ -1#11 := by
  have hbiased : (e + (Format.binary64.exponentBias : Int) +
      Format.binary64.mantissaBitsWithoutImplicit).toNat < 2047 := by
    change (e + 1023 + 52).toNat < 2047
    omega
  rw [UnpackedFloat.pack]
  dsimp only
  generalize (e + (Format.binary64.exponentBias : Int) +
    Format.binary64.mantissaBitsWithoutImplicit).toNat = biased at hbiased
  rw [if_neg (show ¬ 2 ^ 11 ≤ biased + 1 by omega)]
  split
  · rw [unpackExponent_packComponents]
    intro heq
    have heq : biased % 2048 = 2047 := congrArg BitVec.toNat heq
    omega
  · rw [unpackExponent_packComponents]
    decide

theorem unpackExponent_pack_unpack {v : BitVec 64}
    (h : @unpackExponent Format.binary64 v ≠ -1#11) :
    @unpackExponent Format.binary64
      (UnpackedFloat.pack Format.binary64 (UnpackedFloat.unpack Format.binary64 v)) ≠ -1#11 := by
  have hlt : (@unpackExponent Format.binary64 v).toNat < 2047 := by
    have hword : (@unpackExponent Format.binary64 v).toNat < 2048 :=
      (@unpackExponent Format.binary64 v).isLt
    have hne : (@unpackExponent Format.binary64 v).toNat ≠ 2047 :=
      fun he => h (BitVec.eq_of_toNat_eq he)
    omega
  unfold UnpackedFloat.unpack
  dsimp only
  rw [if_neg h]
  split
  · split
    · show unpackExponent (packComponents Format.binary64 _ 0 0) ≠ _
      rw [unpackExponent_packComponents]
      decide
    · rename_i hzero _
      refine unpackExponent_pack_finite _ _ ?_
      rw [hzero]
      decide
  · refine unpackExponent_pack_finite _ _ ?_
    change ((@unpackExponent Format.binary64 v).toNat : Int) - (1023 + 52) + 1075 < 2047
    omega

/-- **Bits with an exponent in range are a finite double.** -/
theorem isFinite_ofBits {b : UInt64} (h : b.toNat / 2 ^ 52 % 2 ^ 11 ≠ 2047) :
    isFinite (Float.ofBits b) = true := by
  have hread : ∀ v : BitVec 64, @unpackExponent Format.binary64 v = -1#11 ↔
      v.toNat / 2 ^ 52 % 2 ^ 11 = 2047 := by
    intro v
    rw [← BitVec.toNat_inj, toNat_unpackExponent]
    exact Iff.rfl
  have hpacked := unpackExponent_pack_unpack (mt (hread b.toBitVec).mp h)
  exact bne_iff_ne.mpr (mt (hread _).mpr hpacked)

/-! ## The nearest double of an integer -/

theorem divideToEven_le (numerator denominator : Nat) :
    divideToEven numerator denominator ≤ numerator / denominator + 1 := by
  unfold divideToEven
  dsimp only
  split
  · omega
  · split <;> omega

theorem gridExponent_bounds (m : Nat) :
    (m.log2 : Int) - 53 ≤ gridExponent m 1 ∧ gridExponent m 1 ≤ (m.log2 : Int) - 52 := by
  have hone : Nat.log2 1 = 0 := by decide
  unfold gridExponent
  dsimp only
  rw [hone]
  split <;> split <;> omega

theorem multiplesOf_le {m : Nat} {exponent : Int} (h : (m.log2 : Int) - 53 ≤ exponent) :
    multiplesOf exponent m 1 ≤ 2 ^ 54 := by
  have hm : m < 2 ^ (m.log2 + 1) := Nat.lt_log2_self
  unfold multiplesOf
  split
  · rename_i k
    refine Nat.le_trans (divideToEven_le _ _) ?_
    have hk : (m.log2 : Int) - 53 ≤ k := h
    have hpow : 2 ^ (m.log2 + 1) ≤ 2 ^ k * 2 ^ 54 := by
      rw [← Nat.pow_add]
      exact Nat.pow_le_pow_right (by decide) (by omega)
    rw [Nat.one_mul]
    exact Nat.div_lt_of_lt_mul (Nat.lt_of_lt_of_le hm hpow)
  · rename_i k
    refine Nat.le_trans (divideToEven_le _ _) ?_
    have hpow : 2 ^ (m.log2 + 1) * 2 ^ (k + 1) ≤ 2 ^ 54 := by
      rw [← Nat.pow_add]
      exact Nat.pow_le_pow_right (by decide) (by omega)
    have : m * 2 ^ (k + 1) < 2 ^ (m.log2 + 1) * 2 ^ (k + 1) :=
      Nat.mul_lt_mul_of_pos_right hm (Nat.two_pow_pos _)
    rw [Nat.div_one]
    omega

theorem nearestBits_lt {m : Nat} (h : m < 2 ^ 64) : nearestBits m 1 < infinityBits := by
  unfold nearestBits
  split
  · decide
  · rename_i hm
    obtain ⟨hlow, hhigh⟩ := gridExponent_bounds m
    have hlog : m.log2 < 64 := (Nat.log2_lt hm).mpr h
    have hsteps := multiplesOf_le hlow
    have hfield : (gridExponent m 1 + 1074).toNat ≤ 1085 := by omega
    dsimp only
    refine Nat.lt_of_le_of_lt (Nat.min_le_right _ _) ?_
    unfold infinityBits
    omega

/-- **A 64-bit integer has a finite double.** -/
theorem isFinite_ofInt {n : Int} (h : n.natAbs < 2 ^ 64) : isFinite (ofInt n) = true := by
  have hbits : nearestBits n.natAbs 1 < 2047 * 2 ^ 52 := nearestBits_lt h
  refine isFinite_ofBits ?_
  have hword : ∀ k, k < 2 ^ 64 → (UInt64.ofNat k).toNat = k := fun _ => UInt64.toNat_ofNat_of_lt
  split
  · rw [hword _ (by omega)]
    omega
  · rw [hword _ (by omega)]
    omega

end StoryGraph.Binary64
