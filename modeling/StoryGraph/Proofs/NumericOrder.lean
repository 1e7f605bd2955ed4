import StoryGraph.Proofs.Integral

/-!
# The numeric order

Finite doubles are compared by integers that are made of their bits. That is the order of the
doubles: a larger exponent makes a number larger in size, and of two with one exponent the larger
significand does.

Main statements: `Binary64.compare_toModel`, `Binary64.lt_iff_compare`, `Binary64.beq_iff_compare`.
-/

namespace StoryGraph

theorem compare_of_strictMono {α β : Type*} [LinearOrder α] [LinearOrder β] {f : α → β}
    (h : StrictMono f) (a b : α) : Ord.compare (f a) (f b) = Ord.compare a b := by
  rw [← cmp_eq_compare, ← cmp_eq_compare]
  exact h.cmp_map_eq a b

namespace Binary64

open Float.Model UnpackedFloat

variable {x y : Float}

/-! ## The parts of a double -/

def sign (x : Float) : Sign := if isNegative x then .negative else .positive

theorem unpackSign_eq (x : Float) :
    Sign.ofBitVec (@unpackSign Format.binary64 x.toModel.toBits.toBitVec) = sign x := by
  have hbit : (@unpackSign Format.binary64 x.toModel.toBits.toBitVec).toNat =
      bits x / 2 ^ 63 % 2 := by
    simp [unpackSign, BitVec.extractLsb_toNat, Nat.shiftRight_eq_div_pow, bits, Float.toBits]
  have hnegative : @unpackSign Format.binary64 x.toModel.toBits.toBitVec = 0#1 ↔
      isNegative x = false := by
    rw [← BitVec.toNat_inj, hbit, isNegative, beq_eq_false_iff_ne]
    show _ = 0 ↔ _
    omega
  unfold Sign.ofBitVec sign
  by_cases h : isNegative x = false
  · rw [if_pos (hnegative.mpr h), if_neg (ne_true_of_eq_false h)]
  · rw [if_neg (mt hnegative.mp h), if_pos (Bool.eq_true_of_not_eq_false h)]

theorem toNat_unpackMantissa (x : Float) :
    (@unpackMantissa Format.binary64 x.toModel.toBits.toBitVec).toNat = fractionField x := by
  simp [unpackMantissa, BitVec.extractLsb_toNat, fractionField, bits, Float.toBits]

theorem toNat_implicit_append (m : BitVec 52) : (1#1 ++ m).toNat = m.toNat + 2 ^ 52 := by
  rw [BitVec.toNat_append, ← Nat.shiftLeft_add_eq_or_of_lt m.isLt]
  simp [Nat.shiftLeft_eq, Nat.add_comm]

/-- **A finite double is read as its sign, its significand and its scale**, or as a zero. -/
theorem unpack_finite (h : isFinite x = true) :
    significand x = 0 ∧ x.toModel.unpack = .zero (sign x) ∨
      ∃ hpos : 0 < significand x,
        x.toModel.unpack = .finite (sign x) (significand x) (scale x) hpos := by
  have hfield : (@unpackExponent Format.binary64 x.toModel.toBits.toBitVec).toNat =
      exponentField x := toNat_unpackExponent _
  have hfraction := toNat_unpackMantissa x
  have hspecial : @unpackExponent Format.binary64 x.toModel.toBits.toBitVec ≠ -1#11 := by
    intro heq
    apply bne_iff_ne.mp h
    rw [← hfield, heq]
    rfl
  have hsubnormal : @unpackExponent Format.binary64 x.toModel.toBits.toBitVec = 0#11 ↔
      exponentField x = 0 := by
    rw [← BitVec.toNat_inj, hfield]
    exact Iff.rfl
  have hzero : @unpackMantissa Format.binary64 x.toModel.toBits.toBitVec = 0#52 ↔
      fractionField x = 0 := by
    rw [← BitVec.toNat_inj, hfraction]
    exact Iff.rfl
  unfold Float.Model.unpack UnpackedFloat.unpack
  dsimp only
  rw [if_neg hspecial]
  by_cases hexponent : exponentField x = 0
  · have hsignificand : significand x = fractionField x := if_pos hexponent
    have hscale : scale x = -1074 := if_pos hexponent
    rw [if_pos (hsubnormal.mpr hexponent)]
    by_cases hf : fractionField x = 0
    · left
      rw [dif_pos (hzero.mpr hf), unpackSign_eq]
      exact ⟨hsignificand.trans hf, rfl⟩
    · right
      refine ⟨by omega, ?_⟩
      rw [dif_neg (mt hzero.mp hf)]
      congr 1
      · exact unpackSign_eq x
      · rw [hfraction, hsignificand]
      · rw [hfield, hexponent, hscale]
        rfl
  · have hsignificand : significand x = fractionField x + 2 ^ 52 := if_neg hexponent
    have hscale : scale x = (exponentField x : Int) - 1075 := if_neg hexponent
    right
    refine ⟨by omega, ?_⟩
    rw [if_neg (mt hsubnormal.mp hexponent)]
    congr 1
    · exact unpackSign_eq x
    · rw [toNat_implicit_append, hsignificand]
      exact congrArg (· + 2 ^ 52) hfraction
    · rw [hfield, hscale]
      rfl

/-! ## The order -/

def magnitude (x : Float) : Nat := bits x % 2 ^ 63

theorem magnitude_eq_scale (x : Float) :
    (magnitude x : Int) = (scale x + 1074) * 2 ^ 52 + significand x := by
  unfold magnitude
  rw [magnitude_eq]
  unfold scale significand
  split <;> omega

theorem scale_bound (x : Float) : -1074 ≤ scale x := by
  unfold scale
  split <;> omega

theorem significand_bound (x : Float) :
    significand x < 2 ^ 53 ∧ (-1074 < scale x → 2 ^ 52 ≤ significand x) := by
  have := fractionField_lt x
  unfold significand scale
  split <;> omega

theorem magnitude_eq_zero : magnitude x = 0 ↔ significand x = 0 := by
  have hsize := magnitude_eq_scale x
  have hscale := scale_bound x
  have hbound := (significand_bound x).2
  omega

/-- **Sizes are ordered by the scale first, and then by the significand.** -/
theorem compare_magnitude (x y : Float) :
    (Ord.compare (scale x) (scale y)).then (Ord.compare (significand x) (significand y)) =
      Ord.compare (magnitude x) (magnitude y) := by
  have hx := magnitude_eq_scale x
  have hy := magnitude_eq_scale y
  obtain ⟨hxsmall, hxlarge⟩ := significand_bound x
  obtain ⟨hysmall, hylarge⟩ := significand_bound y
  rcases lt_trichotomy (scale x) (scale y) with hscale | hscale | hscale
  · have := scale_bound x
    rw [compare_lt_iff_lt.mpr hscale, Ordering.lt_then, compare_lt_iff_lt.mpr (by omega)]
  · rw [compare_eq_iff_eq.mpr hscale, Ordering.eq_then]
    rcases lt_trichotomy (significand x) (significand y) with h | h | h
    · rw [compare_lt_iff_lt.mpr h, compare_lt_iff_lt.mpr (by omega)]
    · rw [compare_eq_iff_eq.mpr h, compare_eq_iff_eq.mpr (by omega)]
    · rw [compare_gt_iff_gt.mpr h, compare_gt_iff_gt.mpr (by omega)]
  · have := scale_bound y
    rw [compare_gt_iff_gt.mpr hscale, Ordering.gt_then, compare_gt_iff_gt.mpr (by omega)]

theorem orderKey_zero (h : significand x = 0) : orderKey x = 0 := by
  have hzero : (magnitude x : Int) = 0 := by rw [magnitude_eq_zero.mpr h]; rfl
  show (if isNegative x then -(magnitude x : Int) else magnitude x) = 0
  rw [hzero, Int.neg_zero, ite_self]

theorem orderKey_signed (h : 0 < significand x) :
    0 < magnitude x ∧ (sign x = .negative ∧ orderKey x = -(magnitude x : Int) ∨
      sign x = .positive ∧ orderKey x = magnitude x) := by
  refine ⟨Nat.pos_of_ne_zero (mt magnitude_eq_zero.mp (by omega)), ?_⟩
  unfold sign orderKey
  cases isNegative x with
  | true => exact .inl ⟨rfl, rfl⟩
  | false => exact .inr ⟨rfl, rfl⟩

theorem compare_neg_natCast (a b : Nat) :
    Ord.compare (-(a : Int)) (-(b : Int)) = Ord.compare b a := by
  have hneg : StrictAnti fun n : Nat => -(n : Int) :=
    fun _ _ h => Int.neg_lt_neg (Int.ofNat_lt.mpr h)
  rw [← cmp_eq_compare, ← cmp_eq_compare]
  exact hneg.cmp_map_eq a b

/-- **The comparison of the integers is that of the finite doubles.** -/
theorem compare_toModel (hx : isFinite x = true) (hy : isFinite y = true) :
    x.toModel.compare y.toModel = some (Binary64.compare x y) := by
  have hmagnitude := compare_magnitude x y
  unfold Float.Model.compare Binary64.compare
  rcases unpack_finite hx with ⟨hxzero, hx⟩ | ⟨hxpos, hx⟩
  · rw [hx, orderKey_zero hxzero]
    rcases unpack_finite hy with ⟨hyzero, hy⟩ | ⟨hypos, hy⟩
    · rw [hy, orderKey_zero hyzero]
      rfl
    · obtain ⟨hpos, ⟨hsign, hkey⟩ | ⟨hsign, hkey⟩⟩ := orderKey_signed hypos
      · rw [hy, hsign, hkey, compare_gt_iff_gt.mpr (by omega)]
        rfl
      · rw [hy, hsign, hkey, compare_lt_iff_lt.mpr (by omega)]
        rfl
  · obtain ⟨hxm, hxsign⟩ := orderKey_signed hxpos
    rw [hx]
    rcases unpack_finite hy with ⟨hyzero, hy⟩ | ⟨hypos, hy⟩
    · rw [hy, orderKey_zero hyzero]
      rcases hxsign with ⟨hsign, hkey⟩ | ⟨hsign, hkey⟩
      · rw [hsign, hkey, compare_lt_iff_lt.mpr (by omega)]
        rfl
      · rw [hsign, hkey, compare_gt_iff_gt.mpr (by omega)]
        rfl
    · obtain ⟨hym, hysign⟩ := orderKey_signed hypos
      rw [hy]
      rcases hxsign with ⟨hxsign, hxkey⟩ | ⟨hxsign, hxkey⟩ <;>
        rcases hysign with ⟨hysign, hykey⟩ | ⟨hysign, hykey⟩ <;>
        rw [hxsign, hysign, hxkey, hykey]
      · show some (Ordering.swap (Ordering.then _ _)) = _
        rw [hmagnitude, Nat.compare_swap, compare_neg_natCast]
      · rw [compare_lt_iff_lt.mpr (by omega)]
        rfl
      · rw [compare_gt_iff_gt.mpr (by omega)]
        rfl
      · show some (Ordering.then _ _) = _
        rw [hmagnitude, compare_of_strictMono Nat.strictMono_cast]

theorem lt_iff_compare (hx : isFinite x = true) (hy : isFinite y = true) :
    x < y ↔ Binary64.compare x y = .lt := by
  show decide (x.toModel < y.toModel) = true ↔ _
  rw [decide_eq_true_iff]
  show (x.toModel.compare y.toModel == some .lt) = true ↔ _
  rw [compare_toModel hx hy, beq_iff_eq, Option.some_inj]

theorem beq_iff_compare (hx : isFinite x = true) (hy : isFinite y = true) :
    (x == y) = true ↔ Binary64.compare x y = .eq := by
  show (x.toModel.compare y.toModel == some .eq) = true ↔ _
  rw [compare_toModel hx hy, beq_iff_eq, Option.some_inj]

end Binary64

end StoryGraph
