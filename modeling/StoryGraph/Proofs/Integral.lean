import StoryGraph.Proofs.Exact

/-!
# Integral doubles

A double without a fraction is the double of the integer that it holds, as long as that integer has
no more than 53 binary digits. Only a negative zero loses its sign, and so nothing that equality of
doubles can tell.

Main statements: `Binary64.orderKey_ofInt_truncate`, `Binary64.beq_of_orderKey`,
`Value.toFloat_beq_of_ofFloat`.
-/

namespace StoryGraph.Binary64

open Float.Model UnpackedFloat

/-! ## Integral doubles -/

/-- A number that was moved up to 53 binary digits is told by what it became. -/
theorem normalised_of_shift {m s j : Nat} (h : m * 2 ^ j = s) (hlow : 2 ^ 52 ≤ s)
    (hhigh : s < 2 ^ 53) : m.log2 + j = 52 ∧ normalised m = s := by
  have hm : m ≠ 0 := by
    rintro rfl
    omega
  have hbelow : 2 ^ (m.log2 + j) ≤ s := by
    rw [← h, Nat.pow_add]
    exact Nat.mul_le_mul_right _ (Nat.log2_self_le hm)
  have habove : s < 2 ^ (m.log2 + 1 + j) := by
    rw [← h, Nat.pow_add _ _ j]
    exact Nat.mul_lt_mul_of_pos_right Nat.lt_log2_self (Nat.two_pow_pos j)
  have hlog : m.log2 + j = 52 := by
    have hupper := (Nat.pow_lt_pow_iff_right (by decide)).mp (Nat.lt_of_le_of_lt hbelow hhigh)
    have hlower := (Nat.pow_lt_pow_iff_right (by decide)).mp (Nat.lt_of_le_of_lt hlow habove)
    omega
  refine ⟨hlog, ?_⟩
  unfold normalised
  rw [← h, show 52 - m.log2 = j by omega]

theorem eq_zero_of_multiple {m j k : Nat} (h : m < 2 ^ j) (hjk : j ≤ k)
    (hmultiple : m % 2 ^ k = 0) : m = 0 := by
  rw [← Nat.mod_eq_of_lt (Nat.lt_of_lt_of_le h (Nat.pow_le_pow_right (by decide) hjk))]
  exact hmultiple

section

variable {x y : Float}

theorem magnitude_eq (x : Float) :
    bits x % 2 ^ 63 = exponentField x * 2 ^ 52 + fractionField x := by
  unfold exponentField fractionField
  omega

theorem fractionField_lt (x : Float) : fractionField x < 2 ^ 52 := Nat.mod_lt _ (by decide)

theorem wholePart_subnormal {m : Nat} (hexponent : exponentField x = 0)
    (hwhole : wholePart x = (m, true)) : m = 0 ∧ fractionField x = 0 := by
  have hscale : scale x = Int.negSucc 1073 := if_pos hexponent
  have hsignificand : significand x = fractionField x := if_pos hexponent
  unfold wholePart at hwhole
  rw [hscale, hsignificand] at hwhole
  obtain ⟨hm, hexact⟩ := Prod.mk.inj hwhole
  have hzero : fractionField x = 0 :=
    eq_zero_of_multiple (fractionField_lt x) (by decide) (eq_of_beq hexact)
  rw [hzero, Nat.zero_div] at hm
  exact ⟨hm.symm, hzero⟩

theorem wholePart_normal {m : Nat} (hexponent : exponentField x ≠ 0)
    (hwhole : wholePart x = (m, true)) (h : m < 2 ^ 53) :
    ∃ j : Nat, (exponentField x : Int) = 1075 - j ∧ m * 2 ^ j = fractionField x + 2 ^ 52 := by
  have hscale : scale x = (exponentField x : Int) - 1075 := if_neg hexponent
  have hsignificand : significand x = fractionField x + 2 ^ 52 := if_neg hexponent
  unfold wholePart at hwhole
  rw [hsignificand] at hwhole
  split at hwhole
  · rename_i k hk
    obtain ⟨hm, -⟩ := Prod.mk.inj hwhole
    -- Moved down at all, the integer would be too large.
    have hzero : k = 0 := by
      by_contra hne
      have htwo : 2 ^ 1 ≤ 2 ^ k := Nat.pow_le_pow_right (by decide) (by omega)
      have := Nat.mul_le_mul_left (fractionField x + 2 ^ 52) htwo
      omega
    subst hzero
    simp only [Int.ofNat_eq_natCast] at hk
    exact ⟨0, by omega, by omega⟩
  · rename_i k hk
    obtain ⟨hm, hexact⟩ := Prod.mk.inj hwhole
    refine ⟨k + 1, by omega, ?_⟩
    rw [← hm]
    exact Nat.div_mul_cancel (Nat.dvd_of_mod_eq_zero (eq_of_beq hexact))

theorem magnitude_of_wholePart {m : Nat} (hwhole : wholePart x = (m, true)) (h : m < 2 ^ 53) :
    bits x % 2 ^ 63 = nearestBits m 1 := by
  have hfraction := fractionField_lt x
  rw [magnitude_eq]
  by_cases hexponent : exponentField x = 0
  · obtain ⟨rfl, hzero⟩ := wholePart_subnormal hexponent hwhole
    rw [hexponent, hzero]
    rfl
  · obtain ⟨j, hj, hshift⟩ := wholePart_normal hexponent hwhole h
    obtain ⟨hlog, hnormalised⟩ := normalised_of_shift hshift (by omega) (by omega)
    have hpos : 0 < m := by
      rw [Nat.pos_iff_ne_zero]
      rintro rfl
      omega
    rw [nearestBits_exact hpos h, hnormalised]
    omega

/-- **An integral double is the double of its integer**, but for the sign of a zero. -/
theorem orderKey_ofInt_truncate (hintegral : isIntegral x = true)
    (h : (truncate x).natAbs < 2 ^ 53) : orderKey (ofInt (truncate x)) = orderKey x := by
  obtain ⟨m, hwhole⟩ : ∃ m, wholePart x = (m, true) :=
    ⟨(wholePart x).1, Prod.ext rfl (Bool.and_eq_true_iff.mp hintegral).2⟩
  have htruncate : truncate x = if isNegative x then -(m : Int) else m := by
    unfold truncate
    rw [hwhole]
  have habs : (truncate x).natAbs = m := by
    rw [htruncate]
    split <;> omega
  have hm : m < 2 ^ 53 := habs ▸ h
  have hmagnitude := magnitude_of_wholePart hwhole hm
  have hsmall : nearestBits m 1 < 2047 * 2 ^ 52 := nearestBits_lt (by omega)
  have hbits : bits (ofInt (truncate x)) % 2 ^ 63 = nearestBits m 1 := by
    rw [bits_ofInt h, habs]
    split <;> omega
  unfold orderKey
  rw [hbits, hmagnitude, isNegative_ofInt h]
  by_cases hzero : m = 0
  · subst hzero
    have : nearestBits 0 1 = 0 := rfl
    rw [this]
    simp
  · have hsign : decide (truncate x < 0) = isNegative x := by
      rw [htruncate]
      cases isNegative x with
      | true => exact decide_eq_true (by rw [if_pos rfl]; omega)
      | false => exact decide_eq_false (by rw [if_neg Bool.false_ne_true]; omega)
    rw [hsign]

/-! ## Equality of finite doubles -/

theorem eq_of_bits (h : bits x = bits y) : x = y := by
  obtain ⟨⟨first, _⟩⟩ := x
  obtain ⟨⟨second, _⟩⟩ := y
  have hbits : first = second := UInt64.toNat_inj.mp h
  subst hbits
  rfl

theorem bits_lt (x : Float) : bits x < 2 ^ 64 := x.toBits.toNat_lt

theorem isNegative_eq (x : Float) : isNegative x = decide (2 ^ 63 ≤ bits x) := by
  have hword := bits_lt x
  rw [isNegative, Bool.eq_iff_iff, beq_iff_eq, decide_eq_true_iff]
  omega

theorem eq_zero_iff : x = 0.0 ↔ bits x = 0 := by
  constructor
  · rintro rfl
    decide
  · intro h
    apply eq_of_bits
    rw [h]
    decide

theorem eq_negative_zero_iff : x = -0.0 ↔ bits x = 2 ^ 63 := by
  constructor
  · rintro rfl
    decide
  · intro h
    apply eq_of_bits
    rw [h]
    decide

theorem unpack_ne_notANumber (h : isFinite x = true) : x.toModel.unpack ≠ .notANumber := by
  have hexponent : @unpackExponent Format.binary64 x.toModel.toBits.toBitVec ≠ -1#11 := by
    intro heq
    apply bne_iff_ne.mp h
    have hfield := congrArg BitVec.toNat heq
    rw [toNat_unpackExponent] at hfield
    exact hfield
  intro hnan
  unfold Float.Model.unpack UnpackedFloat.unpack at hnan
  dsimp only at hnan
  rw [if_neg hexponent] at hnan
  split at hnan
  · split at hnan <;> exact nomatch hnan
  · exact nomatch hnan

theorem compare_self : ∀ {a : UnpackedFloat}, a ≠ .notANumber → a.compare a = some .eq
  | .notANumber, h => absurd rfl h
  | .infinity s, _ => by cases s <;> rfl
  | .zero _, _ => rfl
  | .finite s m e _, _ => by cases s <;> simp [UnpackedFloat.compare]

theorem beq_self (h : isFinite x = true) : (x == x) = true := by
  show (x.toModel.unpack.compare x.toModel.unpack == some .eq) = true
  rw [compare_self (unpack_ne_notANumber h)]
  rfl

theorem orderKey_eq (x : Float) :
    orderKey x = if bits x < 2 ^ 63 then (bits x : Int) else 2 ^ 63 - (bits x : Int) := by
  have hword := bits_lt x
  unfold orderKey
  dsimp only
  rw [isNegative_eq]
  simp only [decide_eq_true_eq]
  split <;> split <;> omega

/-- **Finite doubles at one place in the order are equal**, with the zeros at one place. -/
theorem beq_of_orderKey (hfinite : isFinite x = true) (h : orderKey x = orderKey y) :
    (x == y) = true := by
  have hx := bits_lt x
  have hy := bits_lt y
  rw [orderKey_eq, orderKey_eq] at h
  by_cases hbits : bits x = bits y
  · rw [← eq_of_bits hbits]
    exact beq_self hfinite
  · -- Other bits at one place are those of the two zeros.
    have hzeros : bits x = 0 ∧ bits y = 2 ^ 63 ∨ bits x = 2 ^ 63 ∧ bits y = 0 := by
      split at h <;> split at h <;> omega
    rcases hzeros with ⟨hx, hy⟩ | ⟨hx, hy⟩
    · rw [eq_zero_iff.mpr hx, eq_negative_zero_iff.mpr hy]
      decide
    · rw [eq_negative_zero_iff.mpr hx, eq_zero_iff.mpr hy]
      decide

end

end StoryGraph.Binary64

namespace StoryGraph.Value

/-- **The number that a finite double reads as equals it.** -/
theorem toFloat_beq_of_ofFloat {x : Float} {n : Number} (hfinite : Binary64.isFinite x = true)
    (h : ofFloat x = .number n) : (n.toFloat == x) = true := by
  unfold ofFloat at h
  split at h
  · rename_i hsmall
    obtain ⟨hintegral, hsmall⟩ := Bool.and_eq_true_iff.mp hsmall
    have hsmall := of_decide_eq_true hsmall
    cases h
    show (Binary64.ofInt (Binary64.truncate x) == x) = true
    apply Binary64.beq_of_orderKey
    · exact Binary64.isFinite_ofInt (by omega)
    · exact Binary64.orderKey_ofInt_truncate hintegral (by omega)
  · split at h
    · rename_i y hy
      cases h
      show (y.val == x) = true
      rw [FiniteDouble.val_of_ofFloat? hy]
      exact Binary64.beq_self hfinite
    · exact nomatch h

end StoryGraph.Value
