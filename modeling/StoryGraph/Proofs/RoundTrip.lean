import StoryGraph.Proofs.PrintedNumerals

/-!
# A double is told by its text

The shortest decimal of a double lies among the numbers that are rounded to the double, so reading
it gives the double back, and no two doubles have one text.

Main results: `Binary64.nearestBits_of_has`, `Binary64.parse?_text`.
-/

namespace StoryGraph.Binary64

variable {x : Float} {numerator denominator : Nat}

/-! ## Rounding -/

/-- The integer that a fraction is rounded to is told by being within a half of it. -/
theorem divideToEven_eq {a b q : Nat} (hb : 0 < b) (hlow : (q : ℚ) - 1 / 2 ≤ a / b)
    (hhigh : (a : ℚ) / b ≤ q + 1 / 2)
    (hends : q % 2 = 0 ∨ (q : ℚ) - 1 / 2 < a / b ∧ (a : ℚ) / b < q + 1 / 2) :
    divideToEven a b = q := by
  have hbq : (0 : ℚ) < b := Nat.cast_pos.mpr hb
  rw [le_div_iff₀ hbq] at hlow
  rw [div_le_iff₀ hbq] at hhigh
  rw [lt_div_iff₀ hbq, div_lt_iff₀ hbq] at hends
  have hdivision : b * (a / b) + a % b = a := Nat.div_add_mod a b
  have hrest : a % b < b := Nat.mod_lt a hb
  have hlow' : 2 * (b * q) ≤ 2 * a + b := by
    have : (2 * (b * q) : ℚ) ≤ 2 * a + b := by linarith
    exact_mod_cast this
  have hhigh' : 2 * a ≤ 2 * (b * q) + b := by
    have : (2 * a : ℚ) ≤ 2 * (b * q) + b := by linarith
    exact_mod_cast this
  have hends' : q % 2 = 0 ∨ 2 * (b * q) < 2 * a + b ∧ 2 * a < 2 * (b * q) + b := by
    refine hends.imp_right fun ⟨hl, hh⟩ => ⟨?_, ?_⟩
    · have : (2 * (b * q) : ℚ) < 2 * a + b := by linarith
      exact_mod_cast this
    · have : (2 * a : ℚ) < 2 * (b * q) + b := by linarith
      exact_mod_cast this
  -- The integer is the quotient or its successor.
  have hquotient : q = a / b ∨ q = a / b + 1 := by
    have hupper : q < a / b + 2 := by
      by_contra hlarge
      have := Nat.mul_le_mul_left b (not_lt.mp hlarge)
      rw [Nat.mul_add] at this
      omega
    have hlower : a / b < q + 1 := by
      by_contra hlarge
      have := Nat.mul_le_mul_left b (not_lt.mp hlarge)
      rw [Nat.mul_add] at this
      omega
    omega
  unfold divideToEven
  dsimp only
  rcases hquotient with hq | hq
  · rw [← hq] at hdivision ⊢
    split_ifs <;> omega
  · have hproduct : b * q = b * (a / b) + b := by rw [hq, Nat.mul_add, Nat.mul_one]
    split_ifs <;> omega

theorem twoPower_scale_add (x : Float) (k : ℤ) : (2 : ℚ) ^ (scale x + k) = 2 ^ k * 2 ^ scale x := by
  rw [zpow_add₀ two_ne_zero, mul_comm]

/-- What a double owns is not rounded on a coarser grid, since the significand has 53 digits at
most. -/
theorem gridExponent_le_of_has (hpos : 0 < significand x) (hn : 0 < numerator)
    (hd : 0 < denominator) (h : (interval x).Has (numerator / denominator)) :
    gridExponent numerator denominator ≤ scale x := by
  obtain ⟨-, hhigh, -⟩ := h.steps hpos
  obtain ⟨-, hgrid⟩ := gridExponent_spec hn hd
  have hscale := scale_bound x
  have hm : (significand x : ℚ) + 1 ≤ 2 ^ 53 := by exact_mod_cast (significand_bound x).1
  by_contra hlarge
  rcases hgrid with hgrid | hgrid
  · omega
  · have hv : (2 : ℚ) ^ (scale x + 53) ≤ numerator / denominator :=
      (zpow_le_zpow_right₀ one_le_two (by omega)).trans hgrid
    rw [twoPower_scale_add] at hv
    have hlt : (numerator : ℚ) / denominator < 2 ^ (53 : ℤ) * 2 ^ scale x := by
      refine hhigh.trans_lt (mul_lt_mul_of_pos_right ?_ (by positivity))
      rw [show (2 : ℚ) ^ (53 : ℤ) = 2 ^ 53 from rfl]
      linarith
    exact absurd hv (not_le.mpr hlt)

/-- A number that a double owns is rounded on the grid of the double, or, just below a power of
two, on the next finer one. -/
theorem gridExponent_of_has (hpos : 0 < significand x) (hn : 0 < numerator)
    (hd : 0 < denominator) (h : (interval x).Has (numerator / denominator)) :
    gridExponent numerator denominator = scale x ∨
      gridExponent numerator denominator = scale x - 1 ∧ significand x = 2 ^ 52 ∧
        (numerator : ℚ) / denominator < 2 ^ 52 * 2 ^ scale x := by
  refine (gridExponent_le_of_has hpos hn hd h).eq_or_lt.imp_right fun hlt => ?_
  obtain ⟨hlow, -, -⟩ := h.steps hpos
  obtain ⟨hbelow, -⟩ := gridExponent_spec hn hd
  obtain ⟨-, hnormal⟩ := significand_bound x
  have hreach := (reach_bounds x).2
  have hleast : -1074 ≤ gridExponent numerator denominator := le_max_right _ _
  generalize gridExponent numerator denominator = g at hbelow hlt hleast
  generalize (numerator : ℚ) / denominator = v at hlow hbelow
  have hstep : (0 : ℚ) < 2 ^ scale x := by positivity
  have hlow' : ((significand x : ℚ) - 1 / 2) * 2 ^ scale x ≤ v :=
    (mul_le_mul_of_nonneg_right (by linarith) hstep.le).trans hlow
  have hv : v < 2 ^ (52 : ℤ) * 2 ^ scale x := by
    rw [← twoPower_scale_add]
    exact hbelow.trans_le (zpow_le_zpow_right₀ one_le_two (by omega))
  have hpowerOfTwo : significand x = 2 ^ 52 := by
    by_contra hne
    have hlarge : (2 : ℚ) ^ 52 + 1 ≤ significand x := by
      exact_mod_cast (show 2 ^ 52 + 1 ≤ significand x by omega)
    have hlt := lt_of_mul_lt_mul_right (hlow'.trans_lt hv) hstep.le
    rw [show (2 : ℚ) ^ (52 : ℤ) = 2 ^ 52 from rfl] at hlt
    linarith
  refine ⟨?_, hpowerOfTwo, hv⟩
  by_contra hfar
  have hfiner : v < 2 ^ (51 : ℤ) * 2 ^ scale x := by
    rw [← twoPower_scale_add]
    exact hbelow.trans_le (zpow_le_zpow_right₀ one_le_two (by omega))
  have hlt := lt_of_mul_lt_mul_right (hlow'.trans_lt hfiner) hstep.le
  rw [hpowerOfTwo] at hlt
  norm_num at hlt

theorem magnitude_lt_infinityBits (hfinite : isFinite x = true) : magnitude x < infinityBits := by
  have hfield : exponentField x ≠ 2047 := bne_iff_ne.mp hfinite
  have hrange : exponentField x < 2 ^ 11 := Nat.mod_lt _ (by decide)
  have hfraction := fractionField_lt x
  unfold magnitude infinityBits
  rw [magnitude_eq]
  omega

/-- On the grid of a double, what the double owns is rounded to the significand. -/
theorem divideToEven_of_has (hpos : 0 < significand x) {v : ℚ} (h : (interval x).Has v) {a b : Nat}
    (hb : 0 < b) (hv : (a : ℚ) / b = v / 2 ^ scale x) : divideToEven a b = significand x := by
  have hstep : (0 : ℚ) < 2 ^ scale x := by positivity
  obtain ⟨hlow, hhigh, hends⟩ := h.steps hpos
  have hreach := (reach_bounds x).2
  rw [← le_div_iff₀ hstep, ← hv] at hlow
  rw [← div_le_iff₀ hstep, ← hv] at hhigh
  rw [← lt_div_iff₀ hstep, ← div_lt_iff₀ hstep, ← hv] at hends
  exact divideToEven_eq hb (by linarith) hhigh
    (hends.imp_right fun hstrict => ⟨by linarith [hstrict.1], hstrict.2⟩)

/-- On the next finer grid, what lies below a power of two and is owned by it is rounded to the
power, which is even there. -/
theorem divideToEven_of_has_powerOfTwo (hpower : significand x = 2 ^ 52) (hscale : scale x ≠ -1074)
    {v : ℚ} (h : (interval x).Has v) (hbelow : v < 2 ^ 52 * 2 ^ scale x) {a b : Nat} (hb : 0 < b)
    (hv : (a : ℚ) / b = v / 2 ^ (scale x - 1)) : divideToEven a b = 2 ^ 53 := by
  have hhalf : (0 : ℚ) < 2 ^ (scale x - 1) := by positivity
  have hdouble : (2 : ℚ) ^ scale x = 2 * 2 ^ (scale x - 1) := by
    rw [zpow_sub_one₀ two_ne_zero]
    ring
  obtain ⟨hlow, -, -⟩ := h.steps (by omega)
  rw [hpower, reach_powerOfTwo hpower hscale, hdouble] at hlow
  rw [hdouble] at hbelow
  have hlow' : (2 ^ 53 : ℚ) - 1 / 2 ≤ a / b := by
    rw [hv, le_div_iff₀ hhalf]
    refine le_of_eq_of_le ?_ hlow
    push_cast
    ring
  have hhigh' : (a : ℚ) / b < 2 ^ 53 := by
    rw [hv, div_lt_iff₀ hhalf]
    refine hbelow.trans_eq ?_
    ring
  refine divideToEven_eq hb (by exact_mod_cast hlow') ?_ (.inl rfl)
  push_cast
  linarith

/-- **What a double owns is rounded to it.** -/
theorem nearestBits_of_has (hfinite : isFinite x = true) (hpos : 0 < significand x)
    (hn : 0 < numerator) (hd : 0 < denominator)
    (h : (interval x).Has (numerator / denominator)) :
    nearestBits numerator denominator = magnitude x := by
  have hmagnitude := magnitude_eq_scale x
  have hscale := scale_bound x
  have hsmall := (magnitude_lt_infinityBits hfinite).le
  unfold nearestBits
  rw [if_neg (Nat.pos_iff_ne_zero.mp hn)]
  dsimp only
  obtain ⟨a, b, hb, hsteps, hmultiples, -⟩ :=
    exists_steps (gridExponent numerator denominator) numerator hd
  rw [hmultiples]
  rcases gridExponent_of_has hpos hn hd h with hgrid | ⟨hgrid, hpower, hbelow⟩
  · rw [hgrid] at hsteps ⊢
    rw [divideToEven_of_has hpos h hb hsteps,
      show (scale x + 1074).toNat * 2 ^ 52 + significand x = magnitude x by omega]
    exact Nat.min_eq_right hsmall
  · have hleast : -1074 ≤ gridExponent numerator denominator := le_max_right _ _
    rw [hgrid] at hsteps hleast ⊢
    rw [divideToEven_of_has_powerOfTwo hpower (by omega) h hbelow hb hsteps,
      show (scale x - 1 + 1074).toNat * 2 ^ 52 + 2 ^ 53 = magnitude x by omega]
    exact Nat.min_eq_right hsmall

/-! ## Reading back -/

theorem bits_eq_magnitude (x : Float) :
    bits x = magnitude x + if isNegative x = true then 2 ^ 63 else 0 := by
  have hword := bits_lt x
  rw [magnitude, isNegative_eq]
  simp only [decide_eq_true_eq]
  split <;> omega

theorem nearest_of_magnitude (hfinite : isFinite x = true)
    (h : nearestBits numerator denominator = magnitude x) :
    nearest (isNegative x) numerator denominator = x := by
  have hsmall : magnitude x < infinityBits := magnitude_lt_infinityBits hfinite
  apply eq_of_bits
  rw [bits_nearest (h ▸ hsmall), h, bits_eq_magnitude x]

theorem tenPower_le_least : (10 : ℚ) ^ (-400 : ℤ) ≤ 1 / 2 * 2 ^ (-1074 : ℤ) := by
  have hpower : (2 : ℚ) ^ 1075 ≤ 10 ^ 400 := by
    calc (2 : ℚ) ^ 1075 ≤ 2 ^ (3 * 400) := pow_le_pow_right₀ one_le_two (by decide)
      _ = 8 ^ 400 := by rw [pow_mul]; norm_num
      _ ≤ 10 ^ 400 := pow_le_pow_left₀ (by norm_num) (by norm_num) 400
  calc (10 : ℚ) ^ (-400 : ℤ) = (10 ^ 400)⁻¹ := zpow_neg_coe_of_pos 10 (by decide)
    _ ≤ (2 ^ 1075)⁻¹ := inv_anti₀ (by positivity) hpower
    _ = 1 / 2 * 2 ^ (-1074 : ℤ) := by
        rw [show (2 : ℚ) ^ (-1074 : ℤ) = (2 ^ 1074)⁻¹ from zpow_neg_coe_of_pos 2 (by decide),
          pow_succ, mul_inv, mul_comm, one_div]

theorem tenPower_le_of_has (hpos : 0 < significand x) {v : ℚ} (h : (interval x).Has v) :
    (10 : ℚ) ^ (-400 : ℤ) ≤ v := by
  obtain ⟨hlow, -, -⟩ := h.steps hpos
  have hone : (1 : ℚ) ≤ significand x := by exact_mod_cast hpos
  have hreach := (reach_bounds x).2
  calc (10 : ℚ) ^ (-400 : ℤ) ≤ 1 / 2 * 2 ^ (-1074 : ℤ) := tenPower_le_least
    _ ≤ 1 / 2 * 2 ^ scale x := by
        refine mul_le_mul_of_nonneg_left ?_ (by norm_num)
        exact zpow_le_zpow_right₀ one_le_two (scale_bound x)
    _ ≤ (significand x - reach x) * 2 ^ scale x :=
        mul_le_mul_of_nonneg_right (by linarith) (by positivity)
    _ ≤ v := hlow

/-- The leading digit of a decimal stands at the guard or above it, if the decimal does. -/
theorem guard_le {digits : Nat} {exponent : Int}
    (h : (10 : ℚ) ^ (-400 : ℤ) ≤ digits * 10 ^ exponent) :
    -400 ≤ exponent + (Nat.toDigits 10 digits).length := by
  have hlarge : (digits : ℚ) < 10 ^ (Nat.toDigits 10 digits).length := by
    exact_mod_cast (Nat.length_toDigits_le_iff (by decide) Nat.length_toDigits_pos).mp le_rfl
  have hpower : (10 : ℚ) ^ (-400 : ℤ) <
      10 ^ (((Nat.toDigits 10 digits).length : ℤ) + exponent) := by
    rw [zpow_add₀ (by norm_num), zpow_natCast]
    exact h.trans_lt (mul_lt_mul_of_pos_right hlarge (by positivity))
  have := (zpow_lt_zpow_iff_right₀ (by norm_num)).mp hpower
  omega

theorem digits_pos_of_has (hpos : 0 < significand x) {digits : Nat} {exponent : Int}
    (h : (interval x).Has (digits * 10 ^ exponent)) : 0 < digits := by
  rcases Nat.eq_zero_or_pos digits with rfl | hdigits
  · have htiny := tenPower_le_of_has hpos h
    rw [Nat.cast_zero, zero_mul] at htiny
    exact absurd htiny (not_le.mpr (by positivity))
  · exact hdigits

/-- **A decimal that a double owns is read as the double.** -/
theorem ofDecimal_of_has (hfinite : isFinite x = true) (hpos : 0 < significand x) {digits : Nat}
    {exponent : Int} (h : (interval x).Has (digits * 10 ^ exponent)) :
    ofDecimal (isNegative x) digits exponent = x := by
  have htiny := tenPower_le_of_has hpos h
  have hdigits := digits_pos_of_has hpos h
  have hguard := guard_le htiny
  have hleading := leading_le hdigits (h.lt_limit hfinite hpos)
  unfold ofDecimal
  dsimp only
  rw [if_neg (by
    rw [Bool.or_eq_true, decide_eq_true_eq, decide_eq_true_eq]
    omega), if_neg (by omega)]
  split
  · rename_i k
    refine nearest_of_magnitude hfinite (nearestBits_of_has hfinite hpos ?_ one_pos ?_)
    · exact Nat.mul_pos hdigits (Nat.pow_pos (by decide))
    · rw [Int.ofNat_eq_natCast, zpow_natCast] at h
      push_cast
      rwa [div_one]
  · rename_i k
    refine nearest_of_magnitude hfinite
      (nearestBits_of_has hfinite hpos hdigits (Nat.pow_pos (by decide)) ?_)
    rw [zpow_negSucc, ← div_eq_mul_inv] at h
    push_cast
    exact h

/-- **A double is read back from its text.** -/
theorem parse?_text (hfinite : isFinite x = true) :
    parse? (Layout.standard.text x) = some x := by
  obtain ⟨cs, digits, exponent, htext, hdenotes, hvalue⟩ := exists_denotes_text x
  have hsign : splitSign (Layout.standard.text x).toList = (isNegative x, cs) := by
    rw [htext]
    cases isNegative x with
    | true => rfl
    | false => exact hdenotes.splitSign_eq
  have hread : ofDecimal (isNegative x) digits exponent = x := by
    by_cases hzero : significand x = 0
    · rw [if_pos hzero] at hvalue
      have hdigits : digits = 0 := by
        have := (mul_eq_zero.mp hvalue).resolve_right (by positivity)
        exact_mod_cast this
      unfold ofDecimal
      dsimp only
      rw [hdigits, if_pos (by simp)]
      refine nearest_of_magnitude hfinite ?_
      rw [magnitude_eq_zero.mpr hzero]
      rfl
    · have hpos := Nat.pos_of_ne_zero hzero
      rw [if_neg hzero] at hvalue
      exact ofDecimal_of_has hfinite hpos (hvalue ▸ shortest_has hfinite hpos)
  unfold parse?
  rw [hsign]
  dsimp only
  rw [hdenotes, hread]
  rfl

end StoryGraph.Binary64
