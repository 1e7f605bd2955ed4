import StoryGraph.Proofs.Finite
import StoryGraph.Number.Decimal

/-!
# Which numbers have a finite double

A fraction below the middle between the largest finite double and the next power of two is rounded
to a finite double.

Main definition: `Binary64.limit`. Main statements: `Binary64.isFinite_nearest`,
`Binary64.isFinite_ofDecimal`.
-/

namespace StoryGraph.Binary64

/-- The middle between the largest finite double and the next power of two. -/
def limit : ℚ := (2 ^ 53 - 1 / 2) * 2 ^ (971 : ℤ)

variable {numerator denominator : Nat} {exponent : Int}

/-! ## The grid around a fraction -/

/-- In steps of the grid the fraction has no more than 53 binary digits. -/
def fits (exponent : Int) (numerator denominator : Nat) : Bool :=
  match exponent with
  | .ofNat k => numerator / (denominator * 2 ^ k) < 2 ^ 53
  | .negSucc k => numerator * 2 ^ (k + 1) / denominator < 2 ^ 53

theorem exists_steps (exponent : Int) (numerator : Nat) (h : 0 < denominator) :
    ∃ a b : Nat, 0 < b ∧ (a : ℚ) / b = numerator / denominator / 2 ^ exponent ∧
      multiplesOf exponent numerator denominator = divideToEven a b ∧
      (fits exponent numerator denominator = true ↔ a < 2 ^ 53 * b) := by
  have hpositive : ∀ k, 0 < 2 ^ k := Nat.two_pow_pos
  cases exponent with
  | ofNat k =>
      have hb : 0 < denominator * 2 ^ k := Nat.mul_pos h (hpositive k)
      refine ⟨numerator, denominator * 2 ^ k, hb, ?_, rfl, ?_⟩
      · rw [Int.ofNat_eq_natCast, zpow_natCast, div_div]
        push_cast
        rfl
      · unfold fits
        rw [decide_eq_true_iff, Nat.div_lt_iff_lt_mul hb]
  | negSucc k =>
      refine ⟨numerator * 2 ^ (k + 1), denominator, h, ?_, rfl, ?_⟩
      · rw [zpow_negSucc, div_inv_eq_mul]
        push_cast
        ring
      · unfold fits
        rw [decide_eq_true_iff, Nat.div_lt_iff_lt_mul h]

theorem fits_iff (h : 0 < denominator) : fits exponent numerator denominator = true ↔
    (numerator : ℚ) / denominator < 2 ^ (exponent + 53) := by
  obtain ⟨a, b, hb, hsteps, -, hfits⟩ := exists_steps exponent numerator h
  have hb : (0 : ℚ) < b := Nat.cast_pos.mpr hb
  have hgrid : (0 : ℚ) < 2 ^ exponent := by positivity
  rw [hfits, zpow_add₀ two_ne_zero, ← div_lt_iff₀' hgrid, ← hsteps, div_lt_iff₀ hb]
  norm_cast

/-- A fraction is told up to a factor of four by the binary digits of its parts. -/
theorem log2_bounds (hnumerator : 0 < numerator) (hdenominator : 0 < denominator) :
    (2 : ℚ) ^ ((numerator.log2 : ℤ) - denominator.log2 - 1) < numerator / denominator ∧
      (numerator : ℚ) / denominator < 2 ^ ((numerator.log2 : ℤ) - denominator.log2 + 1) := by
  have hn : (2 : ℚ) ^ numerator.log2 ≤ numerator ∧ (numerator : ℚ) < 2 ^ (numerator.log2 + 1) :=
    ⟨by exact_mod_cast Nat.log2_self_le hnumerator.ne', by exact_mod_cast Nat.lt_log2_self⟩
  have hd : (2 : ℚ) ^ denominator.log2 ≤ denominator ∧
      (denominator : ℚ) < 2 ^ (denominator.log2 + 1) :=
    ⟨by exact_mod_cast Nat.log2_self_le hdenominator.ne', by exact_mod_cast Nat.lt_log2_self⟩
  have hpos : (0 : ℚ) < denominator := Nat.cast_pos.mpr hdenominator
  constructor
  · rw [lt_div_iff₀ hpos, sub_sub, zpow_sub₀ two_ne_zero, zpow_natCast, div_mul_eq_mul_div,
      div_lt_iff₀ (by positivity)]
    calc (2 : ℚ) ^ numerator.log2 * denominator
        < 2 ^ numerator.log2 * 2 ^ (denominator.log2 + 1) :=
          mul_lt_mul_of_pos_left hd.2 (by positivity)
      _ ≤ numerator * 2 ^ ((denominator.log2 : ℤ) + 1) := by
          rw [zpow_add_one₀ two_ne_zero, zpow_natCast, pow_succ]
          exact mul_le_mul_of_nonneg_right hn.1 (by positivity)
  · rw [div_lt_iff₀ hpos, sub_add_eq_add_sub, zpow_sub₀ two_ne_zero, zpow_natCast,
      div_mul_eq_mul_div, lt_div_iff₀ (by positivity)]
    calc (numerator : ℚ) * 2 ^ denominator.log2
        ≤ numerator * denominator := mul_le_mul_of_nonneg_left hd.1 (by positivity)
      _ < 2 ^ ((numerator.log2 : ℤ) + 1) * denominator := by
          rw [zpow_add_one₀ two_ne_zero, zpow_natCast, ← pow_succ]
          exact mul_lt_mul_of_pos_right hn.2 hpos

/-- **On its grid a fraction has 53 binary digits**, or fewer on the finest grid. -/
theorem gridExponent_spec (hnumerator : 0 < numerator) (hdenominator : 0 < denominator) :
    (numerator : ℚ) / denominator < 2 ^ (gridExponent numerator denominator + 53) ∧
      (gridExponent numerator denominator = -1074 ∨
        (2 : ℚ) ^ (gridExponent numerator denominator + 52) ≤ numerator / denominator) := by
  obtain ⟨hlow, hhigh⟩ := log2_bounds hnumerator hdenominator
  have hmono : ∀ {i j : ℤ}, i ≤ j → (2 : ℚ) ^ i ≤ 2 ^ j := zpow_le_zpow_right₀ one_le_two
  generalize hguess : (numerator.log2 : ℤ) - denominator.log2 - 53 = guess
  have hexponent : gridExponent numerator denominator =
      max (if fits guess numerator denominator then guess else guess + 1) (-1074) := by
    rw [← hguess]
    rfl
  rw [hexponent]
  by_cases hfits : fits guess numerator denominator = true
  · rw [if_pos hfits]
    refine ⟨lt_of_lt_of_le ((fits_iff hdenominator).mp hfits) (hmono (by omega)), ?_⟩
    rcases le_total guess (-1074) with h | h
    · exact .inl (max_eq_right h)
    · right
      rw [max_eq_left h]
      exact (hmono (by omega)).trans hlow.le
  · rw [if_neg hfits]
    refine ⟨lt_of_lt_of_le hhigh (hmono (by omega)), ?_⟩
    rcases le_total (guess + 1) (-1074) with h | h
    · exact .inl (max_eq_right h)
    · right
      rw [max_eq_left h]
      have hlarge := not_lt.mp (mt (fits_iff hdenominator).mpr hfits)
      exact (hmono (by omega)).trans hlarge

/-! ## Rounding -/

theorem divideToEven_lt {a b : Nat} (h : 2 * a + b < 2 ^ 54 * b) :
    divideToEven a b < 2 ^ 53 := by
  by_cases hquotient : a / b < 2 ^ 53 - 1
  · have := divideToEven_le a b
    omega
  · have hdivision := Nat.div_add_mod a b
    have hlarge : b * (2 ^ 53 - 1) ≤ b * (a / b) := Nat.mul_le_mul_left b (not_lt.mp hquotient)
    have hsmall : a / b < 2 ^ 53 := by
      refine Nat.div_lt_of_lt_mul ?_
      omega
    have hrest : 2 * (a % b) < b := by omega
    unfold divideToEven
    dsimp only
    rw [if_pos hrest]
    exact hsmall

theorem limit_lt : limit < 2 ^ (1024 : ℤ) := by
  have hpower : (2 : ℚ) ^ (1024 : ℤ) = 2 ^ 53 * 2 ^ (971 : ℤ) := by
    rw [show (1024 : ℤ) = 53 + 971 from rfl, zpow_add₀ two_ne_zero]
    rfl
  rw [hpower]
  unfold limit
  exact mul_lt_mul_of_pos_right (by norm_num) (by positivity)

/-- **The bits of the double nearest to a fraction below the limit are those of a finite one.** -/
theorem nearestBits_lt_infinityBits (hdenominator : 0 < denominator)
    (h : (numerator : ℚ) / denominator < limit) :
    nearestBits numerator denominator < infinityBits := by
  unfold nearestBits
  split
  · decide
  · rename_i hnumerator
    obtain ⟨hdigits, hgrid⟩ := gridExponent_spec (Nat.pos_of_ne_zero hnumerator) hdenominator
    have htop : gridExponent numerator denominator ≤ 971 := by
      rcases hgrid with hgrid | hgrid
      · omega
      · have hpower := (hgrid.trans_lt h).trans limit_lt
        have := (zpow_lt_zpow_iff_right₀ one_lt_two).mp hpower
        omega
    dsimp only
    generalize gridExponent numerator denominator = exponent at hdigits htop hgrid
    obtain ⟨a, b, hb, hsteps, hmultiples, hfits⟩ :=
      exists_steps exponent numerator hdenominator
    have hcount : a < 2 ^ 53 * b := hfits.mp ((fits_iff hdenominator).mpr hdigits)
    have hle : divideToEven a b ≤ 2 ^ 53 := by
      have := divideToEven_le a b
      have : a / b < 2 ^ 53 := (Nat.div_lt_iff_lt_mul hb).mpr hcount
      omega
    refine Nat.lt_of_le_of_lt (Nat.min_le_right _ _) ?_
    rw [hmultiples]
    unfold infinityBits
    rcases lt_or_eq_of_le htop with hlower | rfl
    · omega
    · -- On the topmost grid the carry would lead to infinity.
      have hbelow : 2 * a + b < 2 ^ 54 * b := by
        have hb : (0 : ℚ) < b := Nat.cast_pos.mpr hb
        have hratio : (a : ℚ) / b < 2 ^ 53 - 1 / 2 := by
          rw [hsteps, div_lt_iff₀ (by positivity)]
          exact h
        rw [div_lt_iff₀ hb] at hratio
        have hcast : (2 * a + b : ℚ) < 2 ^ 54 * b := by linarith
        exact_mod_cast hcast
      have := divideToEven_lt hbelow
      omega

/-- **A fraction below the limit has a finite double.** -/
theorem isFinite_nearest (negative : Bool) (hdenominator : 0 < denominator)
    (h : (numerator : ℚ) / denominator < limit) :
    isFinite (nearest negative numerator denominator) = true := by
  have hbits : nearestBits numerator denominator < 2047 * 2 ^ 52 :=
    nearestBits_lt_infinityBits hdenominator h
  have hword : ∀ k, k < 2 ^ 64 → (UInt64.ofNat k).toNat = k := fun _ => UInt64.toNat_ofNat_of_lt
  refine isFinite_ofBits ?_
  split
  · rw [hword _ (by omega)]
    omega
  · rw [hword _ (by omega)]
    omega

/-! ## Decimals -/

theorem limit_pos : 0 < limit := mul_pos (by norm_num) (by positivity)

theorem limit_lt_tenPower : limit < 10 ^ (400 : ℤ) := by
  refine limit_lt.trans ?_
  rw [show (1024 : ℤ) = (1024 : ℕ) from rfl, show (400 : ℤ) = (400 : ℕ) from rfl, zpow_natCast,
    zpow_natCast]
  calc (2 : ℚ) ^ 1024 ≤ 2 ^ (3 * 400) := pow_le_pow_right₀ one_le_two (by decide)
    _ = 8 ^ 400 := by rw [pow_mul]; norm_num
    _ < 10 ^ 400 := pow_lt_pow_left₀ (by norm_num) (by norm_num) (by decide)

theorem tenPower_le {n : Nat} (h : 0 < n) : 10 ^ ((Nat.toDigits 10 n).length - 1) ≤ n := by
  by_contra hlarge
  rcases Nat.eq_zero_or_pos ((Nat.toDigits 10 n).length - 1) with hone | hmore
  · rw [hone, Nat.pow_zero] at hlarge
    omega
  · have := (Nat.length_toDigits_le_iff (by decide) hmore).mpr (not_le.mp hlarge)
    omega

/-- The leading digit of a decimal below the limit stands far from the guard against large
powers. -/
theorem leading_le {digits : Nat} (hpos : 0 < digits)
    (h : (digits : ℚ) * 10 ^ exponent < limit) :
    exponent + (Nat.toDigits 10 digits).length ≤ 400 := by
  by_contra hfar
  have hlength := Nat.length_toDigits_pos (b := 10) (n := digits)
  have hdigits : (10 : ℚ) ^ ((Nat.toDigits 10 digits).length - 1) ≤ digits := by
    exact_mod_cast tenPower_le hpos
  have hpower : (10 : ℚ) ^ (400 : ℤ) ≤ digits * 10 ^ exponent := by
    calc (10 : ℚ) ^ (400 : ℤ)
        ≤ 10 ^ ((((Nat.toDigits 10 digits).length - 1 : ℕ) : ℤ) + exponent) :=
          zpow_le_zpow_right₀ (by norm_num) (by omega)
      _ = 10 ^ ((Nat.toDigits 10 digits).length - 1) * 10 ^ exponent := by
          rw [zpow_add₀ (by norm_num), zpow_natCast]
      _ ≤ digits * 10 ^ exponent := mul_le_mul_of_nonneg_right hdigits (by positivity)
  exact absurd (hpower.trans_lt h) (not_lt.mpr limit_lt_tenPower.le)

/-- **A decimal below the limit has a finite double.** -/
theorem isFinite_ofDecimal (negative : Bool) {digits : Nat}
    (h : (digits : ℚ) * 10 ^ exponent < limit) :
    isFinite (ofDecimal negative digits exponent) = true := by
  unfold ofDecimal
  dsimp only
  split
  · refine isFinite_nearest negative one_pos ?_
    rw [Nat.cast_zero, zero_div]
    exact limit_pos
  · rename_i hguard
    have hpos : 0 < digits := by
      rw [Bool.or_eq_true, decide_eq_true_eq, not_or] at hguard
      exact Nat.pos_of_ne_zero hguard.1
    have hleading := leading_le hpos h
    rw [if_neg (by omega)]
    split
    · refine isFinite_nearest negative one_pos ?_
      rw [Int.ofNat_eq_natCast, zpow_natCast] at h
      push_cast
      rwa [div_one]
    · refine isFinite_nearest negative (Nat.pow_pos (by decide)) ?_
      rw [zpow_negSucc, ← div_eq_mul_inv] at h
      push_cast
      exact h

end StoryGraph.Binary64
