import StoryGraph.Number.Decimal
import StoryGraph.Proofs.FiniteRange
import StoryGraph.Proofs.NumericOrder

/-!
# Shortest decimals

The shortest decimal of a double lies in the interval of the double. The search for it succeeds,
because the grid of seventeen digits is finer than the lower part of the interval. So the decimal
is not too large to have a finite double.

Main definition: `Binary64.Interval.Has`. Main statements: `Binary64.shortest_has`,
`Binary64.shortest_lt_limit`.
-/

namespace StoryGraph.Binary64

variable {x : Float}

/-! ## Intervals -/

/-- A number lies in an interval, whose ends count if it is closed. -/
structure Interval.Has (i : Interval) (v : ℚ) : Prop where
  low : (i.low : ℚ) / i.denominator ≤ v
  high : v ≤ i.high / i.denominator
  ends : i.closed = true ∨ (i.low : ℚ) / i.denominator < v ∧ v < i.high / i.denominator

theorem Interval.admits_iff {i : Interval} {digits unit grain : Nat} (hi : 0 < i.denominator)
    (hgrain : 0 < grain) :
    i.admits digits unit grain = true ↔ i.Has ((digits * unit : ℚ) / grain) := by
  have hd : (0 : ℚ) < i.denominator := Nat.cast_pos.mpr hi
  have hg : (0 : ℚ) < grain := Nat.cast_pos.mpr hgrain
  have hlow : (i.low : ℚ) / i.denominator ≤ digits * unit / grain ↔
      i.low * grain ≤ digits * unit * i.denominator := by
    rw [div_le_div_iff₀ hd hg]
    norm_cast
  have hhigh : (digits * unit : ℚ) / grain ≤ i.high / i.denominator ↔
      digits * unit * i.denominator ≤ i.high * grain := by
    rw [div_le_div_iff₀ hg hd]
    norm_cast
  have hlow' : (i.low : ℚ) / i.denominator < digits * unit / grain ↔
      i.low * grain < digits * unit * i.denominator := by
    rw [div_lt_div_iff₀ hd hg]
    norm_cast
  have hhigh' : (digits * unit : ℚ) / grain < i.high / i.denominator ↔
      digits * unit * i.denominator < i.high * grain := by
    rw [div_lt_div_iff₀ hg hd]
    norm_cast
  unfold Interval.admits
  dsimp only
  split
  · rename_i hclosed
    rw [Bool.and_eq_true, decide_eq_true_eq, decide_eq_true_eq, ← hlow, ← hhigh]
    exact ⟨fun h => ⟨h.1, h.2, .inl hclosed⟩, fun h => ⟨h.low, h.high⟩⟩
  · rename_i hopen
    rw [Bool.and_eq_true, decide_eq_true_eq, decide_eq_true_eq, ← hlow', ← hhigh']
    exact ⟨fun h => ⟨h.1.le, h.2.le, .inr h⟩, fun h => h.ends.resolve_left hopen⟩

/-- How far a double reaches down, in steps of its scale: half a step, or half the smaller step
below a power of two. -/
def reach (x : Float) : ℚ := if fractionField x = 0 ∧ 1 < exponentField x then 1 / 4 else 1 / 2

theorem interval_steps (hpos : 0 < significand x) :
    0 < (interval x).denominator ∧
    ((interval x).low : ℚ) / (interval x).denominator =
      (significand x - reach x) * 2 ^ scale x ∧
    ((interval x).middle : ℚ) / (interval x).denominator = significand x * 2 ^ scale x ∧
    ((interval x).high : ℚ) / (interval x).denominator =
      (significand x + 1 / 2) * 2 ^ scale x := by
  have hscale : (2 : ℚ) ^ scale x = 4 * 2 ^ (scale x - 2) := by
    rw [zpow_sub₀ two_ne_zero]
    norm_num
    ring
  unfold interval
  dsimp only
  generalize hbelow : (if fractionField x = 0 ∧ 1 < exponentField x then 1 else 2 : Nat) = below
  obtain ⟨hle, hreach⟩ : below ≤ 2 ∧ (below : ℚ) = 4 * reach x := by
    rw [← hbelow]
    unfold reach
    split <;> norm_num
  have hlow : ((4 * significand x - below : Nat) : ℚ) = 4 * (significand x - reach x) := by
    rw [Nat.cast_sub (by omega), hreach]
    push_cast
    ring
  rw [hscale]
  cases scale x - 2 with
  | ofNat k =>
      refine ⟨one_pos, ?_, ?_, ?_⟩ <;> dsimp only <;> rw [Int.ofNat_eq_natCast, zpow_natCast]
      · rw [Nat.cast_mul, hlow]
        push_cast
        ring
      · push_cast
        ring
      · push_cast
        ring
  | negSucc k =>
      refine ⟨Nat.two_pow_pos _, ?_, ?_, ?_⟩ <;> dsimp only <;> rw [zpow_negSucc]
      · rw [hlow]
        push_cast
        ring
      · push_cast
        ring
      · push_cast
        ring

theorem reach_bounds (x : Float) : 1 / 4 ≤ reach x ∧ reach x ≤ 1 / 2 := by
  unfold reach
  split <;> norm_num

theorem reach_powerOfTwo (h : significand x = 2 ^ 52) (hscale : scale x ≠ -1074) :
    reach x = 1 / 4 := by
  have hfraction := fractionField_lt x
  have hexponent : exponentField x ≠ 0 := by
    intro hzero
    rw [significand, if_pos hzero] at h
    omega
  unfold reach
  rw [significand, if_neg hexponent] at h
  rw [scale, if_neg hexponent] at hscale
  exact if_pos ⟨by omega, by omega⟩

theorem interval_closed (x : Float) : (interval x).closed = (significand x % 2 == 0) := by
  unfold interval
  dsimp only
  split <;> rfl

theorem Interval.Has.steps {v : ℚ} (hpos : 0 < significand x) (h : (interval x).Has v) :
    (significand x - reach x) * 2 ^ scale x ≤ v ∧ v ≤ (significand x + 1 / 2) * 2 ^ scale x ∧
      (significand x % 2 = 0 ∨ (significand x - reach x) * 2 ^ scale x < v ∧
        v < (significand x + 1 / 2) * 2 ^ scale x) := by
  obtain ⟨-, hlow, -, hhigh⟩ := interval_steps hpos
  have hclosed := interval_closed x
  rw [← hlow, ← hhigh]
  refine ⟨h.low, h.high, h.ends.imp_left fun hends => ?_⟩
  rw [hclosed] at hends
  exact eq_of_beq hends

theorem significand_scale_le {x : Float} (h : isFinite x = true) :
    significand x < 2 ^ 53 ∧ scale x ≤ 971 := by
  have hfraction : fractionField x < 2 ^ 52 := Nat.mod_lt _ (by decide)
  have hfield : exponentField x < 2048 := Nat.mod_lt _ (by decide)
  have hne : exponentField x ≠ 2047 := bne_iff_ne.mp h
  unfold significand scale
  split <;> omega

/-- **What a finite double owns is below the limit.** -/
theorem Interval.Has.lt_limit {v : ℚ} (hfinite : isFinite x = true) (hpos : 0 < significand x)
    (h : (interval x).Has v) : v < limit := by
  obtain ⟨hsignificand, hscale⟩ := significand_scale_le hfinite
  obtain ⟨-, hhigh, hends⟩ := h.steps hpos
  have hstep : ((significand x : ℚ) + 1 / 2) * 2 ^ scale x ≤
      (significand x + 1 / 2) * 2 ^ (971 : ℤ) :=
    mul_le_mul_of_nonneg_left (zpow_le_zpow_right₀ one_le_two hscale) (by positivity)
  rcases hends with heven | ⟨-, hlt⟩
  · -- The end itself counts only if the significand is even, and then it is not the largest one.
    have hstrict : (significand x : ℚ) + 1 / 2 < 2 ^ 53 - 1 / 2 := by
      have : (significand x : ℚ) + 2 ≤ 2 ^ 53 := by
        exact_mod_cast (show significand x + 2 ≤ 2 ^ 53 by omega)
      linarith
    exact (hhigh.trans hstep).trans_lt (mul_lt_mul_of_pos_right hstrict (by positivity))
  · have htop : (significand x : ℚ) + 1 / 2 ≤ 2 ^ 53 - 1 / 2 := by
      have : (significand x : ℚ) + 1 ≤ 2 ^ 53 := by exact_mod_cast hsignificand
      linarith
    exact (hlt.trans_le hstep).trans_le (mul_le_mul_of_nonneg_right htop (by positivity))

/-! ## Grids -/

theorem divideToEven_cases (a b : Nat) :
    divideToEven a b = a / b ∨ divideToEven a b = a / b + 1 := by
  unfold divideToEven
  dsimp only
  split_ifs <;> omega

def Interval.choice? (i : Interval) (unit grain : Nat) : Option Nat :=
  let whole := i.middle * grain / (unit * i.denominator)
  let rest := i.middle * grain % (unit * i.denominator)
  let lower := i.admits whole unit grain
  let upper := i.admits (whole + 1) unit grain
  if lower && upper then some (divideToEven (i.middle * grain) (unit * i.denominator))
  else if lower then some whole
  else if upper && rest != 0 then some (whole + 1)
  else none

theorem admits_of_choice? {i : Interval} {digits unit grain : Nat}
    (h : i.choice? unit grain = some digits) : i.admits digits unit grain = true := by
  unfold Interval.choice? at h
  dsimp only at h
  split at h
  · rename_i hboth
    obtain ⟨hlower, hupper⟩ := Bool.and_eq_true_iff.mp hboth
    rw [← Option.some_inj.mp h]
    rcases divideToEven_cases (i.middle * grain) (unit * i.denominator) with heq | heq
    · rwa [heq]
    · rwa [heq]
  · split at h
    · rename_i hlower
      rwa [← Option.some_inj.mp h]
    · split at h
      · rename_i hupper
        rw [← Option.some_inj.mp h]
        exact (Bool.and_eq_true_iff.mp hupper).1
      · exact nomatch h

theorem admits_of_gridPoint? {i : Interval} {exponent : Int} {digits : Nat}
    (h : i.gridPoint? exponent = some digits) :
    ∃ unit grain : Nat, 0 < grain ∧ (unit : ℚ) / grain = 10 ^ exponent ∧
      i.admits digits unit grain = true := by
  cases exponent with
  | ofNat k => exact ⟨10 ^ k, 1, one_pos, by simp, admits_of_choice? h⟩
  | negSucc k =>
      have hgrain : 0 < 10 ^ (k + 1) := Nat.pow_pos (by decide)
      exact ⟨1, 10 ^ (k + 1), hgrain, by simp [zpow_negSucc], admits_of_choice? h⟩

namespace Interval

variable {i : Interval} {unit grain : Nat} {exponent : Int}

/-- A grid that is finer than the lower part of an interval has a point in it. -/
theorem choice?_isSome (hd : 0 < i.denominator) (hunit : 0 < unit) (hgrain : 0 < grain)
    (hlow : (i.low : ℚ) / i.denominator + unit / grain ≤ i.middle / i.denominator)
    (hhigh : (i.middle : ℚ) / i.denominator < i.high / i.denominator) :
    (i.choice? unit grain).isSome = true := by
  have hdq : (0 : ℚ) < i.denominator := Nat.cast_pos.mpr hd
  have hgq : (0 : ℚ) < grain := Nat.cast_pos.mpr hgrain
  have hcell : 0 < unit * i.denominator := Nat.mul_pos hunit hd
  -- The point below the middle lies less than one step below it.
  have hbelow : (i.middle * grain / (unit * i.denominator) : Nat) * (unit * i.denominator) ≤
      i.middle * grain := Nat.div_mul_le_self _ _
  have habove : i.middle * grain <
      (i.middle * grain / (unit * i.denominator) + 1) * (unit * i.denominator) :=
    Nat.lt_mul_of_div_lt (Nat.lt_succ_self _) hcell
  unfold choice?
  dsimp only
  generalize i.middle * grain / (unit * i.denominator) = whole at hbelow habove ⊢
  have hle : (whole * unit : ℚ) / grain ≤ i.middle / i.denominator := by
    rw [div_le_div_iff₀ hgq hdq, mul_assoc]
    exact_mod_cast hbelow
  have hlt : (i.middle : ℚ) / i.denominator < whole * unit / grain + unit / grain := by
    rw [← add_div, div_lt_div_iff₀ hdq hgq]
    have : (i.middle * grain : ℚ) < (whole + 1) * (unit * i.denominator) := by
      exact_mod_cast habove
    linarith
  have hlower : i.admits whole unit grain = true :=
    (admits_iff hd hgrain).mpr ⟨by linarith, by linarith, .inr ⟨by linarith, by linarith⟩⟩
  rw [hlower]
  cases i.admits (whole + 1) unit grain <;> rfl

theorem gridPoint?_isSome (hd : 0 < i.denominator)
    (hlow : (i.low : ℚ) / i.denominator + 10 ^ exponent ≤ i.middle / i.denominator)
    (hhigh : (i.middle : ℚ) / i.denominator < i.high / i.denominator) :
    (i.gridPoint? exponent).isSome = true := by
  cases exponent with
  | ofNat k =>
      refine choice?_isSome hd (Nat.pow_pos (n := k) (by decide)) one_pos ?_ hhigh
      simpa using hlow
  | negSucc k =>
      refine choice?_isSome hd one_pos (Nat.pow_pos (n := k + 1) (by decide)) ?_ hhigh
      simpa [zpow_negSucc] using hlow

theorem gridPoint?_search_of_isSome {leading : Int} : ∀ {count digitsSoFar : Nat},
    (i.gridPoint? (leading - (digitsSoFar + count : Nat))).isSome = true →
      i.gridPoint? (i.search leading count digitsSoFar).exponent =
        some (i.search leading count digitsSoFar).digits
  | 0, digitsSoFar, h => by
      obtain ⟨digits, hpoint⟩ := Option.isSome_iff_exists.mp h
      unfold search
      rw [Nat.add_zero] at hpoint
      rw [hpoint]
      rfl
  | count + 1, digitsSoFar, h => by
      unfold search
      cases hpoint : i.gridPoint? (leading - digitsSoFar) with
      | some digits => exact hpoint
      | none =>
          refine gridPoint?_search_of_isSome ?_
          rwa [Nat.add_right_comm, Nat.add_assoc]

/-- The logarithm of two is a little more than 78913 parts of 2¹⁸, so in this range a power of ten
that is estimated by it is never too large. -/
theorem tenPower_le_twoPower : ∀ n < 1100, 10 ^ (n * 78913 / 2 ^ 18) ≤ 2 ^ n := by
  decide +kernel

theorem twoPower_le_tenPower : ∀ n < 1100, 2 ^ n ≤ 10 ^ ((n * 78913 + (2 ^ 18 - 1)) / 2 ^ 18) := by
  decide +kernel

theorem tenPower_le_of_estimate {binary : Int} (hlow : -1100 < binary) (hhigh : binary < 1100) :
    (10 : ℚ) ^ (binary * 78913 / (2 ^ 18 : Nat)) ≤ 2 ^ binary := by
  obtain ⟨n, rfl | rfl⟩ := binary.eq_nat_or_neg
  · have hguess : (n : Int) * 78913 / (2 ^ 18 : Nat) = (n * 78913 / 2 ^ 18 : Nat) := by omega
    rw [hguess, zpow_natCast, zpow_natCast]
    exact_mod_cast tenPower_le_twoPower n (by omega)
  · have hguess : -(n : Int) * 78913 / (2 ^ 18 : Nat) =
        -((n * 78913 + (2 ^ 18 - 1)) / 2 ^ 18 : Nat) := by omega
    rw [hguess, zpow_neg, zpow_neg, zpow_natCast, zpow_natCast]
    refine inv_anti₀ (by positivity) ?_
    exact_mod_cast twoPower_le_tenPower n (by omega)

/-- The leading digit stands where it is estimated to stand, or further down. -/
theorem tenPower_leadingExponent_le (hm : 0 < i.middle) (hd : 0 < i.denominator)
    (hlow : (2 : ℚ) ^ (-1090 : ℤ) ≤ i.middle / i.denominator)
    (hhigh : (i.middle : ℚ) / i.denominator ≤ 2 ^ (1090 : ℤ)) :
    (10 : ℚ) ^ i.leadingExponent ≤ i.middle / i.denominator := by
  have hdq : (0 : ℚ) < i.denominator := Nat.cast_pos.mpr hd
  obtain ⟨hbelow, habove⟩ := log2_bounds hm hd
  unfold leadingExponent
  dsimp only
  split
  · rename_i hreaches
    generalize ((i.middle.log2 : Int) - i.denominator.log2 - 1) * 78913 / (2 ^ 18 : Nat) + 1 = e
      at hreaches ⊢
    cases e with
    | ofNat k =>
        rw [Int.ofNat_eq_natCast, zpow_natCast, le_div_iff₀ hdq]
        exact_mod_cast of_decide_eq_true hreaches
    | negSucc k =>
        rw [zpow_negSucc, inv_le_iff_one_le_mul₀' (by positivity), ← mul_div_assoc,
          one_le_div hdq, mul_comm]
        exact_mod_cast of_decide_eq_true hreaches
  · refine (tenPower_le_of_estimate ?_ ?_).trans hbelow.le
    · have := (zpow_lt_zpow_iff_right₀ one_lt_two).mp (hlow.trans_lt habove)
      omega
    · have := (zpow_lt_zpow_iff_right₀ one_lt_two).mp (hbelow.trans_le hhigh)
      omega

end Interval

/-! ## The shortest decimal -/

theorem tenPower_leadingExponent_le_value (hfinite : isFinite x = true) (hpos : 0 < significand x) :
    (10 : ℚ) ^ (interval x).leadingExponent ≤ significand x * 2 ^ scale x := by
  obtain ⟨hd, -, hmiddle, -⟩ := interval_steps hpos
  obtain ⟨hsignificand, hscale⟩ := significand_scale_le hfinite
  have hleast := scale_bound x
  have hstep : (0 : ℚ) < 2 ^ scale x := by positivity
  have hone : (1 : ℚ) ≤ significand x := by exact_mod_cast hpos
  have htop : (significand x : ℚ) ≤ 2 ^ 53 := by exact_mod_cast hsignificand.le
  have hm : 0 < (interval x).middle := by
    have hq : (0 : ℚ) < (interval x).middle / (interval x).denominator := by
      rw [hmiddle]
      positivity
    exact_mod_cast (div_pos_iff_of_pos_right (Nat.cast_pos.mpr hd)).mp hq
  rw [← hmiddle]
  refine Interval.tenPower_leadingExponent_le hm hd ?_ ?_
  · rw [hmiddle]
    calc (2 : ℚ) ^ (-1090 : ℤ) ≤ 2 ^ scale x := zpow_le_zpow_right₀ one_le_two (by omega)
      _ ≤ significand x * 2 ^ scale x := le_mul_of_one_le_left hstep.le hone
  · rw [hmiddle]
    calc (significand x : ℚ) * 2 ^ scale x ≤ 2 ^ (53 : ℤ) * 2 ^ scale x :=
          mul_le_mul_of_nonneg_right htop hstep.le
      _ = 2 ^ (53 + scale x) := (zpow_add₀ two_ne_zero _ _).symm
      _ ≤ 2 ^ (1090 : ℤ) := zpow_le_zpow_right₀ one_le_two (by omega)

/-- A unit of the grid of seventeen digits is smaller than the lower part of the interval. -/
theorem tenPower_le_reach (hfinite : isFinite x = true) (hpos : 0 < significand x) :
    (10 : ℚ) ^ ((interval x).leadingExponent - (0 + 17 : Nat)) ≤ reach x * 2 ^ scale x := by
  have hstep : (0 : ℚ) < 2 ^ scale x := by positivity
  have htop : (significand x : ℚ) ≤ 2 ^ 53 := by
    exact_mod_cast (significand_scale_le hfinite).1.le
  rw [zpow_sub₀ (by norm_num), div_le_iff₀ (by positivity)]
  calc (10 : ℚ) ^ (interval x).leadingExponent ≤ significand x * 2 ^ scale x :=
        tenPower_leadingExponent_le_value hfinite hpos
    _ ≤ 2 ^ 53 * 2 ^ scale x := mul_le_mul_of_nonneg_right htop hstep.le
    _ ≤ 1 / 4 * 10 ^ 17 * 2 ^ scale x := mul_le_mul_of_nonneg_right (by norm_num) hstep.le
    _ ≤ reach x * 10 ^ 17 * 2 ^ scale x := by
        refine mul_le_mul_of_nonneg_right ?_ hstep.le
        exact mul_le_mul_of_nonneg_right (reach_bounds x).1 (by norm_num)
    _ = reach x * 2 ^ scale x * 10 ^ ((0 + 17 : Nat) : ℤ) := by
        rw [zpow_natCast]
        ring

/-- **The shortest decimal of a double lies in its interval.** -/
theorem shortest_has (hfinite : isFinite x = true) (hpos : 0 < significand x) :
    (interval x).Has ((shortest x).digits * 10 ^ (shortest x).exponent) := by
  obtain ⟨hd, hlow, hmiddle, hhigh⟩ := interval_steps hpos
  have hfine := tenPower_le_reach hfinite hpos
  have hsome : ((interval x).gridPoint?
      ((interval x).leadingExponent - (0 + 17 : Nat))).isSome = true := by
    refine Interval.gridPoint?_isSome hd ?_ ?_
    · rw [hlow, hmiddle]
      linarith
    · rw [hmiddle, hhigh]
      exact mul_lt_mul_of_pos_right (by linarith) (by positivity)
  obtain ⟨unit, grain, hgrain, hpower, hadmits⟩ :=
    admits_of_gridPoint? (Interval.gridPoint?_search_of_isSome hsome)
  have hhas := (Interval.admits_iff hd hgrain).mp hadmits
  rwa [mul_div_assoc, hpower] at hhas

/-- **The shortest decimal of a finite double is below the limit.** -/
theorem shortest_lt_limit (hfinite : isFinite x = true) (hpos : 0 < significand x) :
    ((shortest x).digits : ℚ) * 10 ^ (shortest x).exponent < limit :=
  (shortest_has hfinite hpos).lt_limit hfinite hpos

end StoryGraph.Binary64
