import StoryGraph.Proofs.RoundTrip

/-!
# Printed numbers are numerals

The text of a number keeps the grammar of numerals, so it is always read as some number, if that is
in range. A double is written with a fraction or with an exponent, and so it is never read as an
integer.

Main definition: `Number.reading`. Main statements: `Json.Numeral.read?_numberText`,
`Number.reading_real`.
-/

namespace StoryGraph

def Number.reading (n : Number) : Option Number :=
  (Json.Numeral.read? (Json.numberText n).toList).getD none

namespace Json.Numeral

open Binary64 (exponent? head_of_exponent? takeWhile_isDigit_append pointed zeros Layout shortest
  stripZeros write_standard exponent?_written exponent?_nil
  isDigit_singleton_zero)

variable {whole fraction tail : List Char} {exponent : Int}

/-! ## Numerals from their parts -/

structure IsWhole (whole : List Char) : Prop where
  ne_nil : whole ≠ []
  digits : ∀ c ∈ whole, c.isDigit = true
  zero : whole.head? = some '0' → whole = ['0']

theorem isWhole_zero : IsWhole ['0'] where
  ne_nil := List.cons_ne_nil _ _
  digits := isDigit_singleton_zero
  zero _ := rfl

theorem IsWhole.append (h : IsWhole whole) (hzero : whole.head? ≠ some '0')
    (hdigits : ∀ c ∈ fraction, c.isDigit = true) : IsWhole (whole ++ fraction) where
  ne_nil := List.append_ne_nil_of_left_ne_nil h.ne_nil _
  digits := List.forall_mem_append.mpr ⟨h.digits, hdigits⟩
  zero hhead := by
    rw [List.head?_append_of_ne_nil _ h.ne_nil] at hhead
    exact absurd hhead hzero

theorem IsWhole.take (h : IsWhole whole) {places : Nat} (hplaces : 0 < places) :
    IsWhole (whole.take places) where
  ne_nil := by
    rw [Ne, List.take_eq_nil_iff, not_or]
    exact ⟨by omega, h.ne_nil⟩
  digits c hc := h.digits c (List.mem_of_mem_take hc)
  zero hhead := by
    rw [List.head?_take, if_neg (by omega)] at hhead
    rw [h.zero hhead, List.take_of_length_le hplaces]

theorem isWhole_toDigits {n : Nat} (h : 0 < n) : IsWhole (Nat.toDigits 10 n) where
  ne_nil := Nat.toDigits_ne_nil
  digits _ := isDigit_of_mem_toDigits
  zero hhead := absurd hhead (head?_toDigits h)

theorem parts?_append (hwhole : IsWhole whole) (htail : ∀ c ∈ tail.head?, c.isDigit = false)
    (negative : Bool) : parts? (if negative then '-' :: (whole ++ tail) else whole ++ tail) =
      (fractionPart? tail).bind fun split =>
        if split.2.isEmpty then some ⟨negative, whole, split.1, none⟩
        else (exponent? split.2).map fun exponent =>
          ⟨negative, whole, split.1, some exponent⟩ := by
  obtain ⟨htake, hdrop⟩ := takeWhile_isDigit_append hwhole.digits htail
  have hzero : (whole.isEmpty || (whole.head? == some '0' && whole.length != 1)) = false := by
    rw [List.isEmpty_eq_false_iff.mpr hwhole.ne_nil, Bool.false_or]
    by_cases hhead : whole.head? = some '0'
    · rw [hwhole.zero hhead]
      rfl
    · rw [beq_false_of_ne hhead, Bool.false_and]
  unfold parts?
  split
  rename_i sign digits hsplit
  have hsigned : (sign, digits) = (negative, whole ++ tail) := by
    rw [← hsplit]
    cases negative with
    | true => rfl
    | false =>
        obtain ⟨c, rest, rfl⟩ := List.exists_cons_of_ne_nil hwhole.ne_nil
        have hc := hwhole.digits c List.mem_cons_self
        split
        · rename_i heq
          exact absurd ((List.cons.inj heq).1 ▸ hc) (by decide)
        · rfl
  obtain ⟨rfl, rfl⟩ := Prod.mk.inj hsigned
  rw [htake, hdrop, if_neg (ne_true_of_eq_false hzero)]
  cases fractionPart? tail with
  | none => rfl
  | some split =>
      obtain ⟨fraction, rest⟩ := split
      cases rest with
      | nil => rfl
      | cons c cs =>
          show (exponent? (c :: cs)).bind _ = (exponent? (c :: cs)).map _
          cases exponent? (c :: cs) <;> rfl

def IsReal (cs : List Char) : Prop :=
  ∀ negative : Bool, ∃ parts, parts? (if negative then '-' :: cs else cs) = some parts ∧
    toInt? parts = none

theorem isReal_exponent (hwhole : IsWhole whole) (hne : tail ≠ [])
    (htail : exponent? tail = some exponent) : IsReal (whole ++ tail) := by
  intro negative
  have hhead := head_of_exponent? htail
  have hfraction : fractionPart? tail = some ([], tail) := by
    obtain ⟨c, rest, rfl⟩ := List.exists_cons_of_ne_nil hne
    unfold fractionPart?
    split
    · rename_i heq
      exact absurd (List.cons.inj heq).1 (hhead c rfl).2
    · rfl
  refine ⟨⟨negative, whole, [], some exponent⟩, ?_, ?_⟩
  · rw [parts?_append hwhole (fun c hc => (hhead c hc).1), hfraction, Option.bind_some,
      if_neg (mt List.isEmpty_iff.mp hne), htail, Option.map_some]
  · simp [toInt?]

theorem isReal_pointed (hwhole : IsWhole whole) (hfraction : ∀ c ∈ fraction, c.isDigit = true)
    (hne : fraction ≠ []) (htail : exponent? tail = some exponent) :
    IsReal (whole ++ '.' :: (fraction ++ tail)) := by
  intro negative
  have hhead := head_of_exponent? htail
  obtain ⟨htake, hdrop⟩ := takeWhile_isDigit_append hfraction fun c hc => (hhead c hc).1
  have hpoint : fractionPart? ('.' :: (fraction ++ tail)) = some (fraction, tail) := by
    show (if ((fraction ++ tail).takeWhile Char.isDigit).isEmpty then none else
      some ((fraction ++ tail).takeWhile Char.isDigit,
        (fraction ++ tail).dropWhile Char.isDigit)) = _
    rw [htake, hdrop, if_neg (mt List.isEmpty_iff.mp hne)]
  have hdigit : ∀ c ∈ ('.' :: (fraction ++ tail)).head?, c.isDigit = false := by
    intro c hc
    cases hc
    rfl
  rw [parts?_append hwhole hdigit, hpoint, Option.bind_some, htail]
  cases tail with
  | nil => exact ⟨_, rfl, by simp [toInt?, hne]⟩
  | cons c rest => exact ⟨_, rfl, by simp [toInt?]⟩

/-! ## Layouts -/

/-- Digits with a point after some of them, or with an exponent, or with both. -/
theorem isReal_pointed_append (hwhole : IsWhole whole) {places : Nat} (hplaces : 0 < places)
    (hlong : places < whole.length ∨ tail ≠ []) (htail : exponent? tail = some exponent) :
    IsReal ((pointed whole places).toList ++ tail) := by
  unfold pointed
  split
  · rename_i hshort
    rw [String.toList_ofList]
    exact isReal_exponent hwhole (hlong.resolve_left (by omega)) htail
  · rename_i hplace
    have hdrop : ∀ c ∈ whole.drop places, c.isDigit = true :=
      fun c hc => hwhole.digits c (List.mem_of_mem_drop hc)
    have hrest : whole.drop places ≠ [] := by
      rw [Ne, List.drop_eq_nil_iff]
      omega
    simpa [String.toList_append] using isReal_pointed (hwhole.take hplaces) hdrop hrest htail

/-- **However digits are set out**, the text is a numeral and not one of an integer. -/
theorem isReal_write {digits : Nat} (hpos : 0 < digits) (exponent : Int) :
    IsReal (Layout.standard.write (Nat.toDigits 10 digits) exponent).toList := by
  have hwhole := isWhole_toDigits hpos
  have hzero := head?_toDigits hpos
  generalize Nat.toDigits 10 digits = cs at hwhole hzero
  have hlength : 0 < cs.length := List.length_pos_iff.mpr hwhole.ne_nil
  have hzeros : ∀ count, ∀ c ∈ List.replicate count '0', c.isDigit = true :=
    fun _ c hc => (List.mem_replicate.mp hc).2 ▸ rfl
  rw [write_standard]
  dsimp only
  generalize hleading : exponent + cs.length - 1 = leading
  split
  · have hmark : ((if leading < 0 then "e-" else "e+") ++ toString leading.natAbs).toList ≠ [] := by
      split <;> simp [String.toList_append]
    have hreal := isReal_pointed_append hwhole one_pos (.inr hmark) (exponent?_written leading)
    rwa [← String.toList_append, ← String.append_assoc] at hreal
  · split
    · have hreal := isReal_pointed (hwhole.append hzero (hzeros exponent.toNat))
        isDigit_singleton_zero (List.cons_ne_nil _ _) exponent?_nil
      simpa [zeros, String.toList_append] using hreal
    · split
      · have hreal := isReal_pointed_append hwhole (Nat.succ_pos leading.toNat)
          (.inl (by omega)) exponent?_nil
        rwa [List.append_nil] at hreal
      · have hreal := isReal_pointed isWhole_zero
          (List.forall_mem_append.mpr ⟨hzeros (-leading - 1).toNat, hwhole.digits⟩)
          (List.append_ne_nil_of_right_ne_nil _ hwhole.ne_nil) exponent?_nil
        simpa [zeros, String.toList_append] using hreal

/-- **The text of a finite double is a numeral and not one of an integer.** -/
theorem isReal_text (x : FiniteDouble) :
    ∃ parts, parts? (numberText (.real x)).toList = some parts ∧ toInt? parts = none := by
  have hunsigned : IsReal (if Binary64.significand x.val = 0 then
      "0" ++ Layout.standard.integralTail
      else Layout.standard.write (Nat.toDigits 10 (stripZeros 20 (shortest x.val).digits).1)
        ((shortest x.val).exponent + (stripZeros 20 (shortest x.val).digits).2)).toList := by
    split
    · exact isReal_pointed isWhole_zero isDigit_singleton_zero (List.cons_ne_nil _ _) exponent?_nil
    · rename_i hzero
      have hpos := Nat.pos_of_ne_zero hzero
      have hdigits := Binary64.digits_pos_of_has hpos (Binary64.shortest_has x.isFinite hpos)
      rw [← Binary64.stripZeros_eq 20 (shortest x.val).digits] at hdigits
      exact isReal_write (Nat.pos_of_mul_pos_right hdigits) _
  obtain ⟨parts, hparts, hint⟩ := hunsigned (Binary64.isNegative x.val)
  refine ⟨parts, ?_, hint⟩
  rw [← hparts]
  show parts? (Layout.standard.text x.val).toList = _
  unfold Layout.text
  dsimp only
  rw [apply_ite String.toList, String.toList_append]
  rfl

theorem parts?_int (n : Int) : parts? (toString n).toList =
    some ⟨decide (n < 0), Nat.toDigits 10 n.natAbs, [], none⟩ := by
  have hsigned : (toString n).toList =
      if decide (n < 0) then '-' :: (Nat.toDigits 10 n.natAbs ++ [])
      else Nat.toDigits 10 n.natAbs ++ [] := by
    rw [Binary64.toList_toString_int, List.append_nil]
  have hwhole : IsWhole (Nat.toDigits 10 n.natAbs) := by
    rcases Nat.eq_zero_or_pos n.natAbs with hzero | hpos
    · rw [hzero]
      exact isWhole_zero
    · exact isWhole_toDigits hpos
  rw [hsigned, parts?_append hwhole (by simp)]
  rfl

/-! ## Numbers -/

/-- **The text of a number is read**, as far as grammar goes. -/
theorem read?_numberText (n : Number) : read? (numberText n).toList = some n.reading := by
  have hread : (read? (numberText n).toList).isSome = true := by
    unfold read?
    rw [Option.isSome_map]
    cases n with
    | int n => exact Option.isSome_iff_exists.mpr ⟨_, parts?_int n⟩
    | real x =>
        obtain ⟨parts, hparts, -⟩ := isReal_text x
        exact Option.isSome_iff_exists.mpr ⟨parts, hparts⟩
  obtain ⟨reading, hreading⟩ := Option.isSome_iff_exists.mp hread
  rw [Number.reading, hreading, Option.getD_some]

end Json.Numeral

namespace Number

theorem readsBack_int {n : Int} (hlow : -2 ^ 63 ≤ n) (hhigh : n < 2 ^ 64) :
    (int n).ReadsBack := by
  have hint : Json.Numeral.toInt? ⟨decide (n < 0), Nat.toDigits 10 n.natAbs, [], none⟩ =
      some n := by
    show (if decide (n < 0) = true then
        if (decide (0 < Decimal.digitsValue (Nat.toDigits 10 n.natAbs)) &&
          decide (Decimal.digitsValue (Nat.toDigits 10 n.natAbs) ≤ 2 ^ 63)) = true then _ else none
      else if Decimal.digitsValue (Nat.toDigits 10 n.natAbs) < 2 ^ 64 then _ else none) = _
    rw [Decimal.digitsValue_toDigits]
    simp only [decide_eq_true_eq, Bool.and_eq_true]
    split
    · rw [if_pos (by omega)]
      exact congrArg some (by omega)
    · rw [if_pos (by omega)]
      exact congrArg some (by omega)
  unfold ReadsBack Json.Numeral.read?
  show (Json.Numeral.parts? (toString n).toList).map _ = _
  rw [Json.Numeral.parts?_int, Option.map_some, hint]

theorem readsBack_iff {n : Number} : n.ReadsBack ↔ n.reading = some n := by
  unfold ReadsBack
  rw [Json.Numeral.read?_numberText, Option.some_inj]

/-- **A double is never read as an integer.** -/
theorem reading_real (x : FiniteDouble) :
    ∃ read : Option FiniteDouble, (real x).reading = read.map .real := by
  obtain ⟨parts, hparts, hint⟩ := Json.Numeral.isReal_text x
  refine ⟨(Json.Numeral.toFloat? parts).bind FiniteDouble.ofFloat?, ?_⟩
  unfold reading Json.Numeral.read?
  rw [hparts, Option.map_some, hint, Option.getD_some, Option.map_bind]
  rfl

end Number

end StoryGraph
