import StoryGraph.Proofs.FoldedNumerals
import StoryGraph.Proofs.Normal
import StoryGraph.Proofs.Numerals
import StoryGraph.Proofs.ShortestDecimals

/-!
# The text of a number is a numeral

A finite double is written as the digits of its shortest decimal, set out in one of several ways.
Each of them is read as the same decimal, and that is small enough to have a finite double. So a
value that is no list reads as a number exactly if its text does.

Main definition: `Binary64.Denotes`. Main statement: `Value.isSome_number?`.
-/

namespace StoryGraph

namespace Decimal

/-! ## Digits -/

theorem digitsValue_append_zeros (digits : List Char) (count : Nat) :
    digitsValue (digits ++ List.replicate count '0') = digitsValue digits * 10 ^ count := by
  unfold digitsValue
  rw [List.foldl_append]
  generalize digits.foldl _ 0 = value
  induction count generalizing value with
  | zero => rw [Nat.pow_zero, Nat.mul_one]; rfl
  | succ count ih =>
      rw [List.replicate_succ, List.foldl_cons, ih, Nat.pow_succ']
      show (10 * value + 0) * _ = _
      rw [Nat.add_zero, Nat.mul_left_comm, Nat.mul_assoc]

theorem digitsValue_zeros_append (digits : List Char) (count : Nat) :
    digitsValue (List.replicate count '0' ++ digits) = digitsValue digits := by
  unfold digitsValue
  rw [List.foldl_append]
  congr 1
  induction count with
  | zero => rfl
  | succ count ih => exact ih

end Decimal

open Decimal (digitsValue digitsValue_toDigits digitsValue_append_zeros digitsValue_zeros_append)

namespace Binary64

/-! ## Texts that denote a decimal -/

def Denotes (cs : List Char) (digits : Nat) (exponent : Int) : Prop :=
  ∀ negative, parseUnsigned? negative cs = some (ofDecimal negative digits exponent)

variable {whole fraction tail cs : List Char} {exponent : Int}

theorem takeWhile_isDigit_append (hwhole : ∀ c ∈ whole, c.isDigit = true)
    (htail : ∀ c ∈ tail.head?, c.isDigit = false) :
    (whole ++ tail).takeWhile Char.isDigit = whole ∧
      (whole ++ tail).dropWhile Char.isDigit = tail := by
  rw [List.takeWhile_append_of_pos hwhole, List.dropWhile_append_of_pos hwhole]
  cases tail with
  | nil => exact ⟨List.append_nil _, rfl⟩
  | cons c rest =>
      have hc : ¬ c.isDigit = true := by
        rw [htail c rfl]
        exact Bool.false_ne_true
      rw [List.takeWhile_cons_of_neg hc, List.dropWhile_cons_of_neg hc]
      exact ⟨List.append_nil _, rfl⟩

theorem head_of_exponent? (h : exponent? tail = some exponent) :
    ∀ c ∈ tail.head?, c.isDigit = false ∧ c ≠ '.' := by
  cases tail with
  | nil => exact fun c hc => nomatch hc
  | cons c rest =>
      intro d hd
      cases hd
      unfold exponent? at h
      dsimp only at h
      split at h
      · rename_i hmark
        rw [Bool.or_eq_true, decide_eq_true_eq, decide_eq_true_eq] at hmark
        rcases hmark with rfl | rfl
        · decide
        · decide
      · exact nomatch h

theorem denotes_whole (hwhole : ∀ c ∈ whole, c.isDigit = true) (hne : whole ≠ [])
    (htail : exponent? tail = some exponent) :
    Denotes (whole ++ tail) (digitsValue whole) exponent := by
  intro negative
  have hhead := head_of_exponent? htail
  obtain ⟨htake, hdrop⟩ := takeWhile_isDigit_append hwhole fun c hc => (hhead c hc).1
  have hfraction : fractionPart tail = ([], tail) := by
    cases tail with
    | nil => rfl
    | cons c rest => exact fractionPart_of_ne (hhead c rfl).2
  rw [parseUnsigned?_eq, htake, hdrop, hfraction]
  dsimp only
  rw [if_neg (by simp [hne]), htail, List.append_nil, Option.map_some, List.length_nil,
    Int.natCast_zero, Int.sub_zero]

theorem denotes_pointed (hwhole : ∀ c ∈ whole, c.isDigit = true) (hne : whole ≠ [])
    (hfraction : ∀ c ∈ fraction, c.isDigit = true) (htail : exponent? tail = some exponent) :
    Denotes (whole ++ '.' :: (fraction ++ tail)) (digitsValue (whole ++ fraction))
      (exponent - fraction.length) := by
  intro negative
  have hhead := head_of_exponent? htail
  have hpoint : ∀ c ∈ ('.' :: (fraction ++ tail)).head?, c.isDigit = false := by
    intro c hc
    cases hc
    rfl
  obtain ⟨htake, hdrop⟩ := takeWhile_isDigit_append hwhole hpoint
  obtain ⟨htake', hdrop'⟩ := takeWhile_isDigit_append hfraction fun c hc => (hhead c hc).1
  have hparts : fractionPart ('.' :: (fraction ++ tail)) = (fraction, tail) :=
    Prod.ext htake' hdrop'
  rw [parseUnsigned?_eq, htake, hdrop, hparts]
  dsimp only
  rw [if_neg (by simp [hne]), htail]
  rfl

/-! ## Layouts -/

theorem exponent?_mark {mark : Char} {negative : Bool} {n : Nat}
    (hmark : splitSign (mark :: Nat.toDigits 10 n) = (negative, Nat.toDigits 10 n)) :
    exponent? ('e' :: mark :: Nat.toDigits 10 n) =
      some (if negative then -(n : Int) else n) := by
  have hdigits : (Nat.toDigits 10 n).all Char.isDigit = true :=
    List.all_eq_true.mpr fun _ => Json.isDigit_of_mem_toDigits
  have hne : (Nat.toDigits 10 n).isEmpty = false :=
    List.isEmpty_eq_false_iff.mpr Nat.toDigits_ne_nil
  unfold exponent?
  dsimp only
  rw [if_pos (by decide), hmark]
  dsimp only
  rw [hne, hdigits, digitsValue_toDigits]
  rfl

/-- Digits with a point after some of them, or without one if there are no more. -/
theorem denotes_pointed_append (hdigits : ∀ c ∈ whole, c.isDigit = true) {places : Nat}
    (hplaces : 0 < places) (hne : whole ≠ []) (htail : exponent? tail = some exponent) :
    Denotes ((pointed whole places).toList ++ tail) (digitsValue whole)
      (exponent - (whole.length - places : Nat)) := by
  unfold pointed
  split
  · rename_i hshort
    rw [String.toList_ofList, Nat.sub_eq_zero_of_le hshort, Int.natCast_zero, Int.sub_zero]
    exact denotes_whole hdigits hne htail
  · have htake : ∀ c ∈ whole.take places, c.isDigit = true :=
      fun c hc => hdigits c (List.mem_of_mem_take hc)
    have hdrop : ∀ c ∈ whole.drop places, c.isDigit = true :=
      fun c hc => hdigits c (List.mem_of_mem_drop hc)
    have hfront : whole.take places ≠ [] := by
      rw [Ne, List.take_eq_nil_iff, not_or]
      exact ⟨by omega, hne⟩
    have hdenotes := denotes_pointed htake hfront hdrop htail
    rw [List.take_append_drop, List.length_drop] at hdenotes
    simpa [String.toList_append] using hdenotes

theorem write_standard (digits : List Char) (exponent : Int) :
    Layout.standard.write digits exponent =
      let leading : Int := exponent + digits.length - 1
      if leading < -5 || 15 < leading then
        pointed digits 1 ++ (if leading < 0 then "e-" else "e+") ++ toString leading.natAbs
      else if 0 ≤ exponent then
        String.ofList digits ++ zeros exponent.toNat ++ ".0"
      else if 0 ≤ leading then
        pointed digits (leading.toNat + 1)
      else
        "0." ++ zeros (-leading - 1).toNat ++ String.ofList digits := rfl

theorem exponent?_written (leading : Int) :
    exponent? ((if leading < 0 then "e-" else "e+") ++ toString leading.natAbs).toList =
      some leading := by
  rw [String.toList_append, Nat.toString_eq_ofList_toDigits, String.toList_ofList]
  split
  · refine (exponent?_mark rfl).trans ?_
    rw [if_pos rfl]
    congr 1
    omega
  · refine (exponent?_mark rfl).trans ?_
    rw [if_neg Bool.false_ne_true]
    congr 1
    omega

theorem exponent?_nil : exponent? [] = some 0 := rfl

theorem isDigit_singleton_zero : ∀ c ∈ ['0'], c.isDigit = true :=
  fun _ hc => List.mem_singleton.mp hc ▸ rfl

theorem denotes_integral (hdigits : ∀ c ∈ whole, c.isDigit = true) (hne : whole ≠ [])
    (count : Nat) : Denotes (String.ofList whole ++ zeros count ++ ".0").toList
      (digitsValue whole * 10 ^ (count + 1)) (-1) := by
  have hzeros : ∀ c ∈ whole ++ List.replicate count '0', c.isDigit = true :=
    List.forall_mem_append.mpr ⟨hdigits, fun c hc => (List.mem_replicate.mp hc).2 ▸ rfl⟩
  have hdenotes := denotes_pointed hzeros (List.append_ne_nil_of_left_ne_nil hne _)
    isDigit_singleton_zero exponent?_nil
  have hvalue : digitsValue (whole ++ List.replicate count '0' ++ ['0']) =
      digitsValue whole * 10 ^ (count + 1) := by
    rw [List.append_assoc, ← List.replicate_succ', digitsValue_append_zeros]
  rw [hvalue] at hdenotes
  simpa [zeros, String.toList_append] using hdenotes

theorem denotes_fraction (hdigits : ∀ c ∈ whole, c.isDigit = true) (count : Nat) :
    Denotes ("0." ++ zeros count ++ String.ofList whole).toList (digitsValue whole)
      (-((count + whole.length : Nat) : Int)) := by
  have hzeros : ∀ c ∈ List.replicate count '0' ++ whole, c.isDigit = true :=
    List.forall_mem_append.mpr ⟨fun c hc => (List.mem_replicate.mp hc).2 ▸ rfl, hdigits⟩
  have hdenotes := denotes_pointed isDigit_singleton_zero (List.cons_ne_nil _ _) hzeros
    exponent?_nil
  have hvalue : digitsValue (['0'] ++ (List.replicate count '0' ++ whole)) = digitsValue whole := by
    rw [← List.append_assoc]
    exact digitsValue_zeros_append whole (count + 1)
  rw [hvalue] at hdenotes
  simpa [zeros, String.toList_append] using hdenotes

/-- **A decimal that is set out in digits is read as a decimal of the same value.** -/
theorem denotes_write (digits : Nat) (exponent : Int) : ∃ (read : Nat) (place : Int),
    Denotes (Layout.standard.write (Nat.toDigits 10 digits) exponent).toList read place ∧
      (read : ℚ) * 10 ^ place = digits * 10 ^ exponent := by
  have hdigits : ∀ c ∈ Nat.toDigits 10 digits, c.isDigit = true :=
    fun _ => Json.isDigit_of_mem_toDigits
  have hne : Nat.toDigits 10 digits ≠ [] := Nat.toDigits_ne_nil
  have hvalue := digitsValue_toDigits digits
  generalize Nat.toDigits 10 digits = cs at hdigits hne hvalue
  have hlength : 0 < cs.length := List.length_pos_iff.mpr hne
  rw [write_standard]
  dsimp only
  generalize hleading : exponent + cs.length - 1 = leading
  split
  · have hdenotes := denotes_pointed_append hdigits one_pos hne (exponent?_written leading)
    rw [hvalue, ← String.toList_append, ← String.append_assoc] at hdenotes
    refine ⟨digits, exponent, ?_, rfl⟩
    convert hdenotes using 1
    omega
  · split
    · rename_i hintegral
      have hdenotes := denotes_integral hdigits hne exponent.toNat
      rw [hvalue] at hdenotes
      refine ⟨_, _, hdenotes, ?_⟩
      have hpower : (10 : ℚ) ^ exponent = 10 ^ exponent.toNat := by
        rw [← zpow_natCast, Int.toNat_of_nonneg hintegral]
      rw [hpower, zpow_neg_one]
      push_cast
      rw [pow_succ]
      field_simp
    · split
      · have hdenotes := denotes_pointed_append hdigits (Nat.succ_pos leading.toNat) hne
          exponent?_nil
        rw [hvalue, List.append_nil] at hdenotes
        refine ⟨digits, exponent, ?_, rfl⟩
        convert hdenotes using 1
        omega
      · have hdenotes := denotes_fraction hdigits (-leading - 1).toNat
        rw [hvalue] at hdenotes
        refine ⟨digits, exponent, ?_, rfl⟩
        convert hdenotes using 1
        omega

/-! ## Numbers -/

structure Legible (s : String) : Prop where
  chars : Json.NumeralText s
  reads : ∃ (negative : Bool) (cs : List Char) (digits : Nat) (exponent : Int),
    s.toList = (if negative then '-' :: cs else cs) ∧ Denotes cs digits exponent ∧
      (digits : ℚ) * 10 ^ exponent < limit

theorem stripZeros_eq (fuel number : Nat) :
    (stripZeros fuel number).1 * 10 ^ (stripZeros fuel number).2 = number := by
  induction fuel generalizing number with
  | zero => exact Nat.mul_one number
  | succ fuel ih =>
      unfold stripZeros
      split
      · rename_i hzero
        dsimp only
        rw [Nat.pow_succ, ← Nat.mul_assoc, ih]
        omega
      · exact Nat.mul_one number

/-- **The text of a double denotes its shortest decimal**, behind its sign. -/
theorem exists_denotes_text (x : Float) : ∃ (cs : List Char) (digits : Nat) (exponent : Int),
    (Layout.standard.text x).toList = (if isNegative x then '-' :: cs else cs) ∧
      Denotes cs digits exponent ∧ (digits : ℚ) * 10 ^ exponent =
        if significand x = 0 then 0
        else ((shortest x).digits : ℚ) * 10 ^ (shortest x).exponent := by
  have hunsigned : ∃ (cs : List Char) (digits : Nat) (exponent : Int),
      (if significand x = 0 then "0" ++ Layout.standard.integralTail
        else Layout.standard.write (Nat.toDigits 10 (stripZeros 20 (shortest x).digits).1)
          ((shortest x).exponent + (stripZeros 20 (shortest x).digits).2)).toList = cs ∧
      Denotes cs digits exponent ∧ (digits : ℚ) * 10 ^ exponent =
        if significand x = 0 then 0
        else ((shortest x).digits : ℚ) * 10 ^ (shortest x).exponent := by
    split
    · have hzero := denotes_integral isDigit_singleton_zero (List.cons_ne_nil _ _) 0
      refine ⟨_, _, _, rfl, hzero, ?_⟩
      have hvalue : digitsValue ['0'] = 0 := rfl
      rw [hvalue, Nat.zero_mul, Nat.cast_zero, zero_mul]
    · obtain ⟨digits, exponent, hdenotes, hvalue⟩ :=
        denotes_write (stripZeros 20 (shortest x).digits).1
          ((shortest x).exponent + (stripZeros 20 (shortest x).digits).2)
      refine ⟨_, digits, exponent, rfl, hdenotes, ?_⟩
      have hstrip : ((stripZeros 20 (shortest x).digits).1 : ℚ) *
          10 ^ (stripZeros 20 (shortest x).digits).2 = (shortest x).digits := by
        exact_mod_cast stripZeros_eq 20 (shortest x).digits
      rw [hvalue, add_comm, zpow_add₀ (by norm_num), zpow_natCast, ← mul_assoc, hstrip]
  obtain ⟨cs, digits, exponent, htext, hdenotes, hvalue⟩ := hunsigned
  refine ⟨cs, digits, exponent, ?_, hdenotes, hvalue⟩
  unfold Layout.text
  dsimp only
  rw [apply_ite String.toList, String.toList_append, htext]
  rfl

/-- **The text of a finite double is legible.** -/
theorem legible_text {x : Float} (h : isFinite x = true) : Legible (Layout.standard.text x) := by
  refine ⟨Json.numeralText_numberText (.real ⟨x, h⟩), ?_⟩
  obtain ⟨cs, digits, exponent, htext, hdenotes, hvalue⟩ := exists_denotes_text x
  refine ⟨isNegative x, cs, digits, exponent, htext, hdenotes, ?_⟩
  rw [hvalue]
  split
  · exact limit_pos
  · rename_i hnonzero
    exact shortest_lt_limit h (Nat.pos_of_ne_zero hnonzero)

theorem natCast_lt_limit {n : Nat} (h : n < 2 ^ 53) : (n : ℚ) < limit := by
  have hstep : (n : ℚ) + 1 ≤ 2 ^ 53 := by exact_mod_cast h
  have hone : (1 : ℚ) ≤ 2 ^ (971 : ℤ) := one_le_zpow₀ one_le_two (by decide)
  calc (n : ℚ) < 2 ^ 53 - 1 / 2 := by linarith
    _ = (2 ^ 53 - 1 / 2) * 1 := (mul_one _).symm
    _ ≤ limit := mul_le_mul_of_nonneg_left hone (by norm_num)

theorem toList_toString_int (n : Int) :
    (toString n).toList = if decide (n < 0) then '-' :: Nat.toDigits 10 n.natAbs
      else Nat.toDigits 10 n.natAbs := by
  show n.repr.toList = _
  rw [Int.repr_eq_if]
  by_cases hnegative : n < 0
  · rw [if_neg (by omega), decide_eq_true hnegative, if_pos rfl, String.toList_append,
      Nat.repr_eq_ofList_toDigits, String.toList_ofList, String.toList_ofList,
      show (-n).toNat = n.natAbs by omega]
    rfl
  · rw [if_pos (by omega), decide_eq_false hnegative, if_neg Bool.false_ne_true,
      Nat.repr_eq_ofList_toDigits, String.toList_ofList, show n.toNat = n.natAbs by omega]

/-- **A small integer is legible.** -/
theorem legible_int {n : Int} (h : n.natAbs < 2 ^ 53) : Legible (toString n) := by
  have hdigits : ∀ c ∈ Nat.toDigits 10 n.natAbs, c.isDigit = true :=
    fun _ => Json.isDigit_of_mem_toDigits
  have hdenotes := denotes_whole hdigits Nat.toDigits_ne_nil exponent?_nil
  rw [List.append_nil, digitsValue_toDigits] at hdenotes
  refine ⟨Json.numeralText_int n, decide (n < 0), _, _, _, toList_toString_int n, hdenotes, ?_⟩
  rw [zpow_zero, mul_one]
  exact natCast_lt_limit h

theorem Denotes.splitSign_eq {digits : Nat} (h : Denotes cs digits exponent) :
    splitSign cs = (false, cs) := by
  cases cs with
  | nil => rfl
  | cons c rest =>
      have hnone : ∀ sign rest, sign.isDigit = false → sign ≠ '.' →
          parseUnsigned? false (sign :: rest) = none := by
        intro sign rest hdigit hpoint
        rw [parseUnsigned?_eq, List.takeWhile_cons_of_neg (ne_true_of_eq_false hdigit),
          List.dropWhile_cons_of_neg (ne_true_of_eq_false hdigit), fractionPart_of_ne hpoint]
        rfl
      refine splitSign_of_ne ?_ ?_
      · rintro rfl
        have hread := h false
        rw [hnone '-' rest rfl (by decide)] at hread
        exact nomatch hread
      · rintro rfl
        have hread := h false
        rw [hnone '+' rest rfl (by decide)] at hread
        exact nomatch hread

end Binary64

namespace Text

/-- The characters of a numeral lie between two code points that no blank lies between. -/
theorem not_isBlank_of_isNumeralChar {c : Char} (h : Json.isNumeralChar c = true) :
    ¬ isBlank c = true := by
  intro hblank
  have houter : ∀ code ∈ CharSet.codesBetween whiteSpace.toggles, code < 0x2B ∨ 0x65 < code := by
    decide
  have hcode := houter _ (CharSet.mem_codesBetween (by decide) hblank)
  have hinner : 0x2B ≤ c.toNat ∧ c.toNat ≤ 0x65 := by
    unfold Json.isNumeralChar at h
    simp only [Bool.or_eq_true, decide_eq_true_eq] at h
    rcases h with ((((hdigit | rfl) | rfl) | rfl) | rfl) | rfl
    · have hrange : 48 ≤ c.toNat ∧ c.toNat ≤ 57 := Char.isDigit_iff_toNat.mp hdigit
      omega
    all_goals decide
  omega

theorem trim_of_numeralText {s : String} (h : Json.NumeralText s) : trim s = s := by
  have hdrop : ∀ cs : List Char, (∀ c ∈ cs, ¬ isBlank c = true) → cs.dropWhile isBlank = cs := by
    intro cs hcs
    cases cs with
    | nil => rfl
    | cons c rest => exact List.dropWhile_cons_of_neg (hcs c List.mem_cons_self)
  have hchars : ∀ c ∈ s.toList, ¬ isBlank c = true :=
    fun c hc => not_isBlank_of_isNumeralChar (h c hc)
  unfold trim dropRightWhile
  rw [hdrop s.toList hchars, hdrop s.toList.reverse fun c hc => hchars c (List.mem_reverse.mp hc),
    List.reverse_reverse, String.ofList_toList]

end Text

namespace Value

/-- **What is legible is a numeral.** -/
theorem isSome_numeral?_of_legible {s : String} (h : Binary64.Legible s) :
    (numeral? s).isSome = true := by
  obtain ⟨negative, cs, digits, exponent, htext, hdenotes, hlimit⟩ := h.reads
  have hsign : Binary64.splitSign s.toList = (negative, cs) := by
    rw [htext]
    cases negative with
    | true => rfl
    | false => exact hdenotes.splitSign_eq
  rw [numeral?_eq, Text.trim_of_numeralText h.chars, hsign]
  dsimp only
  rw [hdenotes negative, Option.filter_some, if_pos (Binary64.isFinite_ofDecimal negative hlimit)]
  rfl

/-- **The number that a finite double reads as has a numeral for its text.** -/
theorem isSome_numeral?_print {x : Float} (h : Binary64.isFinite x = true) :
    (numeral? (Json.print (ofFloat x))).isSome = true := by
  unfold ofFloat
  split
  · rename_i hsmall
    have hsmall := of_decide_eq_true (Bool.and_eq_true_iff.mp hsmall).2
    exact isSome_numeral?_of_legible (Binary64.legible_int (by omega))
  · have hfinite : FiniteDouble.ofFloat? x = some ⟨x, h⟩ := dif_pos h
    rw [hfinite]
    exact isSome_numeral?_of_legible (Binary64.legible_text h)

/-- **A value that is no list reads as a number exactly if its text does.** -/
theorem isSome_number? {value : Value} (hfits : value.FitsWords)
    (hsingle : ∀ items, value ≠ .list items) :
    value.number?.isSome = (numeral? value.display).isSome := by
  cases value with
  | null => decide +kernel
  | bool b => cases b <;> decide +kernel
  | number n =>
      show true = (numeral? (Json.print (ofFloat n.toFloat))).isSome
      exact (isSome_numeral?_print (number_finite hfits)).symm
  | text s => rfl
  | list items => exact absurd rfl (hsingle items)
  | record fields =>
      have hbrace : '\x7b' ∈ (Value.record fields).display.toList := by
        show _ ∈ (Json.bracketed "\x7b" "\x7d" (Json.printFields fields)).toList
        unfold Json.bracketed
        rw [String.toList_append, String.toList_append]
        exact List.mem_append_left _ (List.mem_append_left _ (List.mem_singleton_self _))
      show false = (numeral? (Value.record fields).display).isSome
      cases hnumeral : numeral? (Value.record fields).display with
      | none => rfl
      | some x => exact absurd (isPlain_of_numeral? hnumeral _ hbrace) (by decide)

end Value

end StoryGraph
