import Mathlib.Data.List.Basic
import Mathlib.Data.List.TakeWhile
import StoryGraph.Proofs.Tokens

/-!
# Numerals

The text of a number has only characters of a numeral, so the lexer takes it as a whole. A number is
read back from its text when the numeral is read as the number. That does not hold of all doubles,
because numerals are computed in floating point.

Main definitions: `Json.NumeralText`, `Number.ReadsBack`.
-/

namespace StoryGraph

def Number.ReadsBack (n : Number) : Prop :=
  Json.Numeral.read? (Json.numberText n).toList = some (some n)

theorem Decimal.digitsValue_toDigits (n : Nat) : digitsValue (Nat.toDigits 10 n) = n :=
  Nat.ofDigitChars_toDigits (by decide) (by decide)

/-- The digits of a number are read as the number while it stays below the bound. -/
theorem Decimal.naturalBelow?_toString {bound n : Nat} (h : n < bound) :
    naturalBelow? bound (toString n).toList = some n := by
  have hdigits : ∀ c ∈ Nat.toDigits 10 n, c.isDigit = true := fun c hc =>
    Nat.isDigit_of_mem_toDigits (by decide) (by decide) hc
  have hnatural : natural? (Nat.toDigits 10 n) = some n := by
    unfold natural?
    split
    · rename_i heq
      exact absurd (hdigits '+' (heq ▸ List.mem_cons_self)) (by decide)
    · simp [Nat.toDigits_ne_nil, List.all_eq_true.mpr hdigits, digitsValue_toDigits]
  rw [Nat.toString_eq_ofList_toDigits, String.toList_ofList, naturalBelow?, hnatural]
  simp [h]

theorem head?_toDigits {n : Nat} (h : 0 < n) : (Nat.toDigits 10 n).head? ≠ some '0' := by
  induction n using Nat.strongRecOn with
  | ind n ih =>
      rw [Nat.toDigits_eq_if (by decide)]
      split
      · intro hhead
        exact absurd (Nat.digitChar_eq_zero.mp (Option.some.inj hhead)) (by omega)
      · rw [List.head?_append_of_ne_nil _ Nat.toDigits_ne_nil]
        exact ih (n / 10) (by omega) (by omega)

namespace Json

/-! ## Characters of numerals -/

def NumeralText (s : String) : Prop := ∀ c ∈ s.toList, isNumeralChar c = true

instance (s : String) : Decidable (NumeralText s) :=
  List.decidableBAll _ s.toList

theorem numeralText_append {s t : String} :
    NumeralText (s ++ t) ↔ NumeralText s ∧ NumeralText t := by
  unfold NumeralText
  rw [String.toList_append, List.forall_mem_append]

theorem isNumeralChar_of_isDigit {c : Char} (h : c.isDigit = true) : isNumeralChar c = true := by
  unfold isNumeralChar
  rw [h]
  rfl

theorem numeralText_ofList {cs : List Char} (h : ∀ c ∈ cs, c.isDigit = true) :
    NumeralText (String.ofList cs) := by
  intro c hc
  rw [String.toList_ofList] at hc
  exact isNumeralChar_of_isDigit (h c hc)

theorem isDigit_of_mem_toDigits {n : Nat} {c : Char} (h : c ∈ Nat.toDigits 10 n) :
    c.isDigit = true :=
  Nat.isDigit_of_mem_toDigits (by decide) (by decide) h

theorem numeralText_toString (n : Nat) : NumeralText (toString n) := by
  rw [Nat.toString_eq_ofList_toDigits]
  exact numeralText_ofList fun _ => isDigit_of_mem_toDigits

theorem numeralText_int (n : Int) : NumeralText (toString n) := by
  show NumeralText n.repr
  rw [Int.repr_eq_if]
  split
  · exact numeralText_toString n.toNat
  · exact numeralText_append.mpr ⟨by decide, numeralText_toString (-n).toNat⟩

open Binary64 (zeros pointed Layout)

theorem numeralText_zeros (count : Nat) : NumeralText (zeros count) :=
  numeralText_ofList fun _ hc => (List.mem_replicate.mp hc).2 ▸ rfl

theorem numeralText_pointed {digits : List Char} (h : ∀ c ∈ digits, c.isDigit = true)
    (places : Nat) : NumeralText (pointed digits places) := by
  unfold pointed
  split
  · exact numeralText_ofList h
  · rw [numeralText_append, numeralText_append]
    exact ⟨⟨numeralText_ofList fun c hc => h c (List.mem_of_mem_take hc), by decide⟩,
      numeralText_ofList fun c hc => h c (List.mem_of_mem_drop hc)⟩

theorem numeralText_write {digits : List Char} (h : ∀ c ∈ digits, c.isDigit = true)
    (exponent : Int) : NumeralText (Layout.standard.write digits exponent) := by
  unfold Layout.write
  dsimp only
  split_ifs
  all_goals simp only [numeralText_append, numeralText_ofList h, numeralText_pointed h,
    numeralText_zeros, numeralText_toString, and_true, true_and]
  all_goals decide

theorem numeralText_numberText (n : Number) : NumeralText (numberText n) := by
  cases n with
  | int n => exact numeralText_int n
  | real x =>
      show NumeralText (Layout.standard.text x.val)
      unfold Layout.text
      dsimp only
      have hdigits (digits : Nat) : ∀ exponent : Int,
          NumeralText (Layout.standard.write (Nat.toDigits 10 digits) exponent) :=
        numeralText_write fun _ => isDigit_of_mem_toDigits
      split_ifs <;> simp only [numeralText_append, hdigits, and_true] <;> decide

theorem Numeral.head_of_parts? {cs : List Char} {parts : Numeral.Parts}
    (h : Numeral.parts? cs = some parts) :
    ∃ c rest, cs = c :: rest ∧ (c.isDigit = true ∨ c = '-') := by
  cases cs with
  | nil => exact nomatch h
  | cons c rest =>
      refine ⟨c, rest, rfl, ?_⟩
      by_cases hc : c = '-'
      · exact .inr hc
      · left
        by_contra hdigit
        have hwhole : (c :: rest).takeWhile Char.isDigit = [] := by
          rw [List.takeWhile_cons, if_neg hdigit]
        unfold Numeral.parts? at h
        split at h
        rename_i negative digits hsplit
        split at hsplit
        · rename_i heq
          exact hc (List.cons.inj heq).1
        · cases hsplit
          rw [hwhole] at h
          exact nomatch h

theorem begin?_numeral {c : Char} (h : c.isDigit = true ∨ c = '-') (found : List Token) :
    Lexer.begin? ⟨.between, found⟩ c = some ⟨.numeral [c], found⟩ := by
  unfold Lexer.begin?
  dsimp only
  split
  case h_8 =>
    have hblank : ¬ isBlank c = true := by
      intro hblank
      unfold isBlank at hblank
      simp only [Bool.or_eq_true, decide_eq_true_eq] at hblank
      rcases hblank with ((rfl | rfl) | rfl) | rfl <;> exact absurd h (by decide)
    rw [if_neg hblank, if_pos (by simpa using h)]
  all_goals exact absurd h (by decide)

theorem foldlM_numeral (cs : List Char) (h : ∀ c ∈ cs, isNumeralChar c = true) :
    ∀ (reversed : List Char) (found : List Token),
      cs.foldlM Lexer.step? ⟨.numeral reversed, found⟩ =
        some ⟨.numeral (cs.reverse ++ reversed), found⟩ := by
  induction cs with
  | nil => exact fun _ _ => rfl
  | cons c rest ih =>
      intro reversed found
      obtain ⟨hc, hrest⟩ := List.forall_mem_cons.mp h
      rw [List.foldlM_cons, List.reverse_cons, List.append_assoc]
      show Option.bind (if isNumeralChar c then _ else _) _ = _
      rw [if_pos hc]
      exact ih hrest (c :: reversed) found

/-! ## Numbers -/

theorem spells_number {n : Number} {reading : Option Number}
    (h : Numeral.read? (numberText n).toList = some reading) :
    Spells (numberText n).toList [.number reading] := by
  obtain ⟨parts, hparts, -⟩ := Option.map_eq_some_iff.mp h
  obtain ⟨c, rest, hcs, hc⟩ := Numeral.head_of_parts? hparts
  have htext := numeralText_numberText n
  unfold NumeralText at htext
  rw [hcs] at h htext ⊢
  intro found
  refine ⟨⟨.numeral (c :: rest).reverse, found⟩, ?_, settles_numeral found ?_⟩
  · rw [List.foldlM_cons]
    show Option.bind (Lexer.begin? ⟨.between, found⟩ c) _ = _
    rw [begin?_numeral hc, List.reverse_cons]
    exact foldlM_numeral rest (List.forall_mem_cons.mp htext).2 [c] found
  · rwa [List.reverse_reverse]

def misread : FiniteDouble := ⟨0.11855670103092783, by decide +kernel⟩

theorem misread_not_readsBack : ¬ (Number.real misread).ReadsBack := by
  intro h
  have hbits : ((Numeral.read? (numberText (.real misread)).toList).map fun n =>
      n.map fun n => n.toFloat.toBits) = some (some misread.val.toBits) := by
    rw [h]
    rfl
  exact absurd hbits (by decide +kernel)

end Json

end StoryGraph
