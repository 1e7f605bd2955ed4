import Mathlib
import StoryGraph.Json.Parser
import StoryGraph.Value.Coercion

/-!
# Numerals without regard to case

The lower case of a text is a numeral exactly if the text is one, and then of the same number. No
character turns into one of a numeral or into a blank when it gets its lower case, nor does one of
those change, apart from the capital letter before an exponent.

Main definitions: `Text.isPlain`, `Text.foldExponent`. Main result: `Value.numeral?_lowercase`.
-/

namespace StoryGraph

namespace Text

/-! ## Code points that no letter falls on -/

namespace CharSet

def codesBetween : List Nat → List Nat
  | first :: last :: rest => List.range' first (last - first) ++ codesBetween rest
  | _ => []

theorem mem_codesBetween {code : Nat} : ∀ {toggles : List Nat}, toggles.length % 2 = 0 →
    covers code false toggles = true → code ∈ codesBetween toggles
  | first :: last :: rest, heven, h => by
      have hrest : rest.length % 2 = 0 := by
        rw [List.length_cons, List.length_cons] at heven
        omega
      unfold covers at h
      split at h
      · exact absurd h Bool.false_ne_true
      · unfold covers at h
        split at h
        · refine List.mem_append_left _ (List.mem_range'_1.mpr ?_)
          omega
        · exact List.mem_append_right _ (mem_codesBetween hrest h)

end CharSet

def isPlain (c : Char) : Bool := isBlank c || Json.isNumeralChar c

def foldExponent (c : Char) : Char := if c = 'E' then 'e' else c

def plainCodes : List Nat :=
  CharSet.codesBetween whiteSpace.toggles ++ List.range' 0x30 10 ++ [0x2B, 0x2D, 0x2E, 0x65]

variable {c d : Char} {cs before : List Char}

theorem mem_plainCodes (h : isPlain c = true) (hcapital : c ≠ 'E') : c.toNat ∈ plainCodes := by
  unfold isPlain Json.isNumeralChar at h
  simp only [Bool.or_eq_true, decide_eq_true_eq] at h
  rcases h with hblank | ((((hdigit | rfl) | rfl) | rfl) | rfl) | rfl
  · have hmem := CharSet.mem_codesBetween (by decide) hblank
    exact List.mem_append_left _ (List.mem_append_left _ hmem)
  · have hrange : 48 ≤ c.toNat ∧ c.toNat ≤ 57 := Char.isDigit_iff_toNat.mp hdigit
    refine List.mem_append_left _ (List.mem_append_right _ (List.mem_range'_1.mpr ?_))
    omega
  · decide
  · decide
  · decide
  · decide
  · exact absurd rfl hcapital

theorem not_applies : ∀ rule ∈ lowercaseRules, ∀ code ∈ plainCodes, rule.applies code = false := by
  decide +kernel

theorem source_of_plain : ∀ rule ∈ lowercaseRules, ∀ code ∈ 'E'.toNat :: plainCodes,
    ∀ source ∈ rule.source? code, source = 'E'.toNat := by
  decide +kernel

/-! ## Plain texts in lower case -/

theorem lowercaseChar_of_isPlain (h : isPlain c = true) : lowercaseChar c = [foldExponent c] := by
  by_cases hcapital : c = 'E'
  · subst hcapital
    decide
  · have hcode := mem_plainCodes h hcapital
    have hdotted : c ≠ 'İ' := by
      rintro rfl
      exact absurd h (by decide)
    have hnone : lowercaseRules.find? (·.applies c.toNat) = none := by
      refine List.find?_eq_none.mpr fun rule hrule => ?_
      rw [not_applies rule hrule _ hcode]
      exact Bool.false_ne_true
    unfold lowercaseChar moved foldExponent
    rw [if_neg hdotted, hnone, if_neg hcapital]

theorem lowercaseFrom_of_isPlain (h : ∀ c ∈ cs, isPlain c = true) :
    lowercaseFrom before cs = cs.map foldExponent := by
  induction cs generalizing before with
  | nil => rfl
  | cons c rest ih =>
      obtain ⟨hc, hrest⟩ := List.forall_mem_cons.mp h
      have hsigma : c ≠ 'Σ' := by
        rintro rfl
        exact absurd hc (by decide)
      unfold lowercaseFrom
      dsimp only
      rw [if_neg hsigma, lowercaseChar_of_isPlain hc, ih hrest]
      rfl

/-- A character is the source of what a rule moves it to, unless that is no character at all. -/
theorem source?_of_applies {rule : CaseRule} (happlies : rule.applies c.toNat = true)
    (hmoved : Char.ofNat ((c.toNat : Int) + rule.distance).toNat = d) (hnonzero : d.toNat ≠ 0) :
    rule.source? d.toNat = some c.toNat := by
  have hcode : d.toNat = ((c.toNat : Int) + rule.distance).toNat := by
    rw [← hmoved, Char.toNat_ofNat] at hnonzero ⊢
    by_cases hvalid : ((c.toNat : Int) + rule.distance).toNat.isValidChar
    · rw [if_pos hvalid]
    · rw [if_neg hvalid] at hnonzero
      exact absurd rfl hnonzero
  have hback : (d.toNat : Int) - rule.distance = c.toNat := by omega
  unfold CaseRule.source?
  rw [hback]
  simp only [Int.natCast_nonneg, Int.toNat_natCast, decide_true, Bool.true_and]
  rw [if_pos happlies]

theorem isPlain_of_moved (h : isPlain (moved lowercaseRules c) = true) : isPlain c = true := by
  unfold moved at h
  split at h
  · rename_i rule hfind
    generalize hmoved : Char.ofNat ((c.toNat : Int) + rule.distance).toNat = d at h
    have hnonzero : d.toNat ≠ 0 := by
      intro hzero
      rw [← Char.ofNat_toNat d, hzero] at h
      exact absurd h (by decide)
    have happlies := List.find?_some hfind
    have hsource := source?_of_applies happlies hmoved hnonzero
    have hplain : d.toNat ∈ 'E'.toNat :: plainCodes := by
      by_cases hcapital : d = 'E'
      · rw [hcapital]
        exact List.mem_cons_self
      · exact List.mem_cons_of_mem _ (mem_plainCodes h hcapital)
    have hcapital := source_of_plain rule (List.mem_of_find?_eq_some hfind) _ hplain _ hsource
    rw [Char.toNat_inj.mp hcapital]
    decide
  · exact h

theorem isPlain_of_lowercaseFrom (h : ∀ d ∈ lowercaseFrom before cs, isPlain d = true) :
    ∀ c ∈ cs, isPlain c = true := by
  induction cs generalizing before with
  | nil => exact fun _ hc => absurd hc List.not_mem_nil
  | cons c rest ih =>
      unfold lowercaseFrom at h
      dsimp only at h
      obtain ⟨hhere, hrest⟩ := List.forall_mem_append.mp h
      refine List.forall_mem_cons.mpr ⟨?_, ih hrest⟩
      by_cases hsigma : c = 'Σ'
      · rw [if_pos hsigma, List.forall_mem_singleton] at hhere
        split at hhere <;> exact absurd hhere (by decide)
      · rw [if_neg hsigma] at hhere
        unfold lowercaseChar at hhere
        split at hhere
        · exact absurd (hhere _ (List.mem_cons_of_mem _ List.mem_cons_self)) (by decide)
        · exact isPlain_of_moved (hhere _ List.mem_cons_self)

/-! ## Numerals in lower case -/

/-- A test that does not tell the two letters apart does not see which one stands there. -/
theorem comp_foldExponent {p : Char → Bool} (h : p 'e' = p 'E') : p ∘ foldExponent = p := by
  funext c
  unfold Function.comp foldExponent
  split
  · rename_i hcapital
    rw [hcapital, h]
  · rfl

theorem isDigit_comp_foldExponent : Char.isDigit ∘ foldExponent = Char.isDigit :=
  comp_foldExponent (by decide)

theorem all_isDigit_fold (cs : List Char) :
    (cs.map foldExponent).all Char.isDigit = cs.all Char.isDigit := by
  rw [List.all_map, isDigit_comp_foldExponent]

theorem foldExponent_eq_iff {symbol : Char} (h : symbol ≠ 'e' ∧ symbol ≠ 'E') :
    foldExponent c = symbol ↔ c = symbol := by
  unfold foldExponent
  split
  · rename_i hc
    subst hc
    exact ⟨fun heq => absurd heq.symm h.1, fun heq => absurd heq.symm h.2⟩
  · exact Iff.rfl

theorem map_foldExponent_digits (h : ∀ c ∈ cs, c.isDigit = true) : cs.map foldExponent = cs := by
  refine (List.map_congr_left fun c hc => ?_).trans (List.map_id cs)
  unfold foldExponent
  rw [if_neg]
  · rfl
  · rintro rfl
    exact absurd (h _ hc) (by decide)

theorem takeWhile_isDigit_fold (cs : List Char) :
    (cs.map foldExponent).takeWhile Char.isDigit = cs.takeWhile Char.isDigit := by
  rw [List.takeWhile_map, isDigit_comp_foldExponent]
  exact map_foldExponent_digits fun c hc => List.mem_takeWhile_imp hc

theorem dropWhile_isDigit_fold (cs : List Char) :
    (cs.map foldExponent).dropWhile Char.isDigit =
      (cs.dropWhile Char.isDigit).map foldExponent := by
  rw [List.dropWhile_map, isDigit_comp_foldExponent]

theorem trim_fold (cs : List Char) : trim (String.ofList (cs.map foldExponent)) =
    String.ofList ((trim (String.ofList cs)).toList.map foldExponent) := by
  have hblank : isBlank ∘ foldExponent = isBlank := comp_foldExponent (by decide)
  unfold trim dropRightWhile
  simp only [String.toList_ofList, List.dropWhile_map, hblank, ← List.map_reverse]

theorem mem_dropRightWhile {p : Char → Bool} (hc : c ∈ cs) :
    p c = true ∨ c ∈ dropRightWhile p cs := by
  unfold dropRightWhile
  rw [List.mem_reverse]
  rw [← List.mem_reverse, ← List.takeWhile_append_dropWhile (p := p) (l := cs.reverse),
    List.mem_append] at hc
  exact hc.imp_left List.mem_takeWhile_imp

theorem isBlank_or_mem_trim {s : String} (hc : c ∈ s.toList) :
    isBlank c = true ∨ c ∈ (trim s).toList := by
  unfold trim
  rw [String.toList_ofList]
  rw [← List.takeWhile_append_dropWhile (p := isBlank) (l := s.toList), List.mem_append] at hc
  rcases hc with hfront | hrest
  · exact .inl (List.mem_takeWhile_imp hfront)
  · exact mem_dropRightWhile hrest

end Text

namespace Binary64

open Text (foldExponent foldExponent_eq_iff all_isDigit_fold map_foldExponent_digits
  takeWhile_isDigit_fold dropWhile_isDigit_fold)

theorem splitSign_of_ne {c : Char} {rest : List Char} (hminus : c ≠ '-') (hplus : c ≠ '+') :
    splitSign (c :: rest) = (false, c :: rest) := by
  unfold splitSign
  split
  · rename_i heq
    exact absurd (List.cons.inj heq).1 hminus
  · rename_i heq
    exact absurd (List.cons.inj heq).1 hplus
  · rfl

theorem splitSign_fold (cs : List Char) :
    splitSign (cs.map foldExponent) = ((splitSign cs).1, (splitSign cs).2.map foldExponent) := by
  cases cs with
  | nil => rfl
  | cons c rest =>
      by_cases hminus : c = '-'
      · subst hminus
        rfl
      · by_cases hplus : c = '+'
        · subst hplus
          rfl
        · rw [splitSign_of_ne hminus hplus, List.map_cons, splitSign_of_ne]
          · exact mt (foldExponent_eq_iff (by decide)).mp hminus
          · exact mt (foldExponent_eq_iff (by decide)).mp hplus

theorem exponent?_fold (cs : List Char) : exponent? (cs.map foldExponent) = exponent? cs := by
  cases cs with
  | nil => rfl
  | cons c rest =>
      have hmark : (foldExponent c = 'e' || foldExponent c = 'E') = (c = 'e' || c = 'E') := by
        unfold foldExponent
        split
        · rename_i heq
          subst heq
          rfl
        · rfl
      unfold exponent?
      rw [List.map_cons]
      dsimp only
      rw [hmark, splitSign_fold]
      dsimp only
      rw [List.isEmpty_map, all_isDigit_fold]
      split
      · split
        · rfl
        · rename_i hdigits
          simp only [Bool.or_eq_true, Bool.not_eq_true', not_or, Bool.not_eq_false] at hdigits
          rw [map_foldExponent_digits (List.all_eq_true.mp hdigits.2)]
      · rfl

def fractionPart : List Char → List Char × List Char
  | '.' :: rest => (rest.takeWhile Char.isDigit, rest.dropWhile Char.isDigit)
  | cs => ([], cs)

theorem fractionPart_of_ne {c : Char} {rest : List Char} (h : c ≠ '.') :
    fractionPart (c :: rest) = ([], c :: rest) := by
  unfold fractionPart
  split
  · rename_i heq
    exact absurd (List.cons.inj heq).1 h
  · rfl

theorem fractionPart_fold (cs : List Char) :
    fractionPart (cs.map foldExponent) =
      ((fractionPart cs).1, (fractionPart cs).2.map foldExponent) := by
  cases cs with
  | nil => rfl
  | cons c rest =>
      by_cases hpoint : c = '.'
      · subst hpoint
        show (List.takeWhile _ _, List.dropWhile _ _) = (_, List.map _ (List.dropWhile _ _))
        rw [takeWhile_isDigit_fold, dropWhile_isDigit_fold]
        rfl
      · rw [fractionPart_of_ne hpoint, List.map_cons, fractionPart_of_ne]
        exact mt (foldExponent_eq_iff (by decide)).mp hpoint

theorem parseUnsigned?_eq (negative : Bool) (cs : List Char) :
    parseUnsigned? negative cs =
      let whole := cs.takeWhile Char.isDigit
      let (fraction, tail) := fractionPart (cs.dropWhile Char.isDigit)
      if whole.isEmpty && fraction.isEmpty then none
      else (exponent? tail).map fun exponent =>
        ofDecimal negative (Decimal.digitsValue (whole ++ fraction))
          (exponent - fraction.length) := by
  unfold parseUnsigned?
  dsimp only
  generalize cs.dropWhile Char.isDigit = afterWhole
  split
  · rfl
  · rename_i hpoint
    have hnone : fractionPart afterWhole = ([], afterWhole) := by
      unfold fractionPart
      split
      · exact absurd rfl (hpoint _)
      · rfl
    rw [hnone]

theorem parseUnsigned?_fold (negative : Bool) (cs : List Char) :
    parseUnsigned? negative (cs.map foldExponent) = parseUnsigned? negative cs := by
  rw [parseUnsigned?_eq, parseUnsigned?_eq, takeWhile_isDigit_fold, dropWhile_isDigit_fold,
    fractionPart_fold]
  dsimp only
  rw [exponent?_fold]

theorem isNumeralChar_of_splitSign {cs : List Char}
    (h : ∀ c ∈ (splitSign cs).2, Json.isNumeralChar c = true) :
    ∀ c ∈ cs, Json.isNumeralChar c = true := by
  cases cs with
  | nil => exact h
  | cons c rest =>
      by_cases hminus : c = '-'
      · subst hminus
        exact List.forall_mem_cons.mpr ⟨by decide, h⟩
      · by_cases hplus : c = '+'
        · subst hplus
          exact List.forall_mem_cons.mpr ⟨by decide, h⟩
        · rwa [splitSign_of_ne hminus hplus] at h

theorem isNumeralChar_of_digits {cs : List Char} (h : cs.all Char.isDigit = true) :
    ∀ c ∈ cs, Json.isNumeralChar c = true := by
  intro c hc
  unfold Json.isNumeralChar
  rw [List.all_eq_true.mp h c hc]
  rfl

theorem isNumeralChar_of_exponent? {cs : List Char} {exponent : Int}
    (h : exponent? cs = some exponent) : ∀ c ∈ cs, Json.isNumeralChar c = true := by
  cases cs with
  | nil => exact fun _ hc => absurd hc List.not_mem_nil
  | cons c rest =>
      unfold exponent? at h
      dsimp only at h
      split at h
      · rename_i hmark
        split at h
        · exact nomatch h
        · rename_i hdigits
          simp only [Bool.or_eq_true, Bool.not_eq_true', not_or, Bool.not_eq_false] at hdigits
          refine List.forall_mem_cons.mpr ⟨?_, ?_⟩
          · unfold Json.isNumeralChar
            simp only [Bool.or_eq_true, decide_eq_true_eq] at hmark ⊢
            exact hmark.imp_left Or.inr
          · exact isNumeralChar_of_splitSign (isNumeralChar_of_digits hdigits.2)
      · exact nomatch h

theorem isNumeralChar_of_fractionPart {cs : List Char}
    (h : ∀ c ∈ (fractionPart cs).2, Json.isNumeralChar c = true) :
    ∀ c ∈ cs, Json.isNumeralChar c = true := by
  cases cs with
  | nil => exact h
  | cons c rest =>
      by_cases hpoint : c = '.'
      · subst hpoint
        refine List.forall_mem_cons.mpr ⟨by decide, ?_⟩
        rw [← List.takeWhile_append_dropWhile (p := Char.isDigit) (l := rest)]
        exact List.forall_mem_append.mpr ⟨isNumeralChar_of_digits List.all_takeWhile, h⟩
      · rwa [fractionPart_of_ne hpoint] at h

/-- All characters of an unsigned numeral behind a sign may stand in a numeral. -/
theorem isNumeralChar_of_parse {negative : Bool} {cs : List Char} {x : Float}
    (h : parseUnsigned? negative (splitSign cs).2 = some x) :
    ∀ c ∈ cs, Json.isNumeralChar c = true := by
  refine isNumeralChar_of_splitSign ?_
  generalize (splitSign cs).2 = digits at h
  rw [parseUnsigned?_eq] at h
  dsimp only at h
  split at h
  · exact nomatch h
  · obtain ⟨exponent, hexponent, -⟩ := Option.map_eq_some_iff.mp h
    rw [← List.takeWhile_append_dropWhile (p := Char.isDigit) (l := digits)]
    exact List.forall_mem_append.mpr ⟨isNumeralChar_of_digits List.all_takeWhile,
      isNumeralChar_of_fractionPart (isNumeralChar_of_exponent? hexponent)⟩

theorem parseWord?_not_finite {negative : Bool} {cs : List Char} {x : Float}
    (h : parseWord? negative cs = some x) : isFinite x = false := by
  unfold parseWord? at h
  dsimp only at h
  split_ifs at h
  · cases h
    cases negative <;> decide +kernel
  · cases h
    decide +kernel

end Binary64

namespace Value

open Text (isPlain foldExponent)

theorem numeral?_eq (s : String) : numeral? s =
    (Binary64.parseUnsigned? (Binary64.splitSign (Text.trim s).toList).1
      (Binary64.splitSign (Text.trim s).toList).2).filter Binary64.isFinite := by
  unfold numeral? Binary64.parse?
  dsimp only
  cases Binary64.parseUnsigned? (Binary64.splitSign (Text.trim s).toList).1
      (Binary64.splitSign (Text.trim s).toList).2 with
  | some x => rfl
  | none =>
      rw [Option.orElse_none, Option.filter_none]
      refine Option.filter_eq_none_iff.mpr fun x hx => ?_
      rw [Binary64.parseWord?_not_finite hx]
      exact Bool.false_ne_true

theorem numeral?_fold (cs : List Char) :
    numeral? (String.ofList (cs.map foldExponent)) = numeral? (String.ofList cs) := by
  rw [numeral?_eq, numeral?_eq, Text.trim_fold, String.toList_ofList, Binary64.splitSign_fold,
    Binary64.parseUnsigned?_fold]

theorem isPlain_of_numeral? {s : String} {x : Float} (h : numeral? s = some x) :
    ∀ c ∈ s.toList, isPlain c = true := by
  rw [numeral?_eq] at h
  have hchars := Binary64.isNumeralChar_of_parse (Option.filter_eq_some_iff.mp h).1
  intro c hc
  unfold isPlain
  rcases Text.isBlank_or_mem_trim hc with hblank | htrim
  · rw [hblank]
    rfl
  · rw [hchars c htrim, Bool.or_true]

/-- **The lower case of a text is the numeral that the text is.** -/
theorem numeral?_lowercase (s : String) : numeral? (Text.lowercase s) = numeral? s := by
  have hplain : (∀ c ∈ s.toList, isPlain c = true) → numeral? (Text.lowercase s) = numeral? s := by
    intro h
    unfold Text.lowercase
    rw [Text.lowercaseFrom_of_isPlain h, numeral?_fold, String.ofList_toList]
  cases hnumeral : numeral? s with
  | some x => rw [hplain (isPlain_of_numeral? hnumeral), hnumeral]
  | none =>
      cases hlower : numeral? (Text.lowercase s) with
      | none => rfl
      | some x =>
          have hchars := isPlain_of_numeral? hlower
          unfold Text.lowercase at hchars
          rw [String.toList_ofList] at hchars
          rw [← hlower, hplain (Text.isPlain_of_lowercaseFrom hchars), hnumeral]

end Value

end StoryGraph
