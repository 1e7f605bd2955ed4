import Mathlib.Data.List.Basic
import Mathlib.Tactic.ByContra
import StoryGraph.Matching.Keyword

/-!
# Keywords are whole words

A keyword matches where its stem stands in a text and the text has a word boundary at each end of
the stem that asks for one. Whether an end asks is told by one notion of word characters, and
whether there is a boundary by another. Where the two agree about the ends of the stem, a keyword
matches exactly as a whole word; where they do not, some text tells the difference.

Main definitions: `Keyword.StandsIn`, `Keyword.WholeBetween`, `Keyword.Regular`.
-/

namespace StoryGraph.Keyword

/-! ## Places of a stem -/

/-- What is left of a text without the blanks around it and then the asterisks at its end. -/
def stemOf (text : String) : List Char :=
  Text.dropRightWhile (· == '*') (Text.trim text).toList

/-- The stem stands somewhere in a text, between characters that are fit; none is an end of the
text. -/
def StandsIn (keyword : Keyword) (fit : Option Char → Option Char → Prop) (text : List Char) :
    Prop :=
  ∃ before after, text = before ++ keyword.stem ++ after ∧ fit before.getLast? after.head?

/-- As a whole word: no word character stands before a stem that begins with one, and none after a
stem that ends with one, unless the word may go on. -/
structure WholeBetween (keyword : Keyword) (before after : Option Char) : Prop where
  opens : keyword.stem.head?.any Text.isWord = true → before.any Text.isWord = false
  closes : keyword.openEnded = false → keyword.stem.getLast?.any Text.isWord = true →
    after.any Text.isWord = false

/-- Between boundaries, where the ends of the stem ask for them. -/
structure BoundedBetween (keyword : Keyword) (before after : Option Char) : Prop where
  opens : keyword.stem.head?.any asksForBoundary = true →
    isBoundary before keyword.stem.head? = true
  closes : keyword.openEnded = false → keyword.stem.getLast?.any asksForBoundary = true →
    isBoundary keyword.stem.getLast? after = true

/-- The ends of the stem ask for a boundary exactly if they are word characters; the end does not
matter if the word may go on. -/
structure Regular (keyword : Keyword) : Prop where
  first : ∀ c ∈ keyword.stem.head?, asksForBoundary c = Text.isWord c
  last : keyword.openEnded = false → ∀ c ∈ keyword.stem.getLast?, asksForBoundary c = Text.isWord c

/-! ## Keywords from texts -/

theorem length_dropRightWhile_eq_iff {p : Char → Bool} {cs : List Char} :
    (Text.dropRightWhile p cs).length = cs.length ↔ cs.getLast?.any p = false := by
  have hreverse : ∀ ds : List Char, (ds.dropWhile p).length = ds.length ↔
      ds.head?.any p = false := by
    intro ds
    cases ds with
    | nil => simp
    | cons c rest =>
        rw [List.head?_cons, Option.any_some, List.dropWhile_cons]
        cases p c with
        | false => simp
        | true =>
            have hshorter : (rest.dropWhile p).length ≤ rest.length :=
              (List.dropWhile_sublist p).length_le
            simp only [if_true, List.length_cons, Bool.true_eq_false, iff_false]
            omega
  have hcs := hreverse cs.reverse
  rw [List.length_reverse, List.head?_reverse] at hcs
  unfold Text.dropRightWhile
  rw [List.length_reverse, hcs]

theorem ofText?_eq (text : String) (caseSensitive : Bool) :
    ofText? text caseSensitive = if (stemOf text).isEmpty then none
      else some ⟨Text.trim text, stemOf text, (stemOf text).length != (Text.trim text).length,
        caseSensitive⟩ := rfl

variable {text : String} {caseSensitive : Bool} {keyword : Keyword}

theorem ofText?_eq_none_iff : ofText? text caseSensitive = none ↔ stemOf text = [] := by
  rw [ofText?_eq, ← List.isEmpty_iff]
  cases (stemOf text).isEmpty <;> simp

theorem length_stemOf_ne_iff : (stemOf text).length ≠ (Text.trim text).length ↔
    (Text.trim text).toList.getLast? = some '*' := by
  unfold stemOf
  rw [← String.length_toList, Ne, length_dropRightWhile_eq_iff]
  cases (Text.trim text).toList.getLast? with
  | none => simp
  | some c => simp

theorem ofText?_eq_some (h : ofText? text caseSensitive = some keyword) :
    stemOf text ≠ [] ∧ keyword = ⟨Text.trim text, stemOf text,
      (stemOf text).length != (Text.trim text).length, caseSensitive⟩ := by
  have hstem : stemOf text ≠ [] := by
    intro hempty
    rw [ofText?_eq_none_iff.mpr hempty] at h
    exact nomatch h
  rw [ofText?_eq, if_neg (mt List.isEmpty_iff.mp hstem)] at h
  exact ⟨hstem, (Option.some.inj h).symm⟩

/-! ## One match -/

theorem all_zip_eq : ∀ {stem text : List Char}, stem.length = text.length →
    (((stem.zip text).all fun (c, d) => c == d) = true ↔ text = stem)
  | [], [], _ => by simp
  | c :: stem, d :: text, h => by
      have ih := all_zip_eq (Nat.succ.inj h)
      rw [List.zip_cons_cons, List.all_cons, Bool.and_eq_true, ih, beq_iff_eq, List.cons_eq_cons,
        eq_comm]

theorem agrees_iff (hcase : keyword.caseSensitive = true) {text : List Char} :
    keyword.agrees text = true ↔ text = keyword.stem := by
  unfold agrees sameChar
  simp only [hcase, if_true]
  rw [Bool.and_eq_true, beq_iff_eq]
  constructor
  · rintro ⟨hlength, hall⟩
    exact (all_zip_eq hlength).mp hall
  · rintro rfl
    exact ⟨rfl, (all_zip_eq rfl).mpr rfl⟩

theorem boundedBetween_iff {before after : Option Char} : keyword.BoundedBetween before after ↔
    (keyword.stem.head?.any asksForBoundary && !isBoundary before keyword.stem.head?) = false ∧
      (!keyword.openEnded && keyword.stem.getLast?.any asksForBoundary &&
        !isBoundary keyword.stem.getLast? after) = false := by
  constructor
  · rintro ⟨hopens, hcloses⟩
    constructor
    · cases hfirst : keyword.stem.head?.any asksForBoundary with
      | false => rfl
      | true => rw [hopens hfirst]; rfl
    · cases hended : keyword.openEnded with
      | true => rfl
      | false =>
          cases hlast : keyword.stem.getLast?.any asksForBoundary with
          | false => rfl
          | true => rw [hcloses hended hlast]; rfl
  · rintro ⟨hopens, hcloses⟩
    constructor
    · intro hfirst
      simpa [hfirst] using hopens
    · intro hended hlast
      simpa [hended, hlast] using hcloses

section

variable (hcase : keyword.caseSensitive = true) (hstem : keyword.stem ≠ [])
include hcase hstem

/-- The stem at the start of a text is a match if it stands between boundaries. -/
theorem matchLength?_append (before : Option Char) (after : List Char) :
    (keyword.matchLength? before (keyword.stem ++ after)).isSome ↔
      keyword.BoundedBetween before after.head? := by
  have hagrees : keyword.agrees keyword.stem = true := (agrees_iff hcase).mpr rfl
  rw [boundedBetween_iff]
  unfold matchLength?
  dsimp only
  rw [List.take_left, List.drop_left, List.head?_append_of_ne_nil _ hstem, hagrees]
  split
  · simp_all
  · rw [if_neg (by simp)]
    split
    · simp_all
    · split <;> simp_all

/-- **A match** begins with the stem, between boundaries where its ends ask for them. -/
theorem matchLength?_isSome {before : Option Char} {text : List Char} :
    (keyword.matchLength? before text).isSome ↔
      ∃ after, text = keyword.stem ++ after ∧ keyword.BoundedBetween before after.head? := by
  constructor
  · intro h
    have htake : text.take keyword.stem.length = keyword.stem := by
      unfold matchLength? at h
      dsimp only at h
      split at h
      · exact nomatch h
      · split at h
        · exact nomatch h
        · rename_i hagrees
          exact (agrees_iff hcase).mp (by simpa using hagrees)
    have htext : text = keyword.stem ++ text.drop keyword.stem.length := by
      conv_lhs => rw [← List.take_append_drop keyword.stem.length text, htake]
    rw [htext] at h
    exact ⟨_, htext, (matchLength?_append hcase hstem before _).mp h⟩
  · rintro ⟨after, rfl, hfit⟩
    exact (matchLength?_append hcase hstem before after).mpr hfit

end

/-! ## All matches -/

theorem getLast?_cons_or (c : Char) (passed : List Char) (before : Option Char) :
    (c :: passed).getLast?.or before = passed.getLast?.or (some c) := by
  rw [List.getLast?_cons]
  cases passed.getLast? <;> rfl

/-- There is a match in a text if there is one at the start of some rest of it. -/
theorem occursAfter_iff {text : List Char} : ∀ {before : Option Char},
    keyword.occursAfter before text = true ↔ ∃ passed rest, text = passed ++ rest ∧ rest ≠ [] ∧
      (keyword.matchLength? (passed.getLast?.or before) rest).isSome := by
  induction text with
  | nil => simp [occursAfter]
  | cons c text ih =>
      intro before
      rw [occursAfter, Bool.or_eq_true, ih]
      constructor
      · rintro (hhere | ⟨passed, rest, rfl, hrest, hlater⟩)
        · exact ⟨[], c :: text, rfl, List.cons_ne_nil _ _, hhere⟩
        · refine ⟨c :: passed, rest, rfl, hrest, ?_⟩
          rw [getLast?_cons_or]
          exact hlater
      · rintro ⟨passed, rest, hsplit, hrest, hmatch⟩
        cases passed with
        | nil =>
            rw [List.nil_append] at hsplit
            subst hsplit
            exact .inl hmatch
        | cons d passed =>
            obtain ⟨rfl, rfl⟩ := List.cons_eq_cons.mp hsplit
            rw [getLast?_cons_or] at hmatch
            exact .inr ⟨passed, rest, rfl, hrest, hmatch⟩

/-- **Where a keyword matches**: where its stem stands between boundaries. -/
theorem occursIn_iff (hcase : keyword.caseSensitive = true) (hstem : keyword.stem ≠ [])
    (s : String) :
    keyword.occursIn s = true ↔ keyword.StandsIn keyword.BoundedBetween s.toList := by
  unfold occursIn StandsIn
  rw [occursAfter_iff]
  constructor
  · rintro ⟨before, rest, hsplit, -, hmatch⟩
    obtain ⟨after, rfl, hfit⟩ := (matchLength?_isSome hcase hstem).mp hmatch
    rw [Option.or_none] at hfit
    exact ⟨before, after, by rw [hsplit, List.append_assoc], hfit⟩
  · rintro ⟨before, after, hsplit, hfit⟩
    refine ⟨before, keyword.stem ++ after, by rw [hsplit, List.append_assoc], ?_, ?_⟩
    · exact fun hnil => hstem (List.append_eq_nil_iff.mp hnil).1
    · rw [Option.or_none]
      exact (matchLength?_append hcase hstem _ _).mpr hfit

theorem spansFrom_ne_nil_iff {text : List Char} : ∀ {position : Nat} {before : Option Char},
    keyword.spansFrom 0 position before text ≠ [] ↔ keyword.occursAfter before text = true := by
  induction text with
  | nil => simp [spansFrom, occursAfter]
  | cons c rest ih =>
      intro position before
      rw [spansFrom, occursAfter, Bool.or_eq_true]
      cases keyword.matchLength? before (c :: rest) with
      | some size => simp
      | none => simpa using ih

/-! ## When matches are whole words -/

theorem isBoundary_of_isWord {c : Char} (hc : Text.isWord c = true) (before : Option Char) :
    isBoundary before (some c) = true ↔ before.any Text.isWord = false := by
  unfold isBoundary
  rw [Option.any_some, hc]
  cases before.any Text.isWord <;> decide

theorem isBoundary_comm (before after : Option Char) :
    isBoundary before after = isBoundary after before := by
  unfold isBoundary
  cases before.any Text.isWord <;> cases after.any Text.isWord <;> rfl

section

variable {c d : Char} (hhead : keyword.stem.head? = some c) (hlast : keyword.stem.getLast? = some d)
include hhead hlast

theorem wholeBetween_iff {before after : Option Char} : keyword.WholeBetween before after ↔
    (Text.isWord c = true → isBoundary before (some c) = true) ∧
      (keyword.openEnded = false → Text.isWord d = true → isBoundary (some d) after = true) := by
  constructor
  · rintro ⟨hopens, hcloses⟩
    rw [hhead, Option.any_some] at hopens
    rw [hlast, Option.any_some] at hcloses
    refine ⟨fun hc => (isBoundary_of_isWord hc before).mpr (hopens hc), fun hended hd => ?_⟩
    rw [isBoundary_comm]
    exact (isBoundary_of_isWord hd after).mpr (hcloses hended hd)
  · rintro ⟨hopens, hcloses⟩
    constructor
    · rw [hhead, Option.any_some]
      exact fun hc => (isBoundary_of_isWord hc before).mp (hopens hc)
    · rw [hlast, Option.any_some]
      intro hended hd
      rw [← isBoundary_of_isWord hd, isBoundary_comm]
      exact hcloses hended hd

theorem boundedBetween_iff_ends {before after : Option Char} :
    keyword.BoundedBetween before after ↔
      (asksForBoundary c = true → isBoundary before (some c) = true) ∧
        (keyword.openEnded = false → asksForBoundary d = true →
          isBoundary (some d) after = true) := by
  constructor
  · rintro ⟨hopens, hcloses⟩
    rw [hhead, Option.any_some] at hopens
    rw [hlast, Option.any_some] at hcloses
    exact ⟨hopens, hcloses⟩
  · rintro ⟨hopens, hcloses⟩
    constructor
    · rw [hhead, Option.any_some]
      exact hopens
    · rw [hlast, Option.any_some]
      exact hcloses

theorem regular_iff : keyword.Regular ↔ asksForBoundary c = Text.isWord c ∧
    (keyword.openEnded = false → asksForBoundary d = Text.isWord d) := by
  constructor
  · rintro ⟨hfirst, hend⟩
    exact ⟨hfirst c hhead, fun hended => hend hended d hlast⟩
  · rintro ⟨hfirst, hend⟩
    constructor
    · rintro e he
      obtain rfl := Option.some.inj (hhead.symm.trans he)
      exact hfirst
    · rintro hended e he
      obtain rfl := Option.some.inj (hlast.symm.trans he)
      exact hend hended

end

/-- A text with one more character than the stem has it at one of the two places. -/
theorem StandsIn.cons_or_concat {fit : Option Char → Option Char → Prop} {text : List Char}
    (h : keyword.StandsIn fit text) (hlength : text.length = keyword.stem.length + 1) :
    (∃ x, text = x :: keyword.stem ∧ fit (some x) none) ∨
      ∃ x, text = keyword.stem ++ [x] ∧ fit none (some x) := by
  obtain ⟨before, after, rfl, hfit⟩ := h
  rw [List.length_append, List.length_append] at hlength
  match before, after with
  | [x], [] => exact .inl ⟨x, by simp, hfit⟩
  | [], [x] => exact .inr ⟨x, by simp, hfit⟩
  | [], [] => simp at hlength
  | [], _ :: _ :: _ => simp at hlength
  | _ :: _ :: _, _ => simp at hlength; omega
  | [_], _ :: _ => simp at hlength; omega

theorem standsIn_stem {fit : Option Char → Option Char → Prop} :
    keyword.StandsIn fit keyword.stem ↔ fit none none := by
  constructor
  · rintro ⟨before, after, hsplit, hfit⟩
    have hlength := congrArg List.length hsplit
    rw [List.length_append, List.length_append] at hlength
    have hbefore : before = [] := List.length_eq_zero_iff.mp (by omega)
    have hafter : after = [] := List.length_eq_zero_iff.mp (by omega)
    subst hbefore hafter
    exact hfit
  · exact fun hfit => ⟨[], [], by simp, hfit⟩

theorem isBoundary_end (c : Char) : isBoundary none (some c) = Text.isWord c := by
  unfold isBoundary
  rw [Option.any_none, Option.any_some]
  cases Text.isWord c <;> rfl

theorem exists_ends (hstem : keyword.stem ≠ []) :
    ∃ c d, keyword.stem.head? = some c ∧ keyword.stem.getLast? = some d :=
  ⟨_, _, List.head?_eq_some_head hstem, List.getLast?_eq_some_getLast hstem⟩

/-! ## Texts tell the two notions apart -/

theorem letter_asks : asksForBoundary 'a' = true ∧ Text.isWord 'a' = true := by decide +kernel

section

variable {c d : Char} (hhead : keyword.stem.head? = some c) (hlast : keyword.stem.getLast? = some d)
  (hsame : ∀ text,
    keyword.StandsIn keyword.BoundedBetween text ↔ keyword.StandsIn keyword.WholeBetween text)
include hhead hlast hsame

theorem isWord_of_asks : (asksForBoundary c = true → Text.isWord c = true) ∧
    (keyword.openEnded = false → asksForBoundary d = true → Text.isWord d = true) := by
  have hwhole : keyword.WholeBetween none none := ⟨fun _ => rfl, fun _ _ => rfl⟩
  have hbounded := standsIn_stem.mp ((hsame keyword.stem).mpr (standsIn_stem.mpr hwhole))
  obtain ⟨hopens, hcloses⟩ := (boundedBetween_iff_ends hhead hlast).mp hbounded
  rw [isBoundary_end] at hopens
  rw [isBoundary_comm, isBoundary_end] at hcloses
  exact ⟨hopens, hcloses⟩

theorem first_asks (hc : Text.isWord c = true) : asksForBoundary c = true := by
  by_contra hquiet
  have hbounded : keyword.BoundedBetween (some 'a') none := by
    apply (boundedBetween_iff_ends hhead hlast).mpr
    refine ⟨fun hasks => absurd hasks hquiet, fun hended hasks => ?_⟩
    rw [isBoundary_comm, isBoundary_end]
    exact (isWord_of_asks hhead hlast hsame).2 hended hasks
  have hstands := (hsame ('a' :: keyword.stem)).mp ⟨['a'], [], by simp, hbounded⟩
  rcases hstands.cons_or_concat rfl with ⟨x, hx, hfit⟩ | ⟨x, hx, -⟩
  · obtain rfl := (List.cons_eq_cons.mp hx).1
    have hboundary := ((wholeBetween_iff hhead hlast).mp hfit).1 hc
    rw [isBoundary_of_isWord hc, Option.any_some, letter_asks.2] at hboundary
    exact nomatch hboundary
  · -- The stem would begin with the letter, which asks.
    have hstem : keyword.stem ≠ [] := List.ne_nil_of_mem (List.mem_of_head? hhead)
    have hfirst := congrArg List.head? hx
    rw [List.head?_cons, List.head?_append_of_ne_nil _ hstem, hhead] at hfirst
    obtain rfl := Option.some.inj hfirst
    exact hquiet letter_asks.1

theorem last_asks (hended : keyword.openEnded = false) (hd : Text.isWord d = true) :
    asksForBoundary d = true := by
  by_contra hquiet
  have hbounded : keyword.BoundedBetween none (some 'a') := by
    apply (boundedBetween_iff_ends hhead hlast).mpr
    refine ⟨fun hasks => ?_, fun _ hasks => absurd hasks hquiet⟩
    rw [isBoundary_end]
    exact (isWord_of_asks hhead hlast hsame).1 hasks
  have hstands := (hsame (keyword.stem ++ ['a'])).mp ⟨[], ['a'], by simp, hbounded⟩
  rcases hstands.cons_or_concat (by simp) with ⟨x, hx, -⟩ | ⟨x, hx, hfit⟩
  · -- The stem would end with the letter, which asks.
    have hlatest := congrArg List.getLast? hx
    rw [List.getLast?_concat, List.getLast?_cons, hlast] at hlatest
    obtain rfl := Option.some.inj hlatest
    exact hquiet letter_asks.1
  · obtain rfl := List.singleton_inj.mp (List.append_cancel_left hx)
    have hboundary := ((wholeBetween_iff hhead hlast).mp hfit).2 hended hd
    rw [isBoundary_comm, isBoundary_of_isWord hd, Option.any_some, letter_asks.2] at hboundary
    exact nomatch hboundary

end

/-- **If the places between boundaries are in every text the places as a whole word**, the two
notions of word characters agree about the ends of the stem. -/
theorem regular_of_same (hstem : keyword.stem ≠ []) (hsame : ∀ text,
    keyword.StandsIn keyword.BoundedBetween text ↔ keyword.StandsIn keyword.WholeBetween text) :
    keyword.Regular := by
  obtain ⟨c, d, hhead, hlast⟩ := exists_ends hstem
  obtain ⟨hfirst, hend⟩ := isWord_of_asks hhead hlast hsame
  apply (regular_iff hhead hlast).mpr
  constructor
  · exact Bool.eq_iff_iff.mpr ⟨hfirst, first_asks hhead hlast hsame⟩
  · intro hended
    exact Bool.eq_iff_iff.mpr ⟨hend hended, last_asks hhead hlast hsame hended⟩

theorem Regular.same (hregular : keyword.Regular) (hstem : keyword.stem ≠ [])
    (before after : Option Char) :
    keyword.BoundedBetween before after ↔ keyword.WholeBetween before after := by
  obtain ⟨c, d, hhead, hlast⟩ := exists_ends hstem
  obtain ⟨hfirst, hend⟩ := (regular_iff hhead hlast).mp hregular
  rw [boundedBetween_iff_ends hhead hlast, wholeBetween_iff hhead hlast, hfirst]
  apply and_congr_right
  intro _
  apply imp_congr_right
  intro hended
  rw [hend hended]

/-! ## Where the notions agree -/

theorem asksForBoundary_of_alphabetic {c : Char} (h : Text.isAlphabetic c = true) :
    asksForBoundary c = Text.isWord c := by
  unfold Text.isAlphabetic at h
  unfold asksForBoundary Text.isAlphanumeric Text.isWord
  rw [h]
  rfl

theorem asksForBoundary_of_ascii {c : Char} (h : c.toNat < 128) :
    asksForBoundary c = Text.isWord c := by
  have hall : ∀ n < 128, asksForBoundary (.ofNat n) = Text.isWord (.ofNat n) := by decide +kernel
  have hc := hall c.toNat h
  rwa [Char.ofNat_toNat] at hc

theorem regular_of_letters (h : ∀ c ∈ keyword.stem, Text.isAlphabetic c = true ∨ c.toNat < 128) :
    keyword.Regular := by
  have hagree : ∀ c ∈ keyword.stem, asksForBoundary c = Text.isWord c := by
    intro c hc
    rcases h c hc with hletter | hascii
    · exact asksForBoundary_of_alphabetic hletter
    · exact asksForBoundary_of_ascii hascii
  constructor
  · exact fun c hc => hagree c (List.mem_of_head? hc)
  · exact fun _ c hc => hagree c (List.mem_of_getLast? hc)

/-- **When a keyword is a whole word.** There is a keyword unless nothing is left of the text. It
matches where its stem stands between boundaries, and ranges are found exactly if it matches. It
matches exactly as a whole word if and only if the ends of its stem ask for a boundary just where
they are word characters. -/
theorem keyword_is_whole_word (text : String) :
    (ofText? text true = none ↔ stemOf text = []) ∧
      ∀ keyword, ofText? text true = some keyword →
        keyword.stem = stemOf text ∧
        (keyword.openEnded = true ↔ (Text.trim text).toList.getLast? = some '*') ∧
        (∀ s, keyword.occursIn s = true ↔
          keyword.StandsIn keyword.BoundedBetween s.toList) ∧
        (∀ s, keyword.spans s ≠ [] ↔ keyword.occursIn s = true) ∧
        ((∀ s, keyword.occursIn s = true ↔ keyword.StandsIn keyword.WholeBetween s.toList) ↔
          keyword.Regular) := by
  refine ⟨ofText?_eq_none_iff, fun keyword h => ?_⟩
  obtain ⟨hnonempty, heq⟩ := ofText?_eq_some h
  have hstem : keyword.stem = stemOf text := by rw [heq]
  have hopen : keyword.openEnded = ((stemOf text).length != (Text.trim text).length) := by rw [heq]
  have hcase : keyword.caseSensitive = true := by rw [heq]
  have hne : keyword.stem ≠ [] := by
    rw [hstem]
    exact hnonempty
  have hoccurs := occursIn_iff hcase hne
  refine ⟨hstem, ?_, hoccurs, fun s => spansFrom_ne_nil_iff, fun hsame => ?_, fun hregular s => ?_⟩
  · rw [hopen, bne_iff_ne]
    exact length_stemOf_ne_iff
  · apply regular_of_same hne
    intro letters
    have hletters : (String.ofList letters).toList = letters := String.toList_ofList
    rw [← hletters, ← hoccurs, hsame]
  · rw [hoccurs]
    unfold StandsIn
    simp only [hregular.same hne]

/-- A keyword of letters, which may go on, matches as a whole word. -/
theorem naive_is_whole_word : ∃ keyword, ofText? " naïv* " true = some keyword ∧
    keyword.openEnded = true ∧ keyword.occursIn "so naïvely" = true ∧
      ∀ s, keyword.occursIn s = true ↔ keyword.StandsIn keyword.WholeBetween s.toList := by
  obtain ⟨hnone, hsome⟩ := keyword_is_whole_word " naïv* "
  have hnonempty : ofText? " naïv* " true ≠ none := mt hnone.mp (by decide +kernel)
  obtain ⟨keyword, h⟩ := Option.ne_none_iff_exists'.mp hnonempty
  obtain ⟨hstem, hopen, -, -, hwhole⟩ := hsome keyword h
  have hletters : (stemOf " naïv* ").all Text.isAlphabetic = true := by decide +kernel
  have hregular : keyword.Regular := by
    apply regular_of_letters
    intro c hc
    rw [hstem] at hc
    exact .inl (List.all_eq_true.mp hletters c hc)
  have hended : keyword.openEnded = true := hopen.mpr (by decide +kernel)
  have hsame := hwhole.mpr hregular
  have hplace : "so naïvely".toList = "so ".toList ++ stemOf " naïv* " ++ "ely".toList := by
    decide +kernel
  refine ⟨keyword, h, hended, (hsame _).mpr ⟨"so ".toList, "ely".toList, ?_, ?_⟩, hsame⟩
  · rw [hstem]
    exact hplace
  · constructor
    · exact fun _ => by decide +kernel
    · exact fun hclosed => absurd (hended.symm.trans hclosed) (by decide)

/-- **A superscript is missed.** It asks for a boundary and is no word character, so a keyword that
ends with one does not match itself. -/
theorem superscript_is_missed : ∃ keyword, ofText? "x²" true = some keyword ∧
    keyword.StandsIn keyword.WholeBetween "x²".toList ∧ keyword.occursIn "x²" = false := by
  have hkeyword : ofText? "x²" true = some ⟨"x²", ['x', '²'], false, true⟩ := rfl
  refine ⟨_, hkeyword, ⟨[], [], rfl, ?_⟩, by decide +kernel⟩
  exact ⟨fun _ => rfl, fun _ _ => rfl⟩

end StoryGraph.Keyword
