import Mathlib.Logic.Function.Basic
import StoryGraph.Proofs.Markers
import StoryGraph.Template

/-!
# Placeholders that are replaced

A template is read as a list of pieces: characters, and places for documents. One replacement
after the other puts texts into the places that it finds from the left, first those of the behavior
document. The second replacement cannot find a word that reaches into a text between braces, but it
does find the words inside the first text.

Main definitions: `Template.Verbatim`, `Template.Separate`, `Template.Found` and
`Template.scriptTexts`. Main results: `Template.exists_found` and `Template.replaceAll_halfway`.
-/

namespace StoryGraph

/-! ## Replacing a word -/

section

variable {w r x y : List Char} {c : Char}

theorem occurs_iff : ∀ {cs : List Char}, occurs w cs = true ↔ w <:+: cs
  | [] => by rw [occurs, List.isEmpty_iff, List.infix_nil]
  | c :: rest => by
      rw [occurs, Bool.or_eq_true, List.isPrefixOf_iff_prefix, occurs_iff, List.infix_cons_iff]

theorem replaceAll_skip (n : Nat) (cs : List Char) :
    replaceAll w r n cs = replaceAll w r 0 (cs.drop n) := by
  induction n generalizing cs with
  | zero => rfl
  | succ n ih =>
      cases cs with
      | nil => cases n <;> rfl
      | cons c rest => exact ih rest

theorem replaceAll_word (hne : w ≠ []) (rest : List Char) :
    replaceAll w r 0 (w ++ rest) = r ++ replaceAll w r 0 rest := by
  cases w with
  | nil => exact absurd rfl hne
  | cons a w =>
      have hbegins : (a :: w).isPrefixOf (a :: (w ++ rest)) = true :=
        List.isPrefixOf_iff_prefix.mpr (List.prefix_append (a :: w) rest)
      rw [List.cons_append, replaceAll, if_pos hbegins, replaceAll_skip]
      show r ++ replaceAll (a :: w) r 0 ((w ++ rest).drop w.length) = _
      rw [List.drop_left]

theorem replaceAll_cons (h : ¬ w <+: c :: x) :
    replaceAll w r 0 (c :: x) = c :: replaceAll w r 0 x := by
  rw [replaceAll, if_neg (mt List.isPrefixOf_iff_prefix.mp h)]

/-- A text is taken apart as the replacement goes: an occurrence of the word at one go, any other
character by itself. -/
theorem scanInduction {motive : List Char → Prop} (hne : w ≠ []) (nil : motive [])
    (word : ∀ rest, motive rest → motive (w ++ rest))
    (char : ∀ c rest, ¬ w <+: c :: rest → motive rest → motive (c :: rest)) :
    ∀ text, motive text := by
  intro text
  induction hn : text.length using Nat.strongRecOn generalizing text with
  | ind n ih =>
      by_cases h : w <+: text
      · obtain ⟨rest, rfl⟩ := h
        have hpos := List.length_pos_of_ne_nil hne
        rw [List.length_append] at hn
        exact word rest (ih _ (by omega) rest rfl)
      · cases text with
        | nil => exact nil
        | cons c rest => exact char c rest h (ih _ (hn ▸ Nat.lt_succ_self _) rest rfl)

theorem replaceAll_append (h : ∀ i < x.length, ¬ w <+: (x ++ y).drop i) :
    replaceAll w r 0 (x ++ y) = x ++ replaceAll w r 0 y := by
  induction x with
  | nil => rfl
  | cons c x ih =>
      have hhead : ¬ w <+: c :: (x ++ y) := h 0 (Nat.succ_pos _)
      rw [List.cons_append, replaceAll_cons hhead, ih fun i hi => ?_, List.cons_append]
      exact h (i + 1) (Nat.succ_lt_succ hi)

theorem replaceAll_of_not_infix (h : ¬ w <:+: x) : replaceAll w r 0 x = x := by
  have hx := replaceAll_append (w := w) (r := r) (x := x) (y := []) fun i _ hbegins => ?_
  · rwa [List.append_nil, replaceAll, List.append_nil] at hx
  · rw [List.append_nil] at hbegins
    exact h (hbegins.isInfix.trans (List.drop_suffix i x).isInfix)

/-- Both sides of a character that the word does not have are replaced by themselves. -/
theorem replaceAll_append_cons (hne : w ≠ []) (hc : c ∉ w) (x y : List Char) :
    replaceAll w r 0 (x ++ c :: y) = replaceAll w r 0 x ++ c :: replaceAll w r 0 y := by
  induction x using scanInduction hne with
  | nil =>
      have hnot : ¬ w <+: c :: y := mt (prefix_append_cons hc (x := [])).mp fun h =>
        hne (List.prefix_nil.mp h)
      rw [List.nil_append, replaceAll_cons hnot, replaceAll, List.nil_append]
  | word rest ih =>
      rw [List.append_assoc, replaceAll_word hne, replaceAll_word hne, ih, List.append_assoc]
  | char a rest h ih =>
      have hnot : ¬ w <+: a :: (rest ++ c :: y) := mt (prefix_append_cons hc (x := a :: rest)).mp h
      rw [List.cons_append, replaceAll_cons hnot, replaceAll_cons h, ih, List.cons_append]

/-- Where the word occurs, the text first changes at the beginning of an occurrence. -/
theorem replaceAll_changes {a d : Char} {v s : List Char} (hw : w = a :: v) (hr : r = d :: s)
    (h : w <:+: x) : ∃ before after rest, x = before ++ a :: after ∧
      replaceAll w r 0 x = before ++ d :: rest := by
  have hne : w ≠ [] := hw ▸ List.cons_ne_nil a v
  induction x with
  | nil => exact absurd (List.infix_nil.mp h) hne
  | cons c x ih =>
      by_cases hbegins : w <+: c :: x
      · obtain ⟨rest, hrest⟩ := hbegins
        rw [← hrest, replaceAll_word hne, hw, hr]
        exact ⟨[], _, _, rfl, rfl⟩
      · have hmarked := (List.infix_cons_iff.mp h).resolve_left hbegins
        obtain ⟨before, after, rest, hx, hreplaced⟩ := ih hmarked
        refine ⟨c :: before, after, rest, congrArg _ hx, ?_⟩
        rw [replaceAll_cons hbegins, hreplaced, List.cons_append]

end

/-! ## Texts between braces -/

def Braced (text : List Char) : Prop := ∃ inner, text = '\x7b' :: (inner ++ ['\x7d'])

theorem braced_empty : Braced ['\x7b', '\x7d'] := ⟨[], rfl⟩

section

variable {w r b y : List Char}

theorem Braced.append_eq (hb : Braced b) :
    ∃ front, ∀ rest, b ++ rest = front ++ '\x7d' :: rest := by
  obtain ⟨inner, rfl⟩ := hb
  exact ⟨'\x7b' :: inner, fun rest => by simp⟩

theorem Marker.infix_braced_append (h : Marker w) (hb : Braced b) :
    w <:+: b ++ y ↔ w <:+: b ∨ w <:+: y := by
  obtain ⟨front, hfront⟩ := hb.append_eq
  have hclose : ¬ IsMarkerChar '\x7d' := by decide
  have halone : w <:+: b ↔ w <:+: front := by
    rw [← List.append_nil b, hfront, h.infix_append_cons hclose, List.infix_nil,
      or_iff_left h.ne_nil]
  rw [hfront, h.infix_append_cons hclose, halone]

theorem replaceAll_braced_append (h : Marker w) (hb : Braced b) :
    replaceAll w r 0 (b ++ y) = replaceAll w r 0 b ++ replaceAll w r 0 y := by
  obtain ⟨front, hfront⟩ := hb.append_eq
  have hclose : '\x7d' ∉ w := h.not_mem (by decide)
  have halone : replaceAll w r 0 b = replaceAll w r 0 front ++ ['\x7d'] := by
    rw [← List.append_nil b, hfront, replaceAll_append_cons h.ne_nil hclose, replaceAll]
  rw [hfront, replaceAll_append_cons h.ne_nil hclose, halone, List.append_assoc]
  rfl

theorem prefix_of_prefix_replaceAll {word : List Char} (hne : word ≠ []) (hr : Braced r) :
    ∀ (x w : List Char), (∀ c ∈ w, IsMarkerChar c) → w <+: replaceAll word r 0 x → w <+: x
  | _, [], _, _ => List.nil_prefix
  | [], _ :: _, _, h => h
  | c :: x, a :: w, hw, h => by
      by_cases hbegins : word <+: c :: x
      · obtain ⟨rest, hrest⟩ := hbegins
        obtain ⟨inner, rfl⟩ := hr
        rw [← hrest, replaceAll_word hne] at h
        obtain ⟨rfl, -⟩ := List.cons_prefix_cons.mp h
        exact absurd (hw _ List.mem_cons_self) (by decide)
      · rw [replaceAll_cons hbegins] at h
        obtain ⟨rfl, hrest⟩ := List.cons_prefix_cons.mp h
        exact List.cons_prefix_cons.mpr ⟨rfl,
          prefix_of_prefix_replaceAll hne hr x w (List.forall_mem_cons.mp hw).2 hrest⟩

theorem not_infix_replaceAll (hw : Marker w) (hr : Braced r) (hnone : ¬ w <:+: r)
    (x : List Char) : ¬ w <:+: replaceAll w r 0 x := by
  induction x using scanInduction hw.ne_nil with
  | nil => exact mt List.infix_nil.mp hw.ne_nil
  | word rest ih =>
      rw [replaceAll_word hw.ne_nil, hw.infix_braced_append hr]
      exact not_or.mpr ⟨hnone, ih⟩
  | char c rest h ih =>
      -- What comes out may only have the word where it begins with `c`, and there it was before.
      have hhead : ¬ w <+: replaceAll w r 0 (c :: rest) :=
        mt (prefix_of_prefix_replaceAll hw.ne_nil hr _ w hw.letters) h
      rw [replaceAll_cons h] at hhead ⊢
      exact mt List.infix_cons_iff.mp (not_or.mpr ⟨hhead, ih⟩)

end

/-! ## Templates in pieces -/

inductive Placeholder where
  | behavior
  | data
deriving DecidableEq

namespace Placeholder

theorem forall_iff {P : Placeholder → Prop} : (∀ p, P p) ↔ P .behavior ∧ P .data :=
  ⟨fun h => ⟨h .behavior, h .data⟩, fun h p => by cases p; exacts [h.1, h.2]⟩

instance decidableForall {P : Placeholder → Prop} [DecidablePred P] : Decidable (∀ p, P p) :=
  decidable_of_iff _ forall_iff.symm

def word : Placeholder → List Char
  | .behavior => behaviorPlaceholder.toList
  | .data => dataPlaceholder.toList

theorem marker_word (p : Placeholder) : Marker p.word := by
  cases p
  · exact ⟨by decide, by decide⟩
  · exact ⟨by decide, by decide⟩

theorem word_ne_nil (p : Placeholder) : p.word ≠ [] := p.marker_word.ne_nil

theorem eq_of_prefix {p q : Placeholder} {text : List Char} (hp : p.word <+: text)
    (hq : q.word <+: text) : p = q := by
  have h := List.prefix_or_prefix_of_prefix hp hq
  cases p <;> cases q <;> first | rfl | exact absurd h (by decide)

end Placeholder

namespace Template

/-- A piece of a template: a character, or the place of a document. -/
inductive Piece where
  | char (c : Char)
  | place (p : Placeholder)

def Piece.text (texts : Placeholder → List Char) : Piece → List Char
  | .char c => [c]
  | .place p => texts p

def fill (texts : Placeholder → List Char) (pieces : List Piece) : List Char :=
  pieces.flatMap (Piece.text texts)

def source (pieces : List Piece) : List Char := fill Placeholder.word pieces

/-- Wherever a placeholder stands in the template of the pieces, it is one of the pieces. -/
def Whole (pieces : List Piece) : Prop :=
  ∀ (p : Placeholder) (i : Nat), p.word <+: (source pieces).drop i →
    ∃ before after, pieces = before ++ .place p :: after ∧ (source before).length = i

/-- A script is a template verbatim, with a text in the place of each placeholder: all
occurrences are replaced, and nothing else. -/
def Verbatim (texts : Placeholder → List Char) (template script : List Char) : Prop :=
  ∃ pieces, source pieces = template ∧ fill texts pieces = script ∧ Whole pieces

def Separate (template : List Char) : Prop :=
  ∀ (p q : Placeholder) (i j : Nat), i < j → p.word <+: template.drop i →
    q.word <+: template.drop j → i + p.word.length ≤ j

section

variable {piece : Piece} {pieces others : List Piece} {p q : Placeholder}

theorem fill_cons (texts : Placeholder → List Char) (piece : Piece) (pieces : List Piece) :
    fill texts (piece :: pieces) = piece.text texts ++ fill texts pieces := List.flatMap_cons

theorem source_cons : source (piece :: pieces) = piece.text Placeholder.word ++ source pieces :=
  List.flatMap_cons

theorem source_append : source (pieces ++ others) = source pieces ++ source others :=
  List.flatMap_append

theorem length_text_pos (piece : Piece) : 0 < (piece.text Placeholder.word).length := by
  cases piece with
  | char c => exact Nat.succ_pos 0
  | place p => exact List.length_pos_of_ne_nil p.word_ne_nil

theorem whole_cons : Whole (piece :: pieces) ↔
    (∀ (p : Placeholder) (i : Nat), i < (piece.text Placeholder.word).length →
      p.word <+: (source (piece :: pieces)).drop i → i = 0 ∧ piece = .place p) ∧ Whole pieces := by
  have hpos := length_text_pos piece
  have hdrop : ∀ i, (source (piece :: pieces)).drop ((piece.text Placeholder.word).length + i) =
      (source pieces).drop i := by
    intro i
    rw [source_cons, ← List.drop_drop, List.drop_left]
  constructor
  · intro h
    constructor
    · intro p i hi hbegins
      obtain ⟨before, after, heq, hlength⟩ := h p i hbegins
      cases before with
      | nil => exact ⟨hlength.symm, (List.cons.inj heq).1⟩
      | cons first before =>
          obtain ⟨rfl, -⟩ := List.cons.inj heq
          rw [source_cons, List.length_append] at hlength
          omega
    · intro p i hbegins
      obtain ⟨before, after, heq, hlength⟩ := h p _ ((hdrop i).symm ▸ hbegins)
      cases before with
      | nil =>
          have : (0 : Nat) = (piece.text Placeholder.word).length + i := hlength
          omega
      | cons first before =>
          obtain ⟨rfl, htail⟩ := List.cons.inj heq
          rw [source_cons, List.length_append] at hlength
          exact ⟨before, after, htail, by omega⟩
  · rintro ⟨hfirst, hrest⟩ p i hbegins
    rcases Nat.lt_or_ge i (piece.text Placeholder.word).length with hi | hi
    · obtain ⟨rfl, rfl⟩ := hfirst p i hi hbegins
      exact ⟨[], pieces, rfl, rfl⟩
    · obtain ⟨j, rfl⟩ := Nat.exists_eq_add_of_le hi
      obtain ⟨before, after, rfl, rfl⟩ := hrest p j (hdrop j ▸ hbegins)
      exact ⟨piece :: before, after, rfl, by rw [source_cons, List.length_append]⟩

theorem whole_nil : Whole [] := by
  intro p i hbegins
  have hnil : (source []).drop i = [] := List.drop_nil
  rw [hnil, List.prefix_nil] at hbegins
  exact absurd hbegins p.word_ne_nil

theorem Whole.separate (h : Whole pieces) : Separate (source pieces) := by
  intro p q i j hlt hp hq
  obtain ⟨before, after, hfirst, rfl⟩ := h p i hp
  obtain ⟨before', after', hsecond, rfl⟩ := h q j hq
  rw [hfirst] at hsecond
  rcases List.append_eq_append_iff.mp hsecond with ⟨between, hbefore, hrest⟩ | ⟨between, hbefore, -⟩
  · cases between with
    | nil =>
        rw [hbefore, List.append_nil] at hlt
        exact absurd hlt (Nat.lt_irrefl _)
    | cons first between =>
        obtain ⟨rfl, -⟩ := List.cons.inj hrest
        rw [hbefore, source_append, source_cons, List.length_append, List.length_append]
        exact Nat.add_le_add_left (Nat.le_add_right _ _) _
  · rw [hbefore, source_append, List.length_append] at hlt
    omega

theorem separate_iff {template : List Char} : Separate template ↔
    ∀ j < template.length, ∀ q : Placeholder, q.word <+: template.drop j →
      ∀ i < j, ∀ p : Placeholder, p.word <+: template.drop i → i + p.word.length ≤ j := by
  constructor
  · exact fun h j _ q hq i hlt p hp => h p q i j hlt hp hq
  · intro h p q i j hlt hp hq
    rcases Nat.lt_or_ge j template.length with hj | hj
    · exact h j hj q hq i hlt p hp
    · rw [List.drop_eq_nil_of_le hj, List.prefix_nil] at hq
      exact absurd hq q.word_ne_nil

instance (template : List Char) : Decidable (Separate template) :=
  decidable_of_iff _ separate_iff.symm

/-- Placeholders may share their underscores. -/
example : ¬ Separate "__LORE_BEHAVIOR__LORE_DATA__".toList := by decide +kernel

theorem Separate.drop {text : List Char} (h : Separate text) (n : Nat) :
    Separate (text.drop n) := by
  intro p q i j hlt hp hq
  rw [List.drop_drop] at hp hq
  have := h p q (n + i) (n + j) (by omega) hp hq
  omega

theorem Whole.place (h : Whole pieces) (hseparate : Separate (p.word ++ source pieces)) :
    Whole (.place p :: pieces) := by
  refine whole_cons.mpr ⟨fun q i hi hq => ?_, h⟩
  have hp : p.word <+: source (.place p :: pieces) := List.prefix_append _ _
  rcases Nat.eq_zero_or_pos i with rfl | hpos
  · exact ⟨rfl, congrArg Piece.place (Placeholder.eq_of_prefix hp hq)⟩
  · have hfar : 0 + p.word.length ≤ i := hseparate p q 0 i hpos hp hq
    have hnear : i < p.word.length := hi
    omega

theorem Whole.char {c : Char} (h : Whole pieces) (hnone : ∀ p : Placeholder,
    ¬ p.word <+: c :: source pieces) : Whole (.char c :: pieces) := by
  refine whole_cons.mpr ⟨fun q i hi hq => ?_, h⟩
  obtain rfl := Nat.lt_one_iff.mp hi
  exact absurd hq (hnone q)

/-- **The whole pieces of a template are unique.** -/
theorem Whole.unique : ∀ {pieces others : List Piece}, Whole pieces → Whole others →
    source pieces = source others → pieces = others
  | [], [], _, _, _ => rfl
  | [], other :: others, _, _, h => by
      have hpos := length_text_pos other
      have hlength := congrArg List.length h
      rw [source_cons, List.length_append] at hlength
      have : (source []).length = 0 := rfl
      omega
  | piece :: pieces, [], _, _, h => by
      have hpos := length_text_pos piece
      have hlength := congrArg List.length h
      rw [source_cons, List.length_append] at hlength
      have : (source []).length = 0 := rfl
      omega
  | piece :: pieces, other :: others, hpieces, hothers, h => by
      obtain ⟨hfirst, hrest⟩ := whole_cons.mp hpieces
      obtain ⟨hother, hrest'⟩ := whole_cons.mp hothers
      have hsame : piece = other := by
        cases piece with
        | place p =>
            have hp : p.word <+: source (other :: others) := h ▸ List.prefix_append _ _
            exact (hother p 0 (length_text_pos other) hp).2.symm
        | char c =>
            cases other with
            | place q =>
                have hq : q.word <+: source (.char c :: pieces) := h ▸ List.prefix_append _ _
                exact (hfirst q 0 (length_text_pos _) hq).2
            | char d => exact congrArg Piece.char (List.cons.inj h).1
      subst hsame
      rw [source_cons, source_cons] at h
      rw [hrest.unique hrest' (List.append_cancel_left h)]

theorem Verbatim.unique {texts : Placeholder → List Char} {template script other : List Char}
    (h : Verbatim texts template script) (hother : Verbatim texts template other) :
    script = other := by
  obtain ⟨pieces, hsource, rfl, hwhole⟩ := h
  obtain ⟨others, hsource', rfl, hwhole'⟩ := hother
  rw [hwhole.unique hwhole' (hsource.trans hsource'.symm)]

end

/-! ## What the replacements find -/

section

variable {pieces : List Piece} {b d w : List Char}

/-- The template of the pieces, with another text in the places of the behavior document. -/
def halfway (b : List Char) (pieces : List Piece) : List Char :=
  fill (Function.update Placeholder.word .behavior b) pieces

theorem halfway_word (pieces : List Piece) :
    halfway Placeholder.behavior.word pieces = source pieces := by
  rw [halfway, Function.update_eq_self, source]

/-- A marker does not reach into a text between braces, so the text may as well be another one. -/
theorem prefix_halfway (hb : Braced b) (other : List Char) :
    ∀ {pieces : List Piece} {w : List Char}, (∀ c ∈ w, IsMarkerChar c) →
      w <+: halfway b pieces → w <+: halfway other pieces
  | _, [], _, _ => List.nil_prefix
  | [], _ :: _, _, h => h
  | .char c :: pieces, a :: w, hw, h => by
      obtain ⟨-, hw⟩ := List.forall_mem_cons.mp hw
      have hhead : a :: w <+: c :: halfway b pieces := h
      obtain ⟨rfl, hrest⟩ := List.cons_prefix_cons.mp hhead
      exact List.cons_prefix_cons.mpr ⟨rfl, prefix_halfway hb other hw hrest⟩
  | .place .behavior :: pieces, a :: w, hw, h => by
      obtain ⟨inner, rfl⟩ := hb
      have hbrace : a :: w <+: '\x7b' :: ((inner ++ ['\x7d']) ++ halfway _ pieces) := h
      obtain ⟨rfl, -⟩ := List.cons_prefix_cons.mp hbrace
      exact absurd (hw _ List.mem_cons_self) (by decide)
  | .place .data :: pieces, a :: w, hw, h => by
      have hdata : a :: w <+: Placeholder.data.word ++ halfway b pieces := h
      show a :: w <+: Placeholder.data.word ++ halfway other pieces
      -- The marker ends inside the placeholder, or it goes on behind it.
      rcases List.prefix_or_prefix_of_prefix hdata (List.prefix_append _ _) with hword | ⟨v, hv⟩
      · exact hword.trans (List.prefix_append _ _)
      · rw [← hv] at hdata hw ⊢
        have hrest := (List.prefix_append_right_inj _).mp hdata
        exact (List.prefix_append_right_inj _).mpr
          (prefix_halfway hb other (fun c hc => hw c (List.mem_append_right _ hc)) hrest)

/-- The pieces that the replacements find: first the places of the behavior document, then those of
the data document in what is left, both from the left. -/
def Found : List Piece → Prop
  | [] => True
  | .char c :: rest => ¬ Placeholder.behavior.word <+: c :: source rest ∧
      ¬ Placeholder.data.word <+: c :: halfway ['\x7b', '\x7d'] rest ∧ Found rest
  | .place .behavior :: rest => Found rest
  | .place .data :: rest => (∀ i < Placeholder.data.word.length,
      ¬ Placeholder.behavior.word <+: (Placeholder.data.word ++ source rest).drop i) ∧ Found rest

theorem Whole.found (h : Whole pieces) : Found pieces := by
  induction pieces with
  | nil => trivial
  | cons piece pieces ih =>
      obtain ⟨hfirst, hrest⟩ := whole_cons.mp h
      match piece with
      | .char c =>
          have hnone : ∀ p : Placeholder, ¬ p.word <+: source (.char c :: pieces) := fun p hp =>
            nomatch (hfirst p 0 Nat.one_pos hp).2
          refine ⟨hnone .behavior, fun hdata => hnone .data ?_, ih hrest⟩
          rw [← halfway_word]
          exact prefix_halfway braced_empty _ (Placeholder.marker_word .data).letters hdata
      | .place .behavior => exact ih hrest
      | .place .data => exact ⟨fun i hi hp => (nomatch (hfirst .behavior i hi hp).2), ih hrest⟩

/-- Where a marker goes past places of the behavior document, none of them begins. -/
theorem Found.not_prefix_drop : ∀ {pieces : List Piece} {w : List Char} {i : Nat}, Found pieces →
    (∀ c ∈ w, IsMarkerChar c) → w <+: halfway ['\x7b', '\x7d'] pieces → i < w.length →
      ¬ Placeholder.behavior.word <+: (source pieces).drop i
  | _, [], _, _, _, _, hi => absurd hi (Nat.not_lt_zero _)
  | [], _ :: _, _, _, _, hw, _ => absurd (List.prefix_nil.mp hw) (List.cons_ne_nil _ _)
  | .char c :: _, _ :: _, 0, h, _, _, _ => h.1
  | .char c :: pieces, a :: w, i + 1, h, hletters, hw, hi =>
      h.2.2.not_prefix_drop (List.forall_mem_cons.mp hletters).2 (List.cons_prefix_cons.mp hw).2
        (Nat.lt_of_succ_lt_succ hi)
  | .place .behavior :: pieces, a :: w, i, _, hletters, hw, _ => by
      have hbrace : a :: w <+: '\x7b' :: ('\x7d' :: halfway _ pieces) := hw
      obtain ⟨rfl, -⟩ := List.cons_prefix_cons.mp hbrace
      exact absurd (hletters _ List.mem_cons_self) (by decide)
  | .place .data :: pieces, a :: w, i, h, hletters, hw, hi => by
      rcases Nat.lt_or_ge i Placeholder.data.word.length with hnear | hfar
      · exact h.1 i hnear
      · obtain ⟨j, rfl⟩ := Nat.exists_eq_add_of_le hfar
        have hdata : a :: w <+: Placeholder.data.word ++ halfway _ pieces := hw
        obtain ⟨v, hv⟩ := List.prefix_of_prefix_length_le (List.prefix_append _ _) hdata (by omega)
        rw [← hv] at hdata hletters hi
        rw [List.length_append] at hi
        rw [source_cons, ← List.drop_drop]
        show ¬ _ <+: ((Placeholder.data.word ++ source pieces).drop _).drop j
        rw [List.drop_left]
        exact h.2.not_prefix_drop (fun c hc => hletters c (List.mem_append_right _ hc))
          ((List.prefix_append_right_inj _).mp hdata) (by omega)

/-- A data placeholder stands at the beginning of the text, and no behavior placeholder begins
inside it. -/
def BeginsData (text : List Char) : Prop :=
  Placeholder.data.word <+: text ∧
    ∀ i < Placeholder.data.word.length, ¬ Placeholder.behavior.word <+: text.drop i

theorem Found.char {c : Char} (h : Found pieces)
    (hbehavior : ¬ Placeholder.behavior.word <+: c :: source pieces)
    (hdata : ¬ BeginsData (c :: source pieces)) : Found (.char c :: pieces) := by
  have hletters := (Placeholder.marker_word .data).letters
  refine ⟨hbehavior, fun hcut => hdata ⟨?_, fun i hi => ?_⟩, h⟩
  · show _ <+: source (.char c :: pieces)
    rw [← halfway_word]
    exact prefix_halfway braced_empty _ hletters hcut
  · cases i with
    | zero => exact hbehavior
    | succ i =>
        obtain ⟨tail, htail⟩ : ∃ tail, Placeholder.data.word = '_' :: tail := ⟨_, rfl⟩
        rw [htail] at hcut hi hletters
        exact h.not_prefix_drop (List.forall_mem_cons.mp hletters).2
          (List.cons_prefix_cons.mp hcut).2 (Nat.lt_of_succ_lt_succ hi)

/-- Without overlaps, a placeholder that stands at the beginning is found there. -/
theorem Separate.not_prefix {text : List Char} (h : Separate text)
    (hbehavior : ¬ Placeholder.behavior.word <+: text) (hdata : ¬ BeginsData text) :
    ∀ p : Placeholder, ¬ p.word <+: text
  | .behavior => hbehavior
  | .data => by
      refine fun hp => hdata ⟨hp, fun i hi hoverlap => ?_⟩
      rcases Nat.eq_zero_or_pos i with rfl | hpos
      · exact hbehavior hoverlap
      · have hfar := h .data .behavior 0 i hpos hp hoverlap
        omega

/-- **Every template has pieces that are found.** They are whole if no placeholders overlap. -/
theorem exists_found : ∀ text : List Char,
    ∃ pieces, source pieces = text ∧ Found pieces ∧ (Separate text → Whole pieces) := by
  intro text
  induction hn : text.length using Nat.strongRecOn generalizing text with
  | ind n ih =>
      have hplace : ∀ (p : Placeholder) (rest : List Char), text = p.word ++ rest →
          ∃ pieces, source (.place p :: pieces) = text ∧ Found pieces ∧
            (Separate text → Whole (.place p :: pieces)) := by
        rintro p rest rfl
        have hpos := List.length_pos_of_ne_nil p.word_ne_nil
        rw [List.length_append] at hn
        obtain ⟨pieces, rfl, hfound, hwhole⟩ := ih _ (by omega) rest rfl
        refine ⟨pieces, source_cons, hfound, fun hseparate => (hwhole ?_).place hseparate⟩
        have hrest := hseparate.drop p.word.length
        rwa [List.drop_left] at hrest
      by_cases hbehavior : Placeholder.behavior.word <+: text
      · obtain ⟨rest, hrest⟩ := hbehavior
        obtain ⟨pieces, hsource, hfound, hwhole⟩ := hplace .behavior rest hrest.symm
        exact ⟨.place .behavior :: pieces, hsource, hfound, hwhole⟩
      by_cases hdata : BeginsData text
      · obtain ⟨⟨rest, hrest⟩, hclear⟩ := hdata
        obtain ⟨pieces, hsource, hfound, hwhole⟩ := hplace .data rest hrest.symm
        rw [← hsource] at hclear
        exact ⟨.place .data :: pieces, hsource, ⟨hclear, hfound⟩, hwhole⟩
      -- Neither is found: a data placeholder that a behavior document cuts into stays text.
      cases text with
      | nil => exact ⟨[], rfl, trivial, fun _ => whole_nil⟩
      | cons c rest =>
          obtain ⟨pieces, rfl, hfound, hwhole⟩ := ih _ (hn ▸ Nat.lt_succ_self _) rest rfl
          exact ⟨.char c :: pieces, source_cons, hfound.char hbehavior hdata, fun hseparate =>
            (hwhole (hseparate.drop 1)).char (hseparate.not_prefix hbehavior hdata)⟩

/-! ## The two replacements -/

/-- The first replacement puts the text into the places of the behavior document. -/
theorem replaceAll_source (b : List Char) (h : Found pieces) :
    replaceAll Placeholder.behavior.word b 0 (source pieces) = halfway b pieces := by
  induction pieces with
  | nil => rfl
  | cons piece pieces ih =>
      rw [source_cons, halfway, fill_cons, ← halfway]
      match piece with
      | .char c =>
          rw [← ih h.2.2]
          exact replaceAll_cons h.1
      | .place .behavior =>
          rw [← ih h]
          exact replaceAll_word (Placeholder.word_ne_nil .behavior) _
      | .place .data =>
          rw [← ih h.2]
          exact replaceAll_append h.1

/-- The texts that a script holds in the end: what the second replacement makes of the first text,
and the second text. -/
def scriptTexts (b d : List Char) : Placeholder → List Char
  | .behavior => replaceAll Placeholder.data.word d 0 b
  | .data => d

/-- **The second replacement works on the first text too.** -/
theorem replaceAll_halfway (hb : Braced b) (h : Found pieces) :
    replaceAll Placeholder.data.word d 0 (halfway b pieces) = fill (scriptTexts b d) pieces := by
  have hmarker := Placeholder.marker_word .data
  induction pieces with
  | nil => rfl
  | cons piece pieces ih =>
      rw [halfway, fill_cons, fill_cons, ← halfway]
      match piece with
      | .char c =>
          have hcut : Placeholder.data.word <+: halfway b (.char c :: pieces) →
              Placeholder.data.word <+: halfway ['\x7b', '\x7d'] (.char c :: pieces) :=
            prefix_halfway hb _ hmarker.letters
          have hnot : ¬ Placeholder.data.word <+: c :: halfway b pieces := mt hcut h.2.1
          rw [← ih h.2.2]
          exact replaceAll_cons hnot
      | .place .data =>
          rw [← ih h.2]
          exact replaceAll_word hmarker.ne_nil _
      | .place .behavior =>
          rw [← ih h]
          exact replaceAll_braced_append hmarker hb

end

end Template

end StoryGraph
