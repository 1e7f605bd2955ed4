import Mathlib.Data.List.Infix
import Mathlib.Tactic.Tauto
import StoryGraph.Proofs.Documents

/-!
# Markers in printed texts

A marker is a word of capital letters and underscores. Brackets, numerals, names and escapes have no
such characters or at least no underscore, so a marker is in the text of a behavior document exactly
where one of the document's own texts has it.

Main definitions: `Marker`, `Value.texts`, `BehaviorDocument.texts`.
-/

namespace StoryGraph

/-! ## Words in a text -/

variable {w x y : List Char} {c : Char}

theorem prefix_append_cons (hc : c ∉ w) : w <+: x ++ c :: y ↔ w <+: x := by
  constructor
  · intro h
    rcases List.prefix_or_prefix_of_prefix h (List.prefix_append x (c :: y)) with hx | ⟨t, rfl⟩
    · exact hx
    · have ht := (List.prefix_append_right_inj x).mp h
      cases t with
      | nil => exact ⟨[], by simp⟩
      | cons d t =>
          obtain ⟨rfl, -⟩ := List.cons_prefix_cons.mp ht
          exact absurd (List.mem_append_right x List.mem_cons_self) hc
  · exact fun h => h.trans (List.prefix_append x (c :: y))

theorem infix_append_cons (hne : w ≠ []) (hc : c ∉ w) :
    w <:+: x ++ c :: y ↔ w <:+: x ∨ w <:+: y := by
  induction x with
  | nil =>
      have hbegins : ¬ w <+: c :: y := fun h =>
        hne (List.prefix_nil.mp ((prefix_append_cons hc (x := [])).mp h))
      rw [List.nil_append, List.infix_cons_iff, List.infix_nil]
      exact or_congr (iff_of_false hbegins hne) Iff.rfl
  | cons d x ih =>
      rw [List.cons_append, List.infix_cons_iff, List.infix_cons_iff, ih, ← List.cons_append,
        prefix_append_cons hc, or_assoc]

def IsMarkerChar (c : Char) : Prop := c = '_' ∨ c.isUpper = true

instance (c : Char) : Decidable (IsMarkerChar c) := inferInstanceAs (Decidable (_ ∨ _))

/-- Decided along the text, not over all characters. -/
instance decidableForallChar {P : Char → Prop} [DecidablePred P] (text : List Char) :
    Decidable (∀ c ∈ text, P c) := List.decidableBAll P text

/-- A word of capital letters and underscores, with one underscore at least. -/
structure Marker (w : List Char) : Prop where
  underscore : '_' ∈ w
  letters : ∀ c ∈ w, IsMarkerChar c

namespace Marker

theorem ne_nil (h : Marker w) : w ≠ [] := List.ne_nil_of_mem h.underscore

theorem not_mem (h : Marker w) (hc : ¬ IsMarkerChar c) : c ∉ w :=
  fun hmem => hc (h.letters c hmem)

theorem infix_append_cons (h : Marker w) (hc : ¬ IsMarkerChar c) :
    w <:+: x ++ c :: y ↔ w <:+: x ∨ w <:+: y :=
  StoryGraph.infix_append_cons h.ne_nil (h.not_mem hc)

theorem infix_cons (h : Marker w) (hc : ¬ IsMarkerChar c) : w <:+: c :: y ↔ w <:+: y := by
  have hcons := h.infix_append_cons (x := []) (y := y) hc
  rwa [List.nil_append, List.infix_nil, or_iff_right h.ne_nil] at hcons

theorem infix_append (h : Marker w) (hx : ∀ c ∈ x, ¬ IsMarkerChar c) :
    w <:+: x ++ y ↔ w <:+: y := by
  induction x with
  | nil => rfl
  | cons c x ih =>
      obtain ⟨hc, hx⟩ := List.forall_mem_cons.mp hx
      rw [List.cons_append, h.infix_cons hc, ih hx]

end Marker

/-! ## Quoted texts -/

namespace Json

/-- A character of a marker stands for itself; what stands for another one has none. -/
theorem escapeChar_marker (c : Char) : (escapeChar c).toList = [c] ∨
    (¬ IsMarkerChar c ∧ ∀ d ∈ (escapeChar c).toList, ¬ IsMarkerChar d) ∧
      (escapeChar c).toList ≠ [] := by
  have hc := Char.ofNat_toNat c
  have hdigit : ∀ d < 16, ¬ IsMarkerChar (Nat.digitChar d) := by decide
  unfold escapeChar
  split_ifs with hquote hslash hline htab hreturn hback hfeed hcontrol
  · exact .inr (hquote ▸ by decide)
  · exact .inr (hslash ▸ by decide)
  · exact .inr (hline ▸ by decide)
  · exact .inr (htab ▸ by decide)
  · exact .inr (hreturn ▸ by decide)
  · rw [← hc, hback]
    exact .inr (by decide)
  · rw [← hc, hfeed]
    exact .inr (by decide)
  · right
    have hpair : ∀ d ∈ (hexPair c.toNat).toList, ¬ IsMarkerChar d := by
      unfold hexPair
      rw [String.toList_ofList]
      exact List.forall_mem_cons.mpr ⟨hdigit _ (by omega),
        List.forall_mem_singleton.mpr (hdigit _ (by omega))⟩
    rw [String.toList_append]
    refine ⟨⟨?_, List.forall_mem_append.mpr ⟨by decide, hpair⟩⟩, by simp⟩
    rintro (rfl | hupper)
    · exact absurd hcontrol (by decide)
    · have hlarge : 65 ≤ c.toNat := UInt32.le_iff_toNat_le.mp (of_decide_eq_true hupper).1
      omega
  · exact .inl (String.toList_singleton c)

theorem prefix_escaped (cs : List Char) : ∀ {w : List Char}, (∀ c ∈ w, IsMarkerChar c) →
    (w <+: (cs.flatMap fun c => (escapeChar c).toList) ↔ w <+: cs) := by
  induction cs with
  | nil => exact fun _ => Iff.rfl
  | cons c rest ih =>
      intro w hw
      cases w with
      | nil => exact iff_of_true List.nil_prefix List.nil_prefix
      | cons a w =>
          obtain ⟨ha, hw⟩ := List.forall_mem_cons.mp hw
          rw [List.flatMap_cons]
          rcases escapeChar_marker c with hsame | ⟨⟨hc, hother⟩, hne⟩
          · rw [hsame, List.singleton_append, List.cons_prefix_cons, List.cons_prefix_cons, ih hw]
          · obtain ⟨d, ds, hds⟩ := List.exists_cons_of_ne_nil hne
            rw [hds] at hother ⊢
            rw [List.cons_append, List.cons_prefix_cons, List.cons_prefix_cons]
            refine iff_of_false (fun h => ?_) fun h => hc (h.1 ▸ ha)
            exact hother d List.mem_cons_self (h.1 ▸ ha)

theorem infix_escaped (h : Marker w) (cs : List Char) :
    w <:+: (cs.flatMap fun c => (escapeChar c).toList) ↔ w <:+: cs := by
  induction cs with
  | nil => exact Iff.rfl
  | cons c rest ih =>
      have hbegins := prefix_escaped (c :: rest) h.letters
      rw [List.flatMap_cons] at hbegins ⊢
      rcases escapeChar_marker c with hsame | ⟨⟨hc, hother⟩, -⟩
      · rw [hsame, List.singleton_append] at hbegins ⊢
        rw [List.infix_cons_iff, List.infix_cons_iff, hbegins, ih]
      · rw [h.infix_append hother, ih, h.infix_cons hc]

/-- **A marker is in a quoted text where it is in the text.** -/
theorem infix_quote (h : Marker w) (s : String) : w <:+: (quote s).toList ↔ w <:+: s.toList := by
  have hquote : ¬ IsMarkerChar '"' := by decide
  rw [toList_quote, List.cons_append, h.infix_cons hquote, h.infix_append_cons hquote,
    List.infix_nil, or_iff_left h.ne_nil, infix_escaped h]

/-! ## Printed values -/

theorem not_infix_of_numeralText (h : Marker w) {s : String} (hs : NumeralText s) :
    ¬ w <:+: s.toList :=
  fun hmarked => absurd (hs '_' (hmarked.subset h.underscore)) (by decide)

theorem laterParts_eq (h : Marker w) (hc : ¬ IsMarkerChar c) (parts : List String) :
    ∃ mark rest, laterParts [c] parts = mark :: rest ∧ ¬ IsMarkerChar mark ∧
      (w <:+: rest ↔ ∃ part ∈ parts, w <:+: part.toList) := by
  induction parts with
  | nil => exact ⟨c, [], rfl, hc, by simpa using h.ne_nil⟩
  | cons part parts ih =>
      obtain ⟨mark, rest, hrest, hmark, hiff⟩ := ih
      refine ⟨',', _, rfl, by decide, ?_⟩
      rw [hrest, h.infix_append_cons hmark, hiff, List.exists_mem_cons_iff]

theorem infix_firstPart (h : Marker w) (hc : ¬ IsMarkerChar c) (parts : List String) :
    w <:+: firstPart [c] parts ↔ ∃ part ∈ parts, w <:+: part.toList := by
  cases parts with
  | nil =>
      rw [firstPart, h.infix_cons hc, List.infix_nil]
      simpa using h.ne_nil
  | cons part parts =>
      obtain ⟨mark, rest, hrest, hmark, hiff⟩ := laterParts_eq h hc parts
      rw [firstPart, hrest, h.infix_append_cons hmark, hiff, List.exists_mem_cons_iff]

end Json

namespace Value

mutual

def texts : Value → List String
  | .text s => [s]
  | .list items => textsOfAll items
  | .record fields => textsOfFields fields
  | _ => []

def textsOfAll : List Value → List String
  | [] => []
  | item :: rest => texts item ++ textsOfAll rest

def textsOfFields : List (String × Value) → List String
  | [] => []
  | (name, value) :: rest => name :: (texts value ++ textsOfFields rest)

end

theorem mem_textsOfAll {items : List Value} {s : String} :
    s ∈ textsOfAll items ↔ ∃ item ∈ items, s ∈ item.texts := by
  induction items with
  | nil => exact iff_of_false List.not_mem_nil (by simp)
  | cons item rest ih => rw [textsOfAll, List.mem_append, ih, List.exists_mem_cons_iff]

theorem texts_list_text (strings : List String) : (list (strings.map text)).texts = strings := by
  show textsOfAll _ = _
  induction strings with
  | nil => rfl
  | cons s rest ih =>
      rw [List.map_cons, textsOfAll, ih]
      rfl

end Value

namespace Json

mutual

/-- **A marker is in the text of a value where it is in a text of the value.** -/
theorem infix_print (h : Marker w) : ∀ value : Value,
    w <:+: (print value).toList ↔ ∃ s ∈ value.texts, w <:+: s.toList
  | .null => iff_of_false (fun hmarked => absurd (hmarked.subset h.underscore) (by decide))
      (by simp [Value.texts])
  | .bool b => by
      refine iff_of_false (fun hmarked => absurd (hmarked.subset h.underscore) ?_)
        (by simp [Value.texts])
      cases b <;> decide
  | .number n => iff_of_false (not_infix_of_numeralText h (numeralText_numberText n))
      (by simp [Value.texts])
  | .text s => by
      rw [print, infix_quote h, Value.texts, List.exists_mem_cons_iff]
      simp
  | .list items => by
      rw [print, toList_bracketed]
      show w <:+: '[' :: firstPart [']'] (printItems items) ↔ _
      rw [h.infix_cons (by decide), infix_firstPart h (by decide), infix_printItems h items]
      rfl
  | .record fields => by
      rw [print, toList_bracketed]
      show w <:+: '\x7b' :: firstPart ['\x7d'] (printFields fields) ↔ _
      rw [h.infix_cons (by decide), infix_firstPart h (by decide), infix_printFields h fields]
      rfl

theorem infix_printItems (h : Marker w) : ∀ items : List Value,
    (∃ part ∈ printItems items, w <:+: part.toList) ↔
      ∃ s ∈ Value.textsOfAll items, w <:+: s.toList
  | [] => Iff.rfl
  | item :: rest => by
      rw [printItems, List.exists_mem_cons_iff, infix_print h item, infix_printItems h rest,
        Value.textsOfAll]
      simp only [List.mem_append, or_and_right, exists_or]

theorem infix_printFields (h : Marker w) : ∀ fields : List (String × Value),
    (∃ part ∈ printFields fields, w <:+: part.toList) ↔
      ∃ s ∈ Value.textsOfFields fields, w <:+: s.toList
  | [] => Iff.rfl
  | (name, value) :: rest => by
      rw [printFields, List.exists_mem_cons_iff, infix_printFields h rest, Value.textsOfFields,
        List.exists_mem_cons_iff, String.toList_append, String.toList_append, List.append_assoc]
      show w <:+: (quote name).toList ++ ':' :: (print value).toList ∨ _ ↔ _
      rw [h.infix_append_cons (by decide), infix_quote h, infix_print h value, or_assoc]
      simp only [List.mem_append, or_and_right, exists_or]

end

end Json

/-! ## Documents -/

namespace Compact

mutual

theorem texts_encode : ∀ stored : Compact, ∀ s ∈ stored.encode.texts, s ∈ ["n", "t", "v"]
  | .null, _, h => absurd h List.not_mem_nil
  | .bool _, _, h => absurd h List.not_mem_nil
  | .number x, s, h => by
      rw [encode] at h
      split at h <;> exact absurd h List.not_mem_nil
  | .string _, _, h => absurd h List.not_mem_nil
  | .list items, s, h => texts_encodeAll items s h
  | .attribute name kind value, s, h => by
      have hnames : s ∈ "n" :: ([] ++ "t" :: ([] ++ "v" :: (value.encode.texts ++ []))) := h
      have hvalue := texts_encode value s
      simp only [List.nil_append, List.append_nil, List.mem_cons, List.not_mem_nil, or_false]
        at hnames hvalue ⊢
      tauto

theorem texts_encodeAll : ∀ items : List Compact,
    ∀ s ∈ Value.textsOfAll (encodeAll items), s ∈ ["n", "t", "v"]
  | [], _, h => absurd h List.not_mem_nil
  | item :: rest, s, h => by
      rcases List.mem_append.mp h with h | h
      · exact texts_encode item s h
      · exact texts_encodeAll rest s h

end

end Compact

namespace BehaviorDocument

/-- The texts of the document: its version, its string table and the ids of its nodes. -/
def texts (document : BehaviorDocument) : List String :=
  document.version :: (document.strings.strings ++ document.nodeIds)

theorem texts_nodeToValue (node : CompactNode) :
    ∀ s ∈ (nodeToValue node).texts, s ∈ ["n", "t", "v"] := by
  intro s hs
  obtain ⟨item, hitem, hs⟩ := Value.mem_textsOfAll.mp hs
  simp only [List.mem_cons, List.not_mem_nil, or_false] at hitem
  rcases hitem with rfl | rfl
  · exact absurd hs List.not_mem_nil
  · obtain ⟨item, hitem, hs⟩ := Value.mem_textsOfAll.mp hs
    obtain ⟨pair, -, rfl | rfl⟩ := Props.mem_encode hitem
    · exact absurd hs List.not_mem_nil
    · exact Compact.texts_encode pair.2 s hs

theorem mem_texts_members (document : BehaviorDocument) (s : String) :
    s ∈ (Value.record document.members).texts ↔ s ∈ document.texts ∨ s ∈ ["v", "s", "i", "n", "e"] ∨
      s ∈ Value.textsOfAll (document.nodes.map nodeToValue) := by
  have hedges : Value.textsOfAll (document.edges.map edgeToValue) = [] := by
    rw [List.eq_nil_iff_forall_not_mem]
    intro s hs
    obtain ⟨item, hitem, hs⟩ := Value.mem_textsOfAll.mp hs
    obtain ⟨edge, -, rfl⟩ := List.mem_map.mp hitem
    exact absurd hs List.not_mem_nil
  have hmembers : (Value.record document.members).texts =
      "v" :: ([document.version] ++
        "s" :: ((Value.list (document.strings.strings.map .text)).texts ++
          "i" :: ((Value.list (document.nodeIds.map .text)).texts ++
            "n" :: (Value.textsOfAll (document.nodes.map nodeToValue) ++
              "e" :: (Value.textsOfAll (document.edges.map edgeToValue) ++ []))))) := rfl
  rw [hmembers, Value.texts_list_text, Value.texts_list_text, hedges, texts]
  simp only [List.mem_cons, List.mem_append, List.not_mem_nil, or_false]
  tauto

/-- **A marker is in the text of a document where it is in a text of the document.** The names in it
have no underscore. -/
theorem infix_toJson (h : Marker w) (document : BehaviorDocument) :
    w <:+: document.toJson.toList ↔ ∃ s ∈ document.texts, w <:+: s.toList := by
  have hnames : ∀ s ∈ ["v", "s", "i", "n", "e", "t"], '_' ∉ s.toList := by decide
  rw [toJson_eq_print, Json.infix_print h]
  constructor
  · rintro ⟨s, hs, hmarked⟩
    have hunderscore := hmarked.subset h.underscore
    rcases (mem_texts_members document s).mp hs with hs | hs | hs
    · exact ⟨s, hs, hmarked⟩
    · exact absurd hunderscore (hnames s (List.mem_append_left ["t"] hs))
    · obtain ⟨item, hitem, hs⟩ := Value.mem_textsOfAll.mp hs
      obtain ⟨node, -, rfl⟩ := List.mem_map.mp hitem
      have hname := texts_nodeToValue node s hs
      refine absurd hunderscore (hnames s ?_)
      simp only [List.mem_cons, List.not_mem_nil, or_false] at hname ⊢
      tauto
  · rintro ⟨s, hs, hmarked⟩
    exact ⟨s, (mem_texts_members document s).mpr (.inl hs), hmarked⟩

end BehaviorDocument

end StoryGraph
