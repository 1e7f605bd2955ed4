import StoryGraph.Operator.Decision
import StoryGraph.Operator.Lists
import StoryGraph.Operator.Selection
import StoryGraph.Proofs.Alike
import StoryGraph.Proofs.NumericOrder
import StoryGraph.Proofs.PrintedNumerals

/-!
# Numbers and their spellings

A text that is stored as a number and that number are read alike: as numbers, as texts, as members
of a set, and wherever values are compared. As truth values they differ in one case: zero is false,
and its text, which is not empty, is true. So in lists, filters and sets each such text may stand
for its number.

Main definitions: `Interchangeable`, `Value.spell`. Main result: `numeric_texts_are_their_numbers`.
-/

namespace StoryGraph

namespace Binary64

variable {x y : Float}

theorem eq_of_orderKey (hkey : orderKey x = orderKey y) (hne : orderKey x ≠ 0) : x = y := by
  have hx := bits_lt x
  have hy := bits_lt y
  rw [orderKey_eq] at hne
  rw [orderKey_eq, orderKey_eq] at hkey
  apply eq_of_bits
  split at hkey <;> split at hkey <;> split at hne <;> omega

theorem wholePart_of_orderKey (h : orderKey x = 0) : wholePart x = (0, true) := by
  have hsignificand : significand x = 0 := by
    by_contra hne
    obtain ⟨hpos, ⟨-, hkey⟩ | ⟨-, hkey⟩⟩ := orderKey_signed (Nat.pos_of_ne_zero hne) <;> omega
  unfold wholePart
  rw [hsignificand]
  cases scale x <;> simp

end Binary64

open Binary64 (orderKey truncate isFinite)

/-! ## Numeric texts -/

section

variable {s : String} {x : Float}

theorem pureNumber?_parse (h : pureNumber? s = some x) : Binary64.parse? s = some x := by
  unfold pureNumber? at h
  split at h
  · exact nomatch h
  · split at h
    · exact (Option.filter_eq_some_iff.mp h).1
    · exact nomatch h

theorem numeralText_of_pureNumber? (h : pureNumber? s = some x) : Json.NumeralText s := by
  obtain ⟨n, hn⟩ := Value.ofFloat_number (pureNumber?_finite h)
  have htext := pureNumber?_text h
  rw [hn] at htext
  rw [← htext]
  exact Json.numeralText_numberText n

/-- **The number that a text is stored as is the number that it denotes.** -/
theorem numeral?_of_pureNumber? (h : pureNumber? s = some x) : Value.numeral? s = some x := by
  unfold Value.numeral?
  rw [Text.trim_of_numeralText (numeralText_of_pureNumber? h), pureNumber?_parse h]
  exact Option.filter_some_pos (pureNumber?_finite h)

/-- A zero has one text. Negative zero has it too, so its own text is stored as no number. -/
theorem ofFloat_of_orderKey (hkey : orderKey x = 0) (hfinite : isFinite x = true) :
    Value.ofFloat x = .ofNat 0 := by
  have hwhole := Binary64.wholePart_of_orderKey hkey
  have hintegral : Binary64.isIntegral x = true := by
    unfold Binary64.isIntegral
    rw [hfinite, hwhole]
    rfl
  have htruncate : truncate x = 0 := by
    unfold truncate
    rw [hwhole]
    split <;> rfl
  unfold Value.ofFloat
  rw [hintegral, htruncate]
  rfl

theorem pureNumber?_zero : pureNumber? "0" = some 0 := by decide +kernel

theorem orderKey_eq_zero_iff (h : pureNumber? s = some x) : orderKey x = 0 ↔ s = "0" := by
  constructor
  · intro hkey
    rw [← pureNumber?_text h, ofFloat_of_orderKey hkey (pureNumber?_finite h)]
    rfl
  · rintro rfl
    rw [pureNumber?_zero] at h
    rw [← Option.some.inj h]
    decide +kernel

theorem exists_number (h : pureNumber? s = some x) :
    ∃ n : Number, Value.ofFloat x = .number n ∧ n.toFloat = x := by
  by_cases hkey : orderKey x = 0
  · -- The only such text is that of zero.
    have hx : x = 0 := by
      rw [(orderKey_eq_zero_iff h).mp hkey, pureNumber?_zero] at h
      exact (Option.some.inj h).symm
    subst hx
    exact ⟨.int 0, ofFloat_of_orderKey hkey (by decide +kernel), by decide +kernel⟩
  unfold Value.ofFloat
  split
  · rename_i hsmall
    obtain ⟨hintegral, hbound⟩ := Bool.and_eq_true_iff.mp hsmall
    have heq := Binary64.orderKey_ofInt_truncate hintegral (by
      have := of_decide_eq_true hbound
      omega)
    exact ⟨_, rfl, Binary64.eq_of_orderKey heq (heq ▸ hkey)⟩
  · have hfinite : FiniteDouble.ofFloat? x = some ⟨x, pureNumber?_finite h⟩ :=
      FiniteDouble.ofFloat?_val ⟨x, pureNumber?_finite h⟩
    rw [hfinite]
    exact ⟨_, rfl, rfl⟩

theorem toLower_ne_of_isNumeralChar {c : Char} (h : Json.isNumeralChar c = true) :
    c.toLower ≠ 'f' := by
  unfold Json.isNumeralChar at h
  simp only [Bool.or_eq_true, decide_eq_true_eq] at h
  rcases h with ((((hdigit | rfl) | rfl) | rfl) | rfl) | rfl
  · have hrange : 48 ≤ c.toNat ∧ c.toNat ≤ 57 := Char.isDigit_iff_toNat.mp hdigit
    rw [Char.toLower_eq_of_not_isUpper]
    · rintro rfl
      exact absurd hrange.2 (by decide)
    · intro hupper
      unfold Char.isUpper at hupper
      have hlow : 65 ≤ c.toNat := (of_decide_eq_true hupper).1
      omega
  all_goals decide

namespace Value

/-! ## Readings -/

/-- Two values are read alike wherever they stand: as numbers, as texts, as members of a set, and in
the order of sorting. -/
structure Interchangeable (a b : Value) : Prop where
  toNumber : a.toNumber = b.toNumber
  number? : a.number? = b.number?
  display : a.display = b.display
  memberKey : a.memberKey = b.memberKey
  compare : a.compare b = .eq

theorem interchangeable_number {n : Number} (h : pureNumber? s = some x)
    (hn : n.toFloat = x) : Interchangeable (.text s) (.number n) := by
  have hnumeral := numeral?_of_pureNumber? h
  have hdisplay : (Value.number n).display = s := by
    rw [← pureNumber?_text h, ← hn]
    rfl
  have hnumber : (Value.number n).number? = some x := congrArg some hn
  constructor
  · show (numeral? s).getD 0 = n.toFloat
    rw [hnumeral, hn]
    rfl
  · rw [hnumber]
    exact hnumeral
  · exact hdisplay.symm
  · exact hdisplay.symm
  · unfold Value.compare
    rw [hnumber, show (Value.text s).number? = some x from hnumeral]
    exact compare_eq_iff_eq.mpr rfl

theorem isTrue_text (h : pureNumber? s = some x) : (Value.text s).isTrue = true := by
  have hchars := numeralText_of_pureNumber? h
  have hne : s.isEmpty = false := by
    rw [Bool.eq_false_iff, ne_eq, String.isEmpty_iff]
    rintro rfl
    exact nomatch h
  have hfalse : s.map Char.toLower ≠ "false" := by
    intro heq
    have hmem : 'f' ∈ s.toList.map Char.toLower := by
      rw [← String.toList_map, heq]
      decide
    obtain ⟨c, hc, hlower⟩ := List.mem_map.mp hmem
    exact toLower_ne_of_isNumeralChar (hchars c hc) hlower
  show (!s.isEmpty && s.map Char.toLower != "false") = true
  rw [hne, bne_iff_ne.mpr hfalse]
  rfl

theorem isTrue_number {n : Number} (h : pureNumber? s = some x) (hn : n.toFloat = x) :
    (Value.number n).isTrue = true ↔ s ≠ "0" := by
  rw [ne_eq, ← (orderKey_eq_zero_iff h).not, ← hn]
  show (!(orderKey n.toFloat == orderKey 0)) = true ↔ _
  rw [show orderKey 0 = 0 by decide +kernel, Bool.not_eq_true', beq_eq_false_iff_ne]

/-! ## Spelling -/

mutual

/-- Every numeric text, also in lists, becomes its number. Records stay as they are: they are read
as a whole. -/
def spell : Value → Value
  | .text s => normalText .auto s
  | .list items => .list (spellAll items)
  | value => value

def spellAll : List Value → List Value
  | [] => []
  | item :: rest => spell item :: spellAll rest

end

theorem spell_text (s : String) : (pureNumber? s = none ∧ (text s).spell = .text s) ∨
    ∃ x n, pureNumber? s = some x ∧ n.toFloat = x ∧ (text s).spell = .number n := by
  have hspell : (text s).spell = normalText .auto s := rfl
  unfold normalText at hspell
  cases h : pureNumber? s with
  | none =>
      rw [h] at hspell
      exact .inl ⟨rfl, hspell⟩
  | some x =>
      rw [h] at hspell
      obtain ⟨n, hn, hfloat⟩ := exists_number h
      exact .inr ⟨x, n, rfl, hfloat, hspell.trans hn⟩

section

variable (a b : Value)

@[simp] theorem number?_spell : a.spell.number? = a.number? := by
  cases a with
  | text s =>
      rcases spell_text s with ⟨-, heq⟩ | ⟨x, n, h, hn, heq⟩ <;> rw [heq]
      exact (interchangeable_number h hn).number?.symm
  | _ => rfl

@[simp] theorem isNull_spell : a.spell.isNull = a.isNull := by
  cases a with
  | text s =>
      rcases spell_text s with ⟨-, heq⟩ | ⟨x, n, -, -, heq⟩ <;> rw [heq]
      rfl
  | _ => rfl

end

mutual

@[simp] theorem display_spell : ∀ value : Value, value.spell.display = value.display
  | .text s => by
      rcases spell_text s with ⟨-, heq⟩ | ⟨x, n, h, hn, heq⟩ <;> rw [heq]
      exact (interchangeable_number h hn).display.symm
  | .list items => congrArg (", ".intercalate ·) (displayAll_spell items)
  | .null | .bool _ | .number _ | .record _ => rfl

theorem displayAll_spell : ∀ items : List Value, displayAll (spellAll items) = displayAll items
  | [] => rfl
  | item :: rest => by rw [spellAll, displayAll, displayAll, display_spell, displayAll_spell]

end

@[simp] theorem foldedText_spell (value : Value) : value.spell.foldedText = value.foldedText :=
  congrArg Text.lowercase (display_spell value)

/-- **A set has the same members, however they are spelled.** -/
@[simp] theorem memberKey_spell (value : Value) : value.spell.memberKey = value.memberKey := by
  cases value with
  | text s =>
      rcases spell_text s with ⟨-, heq⟩ | ⟨x, n, h, hn, heq⟩ <;> rw [heq]
      exact (interchangeable_number h hn).memberKey.symm
  | list items => exact display_spell (.list items)
  | _ => rfl

@[simp] theorem compare_spell (a b : Value) : a.spell.compare b.spell = a.compare b := by
  unfold Value.compare
  simp only [number?_spell, foldedText_spell]

/-- **A condition on a value has the same truth, however it is spelled**, but for the text of
zero. -/
theorem isTrue_spell {value : Value} (h : value ≠ .text "0") :
    value.spell.isTrue = value.isTrue := by
  cases value with
  | text s =>
      rcases spell_text s with ⟨-, heq⟩ | ⟨x, n, hs, hn, heq⟩ <;> rw [heq]
      rw [isTrue_text hs, isTrue_number hs hn]
      rintro rfl
      exact h rfl
  | list items => cases items <;> rfl
  | _ => rfl

end Value

end

namespace Comparison

open Value (spell spellAll)

variable (comparison : Comparison)

theorem holdsForSingle_spell (a b : Value) :
    comparison.holdsForSingle a.spell b.spell = comparison.holdsForSingle a b := by
  unfold holdsForSingle looselyEqual containsText order?
  simp only [Value.number?_spell, Value.isNull_spell, Value.foldedText_spell]

mutual

theorem holdsFor_spell (comparison : Comparison) (candidate : Value) : ∀ value : Value,
    comparison.holdsFor candidate.spell value.spell = comparison.holdsFor candidate value
  | .list items => by
      -- A negated comparison asks the list for the plain one.
      have hsome := fun other => holdsForSome_spell other candidate items
      show comparison.holdsFor candidate.spell (.list (spellAll items)) = _
      unfold holdsFor
      cases comparison <;> simp only [hsome]
  | .text s => by
      have hsingle := holdsForSingle_spell comparison (.text s) candidate
      rcases Value.spell_text s with ⟨-, heq⟩ | ⟨x, n, -, -, heq⟩
      · rw [heq] at hsingle ⊢
        exact hsingle
      · rw [heq] at hsingle ⊢
        exact hsingle
  | .null | .bool _ | .number _ | .record _ => holdsForSingle_spell comparison _ candidate

theorem holdsForSome_spell (comparison : Comparison) (candidate : Value) : ∀ items : List Value,
    comparison.holdsForSome candidate.spell (spellAll items) =
      comparison.holdsForSome candidate items
  | [] => rfl
  | item :: rest => by
      rw [spellAll, holdsForSome, holdsForSome, holdsFor_spell comparison candidate item,
        holdsForSome_spell comparison candidate rest]

end

/-- **A comparison does not depend on how numbers are spelled**, on either side. -/
theorem holds_spell (found : Option Value) (candidate : Value) :
    comparison.holds (found.map spell) candidate.spell = comparison.holds found candidate := by
  cases found with
  | none => rfl
  | some value => exact comparison.holdsFor_spell candidate value

end Comparison

/-! ## Properties -/

open Value (spell)

/-- Properties with their numbers spelled out, but for those that are stored as texts. -/
def Fields.spell (hint : String → StorageHint) (fields : Fields) : Fields :=
  fields.map fun (name, value) => (name, if hint name = .text then value else value.spell)

def Entry.spell (entry : Entry) : Entry :=
  { entry with properties := Fields.spell (fun _ => .auto) entry.properties }

/-- A node with the numbers in its properties spelled out, where they may be stored as numbers. -/
def GraphNode.spell (registry : Registry) (node : GraphNode) : GraphNode :=
  { node with properties := Fields.spell (storageHint registry node.type) node.properties }

def Graph.spell (registry : Registry) (graph : Graph) : Graph :=
  { graph with nodes := graph.nodes.map (GraphNode.spell registry) }

def Value.spellAttributes : Value → Value
  | .record fields => .record (Fields.spell (fun _ => .auto) fields)
  | value => value

theorem compactText_number {hint : StorageHint} (hhint : hint ≠ .text) {s : String} {x : Float}
    (h : pureNumber? s = some x) : compactText hint s = pure (.number x) := by
  unfold compactText
  rw [h]
  cases hint with
  | text => exact absurd rfl hhint
  | number | auto => rfl

mutual

/-- **Where a text may be stored as a number, it is stored as its number is.** -/
theorem compact_spell {hint : StorageHint} (hhint : hint ≠ .text) : ∀ value : Value,
    compact hint value.spell = compact hint value
  | .text s => by
      rcases Value.spell_text s with ⟨-, heq⟩ | ⟨x, n, h, hn, heq⟩ <;> rw [heq]
      show pure (.number n.toFloat) = compactText hint s
      rw [compactText_number hhint h, hn]
  | .list items => congrArg (Compact.list <$> ·) (compactAll_spell hhint items)
  | .null | .bool _ | .number _ | .record _ => rfl

theorem compactAll_spell {hint : StorageHint} (hhint : hint ≠ .text) : ∀ items : List Value,
    compactAll hint (Value.spellAll items) = compactAll hint items
  | [] => rfl
  | item :: rest => by
      rw [Value.spellAll, compactAll, compactAll, compact_spell hhint item,
        compactAll_spell hhint rest]

end

theorem compactProps_spell (hint : String → StorageHint) (label : String) (properties : Fields) :
    compactProps hint label (Fields.spell hint properties) =
      compactProps hint label properties := by
  have hproperty : ∀ property : String × Value, compactProperty hint (property.1,
      if hint property.1 = .text then property.2 else property.2.spell) =
        compactProperty hint property := by
    rintro ⟨name, value⟩
    unfold compactProperty
    dsimp only
    split
    · rfl
    · rename_i hhint
      rw [compact_spell hhint]
  unfold compactProps Fields.spell
  rw [List.mapM_map, show compactProperty hint ∘ _ = compactProperty hint from funext hproperty]

theorem Fields.erase_spell (hint : String → StorageHint) (fields : Fields) (name : String) :
    (Fields.spell hint fields).erase name = Fields.spell hint (fields.erase name) := by
  unfold Fields.spell Fields.erase
  rw [List.filter_map]
  rfl

theorem Fields.get?_spell (hint : String → StorageHint) (fields : Fields) (name : String) :
    (Fields.spell hint fields).get? name = (fields.get? name).map fun value =>
      if hint name = .text then value else value.spell :=
  lookup_map_snd (fun name (value : Value) => if hint name = .text then value else value.spell) name
    fields

theorem compileEntry_spell (entry : Entry) : compileEntry entry.spell = compileEntry entry := by
  unfold compileEntry Entry.spell
  dsimp only
  rw [Fields.erase_spell, Fields.erase_spell, compactProps_spell]

theorem compileNode_spell (registry : Registry) (node : GraphNode) :
    compileNode registry (node.spell registry) = compileNode registry node := by
  unfold compileNode GraphNode.spell
  dsimp only
  rw [Fields.erase_spell, compactProps_spell]

/-- **Entries are compiled to the same document, however their numbers are spelled.** -/
theorem compileEntries_spell (entries : List Entry) :
    compileEntries (entries.map Entry.spell) = compileEntries entries := by
  unfold compileEntries
  rw [List.mapM_map, show compileEntry ∘ Entry.spell = compileEntry from
    funext compileEntry_spell]

theorem compileGraph_spell (registry : Registry) (graph : Graph) :
    compileGraph registry (graph.spell registry) = compileGraph registry graph := by
  unfold compileGraph Graph.spell
  dsimp only
  rw [List.foldl_map]
  have hnode : ∀ state node, Compilation.addNode registry state (node.spell registry) =
      Compilation.addNode registry state node := by
    intro state node
    unfold Compilation.addNode
    rw [compileNode_spell]
    rfl
  simp only [hnode]

/-! ## Operators -/

namespace Operator

open Value (spellAttributes)

theorem attribute?_eq (item : Value) (name : String) :
    item.attribute? name = (item.get? name).filter fun value => !value.isNull := by
  unfold Value.attribute?
  cases item.get? name with
  | none => rfl
  | some value => cases value <;> rfl

theorem attribute?_spellAttributes (item : Value) (name : String) :
    item.spellAttributes.attribute? name = (item.attribute? name).map spell := by
  have hget : item.spellAttributes.get? name = (item.get? name).map spell := by
    cases item with
    | record fields => exact Fields.get?_spell (fun _ => .auto) fields name
    | _ => rfl
  rw [attribute?_eq, attribute?_eq, hget]
  cases item.get? name with
  | none => rfl
  | some value => cases h : value.isNull <;> simp [Option.filter, h]

theorem compareBy_spellAttributes (name : String) (a b : Value) :
    compareBy (some name) a.spellAttributes b.spellAttributes = compareBy (some name) a b := by
  unfold compareBy sortKey?
  dsimp only
  rw [attribute?_spellAttributes, attribute?_spellAttributes]
  cases a.attribute? name <;> cases b.attribute? name <;> simp

/-- **Sorting by an attribute puts the items in the same order, however it is spelled.** -/
theorem sortBy_spellAttributes (name : String) (items : List Value) :
    sortBy (some name) (items.map spellAttributes) =
      (sortBy (some name) items).map spellAttributes := by
  unfold sortBy
  refine (List.map_mergeSort fun a _ b _ => ?_).symm
  rw [compareBy_spellAttributes]

theorem sortBy_spell (items : List Value) :
    sortBy none (items.map spell) = (sortBy none items).map spell := by
  unfold sortBy
  refine (List.map_mergeSort fun a _ b _ => ?_).symm
  show ((a.compare b) != .gt) = ((a.spell.compare b.spell) != .gt)
  rw [Value.compare_spell]

theorem splitByAttribute_spell (comparison : Comparison) (name : String) (requireAll : Bool)
    (candidates entries : List Value) :
    splitByAttribute comparison name requireAll (candidates.map spell)
        (entries.map spellAttributes) =
      (splitByAttribute comparison name requireAll candidates entries).map
        (List.map spellAttributes) (List.map spellAttributes) := by
  unfold splitByAttribute
  simp only [List.partition_eq_filter_filter, List.filter_map, List.all_map, List.any_map,
    attribute?_spellAttributes, Prod.map, Function.comp_def, Comparison.holds_spell]

/-- **A relation between sets does not depend on how their members are spelled.** -/
theorem setRelation_spell (relation : SetRelation) (a b : List Value) :
    relation.holds ((a.map spell).map Value.memberKey) ((b.map spell).map Value.memberKey) =
      relation.holds (a.map Value.memberKey) (b.map Value.memberKey) := by
  simp only [List.map_map, Function.comp_def, Value.memberKey_spell]

end Operator

/-! ## Texts and their numbers -/

open Operator (sortBy splitByAttribute SetRelation)

/-- A text spells a number: wherever it may be stored as a number it is stored as this one, and
the two are read alike. Only as truth values may they differ: the text of zero is true, since it is
not empty. -/
structure Number.SpelledBy (n : Number) (s : String) : Prop where
  stored : ∀ hint, hint ≠ .text → ∀ t : StringTable,
    compact hint (.text s) t = (.number n.toFloat, t)
  comesBack : ∀ table, (Compact.number n.toFloat).decompress table = .number n
  alike : Value.Interchangeable (.text s) (.number n)
  truth : (Value.text s).isTrue = (Value.number n).isTrue ↔ s ≠ "0"

theorem exists_spelledBy {s : String} {x : Float} (h : pureNumber? s = some x) :
    ∃ n : Number, n.toFloat = x ∧ n.SpelledBy s := by
  obtain ⟨n, hn, hfloat⟩ := exists_number h
  refine ⟨n, hfloat, fun hint hhint t => ?_, fun table => ?_, ?_, ?_⟩
  · show compactText hint s t = _
    rw [compactText_number hhint h, hfloat]
    rfl
  · show Value.ofFloat n.toFloat = .number n
    rw [hfloat, hn]
  · exact Value.interchangeable_number h hfloat
  · rw [Value.isTrue_text h, eq_comm]
    exact Value.isTrue_number h hfloat

/-- **Numeric texts are their numbers.** A text that counts as a number is stored as it and is read
as it, but for the truth of the text of zero. So entries and graphs are compiled alike, however
their numbers are spelled, and of values that are kept as they are spelled, conditions, filters,
sets and sorting cannot tell the spellings apart. -/
theorem numeric_texts_are_their_numbers :
    (∀ s x, pureNumber? s = some x → ∃ n : Number, n.toFloat = x ∧ n.SpelledBy s) ∧
    (∀ entries, compileEntries (entries.map Entry.spell) = compileEntries entries) ∧
    (∀ registry graph, compileGraph registry (graph.spell registry) =
      compileGraph registry graph) ∧
    (∀ value : Value, value ≠ .text "0" → value.spell.isTrue = value.isTrue) ∧
    (∀ (comparison : Comparison) (found : Option Value) (candidate : Value),
      comparison.holds (found.map spell) candidate.spell = comparison.holds found candidate) ∧
    (∀ (comparison : Comparison) (name : String) (requireAll : Bool)
        (candidates entries : List Value),
      splitByAttribute comparison name requireAll (candidates.map spell)
          (entries.map Value.spellAttributes) =
        (splitByAttribute comparison name requireAll candidates entries).map
          (List.map Value.spellAttributes) (List.map Value.spellAttributes)) ∧
    (∀ (relation : SetRelation) (a b : List Value),
      relation.holds ((a.map spell).map Value.memberKey) ((b.map spell).map Value.memberKey) =
        relation.holds (a.map Value.memberKey) (b.map Value.memberKey)) ∧
    (∀ (name : String) (items : List Value),
      sortBy (some name) (items.map Value.spellAttributes) =
        (sortBy (some name) items).map Value.spellAttributes) ∧
    ∀ items : List Value, sortBy none (items.map spell) = (sortBy none items).map spell :=
  ⟨fun _ _ => exists_spelledBy, compileEntries_spell, compileGraph_spell,
    fun _ => Value.isTrue_spell, Comparison.holds_spell, Operator.splitByAttribute_spell,
    Operator.setRelation_spell, Operator.sortBy_spellAttributes, Operator.sortBy_spell⟩

/-- A negative fraction is spelled by its text, and a text of five is as true as the number. -/
theorem fraction_is_spelled : (∃ n : Number, n.SpelledBy "-0.5") ∧
    (spell (.text "5")).isTrue = (Value.text "5").isTrue := by
  obtain ⟨hnumbers, -, -, htruth, -⟩ := numeric_texts_are_their_numbers
  obtain ⟨x, hx⟩ : ∃ x, pureNumber? "-0.5" = some x :=
    Option.isSome_iff_exists.mp (by decide +kernel)
  obtain ⟨n, -, hn⟩ := hnumbers "-0.5" x hx
  exact ⟨⟨n, hn⟩, htruth (.text "5") (by simp)⟩

/-- The text of zero is true and its number is false. -/
theorem zero_text_is_true : pureNumber? "0" = some 0 ∧ Value.ofFloat 0 = .ofNat 0 ∧
    (Value.text "0").isTrue = true ∧ (Value.ofNat 0).isTrue = false := by
  exact ⟨pureNumber?_zero, ofFloat_of_orderKey (by decide +kernel) (by decide +kernel),
    by decide +kernel, by decide +kernel⟩

end StoryGraph
