import Mathlib.Data.List.Induction
import StoryGraph.Proofs.Documents

/-!
# What the wire keeps

The look-up of a string table is not written; the one that is built anew finds the same positions.
Values, property lists, edges and tables come back as they were, and so do nodes and documents whose
numbers are read back and whose values are not nested too deep for a text. That their numbers are
finite is not enough.

Main definition: `IndexedTable`. Main statement: `wire_is_lossless`.
-/

namespace StoryGraph

/-! ## Look-ups -/

/-- A string table with the look-up that is kept beside its strings. -/
structure IndexedTable where
  table : StringTable
  positions : List (String × Ref)

namespace IndexedTable

variable {indexed : IndexedTable}

def note (positions : List (String × Ref)) (entry : String × Nat) : List (String × Ref) :=
  if (positions.lookup entry.1).isSome then positions
  else positions ++ [(entry.1, UInt32.ofNat entry.2)]

/-- The table of strings that were read, with its look-up built anew. -/
def ofStrings (strings : List String) : IndexedTable := ⟨⟨strings⟩, strings.zipIdx.foldl note []⟩

def intern (indexed : IndexedTable) (s : String) : IndexedTable :=
  match indexed.positions.lookup s with
  | some _ => indexed
  | none => ⟨⟨indexed.table.strings ++ [s]⟩,
      indexed.positions ++ [(s, UInt32.ofNat indexed.table.size)]⟩

def Agrees (indexed : IndexedTable) : Prop :=
  ∀ s, indexed.positions.lookup s = indexed.table.indexOf? s

theorem lookup_append_singleton {positions : List (String × Ref)} {s other : String} {ref : Ref} :
    (positions ++ [(s, ref)]).lookup other =
      (positions.lookup other).or (if other = s then some ref else none) := by
  rw [List.lookup_append, List.lookup_cons]
  by_cases h : other = s
  · rw [if_pos h, beq_iff_eq.mpr h]
  · rw [if_neg h, beq_false_of_ne h]
    rfl

theorem indexOf?_append (strings : List String) (s other : String) :
    StringTable.indexOf? ⟨strings ++ [s]⟩ other = (StringTable.indexOf? ⟨strings⟩ other).or
      (if other = s then some (UInt32.ofNat strings.length) else none) := by
  unfold StringTable.indexOf?
  rw [List.findIdx?_append]
  by_cases h : other = s
  · subst h
    cases List.findIdx? (· == other) strings <;> simp
  · have hne : (s == other) = false := beq_false_of_ne (Ne.symm h)
    simp [hne, h]

theorem Agrees.note {strings : List String} {positions : List (String × Ref)}
    (h : Agrees ⟨⟨strings⟩, positions⟩) (s : String) :
    Agrees ⟨⟨strings ++ [s]⟩, IndexedTable.note positions (s, strings.length)⟩ := by
  intro other
  show (IndexedTable.note _ _).lookup other = StringTable.indexOf? ⟨strings ++ [s]⟩ other
  rw [indexOf?_append, ← h other]
  unfold IndexedTable.note
  dsimp only
  by_cases hs : (positions.lookup s).isSome = true
  · rw [if_pos hs]
    by_cases heq : other = s
    · obtain ⟨ref, href⟩ := Option.isSome_iff_exists.mp hs
      rw [heq, href, Option.some_or]
    · rw [if_neg heq, Option.or_none]
  · rw [if_neg hs, lookup_append_singleton]

theorem ofStrings_concat (strings : List String) (s : String) : ofStrings (strings ++ [s]) =
    ⟨⟨strings ++ [s]⟩, note (ofStrings strings).positions (s, strings.length)⟩ := by
  unfold ofStrings
  rw [List.zipIdx_append, List.foldl_append, Nat.zero_add]
  rfl

theorem ofStrings_agrees (strings : List String) : (ofStrings strings).Agrees := by
  induction strings using List.reverseRecOn with
  | nil => exact fun _ => rfl
  | append_singleton strings s ih =>
      rw [ofStrings_concat]
      exact Agrees.note ih s

theorem Agrees.intern (h : indexed.Agrees) (s : String) : (indexed.intern s).Agrees := by
  have hnote := Agrees.note h s
  unfold IndexedTable.note at hnote
  unfold IndexedTable.intern
  cases hs : indexed.positions.lookup s with
  | some ref => exact h
  | none =>
      dsimp only at hnote
      rw [hs] at hnote
      exact hnote

theorem Agrees.intern_table (h : indexed.Agrees) (s : String) :
    (indexed.intern s).table = (StringTable.intern s indexed.table).2 := by
  have hs := h s
  unfold IndexedTable.intern StringTable.intern
  cases hlookup : indexed.positions.lookup s <;> rw [hlookup] at hs <;> rw [← hs]

theorem Agrees.foldl_intern (h : indexed.Agrees) (texts : List String) :
    (texts.foldl IndexedTable.intern indexed).Agrees ∧
      (texts.foldl IndexedTable.intern indexed).table =
        texts.foldl (fun table s => (StringTable.intern s table).2) indexed.table := by
  induction texts generalizing indexed with
  | nil => exact ⟨h, rfl⟩
  | cons s rest ih =>
      rw [List.foldl_cons, List.foldl_cons, ← h.intern_table s]
      exact ih (h.intern s)

/-- **A look-up that is built anew finds what the one before it found.** -/
theorem Agrees.ofStrings_lookup (h : indexed.Agrees) (s : String) :
    (ofStrings indexed.table.strings).positions.lookup s = indexed.positions.lookup s :=
  (ofStrings_agrees _ s).trans (h s).symm

end IndexedTable

/-! ## The whole wire -/

def feather : BehaviorDocument where
  strings := ⟨["feather", "weight"]⟩
  nodeIds := ["feather"]
  nodes := [⟨0, ⟨[(1, .number Json.misread.val)]⟩⟩]

def nested : Nat → Compact
  | 0 => .null
  | depth + 1 => .list [nested depth]

theorem numbers_nested (depth : Nat) : (nested depth).numbers = [] := by
  induction depth with
  | zero => rfl
  | succ depth ih =>
      show (nested depth).numbers ++ [] = []
      rw [ih, List.append_nil]

theorem refs_nested (depth : Nat) : (nested depth).refs = [] := by
  induction depth with
  | zero => rfl
  | succ depth ih =>
      show (nested depth).refs ++ [] = []
      rw [ih, List.append_nil]

theorem depth_nested (depth : Nat) : (nested depth).encode.depth = depth := by
  induction depth with
  | zero => rfl
  | succ depth ih =>
      show max (nested depth).encode.depth 0 + 1 = depth + 1
      rw [ih, Nat.max_zero]

def matryoshka (depth : Nat) : BehaviorDocument where
  strings := ⟨["doll", "inside"]⟩
  nodeIds := ["doll"]
  nodes := [⟨0, ⟨[(1, nested depth)]⟩⟩]

theorem matryoshka_allFinite (depth : Nat) : (matryoshka depth).AllFinite := by
  intro node hnode pair hpair x hx
  obtain rfl := List.mem_singleton.mp hnode
  obtain rfl := List.mem_singleton.mp hpair
  rw [numbers_nested] at hx
  exact absurd hx List.not_mem_nil

theorem validate_matryoshka (depth : Nat) : (matryoshka depth).validate = .ok () := by
  have hrefs : Props.refs ⟨[(1, nested depth)]⟩ = [1] := by
    show (1 :: (nested depth).refs) ++ [] = [1]
    rw [refs_nested]
    rfl
  have hprops : Props.validate (matryoshka depth).strings ⟨[(1, nested depth)]⟩ = .ok () := by
    rw [Props.validate, hrefs]
    rfl
  show (do
    Props.validate (matryoshka depth).strings ⟨[(1, nested depth)]⟩
    pure ()) = .ok ()
  rw [hprops]
  rfl

theorem le_of_matryoshka_within {depth room : Nat} (h : (matryoshka depth).Within room) :
    depth ≤ room := by
  have hdepth := h _ (List.mem_singleton.mpr rfl) (nested depth).encode
    (List.mem_cons_of_mem _ List.mem_cons_self)
  rwa [depth_nested] at hdepth

/-- **Finite numbers are not enough.** Valid documents with finite numbers only may come back as
others, or not at all. -/
theorem finite_documents_get_lost :
    (feather.AllFinite ∧ feather.validate = .ok () ∧
      BehaviorDocument.ofJson feather.toJson ≠ .ok feather) ∧
    (matryoshka 124).AllFinite ∧ (matryoshka 124).validate = .ok () ∧
      ∀ read, BehaviorDocument.ofJson (matryoshka 124).toJson ≠ .ok read := by
  refine ⟨⟨by decide +kernel, rfl, fun h => ?_⟩, matryoshka_allFinite 124,
    validate_matryoshka 124, fun read h => ?_⟩
  · obtain ⟨-, hread, -⟩ := BehaviorDocument.ofJson_toJson.mp h
    obtain ⟨y, hy, hback⟩ := BehaviorDocument.reread?_eq_self.mp hread _ (List.mem_singleton.mpr rfl)
      _ (List.mem_singleton.mpr rfl) _ (List.mem_singleton.mpr rfl)
    obtain rfl : y = Json.misread := by
      cases y
      cases hy
      rfl
    exact Json.misread_not_readsBack hback
  · exact absurd (le_of_matryoshka_within (BehaviorDocument.ofJson_toJson.mp h).1) (by decide)

/-- **What is written comes back.** Values and property lists with finite numbers are decoded as
they were encoded, edges are read from their texts, and string tables look all strings up as before.
A node or a document is read from its text, where there is room for its values, with each number as
its numeral is read, and so it comes back as it was exactly if all its numbers are read back. What is
decoded is exactly what `Denotes` lists, its numbers are finite, and so it comes back once more. A
flat list is decoded if its length is even and each item may stand where it stands. -/
theorem wire_is_lossless :
    (∀ stored : Compact, stored.AllFinite → Compact.decode stored.encode = .ok stored) ∧
    (∀ props : Props, props.AllFinite → Props.decode props.encode = .ok props) ∧
    (∀ edge : CompactEdge,
      (Json.parse? (Json.print (BehaviorDocument.edgeToValue edge))).bind
        BehaviorDocument.edgeOfTree? = some edge) ∧
    (∀ (node read : CompactNode) (room : Nat),
      ((Json.parse? (Json.print (BehaviorDocument.nodeToValue node))).bind
          (BehaviorDocument.nodeOfTree? room) = some read ↔
        node.props.Within room ∧ node.reread? = some read) ∧
      (node.reread? = some node ↔ node.props.Legible)) ∧
    (∀ document read : BehaviorDocument,
      (BehaviorDocument.parse document.toJson = .ok read ↔
        document.Within propertyDepth ∧ document.reread? = some read) ∧
      (BehaviorDocument.ofJson document.toJson = .ok read ↔
        document.Within propertyDepth ∧ document.reread? = some read ∧
          document.validate = .ok ()) ∧
      (document.reread? = some document ↔ document.Legible)) ∧
    (∀ document read : DataDocument,
      (DataDocument.parse document.toJson = .ok read ↔
        document.Within propertyDepth ∧ document.reread? = some read) ∧
      (DataDocument.ofJson document.toJson = .ok read ↔
        document.Within propertyDepth ∧ document.reread? = some read ∧
          document.validate = .ok ()) ∧
      (document.reread? = some document ↔ document.Legible)) ∧
    (∀ (strings texts : List String) (s : String),
      let indexed := texts.foldl IndexedTable.intern (.ofStrings strings)
      indexed.table = texts.foldl (fun table s => (StringTable.intern s table).2) ⟨strings⟩ ∧
        indexed.positions.lookup s = indexed.table.indexOf? s ∧
        (IndexedTable.ofStrings indexed.table.strings).positions.lookup s =
          indexed.positions.lookup s) ∧
    (∀ (value : Value) (stored : Compact),
      Compact.decode value = .ok stored ↔ Compact.Denotes value stored) ∧
    (∀ (value : Value) (stored : Compact), value.FitsWords → Compact.decode value = .ok stored →
      stored.AllFinite ∧ Compact.decode stored.encode = .ok stored) ∧
    ∀ flat : List Value, (∃ props, Props.decode flat = .ok props) ↔
      flat.length % 2 = 0 ∧ ∀ i item, flat[i]? = some item → Props.Admits i item := by
  refine ⟨fun _ => Compact.decode_encode, fun _ => Props.decode_encode, fun edge => ?_,
    fun node read room => ⟨?_, CompactNode.reread?_eq_self⟩,
    fun _ _ => ⟨BehaviorDocument.parse_toJson, BehaviorDocument.ofJson_toJson,
      BehaviorDocument.reread?_eq_self⟩,
    fun _ _ => ⟨DataDocument.parse_toJson, DataDocument.ofJson_toJson,
      DataDocument.reread?_eq_self⟩,
    fun strings texts s => ?_, Compact.decode_eq_ok,
    fun _ _ => Compact.decode_encode_of_decode, Props.exists_decode_eq_ok⟩
  · rw [Json.parse?_print, Option.bind_some, BehaviorDocument.edgeOfTree?_printed]
  · rw [Json.parse?_print, Option.bind_some, BehaviorDocument.nodeOfTree?_printed,
      Option.ite_none_right_eq_some]
  · obtain ⟨hagrees, htable⟩ := (IndexedTable.ofStrings_agrees strings).foldl_intern texts
    exact ⟨htable, hagrees s, hagrees.ofStrings_lookup s⟩

/-- A scale with a reference and a number of the same size, and a key that comes twice. -/
def scale : BehaviorDocument where
  strings := ⟨["scale", "output", "input", "pan", "weight", "left"]⟩
  nodeIds := ["scale"]
  nodes := [⟨0, ⟨[(3, .string 5), (4, .number 5.0), (3, .list [.attribute 3 5 (.number (-0.0))])]⟩⟩]
  edges := [⟨0, 1, 0, 2⟩]

theorem scale_comes_back :
    BehaviorDocument.ofJson scale.toJson = .ok scale ∧
      Compact.decode (Compact.encode (.list [.string 5, .number 5.0])) =
        .ok (.list [.string 5, .number 5.0]) ∧
      Compact.decode (Compact.encode (.number (Binary64.ofInt (-5)))) =
        .ok (.number (Binary64.ofInt (-5))) ∧
      ¬ ∃ props, Props.decode [.text "weight", .number (.int 5)] = .ok props := by
  obtain ⟨hvalues, -, -, -, hdocuments, -, -, hdenotes, hagain, hflat⟩ := wire_is_lossless
  refine ⟨?_, hvalues _ (by decide +kernel), ?_, fun h => ?_⟩
  · obtain ⟨-, hchecked, hself⟩ := hdocuments scale scale
    have hlegible : scale.Legible := by
      intro node hnode pair hpair x hx
      obtain rfl := List.mem_singleton.mp hnode
      simp only [List.mem_cons, List.not_mem_nil, or_false] at hpair
      rcases hpair with rfl | rfl | rfl
      · exact absurd hx List.not_mem_nil
      · obtain rfl := List.mem_singleton.mp hx
        exact ⟨⟨5.0, by decide +kernel⟩, rfl, by unfold Number.ReadsBack; rfl⟩
      · obtain rfl := List.mem_singleton.mp hx
        exact ⟨⟨-0.0, by decide +kernel⟩, rfl, by unfold Number.ReadsBack; rfl⟩
    exact hchecked.mpr ⟨by decide +kernel, hself.mpr hlegible, rfl⟩
  · have hread : Compact.decode (.number (.int (-5))) = .ok (.number (Binary64.ofInt (-5))) :=
      (hdenotes _ _).mpr (.number rfl)
    exact (hagain (.number (.int (-5))) _ (Value.fitsWords_int.mpr (by decide)) hread).2
  · obtain ⟨n, -, hkey⟩ := ((hflat _).mp h).2 0 (.text "weight") rfl
    cases hkey

end StoryGraph
