import StoryGraph.Proofs.Integral
import StoryGraph.Proofs.Restored

/-!
# Rebuilding is stable

Entries that come back out of a document change their shape: bare records have become lists of
attributes, texts have become numbers, kinds have been filled in. Compiling them stores the same
strings in the same order all the same, and gives the document that they came from. From then on not
even their shape changes.

Main definitions: `DataDocument.Equals`, `DataDocument.rebuilt`, `StringTable.Repeats`.
-/

namespace StoryGraph

/-! ## Equal documents -/

namespace Compact

mutual

/-- Whether two stored values are equal; numbers are compared as doubles. -/
def equals : Compact → Compact → Bool
  | .null, .null => true
  | .bool b, .bool b' => b == b'
  | .number x, .number y => x == y
  | .string ref, .string ref' => ref == ref'
  | .list items, .list items' => equalsAll items items'
  | .attribute name kind value, .attribute name' kind' value' =>
    name == name' && kind == kind' && equals value value'
  | _, _ => false

def equalsAll : List Compact → List Compact → Bool
  | [], [] => true
  | item :: rest, item' :: rest' => equals item item' && equalsAll rest rest'
  | _, _ => false

end

end Compact

def Props.SamePair (first second : Ref × Compact) : Prop :=
  first.1 = second.1 ∧ first.2.equals second.2 = true

structure CompactEntry.Equals (first second : CompactEntry) : Prop where
  id : first.id = second.id
  label : first.label = second.label
  props : List.Forall₂ Props.SamePair first.props.pairs second.props.pairs

/-- Two documents are equal: the same strings in the same order, and the same entries with the same
properties in the same order. -/
structure DataDocument.Equals (first second : DataDocument) : Prop where
  version : first.version = second.version
  strings : first.strings = second.strings
  items : List.Forall₂ CompactEntry.Equals first.items second.items

def DataDocument.rebuilt (document : DataDocument) : DataDocument := compileEntries document.entries

/-! ## Steps that store the same strings -/

namespace StringTable

variable {α β γ : Type}

/-- A step does what another one did: the table grows alike, and the results are related. -/
structure Repeats (same : α → α → Prop) (again first : α × StringTable) : Prop where
  result : same again.1 first.1
  table : again.2 = first.2

variable {same : α → α → Prop} {same' : β → β → Prop} {same'' : γ → γ → Prop}
  {again first : α × StringTable} {again' first' : StringTable → β × StringTable}

theorem repeats_self (step : α × StringTable) : Repeats Eq step step := ⟨rfl, rfl⟩

/-- **Two steps are repeated by repeating each of them**, if the way their results are put together
respects what relates them. -/
theorem Repeats.seq (h : Repeats same again first) (h' : ∀ t, Repeats same' (again' t) (first' t))
    (f : α → β → γ) (hf : ∀ a a' b b', same a a' → same' b b' → same'' (f a b) (f a' b')) :
    Repeats same'' (f again.1 (again' again.2).1, (again' again.2).2)
      (f first.1 (first' first.2).1, (first' first.2).2) where
  result := by
    rw [h.table]
    exact hf _ _ _ _ h.result (h' first.2).result
  table := by
    rw [h.table]
    exact (h' first.2).table

theorem Repeats.map (h : Repeats same again first) (f : α → γ)
    (hf : ∀ a a', same a a' → same'' (f a) (f a')) :
    Repeats same'' (f again.1, again.2) (f first.1, first.2) :=
  ⟨hf _ _ h.result, h.table⟩

theorem mapM_repeats {f : β → StateM StringTable α} {g : β → β} (items : List β)
    (h : ∀ item ∈ items, ∀ t, Repeats same (f (g item) t) (f item t)) :
    ∀ t, Repeats (List.Forall₂ same) ((items.map g).mapM f t) (items.mapM f t) := by
  induction items with
  | nil => exact fun t => ⟨.nil, rfl⟩
  | cons item rest ih =>
      intro t
      obtain ⟨hitem, hrest⟩ := List.forall_mem_cons.mp h
      rw [List.map_cons, List.mapM_cons, List.mapM_cons]
      exact (hitem t).seq (ih hrest) List.cons fun _ _ _ _ => .cons

end StringTable

/-! ## Normal forms are stored alike -/

open StringTable (Repeats repeats_self mapM_repeats)

def SameValue (first second : Compact) : Prop := first.equals second = true

def SameValues (first second : List Compact) : Prop := Compact.equalsAll first second = true

theorem sameValue_attribute {names names' : Ref × Ref} {value value' : Compact}
    (hnames : names = names') (hvalue : SameValue value value') :
    SameValue (.attribute names.1 names.2 value) (.attribute names'.1 names'.2 value') := by
  subst hnames
  show (names.1 == names.1 && names.2 == names.2 && value.equals value') = true
  rw [beq_self_eq_true, beq_self_eq_true, hvalue]
  rfl

theorem sameValues_cons {first first' : Compact} {others others' : List Compact}
    (hfirst : SameValue first first') (hothers : SameValues others others') :
    SameValues (first :: others) (first' :: others') :=
  Bool.and_eq_true_iff.mpr ⟨hfirst, hothers⟩

theorem compact_ofFloat (hint : StorageHint) {x : Float} (hfinite : Binary64.isFinite x = true)
    (t : StringTable) : Repeats SameValue (compact hint (.ofFloat x) t) (.number x, t) := by
  obtain ⟨n, hn⟩ := Value.ofFloat_number hfinite
  rw [hn]
  exact ⟨Value.toFloat_beq_of_ofFloat hfinite hn, rfl⟩

theorem storedText_repeats (s : String) (t : StringTable) :
    Repeats SameValue ((Compact.string <$> StringTable.intern s : StateM StringTable Compact) t)
      ((Compact.string <$> StringTable.intern s : StateM StringTable Compact) t) :=
  ⟨beq_self_eq_true (StringTable.intern s t).1, rfl⟩

theorem compactText_normalText (hint : StorageHint) (s : String) (t : StringTable) :
    Repeats SameValue (compact hint (normalText hint s) t) (compactText hint s t) := by
  cases hint with
  | text => exact storedText_repeats s t
  | number | auto =>
      cases hnumber : pureNumber? s with
      | none =>
          rw [normalText_of_pureNumber?_eq_none _ hnumber, compact]
          unfold compactText
          rw [hnumber]
          exact storedText_repeats s t
      | some x =>
          unfold normalText compactText
          rw [hnumber]
          exact compact_ofFloat _ (pureNumber?_finite hnumber) t

/-- An attribute is stored again if its value is: its kind decides about the value as before. -/
theorem attribute_repeats (name kind : String) {again first : StringTable → Compact × StringTable}
    (h : ∀ t, Repeats SameValue (again t) (first t)) (t : StringTable) :
    let nameStep := StringTable.intern name t
    let kindStep := StringTable.intern kind nameStep.2
    Repeats SameValue (.attribute nameStep.1 kindStep.1 (again kindStep.2).1, (again kindStep.2).2)
      (.attribute nameStep.1 kindStep.1 (first kindStep.2).1, (first kindStep.2).2) := by
  have hnames := (repeats_self (StringTable.intern name t)).seq
    (fun u => repeats_self (StringTable.intern kind u)) Prod.mk
    fun _ _ _ _ hname hkind => Prod.ext hname hkind
  exact hnames.seq h (fun names value => Compact.attribute names.1 names.2 value)
    fun _ _ _ _ => sameValue_attribute

mutual

/-- **The normal form of a value is stored as the value is**: the same strings in the same order,
and equal numbers. -/
theorem compact_normal (hint : StorageHint) : ∀ value : Value, value.FitsWords → ∀ t : StringTable,
    Repeats SameValue (compact hint (normal hint value) t) (compact hint value t)
  | .null, _, _ => ⟨rfl, rfl⟩
  | .bool b, _, _ => ⟨beq_self_eq_true b, rfl⟩
  | .number _, hfits, t => compact_ofFloat hint (number_finite hfits) t
  | .text s, _, t => compactText_normalText hint s t
  | .list items, hfits, t =>
      (compactAll_normal hint items (Value.fitsWords_list.mp hfits) t).map Compact.list
        fun _ _ => id
  | .record fields, hfits, t => by
      have hfits := Value.fitsWords_record.mp hfits
      rw [compact, normal]
      cases Fields.get? fields "name" with
      | none =>
          exact (compactFields_normal hint fields hfits t).map Compact.list
            fun _ _ => id
      | some name =>
          exact attribute_repeats (nameText name) (kindText fields)
            (compactMember_normal (.ofTypeTag (kindText fields)) "value" fields hfits) t

theorem compactAll_normal (hint : StorageHint) : ∀ items : List Value,
    (∀ item ∈ items, item.FitsWords) → ∀ t : StringTable,
      Repeats SameValues (compactAll hint (normalAll hint items) t) (compactAll hint items t)
  | [], _, _ => ⟨rfl, rfl⟩
  | item :: rest, hfits, t => by
      obtain ⟨hitem, hrest⟩ := List.forall_mem_cons.mp hfits
      exact (compact_normal hint item hitem t).seq (compactAll_normal hint rest hrest)
        List.cons fun _ _ _ _ => sameValues_cons

theorem compactMember_normal (hint : StorageHint) (name : String) :
    ∀ fields : List (String × Value), Fields.FitWords fields → ∀ t : StringTable,
      Repeats SameValue (compact hint (normalMember hint name fields) t)
        (compactMember hint name fields t)
  | [], _, _ => ⟨rfl, rfl⟩
  | (other, value) :: rest, hfits, t => by
      obtain ⟨hvalue, hrest⟩ := List.forall_mem_cons.mp hfits
      rw [compactMember, normalMember]
      split
      · exact compact_normal hint value hvalue t
      · exact compactMember_normal hint name rest hrest t

/-- The list that a bare record became is stored as the record was, under every hint. -/
theorem compactFields_normal (hint : StorageHint) :
    ∀ fields : List (String × Value), Fields.FitWords fields → ∀ t : StringTable,
      Repeats SameValues (compactAll hint (normalFields fields) t) (compactFields fields t)
  | [], _, _ => ⟨rfl, rfl⟩
  | (name, value) :: rest, hfits, t => by
      obtain ⟨hvalue, hrest⟩ := List.forall_mem_cons.mp hfits
      exact (attribute_repeats name "any" (compact_normal .auto value hvalue) t).seq
        (compactFields_normal hint rest hrest) List.cons fun _ _ _ _ => sameValues_cons

end

/-! ## Normal forms have settled -/

mutual

/-- **A normal form is its own.** -/
theorem normal_normal (hint : StorageHint) : ∀ value : Value, value.FitsWords →
    normal hint (normal hint value) = normal hint value
  | .null, _ => rfl
  | .bool _, _ => rfl
  | .number n, hfits => by
      obtain ⟨m, hm⟩ := Value.ofFloat_number (number_finite hfits)
      rw [normal, hm]
      exact Value.ofFloat_toFloat hm
  | .text s, _ => by
      rw [normal]
      cases hnumber : pureNumber? s with
      | none =>
          rw [normalText_of_pureNumber?_eq_none hint hnumber]
          exact normalText_of_pureNumber?_eq_none hint hnumber
      | some x =>
          obtain ⟨m, hm⟩ := Value.ofFloat_number (pureNumber?_finite hnumber)
          cases hint with
          | text => rfl
          | number | auto =>
              unfold normalText
              rw [hnumber]
              dsimp only
              rw [hm]
              exact Value.ofFloat_toFloat hm
  | .list items, hfits => by
      rw [normal, normal, normalAll_normalAll hint items (Value.fitsWords_list.mp hfits)]
  | .record fields, hfits => by
      have hfits := Value.fitsWords_record.mp hfits
      rw [normal]
      cases Fields.get? fields "name" with
      | none =>
          dsimp only
          rw [normal, normalAll_normalFields hint fields hfits]
      | some name =>
          dsimp only
          rw [normal_attributeRecord, normal_normalMember _ "value" fields hfits]

theorem normalAll_normalAll (hint : StorageHint) : ∀ items : List Value,
    (∀ item ∈ items, item.FitsWords) → normalAll hint (normalAll hint items) = normalAll hint items
  | [], _ => rfl
  | item :: rest, hfits => by
      obtain ⟨hitem, hrest⟩ := List.forall_mem_cons.mp hfits
      rw [normalAll, normalAll, normal_normal hint item hitem, normalAll_normalAll hint rest hrest]

theorem normal_normalMember (hint : StorageHint) (name : String) :
    ∀ fields : List (String × Value), Fields.FitWords fields →
      normal hint (normalMember hint name fields) = normalMember hint name fields
  | [], _ => rfl
  | (other, value) :: rest, hfits => by
      obtain ⟨hvalue, hrest⟩ := List.forall_mem_cons.mp hfits
      rw [normalMember]
      split
      · exact normal_normal hint value hvalue
      · exact normal_normalMember hint name rest hrest

theorem normalAll_normalFields (hint : StorageHint) :
    ∀ fields : List (String × Value), Fields.FitWords fields →
      normalAll hint (normalFields fields) = normalFields fields
  | [], _ => rfl
  | (name, value) :: rest, hfits => by
      obtain ⟨hvalue, hrest⟩ := List.forall_mem_cons.mp hfits
      have hkind : StorageHint.ofTypeTag "any" = .auto := by decide
      rw [normalFields, normalAll, normal_attributeRecord, hkind, normal_normal .auto value hvalue,
        normalAll_normalFields hint rest hrest]

end

/-! ## Entries that were restored -/

namespace Entry

variable {entry : Entry}

theorem mem_restored_properties {field : String × Value} (h : field ∈ entry.restored.properties) :
    field.1 ≠ labelKey ∧ field.1 ≠ "id" := by
  obtain ⟨kept, hkept, rfl⟩ := List.mem_map.mp h
  exact (mem_keptProperties.mp hkept).2

theorem restored_keptProperties (entry : Entry) :
    entry.restored.keptProperties = entry.restored.properties :=
  keptProperties_eq fun _ => mem_restored_properties

theorem restored_ordered (h : entry.properties.Ordered) : entry.restored.properties.Ordered :=
  Fields.map_ordered (keptProperties_ordered h) _

theorem keptProperties_fits (h : entry.properties.FitWords) :
    ∀ field ∈ entry.keptProperties, field.2.FitsWords :=
  fun field hfield => h field (mem_keptProperties.mp hfield).1

/-- **An entry that was restored is its own restored form.** -/
theorem restored_restored (h : entry.properties.FitWords) :
    entry.restored.restored = entry.restored := by
  have hproperties : entry.restored.restored.properties = entry.restored.properties := by
    show entry.restored.keptProperties.map (fun field => (field.1, normal .auto field.2)) = _
    rw [restored_keptProperties]
    show (entry.keptProperties.map _).map _ = _
    rw [List.map_map]
    refine List.map_congr_left fun field hfield => ?_
    have hfits := keptProperties_fits h field hfield
    exact congrArg (Prod.mk field.1) (normal_normal .auto field.2 hfits)
  exact congrArg (Entry.mk entry.id entry.label) hproperties

end Entry

theorem compactProps_normal (label : String) (properties : Fields)
    (hfits : ∀ field ∈ properties, field.2.FitsWords) (t : StringTable) :
    Repeats (fun again first => List.Forall₂ Props.SamePair again.pairs first.pairs)
      (compactProps (fun _ => .auto) label
        (properties.map fun field => (field.1, normal .auto field.2)) t)
      (compactProps (fun _ => .auto) label properties t) := by
  have hproperty : ∀ field ∈ properties, ∀ u, Repeats Props.SamePair
      (compactProperty (fun _ => .auto) (field.1, normal .auto field.2) u)
      (compactProperty (fun _ => .auto) field u) := by
    intro field hfield u
    exact (repeats_self (StringTable.intern field.1 u)).seq
      (compact_normal .auto field.2 (hfits field hfield)) Prod.mk
      fun _ _ _ _ hkey hvalue => ⟨hkey, hvalue⟩
  have hlabel := (repeats_self (StringTable.intern labelKey t)).seq
    (fun u => repeats_self (StringTable.intern label u)) Prod.mk
    fun _ _ _ _ hkey href => Prod.ext hkey href
  refine hlabel.seq (mapM_repeats properties hproperty)
    (fun label others => Props.mk ((label.1, .string label.2) :: others)) ?_
  rintro label _ others others' rfl hothers
  exact .cons ⟨rfl, beq_self_eq_true label.2⟩ hothers

/-- **A restored entry is compiled as the entry was.** -/
theorem compileEntry_restored {entry : Entry} (hfits : entry.properties.FitWords)
    (t : StringTable) :
    Repeats CompactEntry.Equals (compileEntry entry.restored t) (compileEntry entry t) := by
  have hprops := compactProps_normal entry.label entry.keptProperties
    (Entry.keptProperties_fits hfits) t
  have hagain : Fields.erase (Fields.erase entry.restored.properties labelKey) "id" =
      entry.keptProperties.map fun field => (field.1, normal .auto field.2) :=
    entry.restored_keptProperties
  unfold compileEntry
  rw [hagain]
  exact hprops.seq (fun u => repeats_self (StringTable.intern entry.label u))
    (fun props label => CompactEntry.mk entry.id label props)
    fun _ _ _ _ hprops hlabel => ⟨rfl, hlabel, hprops⟩

theorem compileEntries_restored {entries : List Entry}
    (hfits : ∀ entry ∈ entries, entry.properties.FitWords) :
    (compileEntries (entries.map Entry.restored)).Equals (compileEntries entries) := by
  have hitems := mapM_repeats entries
    (fun entry hentry => compileEntry_restored (hfits entry hentry)) StringTable.empty
  exact ⟨rfl, hitems.table, hitems.result⟩

/-! ## Rebuilding a document -/

/-- **Rebuilding a document from its entries gives an equal one**: the same strings, ids, labels and
property lists, with equal numbers. Its entries are the same, and from then on the document is, too:
however often it is rebuilt, nothing drifts. -/
theorem rebuilding_never_drifts (entries : List Entry)
    (hproper : ∀ entry ∈ entries, entry.properties.Proper)
    (hfits : (compileEntries entries).strings.size ≤ 2 ^ 32) :
    (compileEntries entries).rebuilt.Equals (compileEntries entries) ∧
      (compileEntries entries).rebuilt.entries = (compileEntries entries).entries ∧
      ∀ rounds : Nat, DataDocument.rebuilt^[rounds] (compileEntries entries).rebuilt =
        (compileEntries entries).rebuilt := by
  have hback : (compileEntries entries).entries = entries.map Entry.restored :=
    entries_compileEntries (fun entry hentry => (hproper entry hentry).ordered) hfits
  have hrebuilt : (compileEntries entries).rebuilt = compileEntries (entries.map Entry.restored) :=
    congrArg compileEntries hback
  have hequal : (compileEntries entries).rebuilt.Equals (compileEntries entries) := by
    rw [hrebuilt]
    exact compileEntries_restored fun entry hentry => (hproper entry hentry).fits
  have hsame : (compileEntries entries).rebuilt.entries = (compileEntries entries).entries := by
    have hordered : ∀ entry ∈ entries.map Entry.restored, entry.properties.Ordered := by
      intro again hagain
      obtain ⟨entry, hentry, rfl⟩ := List.mem_map.mp hagain
      exact Entry.restored_ordered (hproper entry hentry).ordered
    rw [← hequal.strings, hrebuilt] at hfits
    rw [hrebuilt, entries_compileEntries hordered hfits, hback, List.map_map]
    exact List.map_congr_left fun entry hentry =>
      Entry.restored_restored (hproper entry hentry).fits
  have hfixed : Function.IsFixedPt DataDocument.rebuilt (compileEntries entries).rebuilt :=
    congrArg compileEntries hsame
  exact ⟨hequal, hsame, fun rounds => hfixed.iterate rounds⟩

/-- Its owner has a number for a name and no kind, and its rooms are no attribute. -/
def inn : Entry where
  id := "inn"
  label := "Inn"
  properties := [
    ("owner", .record [("name", .number (.int 7)), ("value", .text "12")]),
    ("rooms", .record [("attic", .text "-3"), ("cellar", .list [.null, .text "owner"])])]

def reopenedInn : Entry where
  id := "inn"
  label := "Inn"
  properties := [
    ("owner", attributeRecord "7" "any" (.number (.int 12))),
    ("rooms", .list [attributeRecord "attic" "any" (.number (.int (-3))),
      attributeRecord "cellar" "any" (.list [.null, .text "owner"])])]

theorem inn_never_drifts :
    (∀ entry ∈ [inn, sword], entry.properties.Proper) ∧
      (compileEntries [inn, sword]).strings.size ≤ 2 ^ 32 ∧ inn.restored = reopenedInn ∧
      (compileEntries [reopenedInn, sword.restored]).Equals (compileEntries [inn, sword]) ∧
      DataDocument.rebuilt^[100] (compileEntries [reopenedInn, sword.restored]) =
        compileEntries [reopenedInn, sword.restored] := by
  have hproper : ∀ entry ∈ [inn, sword], entry.properties.Proper := by
    intro entry hentry
    simp only [List.mem_cons, List.not_mem_nil, or_false] at hentry
    rcases hentry with rfl | rfl
    · exact ⟨by decide +kernel, by simp [Fields.FitWords, inn]⟩
    · exact sword_proper
  have hfits : (compileEntries [inn, sword]).strings.size ≤ 2 ^ 32 := by decide +kernel
  have hinn : inn.restored = reopenedInn := rfl
  have hordered : ∀ entry ∈ [inn, sword], entry.properties.Ordered :=
    fun entry hentry => (hproper entry hentry).ordered
  have hback : (compileEntries [inn, sword]).rebuilt =
      compileEntries [reopenedInn, sword.restored] :=
    congrArg compileEntries (entries_compileEntries hordered hfits)
  obtain ⟨hequal, -, hfixed⟩ := rebuilding_never_drifts [inn, sword] hproper hfits
  rw [hback] at hequal hfixed
  exact ⟨hproper, hfits, hinn, hequal, hfixed 100⟩

end StoryGraph
