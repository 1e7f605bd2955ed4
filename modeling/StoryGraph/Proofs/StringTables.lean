import StoryGraph.Proofs.Interning
import StoryGraph.Proofs.Lossless

/-!
# String tables and their look-ups

A string table is kept with a look-up beside it. The look-up is built when the strings are read,
which may repeat, and it is carried along when a string is stored. Either way it is the look-up that
the strings have when they are read anew. So the two never come apart, and a table that is written
and read again is the same table.

Main definitions: `IndexedTable.InStep`, `IndexedTable.Stores`. Main statement:
`IndexedTable.tables_stay_in_step`.
-/

namespace StoryGraph

namespace StringTable

variable {table : StringTable} {s : String} {ref : Ref}

theorem indexOf?_eq_none_iff : table.indexOf? s = none ↔ s ∉ table.strings := by
  rw [← indexOf?_isSome, Option.not_isSome_iff_eq_none]

theorem get?_ne_of_lt (hsize : table.size ≤ 2 ^ 32) (h : table.indexOf? s = some ref)
    {earlier : Ref} (hlt : earlier < ref) : table.get? earlier ≠ some s := by
  obtain ⟨i, hfind, rfl⟩ := Option.map_eq_some_iff.mp h
  obtain ⟨hi, -, hfirst⟩ := List.findIdx?_eq_some_iff_getElem.mp hfind
  have hposition : (UInt32.ofNat i).toNat = i :=
    UInt32.toNat_ofNat_of_lt (Nat.lt_of_lt_of_le hi hsize)
  have hearlier : earlier.toNat < i := hposition ▸ UInt32.lt_iff_toNat_lt.mp hlt
  intro hget
  obtain ⟨hlength, heq⟩ := List.getElem?_eq_some_iff.mp hget
  exact hfirst _ hearlier (beq_iff_eq.mpr heq)

/-- **A string is found at its first position**, while positions fit a reference. -/
theorem indexOf?_eq_some_iff (hsize : table.size ≤ 2 ^ 32) : table.indexOf? s = some ref ↔
    table.get? ref = some s ∧ ∀ earlier < ref, table.get? earlier ≠ some s := by
  constructor
  · exact fun h => ⟨get?_of_indexOf? hsize h, fun earlier => get?_ne_of_lt hsize h⟩
  · rintro ⟨hget, hfirst⟩
    obtain ⟨found, hfound⟩ := Option.isSome_iff_exists.mp
      (indexOf?_isSome.mpr (List.mem_of_getElem? hget))
    -- Neither of the two positions is before the other.
    rcases Nat.lt_trichotomy found.toNat ref.toNat with hlt | heq | hlt
    · exact absurd (get?_of_indexOf? hsize hfound) (hfirst found (UInt32.lt_iff_toNat_lt.mpr hlt))
    · exact UInt32.toNat_inj.mp heq ▸ hfound
    · exact absurd hget (get?_ne_of_lt hsize hfound (UInt32.lt_iff_toNat_lt.mpr hlt))

/-- **A table is read from its text.** -/
theorem ofTree?_toJson (table : StringTable) :
    (Json.parse? table.toJson).bind ofTree? = some table := by
  rw [toJson, Json.parse?_print, Option.bind_some]
  exact ofTree?_printed table

end StringTable

namespace IndexedTable

def indexOf? (indexed : IndexedTable) (s : String) : Option Ref := indexed.positions.lookup s

/-- The position that storing a string gives: the one that it has, or else the next one. -/
def reference (indexed : IndexedTable) (s : String) : Ref :=
  (indexed.indexOf? s).getD (UInt32.ofNat indexed.table.size)

def reload? (indexed : IndexedTable) : Option IndexedTable :=
  ((Json.parse? indexed.table.toJson).bind StringTable.ofTree?).map fun table =>
    ofStrings table.strings

/-- The strings and the look-up say the same, and the table comes back from its text. -/
structure InStep (indexed : IndexedTable) : Prop where
  found : ∀ s ref, indexed.indexOf? s = some ref ↔
    indexed.table.get? ref = some s ∧ ∀ earlier < ref, indexed.table.get? earlier ≠ some s
  missing : ∀ s, indexed.indexOf? s = none ↔ s ∉ indexed.table.strings
  comesBack : indexed.reload? = some indexed

/-- A table stores a string: a new one at the end, and one that it has not again. The position that
is given is the one of the string from then on. -/
structure Stores (indexed : IndexedTable) (s : String) : Prop where
  new : s ∉ indexed.table.strings →
    (indexed.intern s).table.strings = indexed.table.strings ++ [s]
  known : s ∈ indexed.table.strings → indexed.intern s = indexed
  index : (indexed.intern s).indexOf? s = some (indexed.reference s)
  text : (indexed.intern s).table.get? (indexed.reference s) = some s

variable {indexed : IndexedTable} {strings : List String} {s : String}

/-! ## Two ways to the same table -/

/-- **To store a string is to read it with the others.** -/
theorem intern_ofStrings (strings : List String) (s : String) :
    (ofStrings strings).intern s = ofStrings (addNew strings s) := by
  have hagrees : (ofStrings strings).positions.lookup s = StringTable.indexOf? ⟨strings⟩ s :=
    ofStrings_agrees strings s
  unfold intern addNew
  cases hlookup : (ofStrings strings).positions.lookup s with
  | some ref =>
      have hmem : s ∈ strings :=
        StringTable.indexOf?_isSome.mp (by rw [← hagrees, hlookup]; rfl)
      rw [if_pos (List.contains_iff_mem.mpr hmem)]
  | none =>
      have hnew : s ∉ strings :=
        StringTable.indexOf?_eq_none_iff.mp (hagrees.symm.trans hlookup)
      rw [if_neg (mt List.contains_iff_mem.mp hnew), ofStrings_concat, note, hlookup]
      rfl

theorem foldl_intern_ofStrings (texts strings : List String) :
    texts.foldl intern (ofStrings strings) = ofStrings (texts.foldl addNew strings) := by
  induction texts generalizing strings with
  | nil => rfl
  | cons s rest ih => rw [List.foldl_cons, List.foldl_cons, intern_ofStrings, ih]

theorem reload?_eq (indexed : IndexedTable) :
    indexed.reload? = some (ofStrings indexed.table.strings) := by
  rw [reload?, StringTable.ofTree?_toJson, Option.map_some]

theorem inStep_ofStrings (h : strings.length ≤ 2 ^ 32) : (ofStrings strings).InStep where
  found s ref := by
    rw [indexOf?, ofStrings_agrees strings s]
    exact StringTable.indexOf?_eq_some_iff h
  missing s := by
    rw [indexOf?, ofStrings_agrees strings s]
    exact StringTable.indexOf?_eq_none_iff
  comesBack := reload?_eq _

/-! ## One string more -/

theorem Agrees.reference_eq (h : indexed.Agrees) (s : String) :
    indexed.reference s = (StringTable.intern s indexed.table).1 := by
  unfold reference indexOf? StringTable.intern
  rw [h s]
  cases indexed.table.indexOf? s <;> rfl

theorem indexOf?_addNew (strings : List String) (s : String) :
    StringTable.indexOf? ⟨addNew strings s⟩ s = some ((ofStrings strings).reference s) := by
  have hagrees : (ofStrings strings).indexOf? s = StringTable.indexOf? ⟨strings⟩ s :=
    ofStrings_agrees strings s
  unfold reference addNew
  rw [hagrees]
  split
  · rename_i hmem
    obtain ⟨ref, href⟩ := Option.isSome_iff_exists.mp
      (StringTable.indexOf?_isSome (t := ⟨strings⟩).mpr (List.contains_iff_mem.mp hmem))
    rw [href, Option.getD_some]
  · rename_i hnew
    have hnone : StringTable.indexOf? ⟨strings⟩ s = none :=
      StringTable.indexOf?_eq_none_iff.mpr (mt List.contains_iff_mem.mpr hnew)
    rw [indexOf?_append, hnone, if_pos rfl]
    rfl

theorem stores_ofStrings (h : (addNew strings s).length ≤ 2 ^ 32) :
    (ofStrings strings).Stores s where
  new hnew := by
    have hadd : addNew strings s = strings ++ [s] := if_neg (mt List.contains_iff_mem.mp hnew)
    rw [intern_ofStrings, hadd]
    rfl
  known hknown := by
    have hadd : addNew strings s = strings := if_pos (List.contains_iff_mem.mpr hknown)
    rw [intern_ofStrings, hadd]
  index := by
    rw [intern_ofStrings, indexOf?, ofStrings_agrees]
    exact indexOf?_addNew strings s
  text := by
    rw [intern_ofStrings]
    exact StringTable.get?_of_indexOf? h (indexOf?_addNew strings s)

theorem isPrefix_intern (indexed : IndexedTable) (s : String) :
    indexed.table.strings <+: (indexed.intern s).table.strings := by
  unfold intern
  split
  · exact List.prefix_refl _
  · exact List.prefix_append _ _

theorem get?_foldl_intern (texts : List String) {ref : Ref} {text : String}
    (h : indexed.table.get? ref = some text) :
    (texts.foldl intern indexed).table.get? ref = some text := by
  induction texts generalizing indexed with
  | nil => exact h
  | cons s rest ih => exact ih (StringTable.get?_of_isPrefix (isPrefix_intern indexed s) h)

/-- **Strings and look-up stay in step.** A table of any strings, which may repeat, in which any
others are then stored: its look-up finds each string at its first position, and it comes back from
its text as it is, so that all goes on as before. The strings that were stored stand behind the
first ones and none of them repeats one. One string more is put at the end if it is new, and
otherwise changes nothing; the position that is given is the one at which it is found. What stands
at a position stays there. A table that searches its strings does the same. -/
theorem tables_stay_in_step (strings texts : List String) :
    let indexed := texts.foldl intern (ofStrings strings)
    let table := texts.foldl (fun table s => (StringTable.intern s table).2) ⟨strings⟩
    (indexed.table.size ≤ 2 ^ 32 → indexed.InStep) ∧
    (∃ added, Gains strings added indexed.table.strings) ∧
    (∀ s, (indexed.intern s).table.size ≤ 2 ^ 32 → indexed.Stores s) ∧
    (∀ (more : List String) (ref : Ref) (text : String), indexed.table.get? ref = some text →
      (more.foldl intern indexed).table.get? ref = some text) ∧
    indexed.table = table ∧
    ∀ s, indexed.indexOf? s = table.indexOf? s ∧
      StringTable.intern s table = (indexed.reference s, (indexed.intern s).table) := by
  intro indexed table
  have hindexed : indexed = ofStrings (texts.foldl addNew strings) :=
    foldl_intern_ofStrings texts strings
  have hagrees : indexed.Agrees := hindexed ▸ ofStrings_agrees _
  have htable : indexed.table = table := ((ofStrings_agrees strings).foldl_intern texts).2
  refine ⟨fun hsize => ?_, ?_, fun s hsize => ?_, fun more ref text => get?_foldl_intern more,
    htable, fun s => ?_⟩
  · rw [hindexed] at hsize ⊢
    exact inStep_ofStrings hsize
  · rw [hindexed]
    exact gains_foldl_addNew texts strings
  · rw [hindexed, intern_ofStrings] at hsize
    rw [hindexed]
    exact stores_ofStrings hsize
  · rw [← htable]
    exact ⟨hagrees s, Prod.ext (hagrees.reference_eq s).symm (hagrees.intern_table s).symm⟩

/-- Trees of which one is named twice, and others that are named later. -/
theorem grove_stays_in_step :
    let grove := ["ash", "elm"].foldl intern (ofStrings ["oak", "elm", "oak"])
    grove.table.size ≤ 2 ^ 32 ∧ grove.InStep ∧ grove.indexOf? "oak" = some 0 ∧
      (grove.intern "yew").table.size ≤ 2 ^ 32 ∧ grove.Stores "yew" ∧ grove.reference "yew" = 4 ∧
      grove.table.get? 1 = some "elm" ∧
      (["yew", "oak"].foldl intern grove).table.get? 1 = some "elm" := by
  intro grove
  obtain ⟨hstep, -, hstores, hstays, -, -⟩ :=
    tables_stay_in_step ["oak", "elm", "oak"] ["ash", "elm"]
  have hsize : grove.table.size ≤ 2 ^ 32 := by decide +kernel
  have hsize' : (grove.intern "yew").table.size ≤ 2 ^ 32 := by decide +kernel
  have helm : grove.table.get? 1 = some "elm" := by decide +kernel
  exact ⟨hsize, hstep hsize, by decide +kernel, hsize', hstores "yew" hsize', by decide +kernel,
    helm, hstays _ 1 "elm" helm⟩

end IndexedTable

end StoryGraph
