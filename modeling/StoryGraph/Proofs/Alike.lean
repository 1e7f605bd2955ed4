import StoryGraph.Operator.Neighbours
import StoryGraph.Proofs.Restored

/-!
# Stored values read alike

A value without records reads as before after it was stored, whatever its storage hint and whatever
was stored before and after it: a text that became a number is the very text of that number. So
keywords are found as they were written, and a property that holds the id of an entry still refers
to that entry.

Main definitions: `Value.Recordless`, `Value.ReadsAs`.
-/

namespace StoryGraph

open Operator (reference? references referencesOf referencesIn entryReferences position? targets)

/-! ## Values without records -/

def Value.Recordless (value : Value) : Prop := value.EveryRecord fun _ => False

namespace Value

@[simp] theorem recordless_null : null.Recordless := fun _ h => nomatch h

@[simp] theorem recordless_bool (b : Bool) : (bool b).Recordless := fun _ h => nomatch h

@[simp] theorem recordless_number (n : Number) : (number n).Recordless := fun _ h => nomatch h

@[simp] theorem recordless_text (s : String) : (text s).Recordless := fun _ h => nomatch h

@[simp] theorem recordless_list {items : List Value} :
    (list items).Recordless ↔ ∀ item ∈ items, item.Recordless := everyRecord_list

@[simp] theorem not_recordless_record (fields : Fields) : ¬ (record fields).Recordless :=
  fun h => h fields .self

/-! ## What is read -/

/-- A value reads as another one: as a text, as keywords, and by what it refers to. -/
structure ReadsAs (value other : Value) : Prop where
  display : value.display = other.display
  keywords : splitKeywords value = splitKeywords other
  references : references value = references other

theorem ReadsAs.refl (value : Value) : value.ReadsAs value := ⟨rfl, rfl, rfl⟩

theorem displayAll_eq_map (items : List Value) : displayAll items = items.map display := by
  induction items with
  | nil => rfl
  | cons item rest ih => rw [displayAll, ih, List.map_cons]

theorem readsAs_of_display {n : Number} {leaf : Value}
    (hleaf : (∃ s, leaf = .text s) ∨ ∃ m, leaf = .number m)
    (h : (number n).display = leaf.display) : (number n).ReadsAs leaf := by
  have hkeywords : splitKeywords leaf = splitKeywords (.text leaf.display) := by
    rcases hleaf with ⟨s, rfl⟩ | ⟨m, rfl⟩ <;> rfl
  have hreferences : references leaf = [leaf.display] := by
    rcases hleaf with ⟨s, rfl⟩ | ⟨m, rfl⟩ <;> rfl
  constructor
  · exact h
  · rw [hkeywords, ← h]
    rfl
  · rw [hreferences, ← h]
    rfl

theorem ofFloat_readsAs {x : Float} {leaf : Value} (hfinite : Binary64.isFinite x = true)
    (hleaf : (∃ s, leaf = .text s) ∨ ∃ m, leaf = .number m)
    (h : Json.print (ofFloat x) = leaf.display) : (ofFloat x).ReadsAs leaf := by
  obtain ⟨n, hn⟩ := ofFloat_number hfinite
  rw [hn] at h ⊢
  refine readsAs_of_display hleaf ?_
  show Json.print (ofFloat n.toFloat) = _
  rw [ofFloat_toFloat hn, h]

end Value

/-! ## Normal forms read alike -/

theorem pureNumber?_text {s : String} {x : Float} (h : pureNumber? s = some x) :
    Json.print (Value.ofFloat x) = s := by
  unfold pureNumber? at h
  split at h
  · exact nomatch h
  · split at h
    · have hx := (Option.filter_eq_some_iff.mp h).2
      exact eq_of_beq (Bool.and_eq_true_iff.mp hx).2
    · exact nomatch h

theorem normalText_readsAs (hint : StorageHint) (s : String) :
    (normalText hint s).ReadsAs (.text s) := by
  unfold normalText
  cases hint with
  | text => exact .refl _
  | number | auto =>
      cases hnumber : pureNumber? s with
      | none => exact .refl _
      | some x =>
          exact Value.ofFloat_readsAs (pureNumber?_finite hnumber) (.inl ⟨s, rfl⟩)
            (pureNumber?_text hnumber)

theorem readsAs_list {items others : List Value} (h : List.Forall₂ Value.ReadsAs items others) :
    (Value.list items).ReadsAs (.list others) := by
  have hdisplays : items.map Value.display = others.map Value.display := by
    induction h with
    | nil => rfl
    | cons hhead _ ih => rw [List.map_cons, List.map_cons, hhead.display, ih]
  constructor
  · show ", ".intercalate (Value.displayAll items) = ", ".intercalate (Value.displayAll others)
    rw [Value.displayAll_eq_map, Value.displayAll_eq_map, hdisplays]
  · unfold splitKeywords
    dsimp only
    rw [hdisplays]
  · show referencesOf items = referencesOf others
    -- References are of the items, not of the text of the list.
    induction h with
    | nil => rfl
    | cons hhead _ ih =>
        rw [referencesOf, referencesOf, hhead.references, ih (List.cons.inj hdisplays).2]

mutual

/-- **A value without records reads as its normal form does.** -/
theorem normal_readsAs (hint : StorageHint) : ∀ value : Value, value.Recordless →
    value.FitsWords → (normal hint value).ReadsAs value
  | .null, _, _ => .refl _
  | .bool _, _, _ => .refl _
  | .number n, _, hfits => Value.ofFloat_readsAs (number_finite hfits) (.inr ⟨n, rfl⟩) rfl
  | .text s, _, _ => normalText_readsAs hint s
  | .list items, hplain, hfits => by
      rw [normal]
      exact readsAs_list (normalAll_readsAs hint items (Value.recordless_list.mp hplain)
        (Value.fitsWords_list.mp hfits))
  | .record fields, hplain, _ => absurd hplain (Value.not_recordless_record fields)

theorem normalAll_readsAs (hint : StorageHint) : ∀ items : List Value,
    (∀ item ∈ items, item.Recordless) → (∀ item ∈ items, item.FitsWords) →
      List.Forall₂ Value.ReadsAs (normalAll hint items) items
  | [], _, _ => .nil
  | item :: rest, hplain, hfits => by
      obtain ⟨hitem, hrest⟩ := List.forall_mem_cons.mp hplain
      obtain ⟨hfit, hfits⟩ := List.forall_mem_cons.mp hfits
      exact .cons (normal_readsAs hint item hitem hfit) (normalAll_readsAs hint rest hrest hfits)

end

/-! ## Records of entries -/

namespace Entry

theorem addProperty_get? (fields : Fields) {pair : String × Value} {name : String}
    (hname : name ≠ pair.1) : (addProperty fields pair).get? name = fields.get? name := by
  unfold addProperty
  split
  · rfl
  · rw [Fields.get?_insert, if_neg hname]

theorem foldl_addProperty_get? {name : String} (properties : Fields)
    (hname : name ∉ properties.map Prod.fst) : ∀ fields : Fields,
      Fields.get? (properties.foldl addProperty fields) name = fields.get? name := by
  induction properties with
  | nil => exact fun _ => rfl
  | cons pair rest ih =>
      intro fields
      obtain ⟨hpair, hrest⟩ := not_or.mp (mt List.mem_cons.mpr hname)
      rw [List.foldl_cons, ih hrest, addProperty_get? fields hpair]

/-- **A property stands in the record of its entry**, unless it is named like the id or the
label. -/
theorem get?_toRecord {entry : Entry} (hordered : entry.properties.Ordered) {name : String}
    {value : Value} (hid : name ≠ "id") (hlabel : name ≠ labelKey)
    (hvalue : entry.properties.get? name = some value) :
    entry.toRecord.get? name = some value := by
  have hmem := Fields.mem_of_get? hvalue
  -- The property is written over whatever had its name before, and none after it has the name.
  obtain ⟨before, after, hsplit⟩ := List.append_of_mem hmem
  have hnew : name ∉ after.map Prod.fst := by
    intro hlater
    have hnodup := hordered.nodup
    rw [hsplit, List.map_append, List.map_cons] at hnodup
    exact (List.nodup_cons.mp (List.nodup_append.mp hnodup).2.1).1 hlater
  rw [toRecord_eq]
  show Fields.get? (entry.properties.foldl addProperty entry.ownFields) name = some value
  rw [hsplit, List.foldl_append, List.foldl_cons, foldl_addProperty_get? after hnew]
  unfold addProperty
  rw [if_neg, Fields.get?_insert, if_pos rfl]
  rw [Bool.or_eq_true, beq_iff_eq, beq_iff_eq]
  exact not_or.mpr ⟨hid, hlabel⟩

@[simp] theorem id?_toRecord (entry : Entry) : entry.toRecord.id? = some entry.id := by
  obtain ⟨fields, hfields, hid, -⟩ := entry.toRecord_fields
  have hfield : entry.toRecord.get? "id" = some (.text entry.id) := by
    rw [hfields]
    exact hid
  unfold Value.id?
  rw [hfield]
  rfl

theorem get?_restored {entry : Entry} {name : String} {value : Value} (hid : name ≠ "id")
    (hlabel : name ≠ labelKey) (hvalue : entry.properties.get? name = some value) :
    entry.restored.properties.get? name = some (normal .auto value) := by
  have hkept : entry.keptProperties.get? name = some value := by
    unfold keptProperties
    rw [Fields.get?_erase, if_neg hid, Fields.get?_erase, if_neg hlabel, hvalue]
  have hmap := lookup_map_snd (fun _ => normal .auto) name entry.keptProperties
  exact hmap.trans (congrArg _ hkept)

end Entry

/-! ## References of entries -/

namespace Operator

theorem mem_referencesIn {fields : Fields} {field : String × Value} {s : String}
    (hfield : field ∈ fields) (hs : s ∈ references field.2) : s ∈ referencesIn fields := by
  induction fields with
  | nil => exact absurd hfield List.not_mem_nil
  | cons first rest ih =>
      rw [referencesIn]
      rcases List.mem_cons.mp hfield with rfl | hfield
      · exact List.mem_append_left _ hs
      · exact List.mem_append_right _ (ih hfield)

theorem mem_entryReferences {entry : Entry} (hordered : entry.properties.Ordered) {name s : String}
    {value : Value} (hid : name ≠ "id") (hlabel : name ≠ labelKey)
    (hvalue : entry.properties.get? name = some value) (hs : s ∈ references value) :
    s ∈ entryReferences entry.toRecord := by
  have hfield := entry.get?_toRecord hordered hid hlabel hvalue
  obtain ⟨fields, hrecord, -⟩ := entry.toRecord_fields
  rw [hrecord] at hfield ⊢
  have hkept : Fields.get? (Fields.erase fields "id") name = some value := by
    rw [Fields.get?_erase, if_neg hid]
    exact hfield
  exact mem_referencesIn (Fields.mem_of_get? hkept) hs

theorem position?_of_last {before after : List (Option String)} {id : String}
    (h : some id ∉ after) : position? (before ++ some id :: after) id = some before.length := by
  have hafter : (after.zipIdx (0 + before.length + 1)).reverse.find?
      (fun known => known.1 == some id) = none := by
    rw [List.find?_eq_none]
    rintro ⟨other, position⟩ hmem heq
    have hother : other = some id := eq_of_beq heq
    have := List.fst_mem_of_mem_zipIdx (List.mem_reverse.mp hmem)
    exact h (hother ▸ this)
  unfold position?
  rw [List.zipIdx_append, List.zipIdx_cons, List.reverse_append, List.reverse_cons,
    List.append_assoc, List.find?_append, hafter]
  simp

def RefersTo (pool : List Value) (i j : Nat) : Prop := j ∈ (targets pool).getD i []

theorem refersTo_of_mem {pool : List Value} {entry : Value} {i j : Nat} {s : String}
    (hentry : pool[i]? = some entry) (hs : s ∈ entryReferences entry)
    (hposition : position? (pool.map Value.id?) s = some j) (hother : j ≠ i) :
    RefersTo pool i j := by
  unfold RefersTo targets
  rw [List.getD_eq_getElem?_getD, List.getElem?_map, List.getElem?_zipIdx, hentry]
  show j ∈ ((entryReferences entry).filterMap _).filter _
  rw [Nat.zero_add, List.mem_filter, List.mem_filterMap]
  exact ⟨⟨s, hs, hposition⟩, bne_iff_ne.mpr hother⟩

end Operator

/-! ## Compiled entries -/

def compiledPool (entries : List Entry) : List Value :=
  (compileEntries entries).entries.map Entry.toRecord

section

variable {entries : List Entry} (hordered : ∀ entry ∈ entries, entry.properties.Ordered)
  (hfits : (compileEntries entries).strings.size ≤ 2 ^ 32)
include hordered hfits

theorem getElem?_compiledPool (i : Nat) :
    (compiledPool entries)[i]? = (entries[i]?).map fun entry => entry.restored.toRecord := by
  unfold compiledPool
  rw [entries_compileEntries hordered hfits, List.map_map, List.getElem?_map]
  rfl

theorem compiledPool_ids :
    (compiledPool entries).map Value.id? = entries.map fun entry => some entry.id := by
  unfold compiledPool
  rw [entries_compileEntries hordered hfits, List.map_map, List.map_map]
  exact List.map_congr_left fun entry _ => Entry.id?_toRecord entry.restored

end

/-- **Compiling does not change what values read as.** A value without records reads as before by
every later table. A property of an entry that has such a value reads as before in the record of the
compiled entry, and where it held the id of another entry the compiled entry refers to that one. -/
theorem compiled_values_read_alike :
    (∀ (hint : StorageHint) (value : Value) (t u : StringTable), value.Recordless →
      value.FitsWords → (compact hint value t).2.Later u →
        ((compact hint value t).1.decompress u).ReadsAs value) ∧
    ∀ (entries : List Entry) (i : Nat) (entry : Entry) (name : String) (value : Value),
      (∀ entry ∈ entries, entry.properties.Ordered) →
      (compileEntries entries).strings.size ≤ 2 ^ 32 →
      entries[i]? = some entry → name ≠ "id" → name ≠ labelKey →
      entry.properties.get? name = some value → value.Recordless → value.FitsWords →
        (∃ record found, (compiledPool entries)[i]? = some record ∧
          record.get? name = some found ∧ found.ReadsAs value) ∧
        ∀ (before after : List Entry) (other : Entry), entries = before ++ other :: after →
          (∀ later ∈ after, later.id ≠ other.id) → i ≠ before.length →
          other.id ∈ references value → Operator.RefersTo (compiledPool entries) i before.length := by
  constructor
  · intro hint value t u hplain hwords hlater
    rw [(compact_stored hint value t).reads u hlater]
    exact normal_readsAs hint value hplain hwords
  intro entries i entry name value hordered hfits hentry hid hlabel hvalue hplain hwords
  have hrecord : (compiledPool entries)[i]? = some entry.restored.toRecord := by
    rw [getElem?_compiledPool hordered hfits, hentry]
    rfl
  have hrestored : entry.restored.properties.Ordered := Fields.map_ordered
    (Entry.keptProperties_ordered (hordered entry (List.mem_of_getElem? hentry))) _
  have hproperty := Entry.get?_restored hid hlabel hvalue
  have halike := normal_readsAs .auto value hplain hwords
  constructor
  · exact ⟨_, _, hrecord, Entry.get?_toRecord hrestored hid hlabel hproperty, halike⟩
  · intro before after other hentries hlast hne hs
    have hreference : other.id ∈ entryReferences entry.restored.toRecord :=
      Operator.mem_entryReferences hrestored hid hlabel hproperty (halike.references ▸ hs)
    refine Operator.refersTo_of_mem hrecord hreference ?_ (Ne.symm hne)
    have hnot : some other.id ∉ after.map fun entry => some entry.id := by
      intro hmem
      obtain ⟨later, hlater, heq⟩ := List.mem_map.mp hmem
      exact hlast later hlater (Option.some.inj heq)
    rw [compiledPool_ids hordered hfits, hentries, List.map_append, List.map_cons,
      Operator.position?_of_last hnot, List.length_map]

def yearOfForging : Entry where
  id := "412"
  label := "The year 412"
  properties := []

/-- The year is stored as a number and still names its entry; the keyword stays a text. -/
theorem excalibur_reads_alike :
    ((compact .auto (.list [.text "007", .text "412"]) .empty).1.decompress
      ⟨["007", "stored later"]⟩).ReadsAs (.list [.text "007", .text "412"]) ∧
      Operator.RefersTo (compiledPool [excalibur, yearOfForging]) 0 1 := by
  obtain ⟨hvalues, hentries⟩ := compiled_values_read_alike
  constructor
  · refine hvalues _ _ _ _ (by simp) (by simp) ⟨?_, by decide⟩
    have hstored : (compact .auto (.list [.text "007", .text "412"]) .empty).2.strings = ["007"] := by
      decide +kernel
    rw [hstored]
    exact ⟨["stored later"], rfl⟩
  · have hordered : ∀ entry ∈ [excalibur, yearOfForging], entry.properties.Ordered := by
      intro entry hentry
      simp only [List.mem_cons, List.not_mem_nil, or_false] at hentry
      rcases hentry with rfl | rfl <;> decide +kernel
    obtain ⟨-, hrefers⟩ := hentries [excalibur, yearOfForging] 0 excalibur "forged" (.text "412")
      hordered (by decide +kernel) rfl (by decide) (by decide) rfl (by simp) (by simp)
    exact hrefers [excalibur] [] yearOfForging rfl (by simp) (by decide)
      (List.mem_singleton.mpr rfl)

end StoryGraph
