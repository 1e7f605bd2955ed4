import StoryGraph.Proofs.Exact
import StoryGraph.Proofs.WellFormed

/-!
# Entries come back

Entries that are compiled and decompressed come back in their order, each with its id, its label and
its properties in their normal forms. However much is interned after an entry, it comes back the
same. Properties of a few kinds last: their normal form is what was written.

Main definitions: `Entry.restored`, `Value.Lasting`.
-/

namespace StoryGraph

/-! ## Fields that are told by their look-ups -/

namespace Fields

variable {fields : Fields} {name other : String} {value : Value}

theorem Ordered.get?_of_mem (h : fields.Ordered) (hmem : (name, value) ∈ fields) :
    fields.get? name = some value := by
  induction fields with
  | nil => exact absurd hmem List.not_mem_nil
  | cons pair rest ih =>
      obtain ⟨hfirst, hrest⟩ := List.pairwise_cons.mp h
      rw [get?_cons]
      rcases List.mem_cons.mp hmem with rfl | hmem
      · rw [if_pos rfl]
      · have hlater := String.ne_of_lt (hfirst _ hmem)
        rw [if_neg (Ne.symm hlater)]
        exact ih hrest hmem

/-- **Fields in order are told by their look-ups.** -/
theorem Ordered.ext {first second : Fields} (hfirst : first.Ordered) (hsecond : second.Ordered)
    (h : ∀ name, first.get? name = second.get? name) : first = second := by
  have hsame : ∀ field, field ∈ first ↔ field ∈ second := by
    rintro ⟨name, value⟩
    constructor
    · intro hmem
      exact mem_of_get? (h name ▸ hfirst.get?_of_mem hmem)
    · intro hmem
      exact mem_of_get? (h name ▸ hsecond.get?_of_mem hmem)
  have hperm : first.Perm second :=
    (List.perm_ext_iff_of_nodup hfirst.nodup.of_map hsecond.nodup.of_map).mpr hsame
  refine hperm.eq_of_pairwise (fun a b _ _ hlt hgt => ?_) hfirst hsecond
  exact absurd hgt (String.lt_asymm hlt)

theorem get?_insertNew (fields : Fields) : (fields.insertNew name value).get? other =
    (fields.get? other).or (if other = name then some value else none) := by
  unfold insertNew
  cases hfound : fields.get? name with
  | some old =>
      rw [Option.isSome_some, if_pos rfl]
      by_cases h : other = name
      · rw [h, hfound, Option.some_or]
      · rw [if_neg h, Option.or_none]
  | none =>
      rw [Option.isSome_none, if_neg Bool.false_ne_true, get?_insert]
      by_cases h : other = name
      · rw [h, hfound, if_pos rfl, Option.none_or]
      · rw [if_neg h, if_neg h, Option.or_none]

theorem Ordered.insertNew (h : fields.Ordered) (name : String) (value : Value) :
    (fields.insertNew name value).Ordered := by
  unfold Fields.insertNew
  split
  · exact h
  · exact h.insert name value

/-- Of pairs that are inserted unless their name has a value, the first of a name counts. -/
theorem get?_foldl_insertNew (pairs : Fields) : ∀ fields : Fields,
    Fields.get? (pairs.foldl (fun found pair => found.insertNew pair.1 pair.2) fields) name =
      (fields.get? name).or (pairs.get? name) := by
  induction pairs with
  | nil => exact fun fields => (Option.or_none).symm
  | cons pair rest ih =>
      intro fields
      rw [List.foldl_cons, ih, get?_insertNew, get?_cons, Option.or_assoc]
      congr 1
      split
      · exact Option.some_or
      · exact Option.none_or

theorem map_ordered (h : fields.Ordered) (f : Value → Value) :
    Ordered (fields.map fun field => (field.1, f field.2)) :=
  List.pairwise_map.mpr h

end Fields

/-! ## Property lists as fields -/

namespace Props

variable {table : StringTable} {props : Props} {fields : Fields}

theorem decompress_ordered (table : StringTable) (props : Props) :
    (props.decompress table).Ordered := by
  unfold decompress
  refine List.foldlRecOn props.pairs _ List.Pairwise.nil fun found h pair _ => ?_
  dsimp only
  split
  · exact Fields.Ordered.insertNew h _ _
  · exact h

theorem decompress_eq_foldl (hread : props.read table = fields.asRead) :
    props.decompress table =
      fields.foldl (fun found pair => Fields.insertNew pair.1 pair.2 found) [] := by
  obtain ⟨pairs⟩ := props
  unfold decompress
  generalize ([] : Fields) = found
  induction pairs generalizing fields found with
  | nil =>
      cases fields with
      | nil => rfl
      | cons field rest => exact nomatch hread
  | cons pair others ih =>
      cases fields with
      | nil => exact nomatch hread
      | cons field rest =>
          obtain ⟨hpair, hrest⟩ := List.cons.inj hread
          obtain ⟨hkey, hvalue⟩ := Prod.mk.inj hpair
          rw [List.foldl_cons, List.foldl_cons, ← ih hrest]
          dsimp only
          rw [hkey, hvalue]

/-- **A property list is looked up as the fields it reads as.** -/
theorem get?_decompress (hread : props.read table = fields.asRead) (name : String) :
    (props.decompress table).get? name = fields.get? name := by
  rw [decompress_eq_foldl hread, Fields.get?_foldl_insertNew]
  exact Option.none_or

end Props

/-! ## Entries -/

namespace Entry

/-- The properties that an entry keeps when it is compiled: its id and its label stand elsewhere. -/
def keptProperties (entry : Entry) : Fields :=
  Fields.erase (Fields.erase entry.properties labelKey) "id"

def restored (entry : Entry) : Entry where
  id := entry.id
  label := entry.label
  properties := entry.keptProperties.map fun field => (field.1, normal .auto field.2)

theorem keptProperties_ordered {entry : Entry} (h : entry.properties.Ordered) :
    entry.keptProperties.Ordered := (h.erase labelKey).erase "id"

theorem mem_keptProperties {entry : Entry} {field : String × Value} :
    field ∈ entry.keptProperties ↔
      field ∈ entry.properties ∧ field.1 ≠ labelKey ∧ field.1 ≠ "id" := by
  unfold keptProperties Fields.erase
  rw [List.mem_filter, List.mem_filter, bne_iff_ne, bne_iff_ne, and_assoc]

theorem keptProperties_eq {entry : Entry}
    (h : ∀ field ∈ entry.properties, field.1 ≠ labelKey ∧ field.1 ≠ "id") :
    entry.keptProperties = entry.properties := by
  have hall : ∀ field ∈ entry.properties, (field.1 != labelKey) = true ∧ (field.1 != "id") = true :=
    fun field hfield => ⟨bne_iff_ne.mpr (h field hfield).1, bne_iff_ne.mpr (h field hfield).2⟩
  unfold keptProperties Fields.erase
  rw [List.filter_eq_self.mpr fun field hfield => (hall field hfield).1,
    List.filter_eq_self.mpr fun field hfield => (hall field hfield).2]

/-- Of the normal forms, those of the properties are left when the label is taken away. -/
theorem erase_normalProps (entry : Entry) (hordered : entry.properties.Ordered)
    {found : Fields} (hfound : found.Ordered)
    (h : ∀ name, found.get? name = entry.normalProps.get? name) :
    found.erase labelKey = entry.restored.properties := by
  have hkept := keptProperties_ordered hordered
  -- Both are in order of their names, so look-ups tell them apart.
  refine (hfound.erase labelKey).ext (Fields.map_ordered hkept _) fun name => ?_
  have hlabel : labelKey ∉ entry.restored.properties.map Prod.fst := by
    intro hmem
    obtain ⟨field, hfield, heq⟩ := List.mem_map.mp hmem
    obtain ⟨kept, hkept, rfl⟩ := List.mem_map.mp hfield
    exact (mem_keptProperties.mp hkept).2.1 heq
  have hprops : entry.normalProps =
      (labelKey, .text entry.label) :: entry.restored.properties := rfl
  rw [Fields.get?_erase, h, hprops, Fields.get?_cons]
  by_cases hname : name = labelKey
  · rw [if_pos hname, hname]
    cases hlookup : Fields.get? entry.restored.properties labelKey with
    | none => rfl
    | some value =>
        exact absurd (List.mem_map.mpr ⟨_, Fields.mem_of_get? hlookup, rfl⟩) hlabel
  · rw [if_neg hname, if_neg hname]

end Entry

theorem map_eq_map_of_reads {α β γ δ : Type} {read : α → γ} {meaning : β → γ} {f : α → δ}
    {g : β → δ} : ∀ {as : List α} {bs : List β}, as.map read = bs.map meaning →
      (∀ a, ∀ b ∈ bs, read a = meaning b → f a = g b) → as.map f = bs.map g
  | [], [], _, _ => rfl
  | a :: as, b :: bs, hreads, h => by
      obtain ⟨hhead, htail⟩ := List.cons.inj hreads
      rw [List.map_cons, List.map_cons, h a b List.mem_cons_self hhead,
        map_eq_map_of_reads htail fun a b hb => h a b (List.mem_cons_of_mem _ hb)]

/-- **Entries come back in their order, each in its normal form.** -/
theorem entries_compileEntries {entries : List Entry}
    (hordered : ∀ entry ∈ entries, entry.properties.Ordered)
    (hfits : (compileEntries entries).strings.size ≤ 2 ^ 32) :
    (compileEntries entries).entries = entries.map Entry.restored := by
  have hread := (compileEntries_stored entries).reads _ (.refl hfits)
  refine map_eq_map_of_reads hread fun compiled entry hentry heq => ?_
  obtain ⟨hid, hrest⟩ := Prod.mk.inj heq
  obtain ⟨hprops, hlabel⟩ := Prod.mk.inj hrest
  have hproperties : ((compiled.props.decompress (compileEntries entries).strings).erase labelKey) =
      entry.restored.properties :=
    entry.erase_normalProps (hordered entry hentry) (Props.decompress_ordered _ _)
      (Props.get?_decompress hprops)
  unfold DataDocument.decompressEntry Entry.restored
  rw [hid, hlabel]
  exact congrArg _ hproperties

/-! ## Properties that last -/

/-- Values that are their own normal form under every hint: integers that a double holds below
`9 · 10 ^ 15`, doubles that are not integral, texts that are no numbers, and lists and attributes of
such values. -/
inductive Value.Lasting : Value → Prop where
  | null : Lasting .null
  | bool (b : Bool) : Lasting (.bool b)
  | integer {n : Int} : n.natAbs < 9 * 10 ^ 15 → Lasting (.number (.int n))
  | fraction {x : FiniteDouble} : Binary64.isIntegral x.val = false → Lasting (.number (.real x))
  | text {s : String} : pureNumber? s = none → Lasting (.text s)
  | list {items : List Value} : (∀ item ∈ items, Lasting item) → Lasting (.list items)
  | record (name kind : String) {value : Value} :
      Lasting value → Lasting (attributeRecord name kind value)

theorem normalAll_eq_map (hint : StorageHint) (items : List Value) :
    normalAll hint items = items.map (normal hint) := by
  induction items with
  | nil => rfl
  | cons item rest ih => rw [normalAll, ih, List.map_cons]

theorem normalText_of_pureNumber?_eq_none {s : String} (hint : StorageHint)
    (h : pureNumber? s = none) : normalText hint s = .text s := by
  unfold normalText
  cases hint with
  | text => rfl
  | number | auto => rw [h]

theorem normal_attributeRecord (hint : StorageHint) (name kind : String) (value : Value) :
    normal hint (attributeRecord name kind value) =
      attributeRecord name kind (normal (.ofTypeTag kind) value) := by
  unfold attributeRecord
  rw [normal]
  rfl

theorem Value.Lasting.normal_eq {value : Value} (h : value.Lasting) :
    ∀ hint : StorageHint, normal hint value = value := by
  induction h with
  | null => exact fun _ => rfl
  | bool b => exact fun _ => rfl
  | integer hsmall => exact fun _ => ofFloat_ofInt hsmall
  | fraction hfraction => exact fun _ => ofFloat_of_fraction hfraction
  | text hnone => exact fun hint => normalText_of_pureNumber?_eq_none hint hnone
  | list hitems ih =>
      intro hint
      rw [normal, normalAll_eq_map, List.map_congr_left fun item hitem => ih item hitem hint,
        List.map_id']
  | record name kind hvalue ih =>
      intro hint
      rw [normal_attributeRecord, ih]

theorem Entry.restored_properties_of_lasting {entry : Entry}
    (h : ∀ field ∈ entry.properties, field.2.Lasting) :
    entry.restored.properties = entry.keptProperties := by
  unfold restored
  dsimp only
  have hsame : ∀ field ∈ entry.keptProperties, (field.1, normal .auto field.2) = field := by
    intro field hfield
    rw [(h field (mem_keptProperties.mp hfield).1).normal_eq]
  rw [List.map_congr_left hsame, List.map_id']

/-- **Compiled entries come back**, as many and in the same order, each with its id, its label and
the normal forms of the properties that it keeps. Properties that last come back as they were, so an
entry that has no others, and none that is named like the id or the label, is unchanged. -/
theorem compiled_entries_come_back (entries : List Entry)
    (hordered : ∀ entry ∈ entries, entry.properties.Ordered)
    (hfits : (compileEntries entries).strings.size ≤ 2 ^ 32) :
    (compileEntries entries).entries = entries.map Entry.restored ∧
      ∀ entry ∈ entries, (∀ field ∈ entry.properties, field.2.Lasting) →
        entry.restored.properties = entry.keptProperties ∧
          ((∀ field ∈ entry.properties, field.1 ≠ labelKey ∧ field.1 ≠ "id") →
            entry.restored = entry) := by
  refine ⟨entries_compileEntries hordered hfits, fun entry _ hlasting => ?_⟩
  have hproperties := Entry.restored_properties_of_lasting hlasting
  refine ⟨hproperties, fun hnames => ?_⟩
  obtain ⟨id, label, properties⟩ := entry
  rw [Entry.keptProperties_eq hnames] at hproperties
  exact congrArg (Entry.mk id label) hproperties

/-- Its year and its second keyword look like numbers, but only the year is one. -/
def excalibur : Entry where
  id := "excalibur"
  label := "Excalibur"
  properties := [
    ("bond", attributeRecord "owner" "entry" (.text "arthur")),
    ("cursed", .bool false),
    ("forged", .text "412"),
    ("keywords", .list [.text "blade", .text "007"]),
    ("weight", .number (.int 3))]

def stone : Entry where
  id := "stone"
  label := "Stone"
  properties := [("holds", attributeRecord "sword" "entry" (.text "excalibur")),
    ("weight", .number (.int (-900)))]

theorem stone_lasting : ∀ field ∈ stone.properties, field.2.Lasting := by
  intro field hfield
  simp only [stone, List.mem_cons, List.not_mem_nil, or_false] at hfield
  rcases hfield with rfl | rfl
  · exact .record _ _ (.text (by decide +kernel))
  · exact .integer (by decide)

theorem excalibur_comes_back :
    (∀ entry ∈ [excalibur, stone], entry.properties.Ordered) ∧
      (compileEntries [excalibur, stone]).strings.size ≤ 2 ^ 32 ∧
      (compileEntries [excalibur, stone]).entries = [excalibur.restored, stone] ∧
      Fields.get? excalibur.restored.properties "forged" = some (.number (.int 412)) ∧
      Fields.get? excalibur.restored.properties "keywords" =
        some (.list [.text "blade", .text "007"]) := by
  have hordered : ∀ entry ∈ [excalibur, stone], entry.properties.Ordered := by
    intro entry hentry
    simp only [List.mem_cons, List.not_mem_nil, or_false] at hentry
    rcases hentry with rfl | rfl <;> decide +kernel
  have hfits : (compileEntries [excalibur, stone]).strings.size ≤ 2 ^ 32 := by decide +kernel
  obtain ⟨hback, hlasting⟩ := compiled_entries_come_back [excalibur, stone] hordered hfits
  refine ⟨hordered, hfits, ?_, rfl, rfl⟩
  rw [hback]
  have hstone : stone.restored = stone := by
    refine (hlasting stone (by simp) stone_lasting).2 fun field hfield => ?_
    simp only [stone, List.mem_cons, List.not_mem_nil, or_false] at hfield
    rcases hfield with rfl | rfl <;> decide
  rw [List.map_cons, List.map_cons, List.map_nil, hstone]

end StoryGraph
