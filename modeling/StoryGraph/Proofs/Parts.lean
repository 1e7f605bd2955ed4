import StoryGraph.Engine
import StoryGraph.Proofs.Fields

/-!
# Parts of values

What can be found inside a value, at any depth. A condition on all records inside is inherited: the
items of a list and the fields of a record meet it if the whole does, and a list meets it if its
items do. Three kinds of records come into a run from outside: entries, messages, and the
attributes that properties are stored as.

Main definitions: `Value.Within`, `Value.Hereditary`, `Value.EveryRecord`.
-/

namespace StoryGraph

namespace Value

/-- A value sits in another, at any depth; each sits in itself. -/
inductive Within (part : Value) : Value → Prop where
  | self : Within part part
  | item {items : List Value} {item : Value} :
      item ∈ items → Within part item → Within part (.list items)
  | field {fields : Fields} {field : String × Value} :
      field ∈ fields → Within part field.2 → Within part (.record fields)

/-- A condition that the parts of a value inherit, that a list has from its items, and that every
value without parts meets. -/
structure Hereditary (G : Value → Prop) : Prop where
  null : G .null
  bool : ∀ b, G (.bool b)
  number : ∀ n, G (.number n)
  text : ∀ s, G (.text s)
  list : ∀ {items}, (∀ item ∈ items, G item) → G (.list items)
  item : ∀ {items}, G (.list items) → ∀ item ∈ items, G item
  field : ∀ {fields}, G (.record fields) → ∀ field ∈ fields, G field.2

/-- Every record in the value, at any depth, meets a condition on its fields. -/
def EveryRecord (P : Fields → Prop) (value : Value) : Prop :=
  ∀ fields, (Value.record fields).Within value → P fields

variable {P : Fields → Prop} {G : Value → Prop}

theorem everyRecord_list {items : List Value} :
    (Value.list items).EveryRecord P ↔ ∀ item ∈ items, item.EveryRecord P := by
  constructor
  · exact fun h item hitem fields hfields => h fields (.item hitem hfields)
  · intro h fields hfields
    cases hfields with
    | item hitem hfields => exact h _ hitem fields hfields

theorem everyRecord_record {fields : Fields} :
    (Value.record fields).EveryRecord P ↔ P fields ∧ ∀ field ∈ fields, field.2.EveryRecord P := by
  constructor
  · exact fun h => ⟨h fields .self, fun field hfield inner hinner => h inner (.field hfield hinner)⟩
  · intro ⟨hwhole, hparts⟩ inner hinner
    cases hinner with
    | self => exact hwhole
    | field hfield hinner => exact hparts _ hfield inner hinner

/-- **A condition on all records inside is inherited.** -/
theorem hereditary_everyRecord (P : Fields → Prop) : Hereditary (EveryRecord P) where
  null _ h := nomatch h
  bool _ _ h := nomatch h
  number _ _ h := nomatch h
  text _ _ h := nomatch h
  list h := everyRecord_list.mpr h
  item h := everyRecord_list.mp h
  field h := (everyRecord_record.mp h).2

namespace Hereditary

variable (hG : Hereditary G)
include hG

theorem toItems {value : Value} (h : G value) : ∀ item ∈ value.toItems, G item := by
  intro item hitem
  cases value with
  | null => exact absurd hitem List.not_mem_nil
  | list items => exact hG.item h item hitem
  | _ => exact List.mem_singleton.mp hitem ▸ h

theorem get? {value found : Value} {name : String} (h : G value)
    (hfound : value.get? name = some found) : G found := by
  cases value with
  | record fields => exact hG.field h _ (Fields.mem_of_get? hfound)
  | _ => exact nomatch hfound

theorem attribute? {value found : Value} {name : String} (h : G value)
    (hfound : value.attribute? name = some found) : G found := by
  unfold Value.attribute? at hfound
  split at hfound
  · exact nomatch hfound
  · exact nomatch hfound
  · rename_i hget
    cases hfound
    exact hG.get? h hget

theorem ofFloat (x : Float) : G (.ofFloat x) := by
  unfold Value.ofFloat
  split
  · exact hG.number _
  · split
    · exact hG.number _
    · exact hG.null

theorem ofNat (n : Nat) : G (.ofNat n) := hG.number _

theorem texts (strings : List String) : ∀ item ∈ strings.map Value.text, G item :=
  List.forall_mem_map.mpr fun s _ => hG.text s

theorem neutral (value : Value) : G value.neutral := by
  cases value with
  | list items => exact hG.list fun _ h => absurd h List.not_mem_nil
  | number n => exact hG.number _
  | bool b => exact hG.bool _
  | text s => exact hG.text _
  | null => exact hG.null
  | record fields => exact hG.null

end Hereditary

end Value

/-! ## Stored properties -/

namespace Compact

def attributeFields (table : StringTable) (name kind : Ref) (value : Value) : Fields :=
  [("name", textOf table name), ("type", textOf table kind), ("value", value)]

variable {P : Fields → Prop} {table : StringTable}

theorem textOf_everyRecord (ref : Ref) : (textOf table ref).EveryRecord P := by
  unfold textOf
  split
  · exact (Value.hereditary_everyRecord P).text _
  · exact (Value.hereditary_everyRecord P).null

mutual

theorem decompress_everyRecord
    (h : ∀ name kind value, P (attributeFields table name kind value)) :
    ∀ stored : Compact, (stored.decompress table).EveryRecord P
  | .null => (Value.hereditary_everyRecord P).null
  | .bool b => (Value.hereditary_everyRecord P).bool b
  | .number x => (Value.hereditary_everyRecord P).ofFloat x
  | .string ref => textOf_everyRecord ref
  | .list items => Value.everyRecord_list.mpr (decompressAll_everyRecord h items)
  | .attribute name kind value => by
      refine Value.everyRecord_record.mpr ⟨h name kind _, fun field hfield => ?_⟩
      simp only [List.mem_cons, List.not_mem_nil, or_false] at hfield
      rcases hfield with rfl | rfl | rfl
      · exact textOf_everyRecord name
      · exact textOf_everyRecord kind
      · exact decompress_everyRecord h value

theorem decompressAll_everyRecord
    (h : ∀ name kind value, P (attributeFields table name kind value)) :
    ∀ items : List Compact, ∀ item ∈ decompressAll table items, item.EveryRecord P
  | [], _, hitem => absurd hitem List.not_mem_nil
  | first :: rest, item, hitem => by
      rcases List.mem_cons.mp hitem with rfl | hrest
      · exact decompress_everyRecord h first
      · exact decompressAll_everyRecord h rest item hrest

end

end Compact

theorem Props.mem_decompress {table : StringTable} {props : Props} {pair : String × Value}
    (h : pair ∈ props.decompress table) :
    ∃ stored ∈ props.pairs, pair.2 = stored.2.decompress table := by
  refine (Fields.mem_foldl (R := fun stored pair => pair.2 = stored.2.decompress table)
    (fun fields stored other hother => ?_) props.pairs h).resolve_right List.not_mem_nil
  dsimp only at hother
  split at hother
  · exact (Fields.mem_insertNew hother).imp_left (congrArg Prod.snd)
  · exact .inr hother

namespace Engine

variable {engine : Engine} {P : Fields → Prop}

theorem property?_everyRecord
    (h : ∀ name kind value, P (Compact.attributeFields engine.strings name kind value))
    {node : Nat} {name : String} {value : Value} (hvalue : engine.property? node name = some value) :
    value.EveryRecord P := by
  obtain ⟨stored, -, rfl⟩ := Option.map_eq_some_iff.mp hvalue
  exact stored.decompress_everyRecord h

/-- An entry's record meets a condition, and all records inside, if it is met by the entry's own
fields and by attributes. -/
theorem entries_everyRecord
    (h : ∀ name kind value, P (Compact.attributeFields engine.data.strings name kind value))
    (hown : ∀ fields, Value.record fields ∈ engine.entries → P fields) :
    ∀ entry ∈ engine.entries, entry.EveryRecord P := by
  intro record hrecord
  obtain ⟨entry, hentry, rfl⟩ := List.mem_map.mp hrecord
  obtain ⟨fields, heq, -, hfields⟩ := entry.toRecord_fields
  rw [heq] at hrecord ⊢
  refine Value.everyRecord_record.mpr ⟨hown fields hrecord, fun field hfield => ?_⟩
  rcases hfields field hfield with ⟨s, hs⟩ | hproperty
  · rw [hs]
    exact (Value.hereditary_everyRecord P).text s
  · obtain ⟨item, -, rfl⟩ := List.mem_map.mp hentry
    obtain ⟨stored, -, hstored⟩ := Props.mem_decompress (List.mem_filter.mp hproperty).1
    rw [hstored]
    exact stored.2.decompress_everyRecord h

end Engine

theorem chatRecords_everyRecord {P : Fields → Prop} {chat : List Message}
    (hown : ∀ fields, Value.record fields ∈ chatRecords chat → P fields) :
    ∀ message ∈ chatRecords chat, message.EveryRecord P := by
  intro record hrecord
  obtain ⟨⟨message, index⟩, -, rfl⟩ := List.mem_map.mp hrecord
  obtain ⟨fields, heq, hfields⟩ := message.toRecord_fields index
  dsimp only at hrecord ⊢
  rw [heq] at hrecord ⊢
  refine Value.everyRecord_record.mpr ⟨hown fields hrecord, fun field hfield => ?_⟩
  rcases (hfields field hfield).2 with ⟨s, hs⟩ | ⟨b, hb⟩ | hn
  · exact hs ▸ (Value.hereditary_everyRecord P).text s
  · exact hb ▸ (Value.hereditary_everyRecord P).bool b
  · exact hn ▸ (Value.hereditary_everyRecord P).ofNat index

end StoryGraph
