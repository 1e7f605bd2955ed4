import StoryGraph.Proofs.Finite
import StoryGraph.Proofs.Interning
import StoryGraph.Proofs.Parts

/-!
# What stored values read as

Storing a value and reading it back gives its normal form, which can be told without any table:
numbers become doubles, texts that are numbers become numbers where the storage hint admits it, and
records become attributes. The numbers that are stored are finite.

Main definitions: `normal`, `Value.FitsWords`.
-/

namespace StoryGraph

/-! ## Normal forms -/

def attributeRecord (name kind : String) (value : Value) : Value :=
  .record [("name", .text name), ("type", .text kind), ("value", value)]

def normalText (hint : StorageHint) (text : String) : Value :=
  match hint with
  | .text => .text text
  | .number | .auto =>
    match pureNumber? text with
    | some x => .ofFloat x
    | none => .text text

mutual

/-- What a value reads as after it was stored. A record with a name becomes an attribute whose kind
decides about its value; any other record becomes a list with an attribute for each field. -/
def normal (hint : StorageHint) : Value → Value
  | .null => .null
  | .bool b => .bool b
  | .number n => .ofFloat n.toFloat
  | .text s => normalText hint s
  | .list items => .list (normalAll hint items)
  | .record fields =>
    match Fields.get? fields "name" with
    | some name => attributeRecord (nameText name) (kindText fields)
        (normalMember (.ofTypeTag (kindText fields)) "value" fields)
    | none => .list (normalFields fields)

def normalAll (hint : StorageHint) : List Value → List Value
  | [] => []
  | item :: rest => normal hint item :: normalAll hint rest

/-- The normal form of the first field with a name; null when there is none. -/
def normalMember (hint : StorageHint) (name : String) : List (String × Value) → Value
  | [] => .null
  | (other, value) :: rest =>
    if name == other then normal hint value else normalMember hint name rest

def normalFields : List (String × Value) → List Value
  | [] => []
  | (name, value) :: rest =>
    attributeRecord name "any" (normal .auto value) :: normalFields rest

end

/-! ## Storing gives normal forms -/

open StringTable (Stored stored_nothing intern_stored)

variable {t : StringTable}

theorem textOf_eq_elim (t : StringTable) (ref : Ref) :
    Compact.textOf t ref = (t.get? ref).elim .null .text := by
  unfold Compact.textOf
  cases t.get? ref with
  | none => rfl
  | some s => rfl

theorem intern_text (s : String) (t : StringTable) :
    Stored t (StringTable.intern s t).2 [(StringTable.intern s t).1]
      (Compact.textOf · (StringTable.intern s t).1) (.text s) := by
  simp only [textOf_eq_elim]
  exact (intern_stored s t).map fun found => found.elim Value.null Value.text

theorem compactText_stored (hint : StorageHint) (text : String) (t : StringTable) :
    Stored t (compactText hint text t).2 (compactText hint text t).1.refs
      (Compact.decompress · (compactText hint text t).1) (normalText hint text) := by
  unfold compactText normalText
  cases hint with
  | text => exact intern_text text t
  | number | auto =>
      cases pureNumber? text with
      | some x => exact stored_nothing t (Value.ofFloat x)
      | none => exact intern_text text t

theorem attribute_stored (name kind : String) (t : StringTable) {t₁ : StringTable}
    {stored : Compact} {value : Value}
    (h : Stored (StringTable.intern kind (StringTable.intern name t).2).2 t₁ stored.refs
      (Compact.decompress · stored) value) :
    let whole := Compact.attribute (StringTable.intern name t).1
      (StringTable.intern kind (StringTable.intern name t).2).1 stored
    Stored t t₁ whole.refs (Compact.decompress · whole) (attributeRecord name kind value) :=
  ((intern_text name t).seq (intern_text kind _) Prod.mk).seq h fun texts value =>
    Value.record [("name", texts.1), ("type", texts.2), ("value", value)]

mutual

/-- **A stored value reads as its normal form**, by every later table. -/
theorem compact_stored (hint : StorageHint) : ∀ (value : Value) (t : StringTable),
    Stored t (compact hint value t).2 (compact hint value t).1.refs
      (Compact.decompress · (compact hint value t).1) (normal hint value)
  | .null, t => stored_nothing t Value.null
  | .bool b, t => stored_nothing t (Value.bool b)
  | .number n, t => stored_nothing t (Value.ofFloat n.toFloat)
  | .text s, t => compactText_stored hint s t
  | .list items, t => (compactAll_stored hint items t).map Value.list
  | .record fields, t => by
      rw [compact, normal]
      cases hname : Fields.get? fields "name" with
      | none => exact (compactFields_stored fields t).map Value.list
      | some name =>
          exact attribute_stored (nameText name) (kindText fields) t
            (compactMember_stored (.ofTypeTag (kindText fields)) "value" fields _)

theorem compactAll_stored (hint : StorageHint) : ∀ (items : List Value) (t : StringTable),
    Stored t (compactAll hint items t).2 (Compact.refsOfAll (compactAll hint items t).1)
      (Compact.decompressAll · (compactAll hint items t).1) (normalAll hint items)
  | [], t => stored_nothing t []
  | item :: rest, t => (compact_stored hint item t).seq (compactAll_stored hint rest _) List.cons

theorem compactMember_stored (hint : StorageHint) (name : String) :
    ∀ (fields : List (String × Value)) (t : StringTable),
      Stored t (compactMember hint name fields t).2 (compactMember hint name fields t).1.refs
        (Compact.decompress · (compactMember hint name fields t).1) (normalMember hint name fields)
  | [], t => stored_nothing t Value.null
  | (other, value) :: rest, t => by
      rw [compactMember, normalMember]
      split
      · exact compact_stored hint value t
      · exact compactMember_stored hint name rest t

theorem compactFields_stored : ∀ (fields : List (String × Value)) (t : StringTable),
    Stored t (compactFields fields t).2 (Compact.refsOfAll (compactFields fields t).1)
      (Compact.decompressAll · (compactFields fields t).1) (normalFields fields)
  | [], t => stored_nothing t []
  | (name, value) :: rest, t =>
      (attribute_stored name "any" t (compact_stored .auto value _)).seq
        (compactFields_stored rest _) List.cons

end

/-! ## Stored numbers -/

/-- All integers in the value, at any depth, fit 64 bits, as those of a document do. -/
def Value.FitsWords (value : Value) : Prop :=
  ∀ n : Int, (Value.number (.int n)).Within value → n.natAbs < 2 ^ 64

def Fields.FitWords (fields : Fields) : Prop := ∀ field ∈ fields, field.2.FitsWords

namespace Value

@[simp] theorem fitsWords_null : null.FitsWords := fun _ h => nomatch h

@[simp] theorem fitsWords_bool (b : Bool) : (bool b).FitsWords := fun _ h => nomatch h

@[simp] theorem fitsWords_text (s : String) : (text s).FitsWords := fun _ h => nomatch h

@[simp] theorem fitsWords_int {n : Int} :
    (number (.int n)).FitsWords ↔ n.natAbs < 2 ^ 64 := by
  refine ⟨fun h => h n .self, fun h m hm => ?_⟩
  cases hm
  exact h

@[simp] theorem fitsWords_list {items : List Value} :
    (list items).FitsWords ↔ ∀ item ∈ items, item.FitsWords := by
  refine ⟨fun h item hitem n hn => h n (.item hitem hn), fun h n hn => ?_⟩
  cases hn with
  | item hitem hn => exact h _ hitem n hn

@[simp] theorem fitsWords_record {fields : Fields} :
    (record fields).FitsWords ↔ fields.FitWords := by
  refine ⟨fun h field hfield n hn => h n (.field hfield hn), fun h n hn => ?_⟩
  cases hn with
  | field hfield hn => exact h _ hfield n hn

end Value

namespace Compact

mutual

def numbers : Compact → List Float
  | .number x => [x]
  | .list items => numbersOfAll items
  | .attribute _ _ value => numbers value
  | _ => []

def numbersOfAll : List Compact → List Float
  | [] => []
  | item :: rest => numbers item ++ numbersOfAll rest

end

def AllFinite (stored : Compact) : Prop := ∀ x ∈ stored.numbers, Binary64.isFinite x = true

end Compact

open StoryGraph.Compact (AllFinite numbersOfAll)

theorem number_finite {n : Number} (h : (Value.number n).FitsWords) :
    Binary64.isFinite n.toFloat = true := by
  cases n with
  | int n => exact Binary64.isFinite_ofInt (h n .self)
  | real x => exact x.isFinite

theorem pureNumber?_finite {text : String} {x : Float} (h : pureNumber? text = some x) :
    Binary64.isFinite x = true := by
  unfold pureNumber? at h
  split at h
  · exact nomatch h
  · split at h
    · have hx := (Option.filter_eq_some_iff.mp h).2
      exact (Bool.and_eq_true_iff.mp hx).1
    · exact nomatch h

theorem compactText_finite (hint : StorageHint) (text : String) (t : StringTable) :
    (compactText hint text t).1.AllFinite := by
  unfold compactText
  cases hint with
  | text => exact fun _ h => absurd h List.not_mem_nil
  | number | auto =>
      cases hnumber : pureNumber? text with
      | some x => exact fun y hy => List.mem_singleton.mp hy ▸ pureNumber?_finite hnumber
      | none => exact fun _ h => absurd h List.not_mem_nil

mutual

/-- **Only finite numbers are stored.** -/
theorem compact_finite (hint : StorageHint) : ∀ value : Value, value.FitsWords →
    ∀ t : StringTable, (compact hint value t).1.AllFinite
  | .null, _, _ => fun _ h => absurd h List.not_mem_nil
  | .bool _, _, _ => fun _ h => absurd h List.not_mem_nil
  | .number _, hfits, _ => fun _ hx => List.mem_singleton.mp hx ▸ number_finite hfits
  | .text s, _, t => compactText_finite hint s t
  | .list items, hfits, t => compactAll_finite hint items (Value.fitsWords_list.mp hfits) t
  | .record fields, hfits, t => by
      rw [compact]
      cases Fields.get? fields "name" with
      | none => exact compactFields_finite fields (Value.fitsWords_record.mp hfits) t
      | some name =>
          exact compactMember_finite _ "value" fields (Value.fitsWords_record.mp hfits) _

theorem compactAll_finite (hint : StorageHint) : ∀ items : List Value,
    (∀ item ∈ items, item.FitsWords) → ∀ t : StringTable,
      ∀ x ∈ numbersOfAll (compactAll hint items t).1, Binary64.isFinite x = true
  | [], _, _, _, h => absurd h List.not_mem_nil
  | item :: rest, hfits, t, x, hx => by
      obtain ⟨hitem, hrest⟩ := List.forall_mem_cons.mp hfits
      rcases List.mem_append.mp hx with hx | hx
      · exact compact_finite hint item hitem t x hx
      · exact compactAll_finite hint rest hrest _ x hx

theorem compactMember_finite (hint : StorageHint) (name : String) :
    ∀ fields : List (String × Value), Fields.FitWords fields →
      ∀ t : StringTable, (compactMember hint name fields t).1.AllFinite
  | [], _, _ => fun _ h => absurd h List.not_mem_nil
  | (other, value) :: rest, hfits, t => by
      obtain ⟨hvalue, hrest⟩ := List.forall_mem_cons.mp hfits
      rw [compactMember]
      split
      · exact compact_finite hint value hvalue t
      · exact compactMember_finite hint name rest hrest t

theorem compactFields_finite : ∀ fields : List (String × Value), Fields.FitWords fields →
    ∀ t : StringTable, ∀ x ∈ numbersOfAll (compactFields fields t).1, Binary64.isFinite x = true
  | [], _, _, _, h => absurd h List.not_mem_nil
  | (name, value) :: rest, hfits, t, x, hx => by
      obtain ⟨hvalue, hrest⟩ := List.forall_mem_cons.mp hfits
      rcases List.mem_append.mp hx with hx | hx
      · exact compact_finite .auto value hvalue _ x hx
      · exact compactFields_finite rest hrest _ x hx

end

end StoryGraph
