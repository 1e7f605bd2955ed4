import StoryGraph.Operator.Body
import StoryGraph.Authoring.Graph

/-!
# Named values

Looking up and inserting fields, the order of names, and what the records of messages and entries
hold.

Main definition: `Fields.Ordered`.
-/

namespace StoryGraph

theorem lookup_map_snd {α β γ : Type} [BEq α] [LawfulBEq α] (f : α → β → γ) (a : α) :
    ∀ pairs : List (α × β),
      (pairs.map fun pair => (pair.1, f pair.1 pair.2)).lookup a = (pairs.lookup a).map (f a)
  | [] => rfl
  | pair :: rest => by
      rw [List.map_cons, List.lookup_cons, List.lookup_cons, lookup_map_snd f a rest]
      cases h : a == pair.1 with
      | true => rw [eq_of_beq h]; rfl
      | false => rfl

namespace Fields

variable {fields : Fields} {name other : String} {value : Value}

theorem get?_cons (pair : String × Value) (rest : Fields) :
    Fields.get? (pair :: rest) other = if other = pair.1 then some pair.2 else rest.get? other := by
  unfold get?
  rw [List.lookup_cons]
  by_cases h : other = pair.1
  · rw [if_pos h, h, beq_self_eq_true]
  · rw [if_neg h, beq_false_of_ne h]

theorem mem_of_get? : ∀ {fields : Fields}, fields.get? name = some value → (name, value) ∈ fields
  | pair :: rest, h => by
      rw [get?_cons] at h
      split at h
      · rename_i heq
        cases h
        exact heq ▸ List.mem_cons_self
      · exact List.mem_cons_of_mem _ (mem_of_get? h)

/-- **The field that was inserted is found**, and every other one as before. -/
theorem get?_insert (fields : Fields) :
    (fields.insert name value).get? other =
      if other = name then some value else fields.get? other := by
  induction fields with
  | nil => exact get?_cons _ _
  | cons pair rest ih =>
      unfold insert
      split
      · exact get?_cons _ _
      · split
        · rename_i heq
          rw [get?_cons, get?_cons, ← heq]
          split <;> rfl
        · rename_i hne
          rw [get?_cons, get?_cons, ih]
          by_cases h : other = pair.1
          · rw [if_pos h, if_neg (h ▸ Ne.symm hne)]
            simp [h]
          · simp [h]

theorem mem_insert {pair : String × Value} (h : pair ∈ fields.insert name value) :
    pair = (name, value) ∨ pair ∈ fields := by
  induction fields with
  | nil => exact .inl (List.mem_singleton.mp h)
  | cons first rest ih =>
      unfold insert at h
      split at h
      · exact List.mem_cons.mp h
      · split at h
        · rcases List.mem_cons.mp h with h | h
          · exact .inl h
          · exact .inr (List.mem_cons_of_mem _ h)
        · rcases List.mem_cons.mp h with h | h
          · exact .inr (h ▸ List.mem_cons_self)
          · exact (ih h).imp_right (List.mem_cons_of_mem _)

theorem mem_insertNew {pair : String × Value} (h : pair ∈ fields.insertNew name value) :
    pair = (name, value) ∨ pair ∈ fields := by
  unfold insertNew at h
  split at h
  · exact .inr h
  · exact mem_insert h

/-- A field that is there after some steps was there before or comes from one of them. -/
theorem mem_foldl {β : Type} {R : β → String × Value → Prop} {step : Fields → β → Fields}
    (hstep : ∀ fields b pair, pair ∈ step fields b → R b pair ∨ pair ∈ fields)
    {pair : String × Value} (steps : List β) : ∀ {fields : Fields},
      pair ∈ steps.foldl step fields → (∃ b ∈ steps, R b pair) ∨ pair ∈ fields := by
  induction steps with
  | nil => exact fun h => .inr h
  | cons b rest ih =>
      intro fields h
      rcases ih h with ⟨other, hother, hpair⟩ | hold
      · exact .inl ⟨other, List.mem_cons_of_mem _ hother, hpair⟩
      · exact (hstep fields b pair hold).imp_left fun hpair => ⟨b, List.mem_cons_self, hpair⟩

theorem mem_ofList {pair : String × Value} {pairs : List (String × Value)}
    (h : pair ∈ ofList pairs) : pair ∈ pairs := by
  obtain ⟨_, hmem, rfl⟩ := (mem_foldl (R := fun b pair => pair = b)
    (fun _ _ _ hinsert => mem_insert hinsert) pairs h).resolve_right List.not_mem_nil
  exact hmem

theorem get?_erase (fields : Fields) :
    (fields.erase name).get? other = if other = name then none else fields.get? other := by
  unfold erase
  induction fields with
  | nil => simp [get?]
  | cons pair rest ih =>
      rw [List.filter_cons]
      split
      · rename_i hkept
        rw [get?_cons, get?_cons, ih]
        by_cases h : other = pair.1
        · have hne : other ≠ name := h ▸ bne_iff_ne.mp hkept
          simp [h, h ▸ hne]
        · simp [h]
      · rename_i hdropped
        have heq : pair.1 = name := by simpa using hdropped
        rw [ih, get?_cons, heq]
        split <;> rfl

/-! ## Order -/

def Ordered (fields : Fields) : Prop := fields.Pairwise fun a b => a.1 < b.1

instance (fields : Fields) : Decidable fields.Ordered :=
  inferInstanceAs (Decidable (fields.Pairwise fun a b => a.1 < b.1))

theorem Ordered.nodup (h : fields.Ordered) : (fields.map Prod.fst).Nodup :=
  List.pairwise_map.mpr (h.imp String.ne_of_lt)

theorem Ordered.erase (h : fields.Ordered) (name : String) : (fields.erase name).Ordered :=
  List.Pairwise.filter _ h

/-- **Inserting keeps the order.** -/
theorem Ordered.insert (h : fields.Ordered) (name : String) (value : Value) :
    (fields.insert name value).Ordered := by
  induction fields with
  | nil => exact List.pairwise_singleton _ _
  | cons pair rest ih =>
      obtain ⟨hfirst, hrest⟩ := List.pairwise_cons.mp h
      unfold Fields.insert
      split
      · rename_i hlt
        refine List.pairwise_cons.mpr ⟨fun later hlater => ?_, h⟩
        rcases List.mem_cons.mp hlater with rfl | hlater
        · exact hlt
        · exact String.lt_trans hlt (hfirst later hlater)
      · split
        · rename_i heq
          exact List.pairwise_cons.mpr ⟨heq ▸ hfirst, hrest⟩
        · rename_i hle hne
          refine List.pairwise_cons.mpr ⟨fun later hlater => ?_, ih hrest⟩
          rcases mem_insert hlater with rfl | hlater
          · exact Std.lt_of_le_of_ne hle (Ne.symm hne)
          · exact hfirst later hlater

end Fields

theorem Tree.toFields?_ordered {room : Nat} (members : List (Option String × Tree)) :
    ∀ {before after : Fields}, before.Ordered → toFields? room before members = some after →
      after.Ordered := by
  induction members with
  | nil =>
      intro before after h heq
      cases heq
      exact h
  | cons member rest ih =>
      obtain ⟨name, tree⟩ := member
      intro before after h heq
      obtain ⟨name, -, heq⟩ := Option.bind_eq_some_iff.mp heq
      obtain ⟨value, -, heq⟩ := Option.bind_eq_some_iff.mp heq
      exact ih (h.insert name value) heq

theorem Tree.toRecord?_ordered {tree : Tree} {fields : Fields}
    (h : tree.toRecord? = some fields) : fields.Ordered := by
  unfold toRecord? at h
  split at h
  · rename_i found hvalue
    cases h
    cases tree with
    | record members =>
        unfold toValue? at hvalue
        rw [if_neg (by decide)] at hvalue
        obtain ⟨read, hread, heq⟩ := Option.map_eq_some_iff.mp hvalue
        cases heq
        exact toFields?_ordered members List.Pairwise.nil hread
    | list items =>
        unfold toValue? at hvalue
        rw [if_neg (by decide)] at hvalue
        obtain ⟨read, -, heq⟩ := Option.map_eq_some_iff.mp hvalue
        exact nomatch heq
    | number n =>
        obtain ⟨read, -, heq⟩ := Option.map_eq_some_iff.mp hvalue
        exact nomatch heq
    | text s =>
        obtain ⟨read, -, heq⟩ := Option.map_eq_some_iff.mp hvalue
        exact nomatch heq
    | null => exact nomatch hvalue
    | bool b => exact nomatch hvalue
  · exact nomatch h

theorem Field.toRecord?_ordered {field : Option Tree} {fields : Fields}
    (h : Field.withDefault [] Tree.toRecord? field = some fields) : fields.Ordered := by
  cases field with
  | none =>
      cases h
      exact List.Pairwise.nil
  | some tree => exact Tree.toRecord?_ordered h

theorem GraphNode.ofTree?_ordered {tree : Tree} {node : GraphNode}
    (h : GraphNode.ofTree? tree = some node) : node.properties.Ordered := by
  obtain ⟨parts, -, h⟩ := Option.bind_eq_some_iff.mp h
  split at h
  · obtain ⟨id, -, h⟩ := Option.bind_eq_some_iff.mp h
    obtain ⟨type, -, h⟩ := Option.bind_eq_some_iff.mp h
    obtain ⟨label, -, h⟩ := Option.bind_eq_some_iff.mp h
    obtain ⟨properties, hproperties, h⟩ := Option.bind_eq_some_iff.mp h
    cases h
    exact Field.toRecord?_ordered hproperties
  · exact nomatch h

theorem mem_of_mapM {α β : Type} {read : α → Option β} : ∀ {items : List α} {results : List β},
    items.mapM read = some results → ∀ b ∈ results, ∃ item ∈ items, read item = some b
  | [], _, h, _, hb => by
      cases h
      exact absurd hb List.not_mem_nil
  | item :: rest, _, h, b, hb => by
      rw [List.mapM_cons] at h
      obtain ⟨first, hfirst, h⟩ := Option.bind_eq_some_iff.mp h
      obtain ⟨others, hothers, h⟩ := Option.bind_eq_some_iff.mp h
      cases h
      rcases List.mem_cons.mp hb with rfl | hb
      · exact ⟨item, List.mem_cons_self, hfirst⟩
      · obtain ⟨other, hother, hread⟩ := mem_of_mapM hothers b hb
        exact ⟨other, List.mem_cons_of_mem _ hother, hread⟩

/-- **In a graph that is read from a document all properties are in order.** -/
theorem Graph.ofTree?_ordered {tree : Tree} {graph : Graph} (h : Graph.ofTree? tree = some graph) :
    ∀ node ∈ graph.nodes, node.properties.Ordered := by
  obtain ⟨parts, -, h⟩ := Option.bind_eq_some_iff.mp h
  split at h
  · rename_i nodes edges
    obtain ⟨read, hread, h⟩ := Option.bind_eq_some_iff.mp h
    obtain ⟨_, -, h⟩ := Option.bind_eq_some_iff.mp h
    cases h
    intro node hnode
    cases nodes with
    | none =>
        cases hread
        exact absurd hnode List.not_mem_nil
    | some tree =>
        cases tree with
        | list items =>
            obtain ⟨item, -, hitem⟩ := mem_of_mapM hread node hnode
            exact GraphNode.ofTree?_ordered hitem
        | _ => exact nomatch hread
  · exact nomatch h

/-! ## The records of messages and entries -/

theorem Message.toRecord_fields (message : Message) (index : Nat) :
    ∃ fields, message.toRecord index = .record fields ∧
      ∀ pair ∈ fields, pair.1 ∈ ["message", "is_bot", "index", "date"] ∧
        ((∃ s, pair.2 = .text s) ∨ (∃ b, pair.2 = .bool b) ∨ pair.2 = .ofNat index) := by
  refine ⟨_, rfl, fun pair hpair => ?_⟩
  have hpair := Fields.mem_ofList hpair
  rcases List.mem_append.mp hpair with hpair | hpair
  · simp only [List.mem_cons, List.not_mem_nil, or_false] at hpair
    rcases hpair with rfl | rfl | rfl
    · exact ⟨by simp, .inl ⟨_, rfl⟩⟩
    · exact ⟨by simp, .inr (.inl ⟨_, rfl⟩)⟩
    · exact ⟨by simp, .inr (.inr rfl)⟩
  · obtain ⟨date, -, rfl⟩ := List.mem_map.mp hpair
    exact ⟨by simp, .inl ⟨_, rfl⟩⟩

namespace Entry

/-- The id and the label, as the fields that every entry's record has. -/
def ownFields (entry : Entry) : Fields :=
  Fields.ofList [("id", .text entry.id), ("label", .text entry.label)]

/-- Adds a property to a record, unless the name is that of the id or the label. -/
def addProperty (fields : Fields) (pair : String × Value) : Fields :=
  if pair.1 == "id" || pair.1 == "label" then fields else fields.insert pair.1 pair.2

theorem toRecord_eq (entry : Entry) :
    entry.toRecord = .record (entry.properties.foldl addProperty entry.ownFields) := rfl

theorem addProperty_id (fields : Fields) (pair : String × Value) :
    (addProperty fields pair).get? "id" = fields.get? "id" := by
  unfold addProperty
  split
  · rfl
  · rename_i hname
    rw [Fields.get?_insert, if_neg]
    rintro hid
    simp [← hid] at hname

theorem mem_addProperty {fields : Fields} {pair other : String × Value}
    (h : other ∈ addProperty fields pair) : other = pair ∨ other ∈ fields := by
  unfold addProperty at h
  split at h
  · exact .inr h
  · exact Fields.mem_insert h

theorem foldl_addProperty_id (properties : Fields) : ∀ fields : Fields,
    Fields.get? (properties.foldl addProperty fields) "id" = fields.get? "id" := by
  induction properties with
  | nil => exact fun _ => rfl
  | cons pair rest ih => exact fun fields => (ih _).trans (addProperty_id fields pair)

/-- The fields of an entry's record: its id, and otherwise texts of its own or its properties. -/
theorem toRecord_fields (entry : Entry) :
    ∃ fields, entry.toRecord = .record fields ∧
      Fields.get? fields "id" = some (.text entry.id) ∧
      ∀ pair ∈ fields, (∃ s, pair.2 = .text s) ∨ pair ∈ entry.properties := by
  refine ⟨_, toRecord_eq entry, ?_, fun pair hpair => ?_⟩
  · rw [foldl_addProperty_id]
    show Fields.get? (Fields.insert "label" _ (Fields.insert "id" _ [])) "id" = _
    rw [Fields.get?_insert, Fields.get?_insert, if_neg (by decide), if_pos rfl]
  · rcases Fields.mem_foldl (R := fun pair other => other = pair)
      (fun _ _ _ => mem_addProperty) entry.properties hpair with ⟨_, hmem, rfl⟩ | hown
    · exact .inr hmem
    · have hown := Fields.mem_ofList hown
      simp only [List.mem_cons, List.not_mem_nil, or_false] at hown
      rcases hown with rfl | rfl <;> exact .inl ⟨_, rfl⟩

end Entry

end StoryGraph
