import StoryGraph.Document.Data
import StoryGraph.Proofs.Printed
import StoryGraph.Proofs.Wire

/-!
# Documents that are written and read

The text of a document is that of a record with the parts of the document. Where there is room for
the values, it is read as the document in which each number is what its numeral is read as; so it is
read as the document itself if all numbers are read back.

Main definitions: `Compact.reread?`, `BehaviorDocument.reread?`, `DataDocument.reread?`,
`Compact.Legible`. Main statements: `BehaviorDocument.parse_toJson`, `DataDocument.parse_toJson`.
-/

namespace StoryGraph

/-! ## Lists that are read -/

section Lists

variable {α β : Type} {items : List α}

theorem mapM_eq_some_self {f : α → Option α} :
    items.mapM f = some items ↔ ∀ item ∈ items, f item = some item := by
  induction items with
  | nil => exact ⟨fun _ _ h => absurd h List.not_mem_nil, fun _ => rfl⟩
  | cons item rest ih =>
      rw [List.mapM_cons, List.forall_mem_cons, ← ih]
      constructor
      · intro h
        obtain ⟨first, hfirst, h⟩ := Option.bind_eq_some_iff.mp h
        obtain ⟨others, hothers, h⟩ := Option.bind_eq_some_iff.mp h
        obtain ⟨rfl, rfl⟩ := List.cons.inj (Option.some.inj h)
        exact ⟨hfirst, hothers⟩
      · rintro ⟨hfirst, hothers⟩
        rw [hfirst, hothers]
        rfl

theorem mapM_ite {P : α → Prop} [DecidablePred P] (f : α → Option β) :
    (items.mapM fun item => if P item then f item else none) =
      if ∀ item ∈ items, P item then items.mapM f else none := by
  induction items with
  | nil => rfl
  | cons item rest ih =>
      rw [List.mapM_cons, List.mapM_cons, ih]
      by_cases hitem : P item
      · by_cases hrest : ∀ other ∈ rest, P other
        · rw [if_pos hitem, if_pos hrest, if_pos (List.forall_mem_cons.mpr ⟨hitem, hrest⟩)]
        · rw [if_neg hrest, if_neg (mt (fun h => (List.forall_mem_cons.mp h).2) hrest)]
          cases f item <;> simp [hitem]
      · rw [if_neg hitem, if_neg (mt (fun h => (List.forall_mem_cons.mp h).1) hitem)]
        rfl

/-- A check that does not tell what is read from what was written accepts both lists or neither. -/
theorem forM_of_mapM {ε : Type} {f : α → Option α} {check : α → Except ε Unit}
    (h : ∀ {item read}, f item = some read → check read = check item) : ∀ {items reads : List α},
      items.mapM f = some reads → reads.length = items.length ∧ reads.forM check = items.forM check
  | [], _, hread => Option.some.inj hread ▸ ⟨rfl, rfl⟩
  | item :: rest, reads, hread => by
      rw [List.mapM_cons] at hread
      obtain ⟨first, hfirst, hread⟩ := Option.bind_eq_some_iff.mp hread
      obtain ⟨others, hothers, hread⟩ := Option.bind_eq_some_iff.mp hread
      obtain rfl := Option.some.inj hread
      obtain ⟨hlength, hforM⟩ := forM_of_mapM h hothers
      refine ⟨congrArg (· + 1) hlength, ?_⟩
      show (do check first; others.forM check) = (do check item; rest.forM check)
      rw [h hfirst, hforM]

theorem Tree.toList?_printed {read : Tree → Option β} {write : α → Value} :
    toList? read (printed (.list (items.map write))) =
      items.mapM fun item => read (printed (write item)) := by
  rw [printed, printedAll_eq_map]
  show ((items.map write).map printed).mapM read = _
  rw [List.mapM_map, List.mapM_map]
  rfl

end Lists

/-! ## Stored values -/

namespace Compact

mutual

/-- The value as it is read from its text: a finite number as its numeral is read, any other number
as null. -/
def reread? : Compact → Option Compact
  | .null => some .null
  | .bool b => some (.bool b)
  | .number x =>
    match FiniteDouble.ofFloat? x with
    | some y => (Number.real y).reading.map fun n => .number n.toFloat
    | none => some .null
  | .string ref => some (.string ref)
  | .list items => (rereadAll? items).map .list
  | .attribute name kind value => (reread? value).map (.attribute name kind)

def rereadAll? : List Compact → Option (List Compact)
  | [] => some []
  | item :: rest => do
    let value ← reread? item
    let values ← rereadAll? rest
    some (value :: values)

end

/-- Every number in the stored value is finite and read back from its text. -/
def Legible (stored : Compact) : Prop :=
  ∀ x ∈ stored.numbers, ∃ y : FiniteDouble, y.val = x ∧ (Number.real y).ReadsBack

theorem reading_ref (ref : Ref) : (Number.int ref.toNat).reading = some (.int ref.toNat) := by
  have hsmall := ref.toNat_lt
  exact Number.readsBack_iff.mp (Number.readsBack_int (by omega) (by omega))

theorem toValue?_printed_ref (ref : Ref) (room : Nat) :
    (Tree.printed (encodeRef ref)).toValue? room = some (encodeRef ref) := by
  show (Tree.number (Number.int ref.toNat).reading).toValue? room = _
  rw [reading_ref, Tree.toValue?, Option.map_some]
  rfl

theorem toValue?_printed_number (x : Float) (room : Nat) :
    (Tree.printed (encode (.number x))).toValue? room =
      (reread? (.number x)).map encode := by
  rw [encode, reread?]
  cases FiniteDouble.ofFloat? x with
  | none => rfl
  | some y =>
      obtain ⟨read, hread⟩ := Number.reading_real y
      show (Tree.number (Number.real y).reading).toValue? room =
        ((Number.real y).reading.map fun n => number n.toFloat).map encode
      rw [hread, Tree.toValue?]
      cases read with
      | none => rfl
      | some z =>
          show some (Value.number (.real z)) = some (encode (.number z.val))
          rw [encode, FiniteDouble.ofFloat?_val]

mutual

/-- **A stored value is read from its text with its numbers as their numerals are read**, where
there is room for it. -/
theorem toValue?_printed : ∀ (stored : Compact) {room : Nat}, stored.encode.depth ≤ room →
    (Tree.printed stored.encode).toValue? room = stored.reread?.map encode
  | .null, _, _ => rfl
  | .bool _, _, _ => rfl
  | .number x, room, _ => toValue?_printed_number x room
  | .string ref, room, _ => toValue?_printed_ref ref room
  | .list items, room, hroom => by
      rw [encode, Value.depth] at hroom
      rw [encode, Tree.printed, Tree.toValue?, if_neg (by omega),
        toValues?_printed items (by omega), reread?, Option.map_map, Option.map_map]
      rfl
  | .attribute name kind value, room, hroom => by
      rw [encode, Value.depth, Value.depthOfFields, Value.depthOfFields,
        Value.depthOfFields] at hroom
      have hvalue : (Tree.printed value.encode).toValue? (room - 1) = value.reread?.map encode :=
        toValue?_printed value (by omega)
      rw [encode, Tree.printed, Tree.toValue?, if_neg (by omega), Tree.printedFields,
        Tree.toFields?, toValue?_printed_ref, Tree.printedFields]
      simp only [Option.bind_eq_bind, Option.bind_some]
      rw [Tree.toFields?, toValue?_printed_ref, Tree.printedFields]
      simp only [Option.bind_eq_bind, Option.bind_some]
      rw [Tree.toFields?, hvalue, reread?]
      cases reread? value <;> rfl

theorem toValues?_printed : ∀ (items : List Compact) {room : Nat},
    Value.depthOfAll (encodeAll items) ≤ room →
      Tree.toValues? room (Tree.printedAll (encodeAll items)) = (rereadAll? items).map encodeAll
  | [], _, _ => rfl
  | item :: rest, room, hroom => by
      obtain ⟨hitem, hrest⟩ := Nat.max_le.mp hroom
      rw [encodeAll, Tree.printedAll, Tree.toValues?, toValue?_printed item hitem,
        toValues?_printed rest hrest, rereadAll?]
      cases reread? item with
      | none => rfl
      | some value => cases rereadAll? rest <;> rfl

end

mutual

theorem reread?_allFinite : ∀ (stored : Compact) {read : Compact},
    stored.reread? = some read → read.AllFinite
  | .null, _, h => Option.some.inj h ▸ fun _ hx => absurd hx List.not_mem_nil
  | .bool _, _, h => Option.some.inj h ▸ fun _ hx => absurd hx List.not_mem_nil
  | .number x, read, h => by
      rw [reread?] at h
      split at h
      · rename_i y _
        obtain ⟨again, hagain⟩ := Number.reading_real y
        rw [hagain] at h
        cases again with
        | none => exact nomatch h
        | some z =>
            obtain rfl := Option.some.inj h
            exact fun w hw => List.mem_singleton.mp hw ▸ z.isFinite
      · exact Option.some.inj h ▸ fun _ hx => absurd hx List.not_mem_nil
  | .string _, _, h => Option.some.inj h ▸ fun _ hx => absurd hx List.not_mem_nil
  | .list items, read, h => by
      obtain ⟨values, hvalues, rfl⟩ := Option.map_eq_some_iff.mp h
      exact rereadAll?_allFinite items hvalues
  | .attribute _ _ value, read, h => by
      obtain ⟨found, hfound, rfl⟩ := Option.map_eq_some_iff.mp h
      show found.AllFinite
      exact reread?_allFinite value hfound

theorem rereadAll?_allFinite : ∀ (items : List Compact) {read : List Compact},
    rereadAll? items = some read → ∀ x ∈ numbersOfAll read, Binary64.isFinite x = true
  | [], _, h => Option.some.inj h ▸ fun _ hx => absurd hx List.not_mem_nil
  | item :: rest, read, h => by
      obtain ⟨value, hvalue, h⟩ := Option.bind_eq_some_iff.mp h
      obtain ⟨values, hvalues, h⟩ := Option.bind_eq_some_iff.mp h
      obtain rfl := Option.some.inj h
      exact List.forall_mem_append.mpr
        ⟨reread?_allFinite item hvalue, rereadAll?_allFinite rest hvalues⟩

end

theorem reread?_number {x : Float} : reread? (.number x) = some (.number x) ↔
    ∃ y : FiniteDouble, y.val = x ∧ (Number.real y).ReadsBack := by
  rw [reread?]
  constructor
  · intro h
    split at h
    · rename_i y hy
      obtain ⟨again, hagain⟩ := Number.reading_real y
      obtain rfl := FiniteDouble.val_of_ofFloat? hy
      rw [hagain] at h
      cases again with
      | none => exact nomatch h
      | some z =>
          have hsame : z = y := by
            cases y
            cases z
            cases h
            rfl
          exact ⟨y, rfl, Number.readsBack_iff.mpr (hsame ▸ hagain)⟩
    · exact nomatch h
  · rintro ⟨y, rfl, hback⟩
    rw [FiniteDouble.ofFloat?_val]
    dsimp only
    rw [Number.readsBack_iff.mp hback]
    rfl

mutual

/-- **A value is read as it was** if its numbers are. -/
theorem reread?_eq_self : ∀ stored : Compact, stored.reread? = some stored ↔ stored.Legible
  | .null => ⟨fun _ _ hx => absurd hx List.not_mem_nil, fun _ => rfl⟩
  | .bool _ => ⟨fun _ _ hx => absurd hx List.not_mem_nil, fun _ => rfl⟩
  | .number x => reread?_number.trans ⟨fun h _ hz => List.mem_singleton.mp hz ▸ h,
      fun h => h x (List.mem_singleton.mpr rfl)⟩
  | .string _ => ⟨fun _ _ hx => absurd hx List.not_mem_nil, fun _ => rfl⟩
  | .list items => by
      have hlist : Function.Injective list := fun _ _ => Compact.list.inj
      exact ((Option.map_injective hlist).eq_iff' rfl).trans (rereadAll?_eq_self items)
  | .attribute name kind value => by
      have hvalue : Function.Injective (Compact.attribute name kind) :=
        fun _ _ h => (Compact.attribute.inj h).2.2
      exact ((Option.map_injective hvalue).eq_iff' rfl).trans (reread?_eq_self value)

theorem rereadAll?_eq_self : ∀ items : List Compact, rereadAll? items = some items ↔
    ∀ x ∈ numbersOfAll items, ∃ y : FiniteDouble, y.val = x ∧ (Number.real y).ReadsBack
  | [] => ⟨fun _ _ hx => absurd hx List.not_mem_nil, fun _ => rfl⟩
  | item :: rest => by
      rw [numbersOfAll, List.forall_mem_append, ← rereadAll?_eq_self rest]
      refine Iff.trans ?_ (and_congr_left' (reread?_eq_self item))
      rw [rereadAll?]
      constructor
      · intro h
        obtain ⟨value, hvalue, h⟩ := Option.bind_eq_some_iff.mp h
        obtain ⟨values, hvalues, h⟩ := Option.bind_eq_some_iff.mp h
        obtain ⟨rfl, rfl⟩ := List.cons.inj (Option.some.inj h)
        exact ⟨hvalue, hvalues⟩
      · rintro ⟨hvalue, hvalues⟩
        rw [hvalue, hvalues]
        rfl

end

mutual

theorem reread?_refs : ∀ (stored : Compact) {read : Compact}, stored.reread? = some read →
    read.refs = stored.refs
  | .null, _, h => Option.some.inj h ▸ rfl
  | .bool _, _, h => Option.some.inj h ▸ rfl
  | .number x, read, h => by
      rw [reread?] at h
      split at h
      · obtain ⟨n, -, rfl⟩ := Option.map_eq_some_iff.mp h
        rfl
      · obtain rfl := Option.some.inj h
        rfl
  | .string _, _, h => Option.some.inj h ▸ rfl
  | .list items, read, h => by
      obtain ⟨values, hvalues, rfl⟩ := Option.map_eq_some_iff.mp h
      exact rereadAll?_refs items hvalues
  | .attribute name kind value, read, h => by
      obtain ⟨found, hfound, rfl⟩ := Option.map_eq_some_iff.mp h
      rw [refs, refs, reread?_refs value hfound]

theorem rereadAll?_refs : ∀ (items : List Compact) {read : List Compact},
    rereadAll? items = some read → refsOfAll read = refsOfAll items
  | [], _, h => Option.some.inj h ▸ rfl
  | item :: rest, read, h => by
      obtain ⟨value, hvalue, h⟩ := Option.bind_eq_some_iff.mp h
      obtain ⟨values, hvalues, h⟩ := Option.bind_eq_some_iff.mp h
      obtain rfl := Option.some.inj h
      rw [refsOfAll, refsOfAll, reread?_refs item hvalue, rereadAll?_refs rest hvalues]

end

end Compact

/-! ## Property lists -/

namespace Props

def rereadPair? (pair : Ref × Compact) : Option (Ref × Compact) := pair.2.reread?.map (pair.1, ·)

def reread? (props : Props) : Option Props := (props.pairs.mapM rereadPair?).map Props.mk

def Legible (props : Props) : Prop := ∀ pair ∈ props.pairs, pair.2.Legible

/-- The values of a property list are nested at most `room` deep on the wire. -/
def Within (room : Nat) (props : Props) : Prop := ∀ item ∈ props.encode, item.depth ≤ room

instance (room : Nat) (props : Props) : Decidable (props.Within room) :=
  inferInstanceAs (Decidable (∀ item ∈ props.encode, item.depth ≤ room))

theorem reread?_cons (key : Ref) (stored : Compact) (rest : List (Ref × Compact)) :
    reread? ⟨(key, stored) :: rest⟩ = stored.reread?.bind fun value =>
      (reread? ⟨rest⟩).map fun props => ⟨(key, value) :: props.pairs⟩ := by
  unfold reread?
  rw [List.mapM_cons, rereadPair?]
  cases stored.reread? with
  | none => rfl
  | some value => cases rest.mapM rereadPair? <;> rfl

theorem reread?_allFinite : ∀ (pairs : List (Ref × Compact)) {read : Props},
    reread? ⟨pairs⟩ = some read → read.AllFinite
  | [], _, h => Option.some.inj h ▸ fun _ hpair => absurd hpair List.not_mem_nil
  | (key, stored) :: rest, read, h => by
      rw [reread?_cons] at h
      obtain ⟨value, hvalue, h⟩ := Option.bind_eq_some_iff.mp h
      obtain ⟨props, hprops, rfl⟩ := Option.map_eq_some_iff.mp h
      exact List.forall_mem_cons.mpr
        ⟨stored.reread?_allFinite hvalue, reread?_allFinite rest hprops⟩

theorem reread?_refs : ∀ (pairs : List (Ref × Compact)) {read : Props},
    reread? ⟨pairs⟩ = some read → read.refs = refs ⟨pairs⟩
  | [], _, h => Option.some.inj h ▸ rfl
  | (key, stored) :: rest, read, h => by
      rw [reread?_cons] at h
      obtain ⟨value, hvalue, h⟩ := Option.bind_eq_some_iff.mp h
      obtain ⟨props, hprops, rfl⟩ := Option.map_eq_some_iff.mp h
      show key :: value.refs ++ props.refs = key :: stored.refs ++ refs ⟨rest⟩
      rw [stored.reread?_refs hvalue, reread?_refs rest hprops]

theorem reread?_eq_self {props : Props} : props.reread? = some props ↔ props.Legible := by
  have hpairs : Function.Injective Props.mk := fun _ _ => congrArg Props.pairs
  refine ((Option.map_injective hpairs).eq_iff' rfl).trans (mapM_eq_some_self.trans ?_)
  refine forall₂_congr fun pair _ => ?_
  rw [← pair.2.reread?_eq_self]
  exact (Option.map_injective (Prod.mk_right_injective pair.1)).eq_iff' rfl

theorem mapM_toValue?_encode {room : Nat} : ∀ pairs : List (Ref × Compact), Within room ⟨pairs⟩ →
    (encode ⟨pairs⟩).mapM (fun item => (Tree.printed item).toValue? room) =
      (reread? ⟨pairs⟩).map encode
  | [], _ => rfl
  | (key, stored) :: rest, hroom => by
      change ∀ item ∈ Compact.encodeRef key :: stored.encode :: encode ⟨rest⟩, item.depth ≤ room
        at hroom
      show (Compact.encodeRef key :: stored.encode :: encode ⟨rest⟩).mapM _ = _
      obtain ⟨-, hstored, hrest⟩ :=
        (List.forall_mem_cons.trans (and_congr_right' List.forall_mem_cons)).mp hroom
      rw [List.mapM_cons, List.mapM_cons, Compact.toValue?_printed_ref, reread?_cons,
        stored.toValue?_printed hstored, mapM_toValue?_encode rest hrest]
      cases stored.reread? with
      | none => rfl
      | some value => cases reread? ⟨rest⟩ <;> rfl

/-- **A property list is read from its tree** with its numbers as their numerals are read, if there
is room for its values. -/
theorem ofTree?_printed {props : Props} {room : Nat} :
    ofTree? room (.printed (.list props.encode)) =
      if props.Within room then props.reread? else none := by
  have hflat : Tree.toList? (Tree.toValue? room) (.printed (.list (props.encode.map id))) =
      props.encode.mapM fun item =>
        if item.depth ≤ room then (Tree.printed item).toValue? room else none := by
    rw [Tree.toList?_printed]
    refine congrArg (props.encode.mapM ·) (funext fun item => ?_)
    split
    · rfl
    · rename_i hdeep
      exact Tree.toValue?_printed_of_lt (Nat.lt_of_not_le hdeep)
  rw [List.map_id, mapM_ite] at hflat
  change _ = if props.Within room then
    props.encode.mapM fun item => (Tree.printed item).toValue? room else none at hflat
  unfold ofTree?
  rw [hflat]
  by_cases hroom : props.Within room
  · rw [if_pos hroom, if_pos hroom, mapM_toValue?_encode props.pairs hroom]
    cases hread : props.reread? with
    | none => rfl
    | some read =>
        show (decode read.encode).toOption = some read
        rw [decode_encode (reread?_allFinite props.pairs hread)]
        rfl
  · rw [if_neg hroom, if_neg hroom]
    rfl

end Props

theorem Tree.toWord?_printed (ref : Ref) :
    toWord? (printed (Compact.encodeRef ref)) = some ref := by
  have h : toNat? (2 ^ 32) (printed (Compact.encodeRef ref)) = some ref.toNat := by
    show toNat? (2 ^ 32) (.number (Number.int ref.toNat).reading) = _
    rw [Compact.reading_ref]
    show (some ref.toNat).filter (fun n => decide (n < 2 ^ 32)) = some ref.toNat
    exact Option.filter_some_pos (decide_eq_true ref.toNat_lt)
  rw [toWord?, h, Option.map_some, UInt32.ofNat_toNat]

theorem StringTable.ofTree?_printed (table : StringTable) :
    ofTree? (.printed table.toValue) = some table := by
  unfold ofTree? toValue
  have htexts : (table.strings.mapM fun s => (Tree.printed (.text s)).toText?) =
      some table.strings := mapM_eq_some_self.mpr fun _ _ => rfl
  rw [Tree.toList?_printed, htexts, Option.map_some]

/-! ## Behavior documents -/

def CompactNode.reread? (node : CompactNode) : Option CompactNode :=
  node.props.reread?.map fun props => { node with props }

theorem CompactNode.reread?_eq_self {node : CompactNode} :
    node.reread? = some node ↔ node.props.Legible := by
  have hprops : Function.Injective fun props => { node with props } :=
    fun _ _ => congrArg CompactNode.props
  rw [← Props.reread?_eq_self]
  exact (Option.map_injective hprops).eq_iff' rfl

namespace BehaviorDocument

/-- The document as it is read from its text: only numbers are not always what they were. -/
def reread? (document : BehaviorDocument) : Option BehaviorDocument :=
  (document.nodes.mapM CompactNode.reread?).map fun nodes => { document with nodes }

def AllFinite (document : BehaviorDocument) : Prop :=
  ∀ node ∈ document.nodes, node.props.AllFinite

instance (document : BehaviorDocument) : Decidable document.AllFinite :=
  inferInstanceAs (Decidable (∀ node ∈ document.nodes, node.props.AllFinite))

/-- Every number in the document is finite and read back from its text. -/
def Legible (document : BehaviorDocument) : Prop := ∀ node ∈ document.nodes, node.props.Legible

def Within (room : Nat) (document : BehaviorDocument) : Prop :=
  ∀ node ∈ document.nodes, node.props.Within room

instance (room : Nat) (document : BehaviorDocument) : Decidable (document.Within room) :=
  inferInstanceAs (Decidable (∀ node ∈ document.nodes, node.props.Within room))

/-- **A document is read as it was** if its numbers are. -/
theorem reread?_eq_self {document : BehaviorDocument} :
    document.reread? = some document ↔ document.Legible := by
  have hnodes : Function.Injective fun nodes => { document with nodes } :=
    fun _ _ => congrArg BehaviorDocument.nodes
  refine ((Option.map_injective hnodes).eq_iff' rfl).trans (mapM_eq_some_self.trans ?_)
  exact forall₂_congr fun _ _ => CompactNode.reread?_eq_self

theorem checkNode_reread (strings : StringTable) {node read : CompactNode}
    (h : node.reread? = some read) : checkNode strings read = checkNode strings node := by
  obtain ⟨props, hprops, rfl⟩ := Option.map_eq_some_iff.mp h
  unfold checkNode Props.validate
  rw [Props.reread?_refs node.props.pairs hprops]

theorem validate_reread {document read : BehaviorDocument} (h : document.reread? = some read) :
    read.validate = document.validate := by
  obtain ⟨nodes, hnodes, rfl⟩ := Option.map_eq_some_iff.mp h
  obtain ⟨hlength, hforM⟩ := forM_of_mapM (checkNode_reread document.strings) hnodes
  unfold validate
  dsimp only
  rw [hlength, hforM]

theorem nodeOfTree?_printed {node : CompactNode} {room : Nat} :
    nodeOfTree? room (.printed (nodeToValue node)) =
      if node.props.Within room then node.reread? else none := by
  show ((Tree.printed (Compact.encodeRef node.type)).toWord?.bind fun type =>
    (Props.ofTree? room (.printed (.list node.props.encode))).bind fun props =>
      some (CompactNode.mk type props)) = _
  rw [Tree.toWord?_printed, Option.bind_some, Props.ofTree?_printed, CompactNode.reread?]
  split
  · cases node.props.reread? <;> rfl
  · rfl

theorem edgeOfTree?_printed (edge : CompactEdge) :
    edgeOfTree? (.printed (edgeToValue edge)) = some edge := by
  unfold edgeOfTree? edgeToValue
  rw [Tree.toList?_printed, mapM_eq_some_self.mpr fun ref _ => Tree.toWord?_printed ref]
  rfl

/-- The parts of a document under their names, in the order in which they are written. -/
def members (document : BehaviorDocument) : Fields := [
  ("v", .text document.version),
  ("s", document.strings.toValue),
  ("i", .list (document.nodeIds.map .text)),
  ("n", .list (document.nodes.map nodeToValue)),
  ("e", .list (document.edges.map edgeToValue))]

theorem toJson_eq_print (document : BehaviorDocument) :
    document.toJson = Json.print (.record document.members) := by
  have hv : Json.quote "v" ++ ":" = "\"v\":" := by cbv
  have hs : Json.quote "s" ++ ":" = "\"s\":" := by cbv
  have hi : Json.quote "i" ++ ":" = "\"i\":" := by cbv
  have hn : Json.quote "n" ++ ":" = "\"n\":" := by cbv
  have he : Json.quote "e" ++ ":" = "\"e\":" := by cbv
  unfold toJson
  rw [← hv, ← hs, ← hi, ← hn, ← he]
  rfl

/-- **A document is read from the tree of its text** with its numbers as their numerals are read, if
there is room for its values. -/
theorem ofTree?_printed {document : BehaviorDocument} {room : Nat} :
    ofTree? room (.printed (.record document.members)) =
      if document.Within room then document.reread? else none := by
  have hids : Tree.toList? Tree.toText? (.printed (.list (document.nodeIds.map .text))) =
      some document.nodeIds := Tree.toList?_printed.trans (mapM_eq_some_self.mpr fun _ _ => rfl)
  have hedges : Tree.toList? edgeOfTree? (.printed (.list (document.edges.map edgeToValue))) =
      some document.edges :=
    Tree.toList?_printed.trans (mapM_eq_some_self.mpr fun edge _ => edgeOfTree?_printed edge)
  have hnodes : Tree.toList? (nodeOfTree? room)
      (.printed (.list (document.nodes.map nodeToValue))) =
        if document.Within room then document.nodes.mapM CompactNode.reread? else none := by
    rw [Tree.toList?_printed]
    simp only [nodeOfTree?_printed]
    exact mapM_ite CompactNode.reread?
  have hfields : (Tree.printed (.record document.members)).fields? ["v", "s", "i", "n", "e"] =
      some (document.members.map fun member => some (.printed member.2)) := rfl
  unfold ofTree?
  rw [hfields]
  simp only [members, List.map_cons, List.map_nil, Option.bind_eq_bind, Option.bind_some,
    Field.withDefault, Field.required, StringTable.ofTree?_printed, hids, hedges, hnodes]
  by_cases hroom : document.Within room
  · rw [if_pos hroom, if_pos hroom, reread?]
    cases document.nodes.mapM CompactNode.reread? <;> rfl
  · rw [if_neg hroom, if_neg hroom]
    rfl

/-- **A document is read from its text** with its numbers as their numerals are read, unless its
values are nested too deep for a text. -/
theorem parse_toJson {document read : BehaviorDocument} : parse document.toJson = .ok read ↔
    document.Within propertyDepth ∧ document.reread? = some read := by
  rw [← Option.ite_none_right_eq_some, ← ofTree?_printed]
  unfold parse
  rw [toJson_eq_print, Json.parse?_print, Option.bind_some]
  split
  · rename_i found hfound
    rw [hfound]
    exact ⟨fun h => congrArg some (Except.ok.inj h), fun h => congrArg _ (Option.some.inj h)⟩
  · rename_i hnone
    rw [hnone]
    exact ⟨nofun, nofun⟩

theorem ofJson_toJson {document read : BehaviorDocument} : ofJson document.toJson = .ok read ↔
    document.Within propertyDepth ∧ document.reread? = some read ∧
      document.validate = .ok () := by
  unfold ofJson
  simp only [bind_eq_ok, parse_toJson]
  constructor
  · rintro ⟨found, ⟨hroom, hfound⟩, ⟨⟩, hvalid, h⟩
    obtain rfl := Except.ok.inj h
    exact ⟨hroom, hfound, validate_reread hfound ▸ hvalid⟩
  · rintro ⟨hroom, hread, hvalid⟩
    exact ⟨read, ⟨hroom, hread⟩, (), (validate_reread hread).trans hvalid, rfl⟩

end BehaviorDocument

/-! ## Data documents -/

def CompactEntry.reread? (entry : CompactEntry) : Option CompactEntry :=
  entry.props.reread?.map fun props => { entry with props }

theorem CompactEntry.reread?_eq_self {entry : CompactEntry} :
    entry.reread? = some entry ↔ entry.props.Legible := by
  have hprops : Function.Injective fun props => { entry with props } :=
    fun _ _ => congrArg CompactEntry.props
  rw [← Props.reread?_eq_self]
  exact (Option.map_injective hprops).eq_iff' rfl

namespace DataDocument

/-- The document as it is read from its text: only numbers are not always what they were. -/
def reread? (document : DataDocument) : Option DataDocument :=
  (document.items.mapM CompactEntry.reread?).map fun items => { document with items }

def AllFinite (document : DataDocument) : Prop := ∀ entry ∈ document.items, entry.props.AllFinite

instance (document : DataDocument) : Decidable document.AllFinite :=
  inferInstanceAs (Decidable (∀ entry ∈ document.items, entry.props.AllFinite))

/-- Every number in the document is finite and read back from its text. -/
def Legible (document : DataDocument) : Prop := ∀ entry ∈ document.items, entry.props.Legible

def Within (room : Nat) (document : DataDocument) : Prop :=
  ∀ entry ∈ document.items, entry.props.Within room

instance (room : Nat) (document : DataDocument) : Decidable (document.Within room) :=
  inferInstanceAs (Decidable (∀ entry ∈ document.items, entry.props.Within room))

/-- **A document is read as it was** if its numbers are. -/
theorem reread?_eq_self {document : DataDocument} :
    document.reread? = some document ↔ document.Legible := by
  have hitems : Function.Injective fun items => { document with items } :=
    fun _ _ => congrArg DataDocument.items
  refine ((Option.map_injective hitems).eq_iff' rfl).trans (mapM_eq_some_self.trans ?_)
  exact forall₂_congr fun _ _ => CompactEntry.reread?_eq_self

theorem checkEntry_reread {strings : StringTable} {entry read : CompactEntry}
    (h : entry.reread? = some read) : checkEntry strings read = checkEntry strings entry := by
  obtain ⟨props, hprops, rfl⟩ := Option.map_eq_some_iff.mp h
  unfold checkEntry Props.validate
  rw [Props.reread?_refs entry.props.pairs hprops]

theorem validate_reread {document read : DataDocument} (h : document.reread? = some read) :
    read.validate = document.validate := by
  obtain ⟨items, hitems, rfl⟩ := Option.map_eq_some_iff.mp h
  exact (forM_of_mapM checkEntry_reread hitems).2

def entryToValue (entry : CompactEntry) : Value := .record [
  ("id", .text entry.id), ("l", Compact.encodeRef entry.label), ("p", .list entry.props.encode)]

theorem entryOfTree?_printed {entry : CompactEntry} {room : Nat} :
    entryOfTree? room (.printed (entryToValue entry)) =
      if entry.props.Within room then entry.reread? else none := by
  show ((Tree.printed (Compact.encodeRef entry.label)).toWord?.bind fun label =>
    (Props.ofTree? room (.printed (.list entry.props.encode))).bind fun props =>
      some (CompactEntry.mk entry.id label props)) = _
  rw [Tree.toWord?_printed, Option.bind_some, Props.ofTree?_printed, CompactEntry.reread?]
  split
  · cases entry.props.reread? <;> rfl
  · rfl

/-- The parts of a document under their names, in the order in which they are written. -/
def members (document : DataDocument) : Fields := [
  ("v", .text document.version),
  ("s", document.strings.toValue),
  ("d", .list (document.items.map entryToValue))]

theorem entryToJson_eq_print (entry : CompactEntry) :
    entryToJson entry = Json.print (entryToValue entry) := by
  have hid : Json.quote "id" ++ ":" = "\"id\":" := by cbv
  have hl : Json.quote "l" ++ ":" = "\"l\":" := by cbv
  have hp : Json.quote "p" ++ ":" = "\"p\":" := by cbv
  unfold entryToJson
  rw [← hid, ← hl, ← hp]
  rfl

theorem toJson_eq_print (document : DataDocument) :
    document.toJson = Json.print (.record document.members) := by
  have hv : Json.quote "v" ++ ":" = "\"v\":" := by cbv
  have hs : Json.quote "s" ++ ":" = "\"s\":" := by cbv
  have hd : Json.quote "d" ++ ":" = "\"d\":" := by cbv
  have hitems : document.items.map entryToJson =
      Json.printItems (document.items.map entryToValue) := by
    rw [Json.printItems_map]
    exact List.map_congr_left fun entry _ => entryToJson_eq_print entry
  unfold toJson
  rw [← hv, ← hs, ← hd, hitems]
  rfl

/-- **A document is read from the tree of its text** with its numbers as their numerals are read, if
there is room for its values. -/
theorem ofTree?_printed {document : DataDocument} {room : Nat} :
    ofTree? room (.printed (.record document.members)) =
      if document.Within room then document.reread? else none := by
  have hitems : Tree.toList? (entryOfTree? room)
      (.printed (.list (document.items.map entryToValue))) =
        if document.Within room then document.items.mapM CompactEntry.reread? else none := by
    rw [Tree.toList?_printed]
    simp only [entryOfTree?_printed]
    exact mapM_ite CompactEntry.reread?
  have hfields : (Tree.printed (.record document.members)).fields? ["v", "s", "d"] =
      some (document.members.map fun member => some (.printed member.2)) := rfl
  unfold ofTree?
  rw [hfields]
  simp only [members, List.map_cons, List.map_nil, Option.bind_eq_bind, Option.bind_some,
    Field.withDefault, Field.required, StringTable.ofTree?_printed, hitems]
  by_cases hroom : document.Within room
  · rw [if_pos hroom, if_pos hroom, reread?]
    cases document.items.mapM CompactEntry.reread? <;> rfl
  · rw [if_neg hroom, if_neg hroom]
    rfl

/-- **A document is read from its text** with its numbers as their numerals are read, unless its
values are nested too deep for a text. -/
theorem parse_toJson {document read : DataDocument} : parse document.toJson = .ok read ↔
    document.Within propertyDepth ∧ document.reread? = some read := by
  rw [← Option.ite_none_right_eq_some, ← ofTree?_printed]
  unfold parse
  rw [toJson_eq_print, Json.parse?_print, Option.bind_some]
  split
  · rename_i found hfound
    rw [hfound]
    exact ⟨fun h => congrArg some (Except.ok.inj h), fun h => congrArg _ (Option.some.inj h)⟩
  · rename_i hnone
    rw [hnone]
    exact ⟨nofun, nofun⟩

theorem ofJson_toJson {document read : DataDocument} : ofJson document.toJson = .ok read ↔
    document.Within propertyDepth ∧ document.reread? = some read ∧
      document.validate = .ok () := by
  unfold ofJson
  simp only [bind_eq_ok, parse_toJson]
  constructor
  · rintro ⟨found, ⟨hroom, hfound⟩, ⟨⟩, hvalid, h⟩
    obtain rfl := Except.ok.inj h
    exact ⟨hroom, hfound, validate_reread hfound ▸ hvalid⟩
  · rintro ⟨hroom, hread, hvalid⟩
    exact ⟨read, ⟨hroom, hread⟩, (), (validate_reread hread).trans hvalid, rfl⟩

end DataDocument

end StoryGraph
