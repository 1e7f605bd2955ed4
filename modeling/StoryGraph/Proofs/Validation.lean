import StoryGraph.Proofs.Restored
import StoryGraph.Proofs.WellFormed

/-!
# Validation finds the first fault

A document is accepted exactly if it is sound: one id for each node, edges between nodes, and only
references that its table has. Otherwise the fault that is told is the first of all its faults, in
the order in which ids, edges and nodes are checked and in which properties are written. In a sound
document every reference has its string when it is decompressed, and of the properties of a list
only repeats of a name are left out.

Main definitions: `Compact.Mentions`, `BehaviorDocument.Sound`, `BehaviorDocument.faults`,
`Compact.SpelledOut`, `Props.ComesBack`. Main result: `validation_finds_the_first_fault`.
-/

namespace StoryGraph

/-! ## Verdicts -/

/-- What a check says that finds these faults: the first of them, if there is any. -/
def verdict : List Fault → Except Fault Unit
  | [] => .ok ()
  | fault :: _ => .error fault

theorem verdict_append (first second : List Fault) :
    verdict (first ++ second) = (do verdict first; verdict second) := by
  cases first <;> rfl

theorem verdict_ok_iff {faults : List Fault} : verdict faults = .ok () ↔ faults = [] := by
  cases faults <;> simp [verdict]

/-- A check of every item finds the faults of the items, one after the other. -/
theorem forM_eq_verdict {α : Type} {check : α → Except Fault Unit} {faults : α → List Fault}
    (h : ∀ item, check item = verdict (faults item)) :
    ∀ items : List α, items.forM check = verdict (items.flatMap faults)
  | [] => rfl
  | item :: rest => by
      rw [List.flatMap_cons, verdict_append, ← h, ← forM_eq_verdict h rest]
      rfl

/-! ## References -/

inductive Compact.Mentions : Compact → Ref → Prop
  | string {ref : Ref} : Mentions (.string ref) ref
  | item {items : List Compact} {item : Compact} {ref : Ref} :
      item ∈ items → Mentions item ref → Mentions (.list items) ref
  | name {name kind : Ref} {value : Compact} : Mentions (.attribute name kind value) name
  | kind {name kind : Ref} {value : Compact} : Mentions (.attribute name kind value) kind
  | value {name kind ref : Ref} {value : Compact} :
      Mentions value ref → Mentions (.attribute name kind value) ref

/-- A property list refers to a string, by a key or in a value. -/
inductive Props.Mentions (props : Props) : Ref → Prop
  | key {key : Ref} {value : Compact} : (key, value) ∈ props.pairs → Mentions props key
  | value {key ref : Ref} {value : Compact} :
      (key, value) ∈ props.pairs → value.Mentions ref → Mentions props ref

namespace Compact

mutual

theorem mem_refs {ref : Ref} : ∀ value : Compact, ref ∈ value.refs ↔ value.Mentions ref
  | .null | .bool _ | .number _ => iff_of_false List.not_mem_nil nofun
  | .string other => by
      rw [refs, List.mem_singleton]
      constructor
      · rintro rfl
        exact .string
      · rintro ⟨⟩
        rfl
  | .list items => by
      rw [refs, mem_refsOfAll items]
      constructor
      · rintro ⟨item, hitem, hmentions⟩
        exact .item hitem hmentions
      · rintro ⟨⟩
        exact ⟨_, ‹_›, ‹_›⟩
  | .attribute name kind value => by
      rw [refs, List.mem_cons, List.mem_cons, mem_refs value]
      constructor
      · rintro (rfl | rfl | hmentions)
        · exact .name
        · exact .kind
        · exact .value hmentions
      · rintro (_ | _ | _ | _ | hmentions)
        · exact .inl rfl
        · exact .inr (.inl rfl)
        · exact .inr (.inr hmentions)

theorem mem_refsOfAll {ref : Ref} : ∀ items : List Compact,
    ref ∈ refsOfAll items ↔ ∃ item ∈ items, item.Mentions ref
  | [] => by simp [refsOfAll]
  | item :: rest => by
      rw [refsOfAll, List.mem_append, mem_refs item, mem_refsOfAll rest]
      simp

end

end Compact

theorem Props.mem_refs {props : Props} {ref : Ref} : ref ∈ props.refs ↔ props.Mentions ref := by
  unfold refs
  rw [List.mem_flatMap]
  constructor
  · rintro ⟨⟨key, value⟩, hpair, hmem⟩
    rcases List.mem_cons.mp hmem with rfl | hmem
    · exact .key hpair
    · exact .value hpair ((Compact.mem_refs value).mp hmem)
  · rintro (hpair | ⟨hpair, hmentions⟩)
    · exact ⟨_, hpair, List.mem_cons_self⟩
    · exact ⟨_, hpair, List.mem_cons_of_mem _ ((Compact.mem_refs _).mpr hmentions)⟩

/-! ## The order of writing -/

mutual

/-- The unsigned integers that are written in a value, in their order. -/
def Value.words : Value → List Nat
  | .number n => n.toNat?.toList
  | .list items => Value.wordsOfAll items
  | .record fields => Value.wordsOfFields fields
  | _ => []

def Value.wordsOfAll : List Value → List Nat
  | [] => []
  | item :: rest => item.words ++ Value.wordsOfAll rest

def Value.wordsOfFields : List (String × Value) → List Nat
  | [] => []
  | (_, value) :: rest => value.words ++ Value.wordsOfFields rest

end

namespace Compact

mutual

theorem words_encode : ∀ value : Compact, value.encode.words = value.refs.map (·.toNat)
  | .null | .bool _ | .string _ => rfl
  | .number x => by
      rw [encode]
      split <;> rfl
  | .list items => wordsOfAll_encodeAll items
  | .attribute name kind value => by
      rw [encode, refs, List.map_cons, List.map_cons, ← words_encode value]
      show [name.toNat] ++ ([kind.toNat] ++ (value.encode.words ++ [])) = _
      rw [List.append_nil]
      rfl

theorem wordsOfAll_encodeAll : ∀ items : List Compact,
    Value.wordsOfAll (encodeAll items) = (refsOfAll items).map (·.toNat)
  | [] => rfl
  | item :: rest => by
      rw [encodeAll, Value.wordsOfAll, refsOfAll, List.map_append, words_encode item,
        wordsOfAll_encodeAll rest]

end

end Compact

/-- **The references of a property list are the unsigned integers of its wire form**, in their
order. -/
theorem Props.wordsOfAll_encode (props : Props) :
    Value.wordsOfAll props.encode = props.refs.map (·.toNat) := by
  unfold encode refs
  induction props.pairs with
  | nil => rfl
  | cons pair rest ih =>
      rw [List.flatMap_cons, List.flatMap_cons, List.map_append, ← ih, List.map_cons,
        ← Compact.words_encode]
      rfl

/-! ## Faults -/

namespace StringTable

variable {table : StringTable}

theorem get?_isSome_iff {ref : Ref} : (∃ s, table.get? ref = some s) ↔ ref.toNat < table.size :=
  ⟨fun ⟨_, hs⟩ => (List.getElem?_eq_some_iff.mp hs).1, fun h => ⟨_, List.getElem?_eq_getElem h⟩⟩

/-- A fault for each of these references that the table does not have. -/
def missing (table : StringTable) (words : List Nat) : List Fault :=
  (words.filter (table.size ≤ ·)).map (.referenceOutOfRange · table.size)

theorem mem_missing {words : List Nat} {fault : Fault} : fault ∈ table.missing words ↔
    ∃ n ∈ words, table.size ≤ n ∧ fault = .referenceOutOfRange n table.size := by
  unfold missing
  simp only [List.mem_map, List.mem_filter, decide_eq_true_eq, and_assoc]
  exact exists_congr fun n => and_congr_right fun _ => and_congr_right fun _ => eq_comm

theorem missing_append (first second : List Nat) :
    table.missing (first ++ second) = table.missing first ++ table.missing second := by
  unfold missing
  rw [List.filter_append, List.map_append]

theorem resolve_eq_verdict (ref : Ref) :
    (do let _ ← table.resolve ref : Except Fault Unit) = verdict (table.missing [ref.toNat]) := by
  unfold resolve missing
  by_cases h : ref.toNat < table.size
  · obtain ⟨s, hs⟩ := get?_isSome_iff.mpr h
    rw [hs, List.filter_cons_of_neg (by simpa using h)]
    rfl
  · have hnone : table.get? ref = none := List.getElem?_eq_none (Nat.le_of_not_lt h)
    rw [hnone, List.filter_cons_of_pos (by simpa using h)]
    rfl

end StringTable

open StringTable (get?_isSome_iff mem_missing missing_append resolve_eq_verdict)

theorem Props.validate_eq (table : StringTable) (props : Props) :
    props.validate table = verdict (table.missing (Value.wordsOfAll props.encode)) := by
  rw [Props.wordsOfAll_encode]
  unfold validate
  rw [forM_eq_verdict resolve_eq_verdict]
  congr 1
  induction props.refs with
  | nil => rfl
  | cons ref rest ih =>
      rw [List.flatMap_cons, ih, ← missing_append]
      rfl

/-! ## Behavior documents -/

namespace BehaviorDocument

variable {document : BehaviorDocument}

inductive Mentions (document : BehaviorDocument) : Ref → Prop
  | sourcePort {edge : CompactEdge} : edge ∈ document.edges → Mentions document edge.sourcePort
  | targetPort {edge : CompactEdge} : edge ∈ document.edges → Mentions document edge.targetPort
  | type {node : CompactNode} : node ∈ document.nodes → Mentions document node.type
  | props {node : CompactNode} {ref : Ref} :
      node ∈ document.nodes → node.props.Mentions ref → Mentions document ref

/-- There is one id for each node, edges run between nodes, and the table has all strings that are
referred to. -/
structure Sound (document : BehaviorDocument) : Prop where
  ids : document.nodeIds.length = document.nodes.length
  ends : ∀ edge ∈ document.edges, edge.source.toNat < document.nodes.length ∧
    edge.target.toNat < document.nodes.length
  references : ∀ ref, document.Mentions ref → ref.toNat < document.strings.size

inductive Violates (document : BehaviorDocument) : Fault → Prop
  | ids : document.nodeIds.length ≠ document.nodes.length →
      Violates document (.idTableMismatch document.nodeIds.length document.nodes.length)
  | source {position : Nat} {edge : CompactEdge} : document.edges[position]? = some edge →
      document.nodes.length ≤ edge.source.toNat →
      Violates document (.edgeOutOfRange position edge.source.toNat document.nodes.length)
  | target {position : Nat} {edge : CompactEdge} : document.edges[position]? = some edge →
      document.nodes.length ≤ edge.target.toNat →
      Violates document (.edgeOutOfRange position edge.target.toNat document.nodes.length)
  | reference {ref : Ref} : document.Mentions ref → document.strings.size ≤ ref.toNat →
      Violates document (.referenceOutOfRange ref.toNat document.strings.size)

def idFaults (document : BehaviorDocument) : List Fault :=
  if document.nodeIds.length = document.nodes.length then []
  else [.idTableMismatch document.nodeIds.length document.nodes.length]

def endFaults (count position : Nat) (node : UInt32) : List Fault :=
  if node.toNat < count then [] else [.edgeOutOfRange position node.toNat count]

def edgeFaults (strings : StringTable) (count position : Nat) (edge : CompactEdge) : List Fault :=
  endFaults count position edge.source ++ endFaults count position edge.target ++
    strings.missing [edge.sourcePort.toNat, edge.targetPort.toNat]

/-- The faults of a node: its type, then its properties as they are written. -/
def nodeFaults (strings : StringTable) (node : CompactNode) : List Fault :=
  strings.missing (node.type.toNat :: Value.wordsOfAll node.props.encode)

/-- All faults of a document: of its ids, edge by edge, and node by node. -/
def faults (document : BehaviorDocument) : List Fault :=
  document.idFaults ++
  (document.edges.zipIdx.flatMap fun (edge, position) =>
    edgeFaults document.strings document.nodes.length position edge) ++
  document.nodes.flatMap (nodeFaults document.strings)

theorem checkEdge_eq (strings : StringTable) (count position : Nat) (edge : CompactEdge) :
    checkEdge strings count position edge =
      verdict (edgeFaults strings count position edge) := by
  have hend : ∀ node, checkEnd count position node = verdict (endFaults count position node) := by
    intro node
    unfold checkEnd endFaults
    split <;> rfl
  unfold edgeFaults
  rw [← List.singleton_append (l := [edge.targetPort.toNat]), missing_append, verdict_append,
    verdict_append, verdict_append, ← hend, ← hend, ← resolve_eq_verdict, ← resolve_eq_verdict]
  unfold checkEdge
  cases checkEnd count position edge.source <;> cases checkEnd count position edge.target <;>
    cases strings.resolve edge.sourcePort <;> rfl

theorem checkEdges_eq (strings : StringTable) (count : Nat) :
    ∀ (edges : List CompactEdge) (position : Nat), checkEdges strings count position edges =
      verdict ((edges.zipIdx position).flatMap fun (edge, position) =>
        edgeFaults strings count position edge)
  | [], _ => rfl
  | edge :: rest, position => by
      rw [List.zipIdx_cons, List.flatMap_cons, verdict_append, ← checkEdge_eq,
        ← checkEdges_eq strings count rest (position + 1)]
      rfl

theorem checkNode_eq (strings : StringTable) (node : CompactNode) :
    checkNode strings node = verdict (nodeFaults strings node) := by
  unfold nodeFaults
  rw [← List.singleton_append, missing_append, verdict_append, ← resolve_eq_verdict,
    ← Props.validate_eq]
  unfold checkNode
  cases strings.resolve node.type <;> rfl

/-- **The verdict on a document is its first fault.** -/
theorem validate_eq (document : BehaviorDocument) : document.validate = verdict document.faults := by
  unfold faults
  rw [verdict_append, verdict_append, ← checkEdges_eq, ← forM_eq_verdict (checkNode_eq _)]
  unfold validate idFaults
  by_cases heq : document.nodeIds.length = document.nodes.length
  · rw [if_pos heq, if_neg (not_not.mpr heq)]
    cases checkEdges document.strings document.nodes.length 0 document.edges <;> rfl
  · rw [if_neg heq, if_pos heq]
    rfl

theorem mem_endFaults {count position : Nat} {node : UInt32} {fault : Fault} :
    fault ∈ endFaults count position node ↔
      count ≤ node.toNat ∧ fault = .edgeOutOfRange position node.toNat count := by
  unfold endFaults
  split
  · rename_i hlt
    simp [hlt]
  · rename_i hle
    rw [List.mem_singleton, and_iff_right (Nat.le_of_not_lt hle)]

theorem mem_idFaults {fault : Fault} : fault ∈ document.idFaults ↔
    document.nodeIds.length ≠ document.nodes.length ∧
      fault = .idTableMismatch document.nodeIds.length document.nodes.length := by
  unfold idFaults
  split <;> simp [*]

theorem mem_edgeFaults {strings : StringTable} {count position : Nat} {edge : CompactEdge}
    {fault : Fault} : fault ∈ edgeFaults strings count position edge ↔
      (fault ∈ endFaults count position edge.source ∨ fault ∈ endFaults count position edge.target) ∨
        fault ∈ strings.missing [edge.sourcePort.toNat, edge.targetPort.toNat] := by
  unfold edgeFaults
  rw [List.mem_append, List.mem_append]

theorem mem_nodeFaults {strings : StringTable} {node : CompactNode} {fault : Fault} :
    fault ∈ nodeFaults strings node ↔ ∃ ref, (ref = node.type ∨ node.props.Mentions ref) ∧
      strings.size ≤ ref.toNat ∧ fault = .referenceOutOfRange ref.toNat strings.size := by
  unfold nodeFaults
  rw [mem_missing, Props.wordsOfAll_encode, ← List.map_cons]
  simp only [List.mem_map, List.mem_cons, Props.mem_refs]
  constructor
  · rintro ⟨n, ⟨ref, href, rfl⟩, hsize⟩
    exact ⟨ref, href, hsize⟩
  · rintro ⟨ref, href, hsize⟩
    exact ⟨ref.toNat, ⟨ref, href, rfl⟩, hsize⟩

theorem violates_of_edge {position : Nat} {edge : CompactEdge} {fault : Fault}
    (hedge : document.edges[position]? = some edge)
    (h : fault ∈ edgeFaults document.strings document.nodes.length position edge) :
    document.Violates fault := by
  have hmem := List.mem_of_getElem? hedge
  rcases mem_edgeFaults.mp h with (hfault | hfault) | hfault
  · obtain ⟨hle, rfl⟩ := mem_endFaults.mp hfault
    exact .source hedge hle
  · obtain ⟨hle, rfl⟩ := mem_endFaults.mp hfault
    exact .target hedge hle
  · obtain ⟨n, hn, hle, rfl⟩ := mem_missing.mp hfault
    rw [List.mem_pair] at hn
    rcases hn with rfl | rfl
    · exact .reference (.sourcePort hmem) hle
    · exact .reference (.targetPort hmem) hle

theorem mem_faults_of_edge {position : Nat} {edge : CompactEdge} {fault : Fault}
    (hedge : document.edges[position]? = some edge)
    (h : fault ∈ edgeFaults document.strings document.nodes.length position edge) :
    fault ∈ document.faults :=
  List.mem_append_left _ (List.mem_append_right _
    (List.mem_flatMap.mpr ⟨(edge, position), List.mem_zipIdx_iff_getElem?.mpr hedge, h⟩))

theorem mem_faults_of_node {node : CompactNode} {fault : Fault} (hnode : node ∈ document.nodes)
    (h : fault ∈ nodeFaults document.strings node) : fault ∈ document.faults :=
  List.mem_append_right _ (List.mem_flatMap.mpr ⟨node, hnode, h⟩)

theorem mem_faults_of_port {edge : CompactEdge} {ref : Ref} (hmem : edge ∈ document.edges)
    (href : ref = edge.sourcePort ∨ ref = edge.targetPort)
    (hle : document.strings.size ≤ ref.toNat) :
    .referenceOutOfRange ref.toNat document.strings.size ∈ document.faults := by
  obtain ⟨position, hposition⟩ := List.getElem?_of_mem hmem
  refine mem_faults_of_edge hposition
    (mem_edgeFaults.mpr (.inr (mem_missing.mpr ⟨_, ?_, hle, rfl⟩)))
  rw [List.mem_pair]
  exact href.imp (congrArg _) (congrArg _)

/-- **What is listed are the faults that the document has.** -/
theorem mem_faults {fault : Fault} : fault ∈ document.faults ↔ document.Violates fault := by
  constructor
  · unfold faults
    rw [List.mem_append, List.mem_append, List.mem_flatMap, List.mem_flatMap, mem_idFaults]
    rintro ((⟨hne, rfl⟩ | ⟨⟨edge, position⟩, hedge, hfault⟩) | ⟨node, hnode, hfault⟩)
    · exact .ids hne
    · exact violates_of_edge (List.mem_zipIdx_iff_getElem?.mp hedge) hfault
    · obtain ⟨ref, rfl | hmentions, hle, rfl⟩ := mem_nodeFaults.mp hfault
      · exact .reference (.type hnode) hle
      · exact .reference (.props hnode hmentions) hle
  · rintro (hne | ⟨hposition, hle⟩ | ⟨hposition, hle⟩ | ⟨hmentions, hle⟩)
    · exact List.mem_append_left _ (List.mem_append_left _ (mem_idFaults.mpr ⟨hne, rfl⟩))
    · exact mem_faults_of_edge hposition
        (mem_edgeFaults.mpr (.inl (.inl (mem_endFaults.mpr ⟨hle, rfl⟩))))
    · exact mem_faults_of_edge hposition
        (mem_edgeFaults.mpr (.inl (.inr (mem_endFaults.mpr ⟨hle, rfl⟩))))
    · rcases hmentions with hmem | hmem | hnode | ⟨hnode, hmentions⟩
      · exact mem_faults_of_port hmem (.inl rfl) hle
      · exact mem_faults_of_port hmem (.inr rfl) hle
      · exact mem_faults_of_node hnode (mem_nodeFaults.mpr ⟨_, .inl rfl, hle, rfl⟩)
      · exact mem_faults_of_node hnode (mem_nodeFaults.mpr ⟨_, .inr hmentions, hle, rfl⟩)

theorem sound_iff : document.Sound ↔ ∀ fault, ¬ document.Violates fault := by
  constructor
  · rintro hsound fault (hne | ⟨hposition, hle⟩ | ⟨hposition, hle⟩ | ⟨hmentions, hle⟩)
    · exact hne hsound.ids
    · exact Nat.not_lt.mpr hle (hsound.ends _ (List.mem_of_getElem? hposition)).1
    · exact Nat.not_lt.mpr hle (hsound.ends _ (List.mem_of_getElem? hposition)).2
    · exact Nat.not_lt.mpr hle (hsound.references _ hmentions)
  · intro hnone
    refine ⟨?_, fun edge hedge => ?_, fun ref hmentions => ?_⟩
    · by_contra hne
      exact hnone _ (.ids hne)
    · obtain ⟨position, hposition⟩ := List.getElem?_of_mem hedge
      refine ⟨Nat.lt_of_not_le fun hle => ?_, Nat.lt_of_not_le fun hle => ?_⟩
      · exact hnone _ (.source hposition hle)
      · exact hnone _ (.target hposition hle)
    · exact Nat.lt_of_not_le fun hle => hnone _ (.reference hmentions hle)

theorem validate_ok_iff : document.validate = .ok () ↔ document.Sound := by
  rw [validate_eq, verdict_ok_iff, sound_iff, List.eq_nil_iff_forall_not_mem]
  simp only [mem_faults]

end BehaviorDocument

/-! ## Data documents -/

namespace DataDocument

variable {document : DataDocument}

inductive Mentions (document : DataDocument) : Ref → Prop
  | label {entry : CompactEntry} : entry ∈ document.items → Mentions document entry.label
  | props {entry : CompactEntry} {ref : Ref} :
      entry ∈ document.items → entry.props.Mentions ref → Mentions document ref

def Sound (document : DataDocument) : Prop :=
  ∀ ref, document.Mentions ref → ref.toNat < document.strings.size

/-- The faults of an entry: its label, then its properties as they are written. -/
def entryFaults (strings : StringTable) (entry : CompactEntry) : List Fault :=
  strings.missing (entry.label.toNat :: Value.wordsOfAll entry.props.encode)

def faults (document : DataDocument) : List Fault :=
  document.items.flatMap (entryFaults document.strings)

/-- **The verdict on a document is its first fault.** -/
theorem validate_eq (document : DataDocument) : document.validate = verdict document.faults := by
  refine forM_eq_verdict (fun entry => ?_) document.items
  -- The label is checked before the properties, like the type of a node.
  exact BehaviorDocument.checkNode_eq document.strings ⟨entry.label, entry.props⟩

theorem mem_faults {fault : Fault} : fault ∈ document.faults ↔ ∃ ref, document.Mentions ref ∧
    document.strings.size ≤ ref.toNat ∧
      fault = .referenceOutOfRange ref.toNat document.strings.size := by
  unfold faults
  rw [List.mem_flatMap]
  have hentry : ∀ entry : CompactEntry, fault ∈ entryFaults document.strings entry ↔ _ :=
    fun entry => @BehaviorDocument.mem_nodeFaults document.strings ⟨entry.label, entry.props⟩ fault
  constructor
  · rintro ⟨entry, hmem, hfault⟩
    obtain ⟨ref, rfl | hmentions, hle⟩ := (hentry entry).mp hfault
    · exact ⟨_, .label hmem, hle⟩
    · exact ⟨_, .props hmem hmentions, hle⟩
  · rintro ⟨ref, hmem | ⟨hmem, hmentions⟩, hle⟩
    · exact ⟨_, hmem, (hentry _).mpr ⟨_, .inl rfl, hle⟩⟩
    · exact ⟨_, hmem, (hentry _).mpr ⟨_, .inr hmentions, hle⟩⟩

theorem validate_ok_iff : document.validate = .ok () ↔ document.Sound := by
  rw [validate_eq, verdict_ok_iff, List.eq_nil_iff_forall_not_mem]
  simp only [mem_faults]
  constructor
  · exact fun hnone ref hmentions => Nat.lt_of_not_le fun hle =>
      hnone _ ⟨ref, hmentions, hle, rfl⟩
  · rintro hsound fault ⟨ref, hmentions, hle, -⟩
    exact Nat.not_lt.mpr hle (hsound ref hmentions)

end DataDocument

/-! ## What is decompressed -/

variable {table : StringTable}

/-- A plain value spells a compact one out: in the place of every reference stands its string. -/
inductive Compact.SpelledOut (table : StringTable) : Compact → Value → Prop
  | null : SpelledOut table .null .null
  | bool {b : Bool} : SpelledOut table (.bool b) (.bool b)
  | number {x : Float} : SpelledOut table (.number x) (.ofFloat x)
  | string {ref : Ref} {s : String} : table.get? ref = some s →
      SpelledOut table (.string ref) (.text s)
  | list {items : List Compact} {values : List Value} :
      List.Forall₂ (SpelledOut table) items values → SpelledOut table (.list items) (.list values)
  | attribute {name kind : Ref} {nameText kindText : String} {value : Compact} {plain : Value} :
      table.get? name = some nameText → table.get? kind = some kindText →
      SpelledOut table value plain →
      SpelledOut table (.attribute name kind value)
        (.record [("name", .text nameText), ("type", .text kindText), ("value", plain)])

namespace Compact

theorem textOf_of_get? {ref : Ref} {s : String} (h : table.get? ref = some s) :
    textOf table ref = .text s := by
  unfold textOf
  rw [h]

mutual

/-- **No reference is replaced by null**, where the table has them all. -/
theorem decompress_spelledOut : ∀ value : Compact,
    (∀ ref, value.Mentions ref → ref.toNat < table.size) →
      value.SpelledOut table (value.decompress table)
  | .null, _ => .null
  | .bool _, _ => .bool
  | .number _, _ => .number
  | .string ref, h => by
      obtain ⟨s, hs⟩ := get?_isSome_iff.mpr (h ref .string)
      rw [decompress, textOf_of_get? hs]
      exact .string hs
  | .list items, h =>
      .list (decompressAll_spelledOut items fun item hitem ref hmentions =>
        h ref (.item hitem hmentions))
  | .attribute name kind value, h => by
      obtain ⟨nameText, hname⟩ := get?_isSome_iff.mpr (h name .name)
      obtain ⟨kindText, hkind⟩ := get?_isSome_iff.mpr (h kind .kind)
      rw [decompress, textOf_of_get? hname, textOf_of_get? hkind]
      exact .attribute hname hkind
        (decompress_spelledOut value fun ref hmentions => h ref (.value hmentions))

theorem decompressAll_spelledOut : ∀ items : List Compact,
    (∀ item ∈ items, ∀ ref, item.Mentions ref → ref.toNat < table.size) →
      List.Forall₂ (SpelledOut table) items (decompressAll table items)
  | [], _ => .nil
  | item :: rest, h => by
      obtain ⟨hitem, hrest⟩ := List.forall_mem_cons.mp h
      exact .cons (decompress_spelledOut item hitem) (decompressAll_spelledOut rest hrest)

end

end Compact

theorem Fields.get?_of_first {name : String} {value : Value} : ∀ {fields : Fields} {position : Nat},
    fields[position]? = some (name, value) →
      (∀ (earlier : Nat) (other : String × Value), earlier < position →
        fields[earlier]? = some other → other.1 ≠ name) → fields.get? name = some value
  | (first, firstValue) :: rest, 0, hfield, _ => by
      cases hfield
      exact List.lookup_cons_self
  | (first, firstValue) :: rest, position + 1, hfield, hfirst => by
      have hne : first ≠ name := hfirst 0 (first, firstValue) (Nat.succ_pos _) rfl
      show List.lookup name ((first, firstValue) :: rest) = some value
      rw [List.lookup_cons, beq_false_of_ne hne.symm]
      exact Fields.get?_of_first hfield fun earlier other hlt hother =>
        hfirst (earlier + 1) other (Nat.succ_lt_succ hlt) hother

namespace Props

variable {props : Props}

/-- A property list comes back whole: every value is spelled out, and every key names a string,
which has the value of the first pair with a key for it. -/
structure ComesBack (table : StringTable) (props : Props) : Prop where
  values : ∀ pair ∈ props.pairs, pair.2.SpelledOut table (pair.2.decompress table)
  pairs : ∀ (position : Nat) (pair : Ref × Compact), props.pairs[position]? = some pair →
    ∃ name, table.get? pair.1 = some name ∧
      ((∀ (earlier : Nat) (other : Ref × Compact), earlier < position →
          props.pairs[earlier]? = some other → table.get? other.1 ≠ some name) →
        (props.decompress table).get? name = some (pair.2.decompress table))

def named (table : StringTable) (props : Props) : Fields :=
  props.pairs.map fun pair => ((table.get? pair.1).getD "", pair.2.decompress table)

theorem read_eq_named (h : ∀ ref, props.Mentions ref → ref.toNat < table.size) :
    props.read table = (props.named table).asRead := by
  unfold named Fields.asRead read
  rw [List.map_map]
  refine List.map_congr_left fun pair hpair => ?_
  obtain ⟨s, hs⟩ := get?_isSome_iff.mpr (h pair.1 (.key hpair))
  show (table.get? pair.1, pair.2.decompress table) =
    (some ((table.get? pair.1).getD ""), pair.2.decompress table)
  rw [hs]
  rfl

theorem comesBack (h : ∀ ref, props.Mentions ref → ref.toNat < table.size) :
    props.ComesBack table where
  values pair hpair :=
    Compact.decompress_spelledOut pair.2 fun ref hmentions => h ref (.value hpair hmentions)
  pairs position pair hpair := by
    obtain ⟨name, hname⟩ := get?_isSome_iff.mpr (h pair.1 (.key (List.mem_of_getElem? hpair)))
    refine ⟨name, hname, fun hfirst => ?_⟩
    rw [get?_decompress (read_eq_named h)]
    refine @Fields.get?_of_first _ _ _ position ?_ fun earlier field hlt hfield heq => ?_
    · rw [named, List.getElem?_map, hpair, Option.map_some, hname]
      rfl
    · rw [named, List.getElem?_map] at hfield
      obtain ⟨other, hother, rfl⟩ := Option.map_eq_some_iff.mp hfield
      obtain ⟨s, hs⟩ := get?_isSome_iff.mpr (h other.1 (.key (List.mem_of_getElem? hother)))
      refine hfirst earlier other hlt hother ?_
      rw [hs, ← heq]
      exact congrArg some (hs ▸ rfl)

end Props

/-! ## Validation -/

/-- **Validation accepts exactly the sound documents, and else finds the first fault.** The faults
are those that the document has, in their order. What is accepted comes back whole when it is
decompressed. -/
theorem validation_finds_the_first_fault :
    (∀ document : BehaviorDocument,
      (document.validate = .ok () ↔ document.Sound) ∧
      document.validate = verdict document.faults ∧
      (∀ fault, fault ∈ document.faults ↔ document.Violates fault) ∧
      (document.validate = .ok () → ∀ node ∈ document.nodes,
        node.props.ComesBack document.strings)) ∧
    ∀ document : DataDocument,
      (document.validate = .ok () ↔ document.Sound) ∧
      document.validate = verdict document.faults ∧
      (∀ fault, fault ∈ document.faults ↔ ∃ ref, document.Mentions ref ∧
        document.strings.size ≤ ref.toNat ∧
          fault = .referenceOutOfRange ref.toNat document.strings.size) ∧
      (document.validate = .ok () → ∀ entry ∈ document.items,
        document.strings.get? entry.label = some (document.decompressEntry entry).label ∧
          entry.props.ComesBack document.strings ∧
          ∀ name, (document.decompressEntry entry).properties.get? name =
            if name = "label" then none
            else (entry.props.decompress document.strings).get? name) := by
  refine ⟨fun document => ⟨document.validate_ok_iff, document.validate_eq,
      fun _ => document.mem_faults, fun hok node hnode => ?_⟩,
    fun document => ⟨document.validate_ok_iff, document.validate_eq,
      fun _ => document.mem_faults, fun hok entry hentry => ⟨?_, ?_, fun name => ?_⟩⟩⟩
  · have hsound := BehaviorDocument.validate_ok_iff.mp hok
    exact Props.comesBack fun ref hmentions => hsound.references ref (.props hnode hmentions)
  · have hsound := DataDocument.validate_ok_iff.mp hok
    obtain ⟨s, hs⟩ := get?_isSome_iff.mpr (hsound _ (.label hentry))
    unfold DataDocument.decompressEntry
    rw [hs]
    rfl
  · have hsound := DataDocument.validate_ok_iff.mp hok
    exact Props.comesBack fun ref hmentions => hsound ref (.props hentry hmentions)
  · exact Fields.get?_erase (entry.props.decompress document.strings)

def palette : BehaviorDocument where
  strings := ⟨["reroute", "colour", "red", "colour"]⟩
  nodeIds := ["brush"]
  nodes := [⟨0, ⟨[(1, .list [.string 2]), (3, .bool true)]⟩⟩]
  edges := [⟨0, 1, 0, 3⟩]

def swatch : DataDocument where
  strings := ⟨["red", "colour"]⟩
  items := [⟨"red", 0, ⟨[(1, .attribute 1 1 (.string 0))]⟩⟩]

-- The target of an edge is checked before the ports, and edges before nodes.
example : ({ palette with
    nodes := [⟨9, .empty⟩]
    edges := [⟨0, 1, 0, 3⟩, ⟨0, 8, 4, 1⟩] } : BehaviorDocument).validate =
      .error (.edgeOutOfRange 1 4 1) := rfl

theorem palette_comes_back : palette.validate = .ok () ∧ swatch.validate = .ok () ∧
    (∀ node ∈ palette.nodes, node.props.ComesBack palette.strings) ∧
    ∀ entry ∈ swatch.items, entry.props.ComesBack swatch.strings := by
  obtain ⟨hbehavior, hdata⟩ := validation_finds_the_first_fault
  obtain ⟨-, -, -, hnodes⟩ := hbehavior palette
  obtain ⟨-, -, -, hentries⟩ := hdata swatch
  exact ⟨rfl, rfl, hnodes rfl, fun entry hentry => (hentries rfl entry hentry).2.1⟩

end StoryGraph
