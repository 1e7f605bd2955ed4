import StoryGraph.Proofs.Compiled

/-!
# Compiled documents are well formed

Whatever is compiled, the documents pass their own checks, their tables hold nothing twice and
nothing in vain, and their property lists begin with the label, repeat no key and hold only finite
numbers.

Main definitions: `BehaviorDocument.WellFormed`, `DataDocument.WellFormed`.
-/

namespace StoryGraph

/-! ## Checks that pass -/

theorem forM_ok {α ε : Type} {f : α → Except ε Unit} : ∀ {items : List α},
    (∀ item ∈ items, f item = .ok ()) → items.forM f = .ok ()
  | [], _ => rfl
  | item :: rest, h => by
      obtain ⟨hitem, hrest⟩ := List.forall_mem_cons.mp h
      show (do f item; rest.forM f) = _
      rw [hitem]
      exact forM_ok hrest

namespace StringTable

variable {table : StringTable} {ref : Ref}

theorem resolve_ok {s : String} (h : table.get? ref = some s) : table.resolve ref = .ok s := by
  unfold resolve
  rw [h]

def Has (table : StringTable) (refs : List Ref) : Prop :=
  ∀ ref ∈ refs, ∃ s, table.get? ref = some s

theorem Has.resolve {refs : List Ref} (h : table.Has refs) (href : ref ∈ refs) :
    (do let _ ← table.resolve ref : Except Fault Unit) = .ok () := by
  obtain ⟨s, hs⟩ := h ref href
  rw [resolve_ok hs]
  rfl

end StringTable

theorem Props.validate_ok {table : StringTable} {props : Props} (h : table.Has props.refs) :
    props.validate table = .ok () :=
  forM_ok fun _ href => h.resolve href

namespace BehaviorDocument

variable {document : BehaviorDocument}

theorem checkNode_ok {node : CompactNode} (h : document.strings.Has node.refs) :
    checkNode document.strings node = .ok () := by
  unfold checkNode
  obtain ⟨s, hs⟩ := h node.type List.mem_cons_self
  rw [StringTable.resolve_ok hs]
  exact Props.validate_ok fun ref href => h ref (List.mem_cons_of_mem _ href)

theorem checkEdges_ok {count : Nat} : ∀ {edges : List CompactEdge} (position : Nat),
    (∀ edge ∈ edges, edge.source.toNat < count ∧ edge.target.toNat < count ∧
      document.strings.Has edge.refs) →
    checkEdges document.strings count position edges = .ok ()
  | [], _, _ => rfl
  | edge :: rest, position, h => by
      obtain ⟨⟨hsource, htarget, hports⟩, hrest⟩ := List.forall_mem_cons.mp h
      obtain ⟨s, hs⟩ := hports edge.sourcePort List.mem_cons_self
      obtain ⟨s', hs'⟩ := hports edge.targetPort (List.mem_cons_of_mem _ List.mem_cons_self)
      have hedge : checkEdge document.strings count position edge = .ok () := by
        unfold checkEdge checkEnd
        rw [if_pos hsource, if_pos htarget, StringTable.resolve_ok hs, StringTable.resolve_ok hs']
        rfl
      rw [checkEdges, hedge]
      exact checkEdges_ok (position + 1) hrest

/-- **A document passes its checks** if it has one id for each node, its edges run between nodes, and
its table has all its references. -/
theorem validate_ok (hids : document.nodeIds.length = document.nodes.length)
    (hedges : ∀ edge ∈ document.edges, document.inRange edge = true)
    (hrefs : document.strings.Has document.refs) : document.validate = .ok () := by
  have hall : checkEdges document.strings document.nodes.length 0 document.edges = .ok () := by
    refine checkEdges_ok 0 fun edge hedge => ?_
    have hrange := hedges edge hedge
    simp only [inRange, Bool.and_eq_true, decide_eq_true_eq] at hrange
    refine ⟨hrange.1, hrange.2, fun ref href => hrefs ref ?_⟩
    exact List.mem_append_right _ (List.mem_flatMap.mpr ⟨edge, hedge, href⟩)
  unfold validate
  rw [if_neg (not_not.mpr hids), hall]
  refine forM_ok fun node hnode => checkNode_ok fun ref href => hrefs ref ?_
  exact List.mem_append_left _ (List.mem_flatMap.mpr ⟨node, hnode, href⟩)

end BehaviorDocument

theorem DataDocument.validate_ok {document : DataDocument}
    (hrefs : document.strings.Has document.refs) : document.validate = .ok () := by
  refine forM_ok fun entry hentry => ?_
  have hentry : document.strings.Has entry.refs :=
    fun ref href => hrefs ref (List.mem_flatMap.mpr ⟨entry, hentry, href⟩)
  obtain ⟨s, hs⟩ := hentry entry.label (List.mem_append_right _ List.mem_cons_self)
  unfold checkEntry
  rw [StringTable.resolve_ok hs]
  exact Props.validate_ok fun ref href => hentry ref (List.mem_append_left _ href)

/-! ## Property lists -/

/-- A property list as it is compiled: the label comes first, no key is repeated, and no number is
infinite or NaN. -/
structure Props.WellFormed (table : StringTable) (label : String) (props : Props) : Prop where
  first : ∃ key ref others, props.pairs = (key, .string ref) :: others ∧
    table.indexOf? labelKey = some key ∧ table.indexOf? label = some ref
  keys : (props.pairs.map Prod.fst).Nodup
  finite : ∀ pair ∈ props.pairs, pair.2.AllFinite

/-- Properties as an author can write them: the names in order, and integers of 64 bits. -/
structure Fields.Proper (fields : Fields) : Prop where
  ordered : fields.Ordered
  fits : fields.FitWords

theorem Fields.Proper.erase {fields : Fields} (h : fields.Proper) (name : String) :
    Fields.Proper (fields.erase name) where
  ordered := h.ordered.erase name
  fits field hfield := h.fits field (List.mem_filter.mp hfield).1

theorem Fields.not_mem_erase (fields : Fields) (name : String) :
    name ∉ (fields.erase name).map Prod.fst := by
  intro hmem
  obtain ⟨pair, hpair, heq⟩ := List.mem_map.mp hmem
  exact bne_iff_ne.mp (List.mem_filter.mp hpair).2 heq

theorem Compact.textOf_eq_text {table : StringTable} {ref : Ref} {s : String}
    (h : textOf table ref = .text s) : table.get? ref = some s := by
  unfold textOf at h
  split at h
  · rename_i hget
    cases h
    exact hget
  · exact nomatch h

theorem Props.read_keys (table : StringTable) (props : Props) :
    (props.read table).map Prod.fst = (props.pairs.map Prod.fst).map table.get? := by
  unfold Props.read
  rw [List.map_map, List.map_map]
  rfl

theorem compactProps_finite {hint : String → StorageHint} {label : String} {properties : Fields}
    (hfits : properties.FitWords) (t : StringTable) :
    ∀ pair ∈ (compactProps hint label properties t).1.pairs, pair.2.AllFinite := by
  obtain ⟨key, ref, t', hpairs⟩ : ∃ key ref t', (compactProps hint label properties t).1.pairs =
      (key, .string ref) :: (properties.mapM (compactProperty hint) t').1 := ⟨_, _, _, rfl⟩
  intro pair hpair
  rw [hpairs] at hpair
  rcases List.mem_cons.mp hpair with rfl | hpair
  · exact fun _ h => absurd h List.not_mem_nil
  · obtain ⟨property, hproperty, t'', rfl⟩ := StringTable.mem_mapM properties t' hpair
    exact compact_finite (hint property.1) property.2 (hfits property hproperty) _

/-- **A compiled property list is well formed** by every later table that repeats nothing. -/
theorem compactProps_wellFormed {hint : String → StorageHint} {label : String}
    {properties : Fields} {t u : StringTable} (hu : (compactProps hint label properties t).2.Later u)
    (hnodup : u.strings.Nodup) (hproper : properties.Proper)
    (hlabel : labelKey ∉ properties.map Prod.fst) :
    (compactProps hint label properties t).1.WellFormed u label := by
  have hread := (compactProps_stored hint label properties t).reads u hu
  obtain ⟨key, ref, others, hpairs⟩ : ∃ key ref others,
      (compactProps hint label properties t).1.pairs = (key, .string ref) :: others := ⟨_, _, _, rfl⟩
  constructor
  · refine ⟨key, ref, others, hpairs, ?_⟩
    unfold Props.read at hread
    rw [hpairs] at hread
    obtain ⟨hkey, hvalue⟩ := Prod.mk.inj (List.cons.inj hread).1
    exact ⟨StringTable.indexOf?_of_get? hu.fits hnodup hkey,
      StringTable.indexOf?_of_get? hu.fits hnodup (Compact.textOf_eq_text hvalue)⟩
  · -- Two equal keys would be one name twice.
    refine List.Nodup.of_map u.get? ?_
    rw [← Props.read_keys, hread, Fields.asRead_names, normalProps_names]
    exact (List.nodup_cons.mpr ⟨hlabel, hproper.ordered.nodup⟩).map fun _ _ => Option.some.inj
  · exact compactProps_finite hproper.fits t

/-! ## Documents -/

/-- The table holds no string twice and none that nothing refers to. -/
structure StringTable.Tight (table : StringTable) (refs : List Ref) : Prop where
  distinct : table.strings.Nodup
  used : ∀ s ∈ table.strings, ∃ ref ∈ refs, table.get? ref = some s

/-- What holds of a document that the given nodes of a graph were compiled to. -/
structure BehaviorDocument.WellFormed (document : BehaviorDocument) (nodes : List GraphNode) :
    Prop where
  valid : document.validate = .ok ()
  ids : document.nodeIds = nodes.map (·.id)
  distinct : document.nodeIds.Nodup
  parallel : document.nodeIds.length = document.nodes.length
  table : document.strings.Tight document.refs
  props : List.Forall₂ (fun node compiled => compiled.props.WellFormed document.strings node.label)
    nodes document.nodes

/-- What holds of a document that the given entries were compiled to. -/
structure DataDocument.WellFormed (document : DataDocument) (entries : List Entry) : Prop where
  valid : document.validate = .ok ()
  table : document.strings.Tight document.refs
  props : List.Forall₂ (fun entry compiled =>
    compiled.props.WellFormed document.strings entry.label ∧
      document.strings.indexOf? entry.label = some compiled.label) entries document.items

theorem StringTable.Stored.tight {α : Type} {t : StringTable} {refs : List Ref}
    {read : StringTable → α} {a : α} (h : StringTable.Stored .empty t refs read a)
    (hfits : t.size ≤ 2 ^ 32) : t.Tight refs :=
  ⟨h.nodup, fun _ hs => h.used hfits hs⟩

theorem compileGraph_inRange {registry : Registry} {graph : Graph}
    (hfits : (compileGraph registry graph).document.Fits) :
    ∀ edge ∈ (compileGraph registry graph).document.edges,
      (compileGraph registry graph).document.inRange edge = true := by
  intro edge hedge
  obtain ⟨placed, hplaced, t, rfl⟩ := compileGraph_edges hedge
  obtain ⟨hsource, htarget⟩ := Graph.mem_compiledEdges hplaced
  rw [← compileGraph_length hfits] at hsource htarget
  obtain ⟨hsource', htarget'⟩ := Graph.compiledEdges_fit hfits hplaced
  show (decide ((UInt32.ofNat placed.source).toNat < _) &&
    decide ((UInt32.ofNat placed.target).toNat < _)) = true
  rw [hsource', htarget', decide_eq_true hsource, decide_eq_true htarget]
  rfl

theorem compileGraph_wellFormed {registry : Registry} {graph : Graph}
    (hnodes : ∀ node ∈ graph.nodes, node.properties.Proper)
    (hfits : (compileGraph registry graph).document.Fits) :
    (compileGraph registry graph).document.WellFormed (graph.compiledNodes registry) := by
  have hstored := compileGraph_stored registry graph
  have hids := compileGraph_nodeIds registry graph
  have hparallel : (compileGraph registry graph).document.nodeIds.length =
      (compileGraph registry graph).document.nodes.length := by
    rw [hids, compileGraph_length hfits]
    exact List.length_map _
  constructor
  · exact BehaviorDocument.validate_ok hparallel (compileGraph_inRange hfits)
      fun _ href => hstored.known hfits.strings href
  · exact hids
  · exact hids ▸ Graph.compiledIds_nodup
  · exact hparallel
  · exact hstored.tight hfits.strings
  · refine (compileGraph_nodes (.refl hfits.strings)).imp ?_
    rintro node compiled ⟨hnode, t, hlater, rfl⟩
    exact compactProps_wellFormed hlater hstored.nodup
      ((hnodes node (Graph.mem_compiledNodes hnode).1).erase labelKey) (Fields.not_mem_erase _ _)

theorem compileEntries_wellFormed {entries : List Entry}
    (hentries : ∀ entry ∈ entries, entry.properties.Proper)
    (hfits : (compileEntries entries).strings.size ≤ 2 ^ 32) :
    (compileEntries entries).WellFormed entries := by
  have hstored := compileEntries_stored entries
  constructor
  · exact DataDocument.validate_ok fun _ href => hstored.known hfits href
  · exact hstored.tight hfits
  · refine (compileEntries_items (.refl hfits)).imp ?_
    rintro entry compiled ⟨hentry, t, hlater, rfl⟩
    -- An entry interns its label once more, after its properties.
    have hlabel := StringTable.intern_stored entry.label
      (compactProps (fun _ => .auto) entry.label
        (Fields.erase (Fields.erase entry.properties labelKey) "id") t).2
    refine ⟨compactProps_wellFormed (hlater.trans hlabel.grown) hstored.nodup
      (((hentries entry hentry).erase labelKey).erase "id") fun hmem => ?_, ?_⟩
    · obtain ⟨pair, hpair, heq⟩ := List.mem_map.mp hmem
      exact Fields.not_mem_erase _ _ (List.mem_map.mpr ⟨pair, (List.mem_filter.mp hpair).1, heq⟩)
    · exact StringTable.indexOf?_of_get? hfits hstored.nodup (hlabel.reads _ hlater)

/-- **Whatever is compiled is well formed**, as long as positions fit a reference. -/
theorem compiled_wellFormed (registry : Registry) (graph : Graph) (entries : List Entry)
    (hnodes : ∀ node ∈ graph.nodes, node.properties.Proper)
    (hentries : ∀ entry ∈ entries, entry.properties.Proper)
    (hbehavior : (compileGraph registry graph).document.Fits)
    (hdata : (compileEntries entries).strings.size ≤ 2 ^ 32) :
    (compileGraph registry graph).document.WellFormed (graph.compiledNodes registry) ∧
      (compileEntries entries).WellFormed entries :=
  ⟨compileGraph_wellFormed hnodes hbehavior, compileEntries_wellFormed hentries hdata⟩

/-- Two nodes and two edges of this graph are compiled: one type is unknown, and one id is taken. -/
def leftover : Graph where
  nodes := [
    ⟨"a", "source_literal", "First", [("label", .text "Shadowed"),
      ("value_1", .record [("name", .text "weight"), ("value", .number (.int 7))])]⟩,
    ⟨"b", "teleport", "Nowhere", []⟩,
    ⟨"a", "reroute", "Twin", [("input", .text "lost")]⟩,
    ⟨"c", "text_join", "Last", [("separator", .text "12"),
      ("values", .list [.text "north", .null])]⟩]
  edges := [
    ⟨"a", some "values", "c", some "values"⟩,
    ⟨"c", none, "b", none⟩,
    ⟨"c", none, "a", some "value_1"⟩]

def sword : Entry where
  id := "sword"
  label := "Sword"
  properties := [("id", .text "other"), ("keywords", .list [.text "blade"]),
    ("weight", .number (.int 7))]

theorem leftover_proper : ∀ node ∈ leftover.nodes, node.properties.Proper := by
  intro node hnode
  simp only [leftover, List.mem_cons, List.not_mem_nil, or_false] at hnode
  rcases hnode with rfl | rfl | rfl | rfl <;>
    exact ⟨by decide +kernel, by simp [Fields.FitWords]⟩

theorem leftover_fits : (compileGraph .builtin leftover).document.Fits where
  strings := by decide +kernel
  nodes := by decide +kernel

theorem sword_proper : sword.properties.Proper :=
  ⟨by decide +kernel, by simp [Fields.FitWords, sword]⟩

theorem leftover_wellFormed :
    (∀ node ∈ leftover.nodes, node.properties.Proper) ∧ sword.properties.Proper ∧
      (compileGraph .builtin leftover).document.Fits ∧
      (leftover.compiledNodes .builtin).map (·.label) = ["First", "Last"] ∧
      (compileGraph .builtin leftover).document.WellFormed (leftover.compiledNodes .builtin) ∧
      (compileEntries [sword]).WellFormed [sword] := by
  have hentries : ∀ entry ∈ [sword], entry.properties.Proper := fun entry hentry =>
    List.mem_singleton.mp hentry ▸ sword_proper
  refine ⟨leftover_proper, sword_proper, leftover_fits, by decide +kernel, ?_⟩
  exact compiled_wellFormed .builtin leftover [sword] leftover_proper hentries leftover_fits
    (by decide +kernel)

end StoryGraph
