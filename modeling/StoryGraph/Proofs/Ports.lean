import Mathlib.Data.List.Nodup
import StoryGraph.Proofs.Memo

/-!
# Inputs and the names of ports

An edge names its target port by a reference, and an input is asked for by name. Evaluation looks
the name up in the table and goes by the reference that it finds, the first one. An edge may refer
to a later copy of the same string, though, and such an edge is never found. Here both readings are
set side by side: `Engine.feeds` is what evaluation uses, `Engine.wired` goes by the names that the
edges carry. They agree at a port exactly if all edges into it refer to the first copy of its name.
-/

namespace StoryGraph

namespace StringTable

variable {table : StringTable} {s : String} {ref : Ref}

theorem get?_of_indexOf? (hsize : table.size ≤ 2 ^ 32) (h : table.indexOf? s = some ref) :
    table.get? ref = some s := by
  obtain ⟨i, hfind, rfl⟩ := Option.map_eq_some_iff.mp h
  obtain ⟨hi, hs, -⟩ := List.findIdx?_eq_some_iff_getElem.mp hfind
  have hlt : i < 2 ^ 32 := Nat.lt_of_lt_of_le hi hsize
  have hi' : (UInt32.ofNat i).toNat = i := UInt32.toNat_ofNat_of_lt hlt
  rw [get?, hi', List.getElem?_eq_getElem hi, beq_iff_eq.mp hs]

theorem indexOf?_of_get? (hsize : table.size ≤ 2 ^ 32) (hnodup : table.strings.Nodup)
    (h : table.get? ref = some s) : table.indexOf? s = some ref := by
  have hmem : s ∈ table.strings := List.mem_of_getElem? h
  have hfound : (table.strings.findIdx? (· == s)).isSome := by
    rw [List.findIdx?_isSome]
    exact List.any_eq_true.mpr ⟨s, hmem, beq_self_eq_true s⟩
  obtain ⟨i, hfind⟩ := Option.isSome_iff_exists.mp hfound
  have hindex : table.indexOf? s = some (UInt32.ofNat i) := by rw [indexOf?, hfind]; rfl
  have hget := get?_of_indexOf? hsize hindex
  obtain ⟨hlt, hat⟩ := List.getElem?_eq_some_iff.mp h
  obtain ⟨hlt', hat'⟩ := List.getElem?_eq_some_iff.mp hget
  have hsame := hnodup.getElem_inj_iff.mp (hat.trans hat'.symm)
  rw [hindex, UInt32.toNat_inj.mp hsame]

end StringTable

/-! ## Properties go by names -/

namespace NodeProps

variable {table : StringTable} {name : String}

theorem lookup_firstOfName (pairs : List (String × Compact)) : ∀ seen : List String,
    (firstOfName seen pairs).lookup name =
      if seen.contains name then none else pairs.lookup name := by
  induction pairs with
  | nil => exact fun seen => by simp [firstOfName]
  | cons pair rest ih =>
      obtain ⟨other, value⟩ := pair
      intro seen
      rw [firstOfName]
      by_cases hseen : seen.contains other = true
      · rw [if_pos hseen, ih, List.lookup_cons]
        by_cases he : name = other
        · rw [if_pos (he ▸ hseen), if_pos (he ▸ hseen)]
        · rw [beq_false_of_ne he]
      · rw [if_neg hseen, List.lookup_cons, List.lookup_cons, ih, List.contains_cons]
        by_cases he : name = other
        · subst he
          rw [beq_self_eq_true, if_neg hseen]
        · rw [beq_false_of_ne he, Bool.false_or]

theorem lookup_named (pairs : List (Ref × Compact)) :
    (pairs.filterMap fun (key, value) => (table.get? key).map fun other => (other, value)).lookup
        name =
      (pairs.find? fun pair => table.get? pair.1 == some name).map (·.2) := by
  induction pairs with
  | nil => rfl
  | cons pair rest ih =>
      obtain ⟨key, value⟩ := pair
      cases hkey : table.get? key with
      | none => simpa [hkey] using ih
      | some other =>
          by_cases he : name = other
          · simp [hkey, he]
          · have hne : ¬other = name := Ne.symm he
            simpa [hkey, List.lookup_cons, beq_false_of_ne he, hne] using ih

theorem get?_resolve (props : Props) : (resolve table props).get? name =
    (props.pairs.find? fun pair => table.get? pair.1 == some name).map (·.2) := by
  rw [get?, resolve, lookup_firstOfName, lookup_named]
  rfl

end NodeProps

namespace Engine

variable {engine : Engine} {node : Nat} {port : String}

/-- The value of the node's own property of a name: of the first pair whose key refers to a copy of
the name. -/
def ownProperty? (engine : Engine) (node : Nat) (name : String) : Option Value :=
  (engine.behavior.nodes[node]?).bind fun compact =>
    (compact.props.pairs.find? fun pair => engine.strings.get? pair.1 == some name).map fun pair =>
      pair.2.decompress engine.strings

theorem property?_eq_own (name : String) :
    engine.property? node name = engine.ownProperty? node name := by
  unfold property? props ownProperty?
  cases engine.behavior.nodes[node]? with
  | none => rfl
  | some compact =>
      show ((NodeProps.resolve engine.strings compact.props).get? name).map _ = _
      rw [NodeProps.get?_resolve, Option.map_map]
      rfl

/-! ## Edges by reference and by name -/

/-- The edges into a port by its name, in the order of the document: the target port refers to a
copy of the name. -/
def wired (engine : Engine) (node : Nat) (port : String) : List CompactEdge :=
  engine.behavior.edges.filter fun edge =>
    engine.behavior.inRange edge && edge.target.toNat == node &&
      engine.strings.get? edge.targetPort == some port

/-- At the edges into a node, the two ways to compare a target port with a name agree. -/
def LookupsAgree (engine : Engine) (node : Nat) (port : String) : Prop :=
  ∀ edge ∈ engine.behavior.edges, engine.behavior.inRange edge = true →
    edge.target.toNat = node →
    (engine.strings.indexOf? port = some edge.targetPort ↔
      engine.strings.get? edge.targetPort = some port)

def FirstCopies (engine : Engine) (node : Nat) (port : String) : Prop :=
  ∀ edge ∈ engine.wired node port, engine.strings.indexOf? port = some edge.targetPort

/-- The one edge wired into the port carries null for want of a source port, and null is the node's
own property, too. -/
def NullBothWays (engine : Engine) (node : Nat) (port : String) : Prop :=
  ∃ edge, engine.wired node port = [edge] ∧ engine.strings.get? edge.sourcePort = none ∧
    engine.ownProperty? node port = some .null

theorem feeds_eq_filter : engine.feeds node port = engine.behavior.edges.filter fun edge =>
    engine.behavior.inRange edge && edge.target.toNat == node &&
      engine.strings.indexOf? port == some edge.targetPort := by
  unfold feeds
  cases engine.strings.indexOf? port with
  | none => simp
  | some name =>
      refine List.filter_congr fun edge _ => ?_
      rw [Option.some_beq_some, Bool.beq_comm (a := name)]

theorem feeds_eq_wired (h : engine.LookupsAgree node port) :
    engine.feeds node port = engine.wired node port := by
  rw [feeds_eq_filter, wired]
  refine List.filter_congr fun edge hmem => ?_
  cases hrange : engine.behavior.inRange edge with
  | false => rfl
  | true =>
      by_cases htarget : edge.target.toNat = node
      · rw [Bool.eq_iff_iff]
        simp [htarget, h edge hmem hrange htarget]
      · rw [beq_false_of_ne htarget]
        simp

theorem lookupsAgree (hsize : engine.strings.size ≤ 2 ^ 32) (h : engine.FirstCopies node port) :
    engine.LookupsAgree node port := by
  intro edge hmem hrange htarget
  refine ⟨StringTable.get?_of_indexOf? hsize, fun hget => h edge ?_⟩
  simp [wired, hmem, hrange, htarget, hget]

theorem lookupsAgree_of_nodup (hsize : engine.strings.size ≤ 2 ^ 32)
    (hnodup : engine.strings.strings.Nodup) (node : Nat) (port : String) :
    engine.LookupsAgree node port := fun _ _ _ _ =>
  ⟨StringTable.get?_of_indexOf? hsize, StringTable.indexOf?_of_get? hsize hnodup⟩

theorem feeds_sublist_wired (hsize : engine.strings.size ≤ 2 ^ 32) (node : Nat) (port : String) :
    (engine.feeds node port).Sublist (engine.wired node port) := by
  rw [feeds_eq_filter, wired]
  refine List.monotone_filter_right _ fun edge hedge => ?_
  simp only [Bool.and_eq_true, beq_iff_eq] at hedge ⊢
  exact ⟨hedge.1, StringTable.get?_of_indexOf? hsize hedge.2⟩

theorem firstCopies_of_feeds (h : engine.feeds node port = engine.wired node port) :
    engine.FirstCopies node port := by
  intro edge hmem
  rw [← h, feeds_eq_filter, List.mem_filter] at hmem
  simp only [Bool.and_eq_true, beq_iff_eq] at hmem
  exact hmem.2.2

end Engine

namespace Scene

variable {scene : Scene} {node : Nat} {port : String} {s : Session}

/-! ## Inputs by name -/

/-- The value at the source of an edge: of the port whose name the edge carries, null if it carries
none. -/
def sourceValue (scene : Scene) (edge : CompactEdge) : StateM Session Value :=
  match scene.engine.strings.get? edge.sourcePort with
  | some name => scene.evaluate edge.source.toNat name
  | none => return .null

/-- An input by name: the first edge wired into it, or else the node's own property. -/
def inputByName (scene : Scene) (node : Nat) (port : String) : StateM Session Value :=
  match scene.engine.wired node port with
  | edge :: _ => scene.sourceValue edge
  | [] => return (scene.engine.ownProperty? node port).getD .null

/-- All inputs by name: each edge wired into the port, in order, or else the node's own property. -/
def inputsByName (scene : Scene) (node : Nat) (port : String) : StateM Session (List Value) :=
  match scene.engine.wired node port with
  | [] => return (scene.engine.ownProperty? node port).toList
  | edges => edges.mapM scene.sourceValue

/-- In a session, what can be asked of a port from outside is answered by name: with the same
values, and with the same session after them. -/
structure FollowsNames (scene : Scene) (node : Nat) (port : String) (s : Session) : Prop where
  input : scene.perform node (Body.ask port) s = scene.inputByName node port s
  inputs : scene.perform node (Body.askAll port) s = scene.inputsByName node port s
  hasInput : (scene.site node).hasInput port = true ↔
    scene.engine.wired node port ≠ [] ∨ (scene.engine.ownProperty? node port).isSome

theorem pullEdges_eq_mapM (edges : List CompactEdge) :
    scene.pullEdges scene.evaluate edges = edges.mapM scene.sourceValue := by
  induction edges with
  | nil => rfl
  | cons edge rest ih =>
      rw [List.mapM_cons, ← ih]
      rfl

theorem perform_ask (port : String) :
    scene.perform node (Body.ask port) s = scene.resolve scene.evaluate node port s := rfl

theorem perform_askAll (port : String) :
    scene.perform node (Body.askAll port) s = scene.resolveAll scene.evaluate node port s := rfl

theorem hasInput_iff : (scene.site node).hasInput port = true ↔
    scene.engine.feeds node port ≠ [] ∨ (scene.engine.ownProperty? node port).isSome := by
  show (!(scene.engine.feeds node port).isEmpty || (scene.engine.property? node port).isSome) = true
    ↔ _
  rw [Engine.property?_eq_own, Bool.or_eq_true, Bool.not_eq_true', List.isEmpty_eq_false_iff]

/-- Where the edges found are those wired, all questions are answered by name. -/
theorem followsNames_of_feeds (h : scene.engine.feeds node port = scene.engine.wired node port)
    (s : Session) : scene.FollowsNames node port s where
  input := by
    rw [perform_ask, resolve, inputByName, h, Engine.property?_eq_own]
    rfl
  inputs := by
    rw [perform_askAll, resolveAll, inputsByName, h, Engine.property?_eq_own]
    cases scene.engine.wired node port with
    | nil => rfl
    | cons edge rest => exact congrFun (pullEdges_eq_mapM (edge :: rest)) s
  hasInput := by rw [hasInput_iff, h]

/-- In a document whose table holds no string twice, every port is asked for by name. -/
theorem followsNames_of_nodup (hsize : scene.engine.strings.size ≤ 2 ^ 32)
    (hnodup : scene.engine.strings.strings.Nodup) (node : Nat) (port : String) (s : Session) :
    scene.FollowsNames node port s :=
  followsNames_of_feeds
    (Engine.feeds_eq_wired (Engine.lookupsAgree_of_nodup hsize hnodup node port)) s

/-! ## Where the reading by reference shows -/

theorem followsNames_of_null (hsize : scene.engine.strings.size ≤ 2 ^ 32)
    (h : scene.engine.NullBothWays node port) (s : Session) : scene.FollowsNames node port s := by
  obtain ⟨edge, hwired, hsource, hown⟩ := h
  have hsub := Engine.feeds_sublist_wired hsize node port
  -- If the edge is not found the property answers, with the same null.
  rcases List.sublist_singleton.mp (hwired ▸ hsub) with hfeeds | hfeeds
  · have hvalue : ∀ s, scene.sourceValue edge s = (.null, s) := by
      intro s
      rw [sourceValue, hsource]
      rfl
    constructor
    · rw [perform_ask, resolve, inputByName, hfeeds, hwired, Engine.property?_eq_own, hown]
      exact (hvalue s).symm
    · rw [perform_askAll, resolveAll, inputsByName, hfeeds, hwired, Engine.property?_eq_own, hown]
      show _ = [edge].mapM scene.sourceValue s
      rw [← pullEdges_eq_mapM, pullEdges_cons]
      exact congrArg (fun r : Value × Session => ([r.1], r.2)) (hvalue s).symm
    · rw [hasInput_iff, hwired, hown]
      simp
  · exact followsNames_of_feeds (hfeeds.trans hwired.symm) s

theorem pullEdges_length {pull : Pull} (edges : List CompactEdge) :
    ∀ s, (scene.pullEdges pull edges s).1.length = edges.length := by
  induction edges with
  | nil => exact fun _ => rfl
  | cons edge rest ih =>
      intro s
      rw [pullEdges_cons, List.length_cons, List.length_cons, ih]

/-- A node at the source of an edge that carries a value is in the memo afterwards, so finding the
value cannot leave a fresh session as it was. -/
theorem sourceValue_shows {edge : CompactEdge} {name : String}
    (hname : scene.engine.strings.get? edge.sourcePort = some name)
    (hrange : scene.engine.behavior.inRange edge = true) (hrun : s.running = [])
    (hmemo : s.memo = []) :
    (scene.sourceValue edge s).2 ≠ s := by
  -- The memo tells the two sessions apart: it has the source afterwards and was empty before.
  intro hsame
  rw [sourceValue, hname] at hsame
  have hnode : edge.source.toNat < scene.engine.nodeCount := by
    simp only [BehaviorDocument.inRange, Bool.and_eq_true, decide_eq_true_eq] at hrange
    exact hrange.1
  have hkept := evaluateWithin_kept scene.engine.nodeCount name hnode
    (hrun ▸ List.not_mem_nil : edge.source.toNat ∉ s.running)
  change ((scene.evaluate edge.source.toNat name s).2.memo.lookup edge.source.toNat).isSome at hkept
  rw [hsame, hmemo] at hkept
  exact absurd hkept (by simp)

/-- If fewer edges are found than are wired and still all questions are answered by name, then the
node's own property stands in for the one edge that is not found. -/
theorem property_for_edge (h : scene.FollowsNames node port s)
    (hlt : (scene.engine.feeds node port).length < (scene.engine.wired node port).length) :
    ∃ edge value, scene.engine.wired node port = [edge] ∧
      scene.engine.ownProperty? node port = some value ∧ scene.sourceValue edge s = (value, s) := by
  have hinputs := h.inputs
  rw [perform_askAll, resolveAll, inputsByName, Engine.property?_eq_own] at hinputs
  cases hwired : scene.engine.wired node port with
  | nil =>
      rw [hwired] at hlt
      exact absurd hlt (Nat.not_lt_zero _)
  | cons edge rest =>
      rw [hwired] at hinputs hlt
      -- Each edge gives one value, so the lists of values tell how many edges were found.
      have hall : ((edge :: rest).mapM scene.sourceValue s).1.length = rest.length + 1 := by
        rw [← pullEdges_eq_mapM, pullEdges_length, List.length_cons]
      cases hfeeds : scene.engine.feeds node port with
      | cons found others =>
          rw [hfeeds] at hinputs hlt
          have hsome : (scene.pullEdges scene.evaluate (found :: others) s).1.length =
              ((edge :: rest).mapM scene.sourceValue s).1.length :=
            congrArg (fun r : List Value × Session => r.1.length) hinputs
          rw [pullEdges_length, hall, ← List.length_cons (a := edge)] at hsome
          exact absurd hsome (Nat.ne_of_lt hlt)
      | nil =>
          rw [hfeeds] at hinputs
          have hnone : (scene.engine.ownProperty? node port).toList.length = rest.length + 1 :=
            (congrArg (fun r : List Value × Session => r.1.length) hinputs).trans hall
          cases hown : scene.engine.ownProperty? node port with
          | none =>
              rw [hown] at hnone
              exact absurd hnone (by simp)
          | some value =>
              rw [hown] at hinputs hnone
              obtain rfl : rest = [] := List.eq_nil_of_length_eq_zero (Nat.succ.inj hnone).symm
              refine ⟨edge, value, rfl, rfl, Prod.ext ?_ ?_⟩
              · exact (List.head_eq_of_cons_eq (congrArg Prod.fst hinputs)).symm
              · exact (congrArg Prod.snd hinputs).symm

theorem firstCopies_of_followsNames (hsize : scene.engine.strings.size ≤ 2 ^ 32)
    (hrun : s.running = []) (hmemo : s.memo = []) (h : scene.FollowsNames node port s) :
    scene.engine.FirstCopies node port ∨ scene.engine.NullBothWays node port := by
  by_cases hfirst : scene.engine.FirstCopies node port
  · exact .inl hfirst
  · right
    have hsub := Engine.feeds_sublist_wired hsize node port
    have hlt : (scene.engine.feeds node port).length < (scene.engine.wired node port).length := by
      by_contra hle
      exact hfirst (Engine.firstCopies_of_feeds (hsub.eq_of_length_le (Nat.not_lt.mp hle)))
    obtain ⟨edge, value, hwired, hown, hvalue⟩ := property_for_edge h hlt
    cases hname : scene.engine.strings.get? edge.sourcePort with
    | none =>
        refine ⟨edge, hwired, hname, ?_⟩
        rw [sourceValue, hname] at hvalue
        have hnull : Value.null = value := congrArg Prod.fst hvalue
        rw [hown, hnull]
    | some name =>
        have hmem : edge ∈ scene.engine.wired node port := hwired ▸ List.mem_cons_self
        have hrange := (List.mem_filter.mp hmem).2
        simp only [Bool.and_eq_true] at hrange
        exact absurd (congrArg Prod.snd hvalue) (sourceValue_shows hname hrange.1.1 hrun hmemo)

/-- **Inputs follow the names of ports exactly where all edges refer to first copies.** If the two
ways to compare agree at the edges into a node, each session answers by name. While positions fit a
reference, they agree if all edges wired into the port refer to the first copy of its name, and a
session that follows the names before its first call shows that they do, with one exception: that
null comes both from the one edge and from the node's own property. -/
theorem input_follows_names (scene : Scene) (node : Nat) (port : String) :
    (scene.engine.LookupsAgree node port → ∀ s, scene.FollowsNames node port s) ∧
    (scene.engine.strings.size ≤ 2 ^ 32 →
      (scene.engine.FirstCopies node port ∨ scene.engine.NullBothWays node port →
        ∀ s, scene.FollowsNames node port s) ∧
      ∀ chance, scene.FollowsNames node port (scene.after chance []) →
        scene.engine.FirstCopies node port ∨ scene.engine.NullBothWays node port) := by
  refine ⟨fun h => followsNames_of_feeds (Engine.feeds_eq_wired h), fun hsize => ⟨?_, ?_⟩⟩
  · rintro (hfirst | hnull)
    · exact followsNames_of_feeds (Engine.feeds_eq_wired (Engine.lookupsAgree hsize hfirst))
    · exact followsNames_of_null hsize hnull
  · exact fun chance h => firstCopies_of_followsNames hsize rfl rfl h

/-- The edges into the list refer to the only copy of its port's name, and each way to see it gives
the other. -/
theorem fanOut_follows_names :
    let scene : Scene := ⟨fanOut, {}⟩
    (∀ s, scene.FollowsNames 3 "lists" s) ∧ (∀ s, scene.FollowsNames 4 "input" s) ∧
    (scene.engine.FirstCopies 4 "input" ∨ scene.engine.NullBothWays 4 "input") := by
  intro scene
  have hsize : scene.engine.strings.size ≤ 2 ^ 32 := by decide
  have hlists : scene.engine.LookupsAgree 3 "lists" := by
    unfold Engine.LookupsAgree
    decide
  have hinput : scene.engine.FirstCopies 4 "input" := by
    unfold Engine.FirstCopies
    decide
  have hloop := ((input_follows_names scene 4 "input").2 hsize).1 (.inl hinput)
  refine ⟨(input_follows_names scene 3 "lists").1 hlists, hloop, ?_⟩
  exact ((input_follows_names scene 4 "input").2 hsize).2 (.ofSeed 7) (hloop _)

/-- A node that passes a sword on to another, by an edge into the second copy of the port's name. -/
def laterCopy : Engine where
  behavior := {
    strings := ⟨["reroute", "input", "output", "input", "sword"]⟩
    nodeIds := ["first", "second"]
    nodes := [⟨0, ⟨[(1, .string 4)]⟩⟩, ⟨0, ⟨[]⟩⟩]
    edges := [⟨0, 2, 1, 3⟩] }
  data := {}
  config := {}

/-- The document is accepted, but the input of the second node is not found. -/
theorem laterCopy_is_missed :
    let scene : Scene := ⟨laterCopy, {}⟩
    let start := scene.after (.ofSeed 0) []
    laterCopy.behavior.validate = .ok () ∧
    (scene.perform 1 (Body.ask "input") start).1 = .null ∧
    (scene.inputByName 1 "input" start).1 = .text "sword" ∧
    (scene.perform 1 (Body.askAll "input") start).1 = [] ∧
    (scene.inputsByName 1 "input" start).1 = [.text "sword"] ∧
    (scene.site 1).hasInput "input" = false ∧ laterCopy.wired 1 "input" ≠ [] ∧
    ¬scene.FollowsNames 1 "input" start := by
  intro scene start
  have hinput : (scene.perform 1 (Body.ask "input") start).1 = .null := rfl
  have hname : (scene.inputByName 1 "input" start).1 = .text "sword" := rfl
  refine ⟨rfl, hinput, hname, rfl, rfl, rfl, by decide, fun h => ?_⟩
  rw [h.input, hname] at hinput
  exact Value.noConfusion hinput

end Scene

end StoryGraph
