import Mathlib.Data.List.Perm.Subperm
import StoryGraph.Proofs.Ports
import StoryGraph.Proofs.Scans

/-!
# Literal values are listed by their properties

A literal source finds the numbered values of its node among the names of the node's properties. It
asks for each of them as for any other input, so an edge into such a port counts before the
property; but a numbered port that is wired and is no property is never asked for. So all numbered
inputs are listed exactly if each that is wired is a property too.

Main definitions: `Operator.Numbered`, `Operator.NumberedPorts`, `Scene.ListsNumbered`. Main result:
`Scene.numbered_inputs_are_listed_iff`.
-/

namespace StoryGraph

/-! ## Names of properties -/

namespace NodeProps

variable {table : StringTable} {props : Props} {name : String}

theorem mem_firstOfName {pairs : List (String × Compact)} : ∀ {seen : List String},
    name ∈ (firstOfName seen pairs).map (·.1) → name ∉ seen := by
  induction pairs with
  | nil => simp [firstOfName]
  | cons pair rest ih =>
      intro seen
      rw [firstOfName]
      split
      · exact ih
      · rename_i hnew
        rw [List.map_cons, List.mem_cons]
        rintro (rfl | hrest)
        · exact mt List.contains_iff_mem.mpr hnew
        · exact fun hseen => ih hrest (List.mem_cons_of_mem _ hseen)

theorem nodup_firstOfName (pairs : List (String × Compact)) : ∀ seen : List String,
    ((firstOfName seen pairs).map (·.1)).Nodup := by
  induction pairs with
  | nil => simp [firstOfName]
  | cons pair rest ih =>
      intro seen
      rw [firstOfName]
      split
      · exact ih seen
      · rw [List.map_cons, List.nodup_cons]
        exact ⟨fun hmem => mem_firstOfName hmem List.mem_cons_self, ih _⟩

end NodeProps

namespace Engine

variable {engine : Engine} {node : Nat} {name : String}

theorem nodup_propertyNames (engine : Engine) (node : Nat) : (engine.props node).names.Nodup := by
  unfold props
  split
  · exact NodeProps.nodup_firstOfName _ []
  · exact .nil

theorem mem_propertyNames :
    name ∈ (engine.props node).names ↔ (engine.property? node name).isSome = true := by
  unfold property? NodeProps.names NodeProps.get?
  rw [Option.isSome_map]
  induction (engine.props node).named with
  | nil => simp
  | cons pair rest ih =>
      obtain ⟨other, value⟩ := pair
      rw [List.map_cons, List.mem_cons, ih, List.lookup_cons]
      by_cases h : name = other
      · simp [h]
      · simp [h, beq_false_of_ne h]

end Engine

/-! ## Numbered ports -/

namespace Operator

variable {port : String} {n : Nat} {names ports : List String} {P : String → Prop}

/-- The port is named `value_n`, with the numeral of a number of 32 bits. -/
def Numbered (port : String) (n : Nat) : Prop :=
  ∃ numeral : String, port = "value_" ++ numeral ∧
    Decimal.naturalBelow? (2 ^ 32) numeral.toList = some n

/-- The numbered ports that meet a condition, each once, by ascending numbers. -/
structure NumberedPorts (P : String → Prop) (ports : List String) : Prop where
  nodup : ports.Nodup
  mem : ∀ port, port ∈ ports ↔ (∃ n, Numbered port n) ∧ P port
  ascending : ports.Pairwise fun a b => ∀ m n, Numbered a m → Numbered b n → m ≤ n

theorem literalNumber?_eq_some_iff : literalNumber? port = some n ↔ Numbered port n := by
  unfold literalNumber? Numbered
  dsimp only
  constructor
  · intro h
    split at h
    · rename_i hprefix
      obtain ⟨rest, hrest⟩ := List.isPrefixOf_iff_prefix.mp hprefix
      refine ⟨String.ofList rest, ?_, ?_⟩
      · apply String.toList_inj.mp
        simpa using hrest.symm
      · rw [← hrest, List.drop_left] at h
        rwa [String.toList_ofList]
    · exact nomatch h
  · rintro ⟨numeral, rfl, hn⟩
    rw [String.toList_append, if_pos (List.isPrefixOf_iff_prefix.mpr (List.prefix_append _ _)),
      List.drop_left]
    exact hn

def numberedNames (names : List String) : List (Nat × String) :=
  names.filterMap fun name => (literalNumber? name).map (·, name)

theorem mem_numberedNames {pair : Nat × String} :
    pair ∈ numberedNames names ↔ pair.2 ∈ names ∧ Numbered pair.2 pair.1 := by
  obtain ⟨n, name⟩ := pair
  simp only [numberedNames, List.mem_filterMap, Option.map_eq_some_iff, Prod.mk.injEq,
    literalNumber?_eq_some_iff]
  constructor
  · rintro ⟨_, hname, _, hn, rfl, rfl⟩
    exact ⟨hname, hn⟩
  · rintro ⟨hname, hn⟩
    exact ⟨name, hname, n, hn, rfl, rfl⟩

theorem numberedNames_map (names : List String) :
    (numberedNames names).map (·.2) = names.filter fun name => (literalNumber? name).isSome := by
  induction names with
  | nil => rfl
  | cons name rest ih =>
      unfold numberedNames at ih ⊢
      cases h : literalNumber? name <;> simp [h, ih]

/-- **The names that are asked for** are the numbered ones, by ascending numbers. -/
theorem literalNames_numberedPorts (h : names.Nodup) :
    NumberedPorts (· ∈ names) (literalNames names) := by
  have hperm : (literalNames names).Perm (names.filter fun name => (literalNumber? name).isSome) := by
    rw [← numberedNames_map]
    exact (List.mergeSort_perm (numberedNames names) _).map _
  constructor
  · rw [hperm.nodup_iff]
    exact h.filter _
  · intro port
    rw [hperm.mem_iff, List.mem_filter, Option.isSome_iff_exists, and_comm]
    simp only [literalNumber?_eq_some_iff]
  · have hsorted : ((numberedNames names).mergeSort fun a b => a.1 ≤ b.1).Pairwise
        fun a b => a.1 ≤ b.1 := by
      refine (List.pairwise_mergeSort (fun a b c hab hbc => ?_) (fun a b => ?_) _).imp of_decide_eq_true
      · simp only [decide_eq_true_eq] at hab hbc ⊢
        omega
      · simp only [Bool.or_eq_true, decide_eq_true_eq]
        omega
    show (((numberedNames names).mergeSort fun a b => a.1 ≤ b.1).map (·.2)).Pairwise _
    rw [List.pairwise_map]
    refine hsorted.imp_of_mem fun {a b} ha hb hle m n hm hn => ?_
    rw [(List.mergeSort_perm _ _).mem_iff, mem_numberedNames] at ha hb
    -- A name has one number, the one that it was sorted by.
    have hma : m = a.1 := by
      rw [← literalNumber?_eq_some_iff] at hm ha
      exact Option.some.inj (hm.symm.trans ha.2)
    have hnb : n = b.1 := by
      rw [← literalNumber?_eq_some_iff] at hn hb
      exact Option.some.inj (hn.symm.trans hb.2)
    omega

def literalOutputs (values : List Value) : Outputs :=
  ⟨[("values", .list values), ("value", values.headD .null)]⟩

end Operator

namespace Scene

open Operator

variable {scene : Scene} {pull : Pull} {node : Nat} {P Q : String → Prop} {s : Session}

/-! ## Asking in turn -/

/-- The inputs of a node at some ports, asked for one after the other. -/
def inputsInTurn (scene : Scene) (pull : Pull) (node : Nat) (ports : List String) :
    StateM Session (List Value) :=
  ports.mapM (scene.resolve pull node)

theorem inputsInTurn_cons (port : String) (rest : List String) (s : Session) :
    scene.inputsInTurn pull node (port :: rest) s =
      ((scene.resolve pull node port s).1 ::
          (scene.inputsInTurn pull node rest (scene.resolve pull node port s).2).1,
        (scene.inputsInTurn pull node rest (scene.resolve pull node port s).2).2) := by
  unfold inputsInTurn
  rw [List.mapM_cons]
  rfl

theorem performWith_askEach (ports : List String) : ∀ s : Session,
    scene.performWith pull node (askEach ports) s = scene.inputsInTurn pull node ports s := by
  induction ports with
  | nil => exact fun _ => rfl
  | cons port rest ih =>
      intro s
      rw [askEach, performWith_bind, performWith_bind, inputsInTurn_cons, ← ih]
      rfl

theorem inputsInTurn_length (ports : List String) : ∀ s : Session,
    (scene.inputsInTurn pull node ports s).1.length = ports.length := by
  induction ports with
  | nil => exact fun _ => rfl
  | cons port rest ih =>
      intro s
      rw [inputsInTurn_cons, List.length_cons, List.length_cons, ih]

/-- **A literal source at work**, whatever the session and however inputs are found. -/
theorem execute_sourceLiteral (scene : Scene) (pull : Pull) (node : Nat) (s : Session) :
    (scene.execute pull node .sourceLiteral s).1 = literalOutputs
      (scene.inputsInTurn pull node (literalNames (scene.engine.props node).names)
        (s.enter node)).1 := by
  show (scene.performWith pull node (sourceLiteral (scene.site node)) (s.enter node)).1 = _
  rw [sourceLiteral, performWith_bind, performWith_askEach]
  rfl

/-! ## What is listed -/

/-- The literal source gives one value for each numbered port that meets a condition, by ascending
numbers: what the node's input is there when the ports are asked one after the other. -/
def ListsNumbered (scene : Scene) (pull : Pull) (node : Nat) (s : Session) (P : String → Prop) :
    Prop :=
  ∃ ports, NumberedPorts P ports ∧ (scene.execute pull node .sourceLiteral s).1 =
    literalOutputs (scene.inputsInTurn pull node ports (s.enter node)).1

def HasProperty (scene : Scene) (node : Nat) (name : String) : Prop :=
  (scene.engine.property? node name).isSome = true

def HasInput (scene : Scene) (node : Nat) (port : String) : Prop :=
  (scene.site node).hasInput port = true

theorem hasInput_iff_wired {port : String} : scene.HasInput node port ↔
    (scene.site node).isWired port = true ∨ scene.HasProperty node port :=
  Bool.or_eq_true_iff

/-- **What is listed are the numbered properties.** -/
theorem listsNumbered_properties (scene : Scene) (pull : Pull) (node : Nat) (s : Session) :
    scene.ListsNumbered pull node s (scene.HasProperty node) := by
  have hports := literalNames_numberedPorts (scene.engine.nodup_propertyNames node)
  refine ⟨_, ⟨hports.nodup, fun port => ?_, hports.ascending⟩,
    scene.execute_sourceLiteral pull node s⟩
  rw [hports.mem, Engine.mem_propertyNames]
  rfl

theorem ListsNumbered.congr (h : scene.ListsNumbered pull node s P)
    (hiff : ∀ port n, Numbered port n → (P port ↔ Q port)) :
    scene.ListsNumbered pull node s Q := by
  obtain ⟨ports, hports, hvalues⟩ := h
  refine ⟨ports, ⟨hports.nodup, fun port => ?_, hports.ascending⟩, hvalues⟩
  rw [hports.mem]
  refine and_congr_right fun hnumbered => ?_
  obtain ⟨n, hn⟩ := hnumbered
  exact hiff port n hn

/-- There are as many values as numbered ports, so of two conditions that tell what is listed the
wider one is met by no further port. -/
theorem ListsNumbered.of_imp (h : scene.ListsNumbered pull node s P)
    (h' : scene.ListsNumbered pull node s Q) (himp : ∀ port, P port → Q port) {port : String}
    {n : Nat} (hn : Numbered port n) (hport : Q port) : P port := by
  obtain ⟨ports, hports, hvalues⟩ := h
  obtain ⟨wider, hwider, hwiderValues⟩ := h'
  have hlength : wider.length = ports.length := by
    have hsame := congrArg (fun outputs : Outputs => outputs.get? "values")
      (hvalues.symm.trans hwiderValues)
    have hlists := Value.list.inj (Option.some.inj hsame)
    rw [← scene.inputsInTurn_length ports (s.enter node), hlists, inputsInTurn_length]
  have hsubset : ports ⊆ wider := by
    intro other hother
    rw [hports.mem] at hother
    exact (hwider.mem other).mpr ⟨hother.1, himp other hother.2⟩
  have hperm : ports.Perm wider :=
    (hports.nodup.subperm hsubset).perm_of_length_le (Nat.le_of_eq hlength)
  have hmem : port ∈ wider := (hwider.mem port).mpr ⟨⟨n, hn⟩, hport⟩
  exact ((hports.mem port).mp (hperm.mem_iff.mpr hmem)).2

theorem listsNumbered_inputs_iff (scene : Scene) (pull : Pull) (node : Nat) (s : Session) :
    scene.ListsNumbered pull node s (scene.HasInput node) ↔
      ∀ port n, Numbered port n → (scene.site node).isWired port = true →
        scene.HasProperty node port := by
  have hproperties := scene.listsNumbered_properties pull node s
  have himp : ∀ port, scene.HasProperty node port → scene.HasInput node port :=
    fun port hport => hasInput_iff_wired.mpr (.inr hport)
  constructor
  · intro hinputs port n hn hwired
    exact hproperties.of_imp hinputs himp hn (hasInput_iff_wired.mpr (.inl hwired))
  · intro hwired
    refine hproperties.congr fun port n hn => ⟨himp port, fun hinput => ?_⟩
    rcases hasInput_iff_wired.mp hinput with hport | hport
    · exact hwired port n hn hport
    · exact hport

/-- **Literal sources list their numbered properties**, and all their numbered inputs exactly if
each numbered port that is wired is a property too. For every session, and however inputs are found:
the values stand by ascending numbers, each is the input of the node at its port, which for a wired
port is that of its first edge, and `value` is the first of them. -/
theorem numbered_inputs_are_listed_iff (scene : Scene) (pull : Pull) (node : Nat) (s : Session) :
    scene.ListsNumbered pull node s (scene.HasProperty node) ∧
    (scene.ListsNumbered pull node s (scene.HasInput node) ↔
      ∀ port n, Numbered port n → (scene.site node).isWired port = true →
        scene.HasProperty node port) :=
  ⟨scene.listsNumbered_properties pull node s, scene.listsNumbered_inputs_iff pull node s⟩

theorem exists_edge_of_isWired {port : String} (h : (scene.site node).isWired port = true) :
    ∃ edge ∈ scene.engine.behavior.edges, edge.target.toNat = node ∧
      scene.engine.strings.indexOf? port = some edge.targetPort := by
  have hfeeds : scene.engine.feeds node port ≠ [] := by
    simpa [site] using h
  obtain ⟨edge, hedge⟩ := List.exists_mem_of_ne_nil _ hfeeds
  rw [Engine.feeds_eq_filter, List.mem_filter] at hedge
  simp only [Bool.and_eq_true, beq_iff_eq] at hedge
  obtain ⟨hmem, ⟨-, htarget⟩, hname⟩ := hedge
  exact ⟨edge, hmem, htarget, hname⟩

/-- A source of a sun, and two that the sun is wired into: the night has no place for it, and the
sky has. -/
def heavens : Engine where
  behavior := {
    strings := ⟨["source_literal", "value_1", "value_2", "value_10", "sun", "moon", "star", "value"]⟩
    nodeIds := ["day", "night", "sky"]
    nodes := [⟨0, ⟨[(1, .string 4)]⟩⟩, ⟨0, ⟨[(2, .string 5)]⟩⟩,
      ⟨0, ⟨[(3, .string 6), (2, .string 5), (1, .null)]⟩⟩]
    edges := [⟨0, 7, 1, 1⟩, ⟨0, 7, 2, 1⟩] }
  data := {}
  config := {}

/-- The sun is an input of the night, at the first of its numbered ports, and is not listed. -/
theorem wired_sun_is_missed :
    let scene : Scene := ⟨heavens, {}⟩
    let start := scene.after (.ofSeed 0) []
    (scene.evaluate 1 "values" start).1 = .list [.text "moon"] ∧
    (scene.evaluate 1 "value" start).1 = .text "moon" ∧
    (scene.perform 1 (Body.ask "value_1") start).1 = .text "sun" ∧
    Numbered "value_1" 1 ∧ scene.HasInput 1 "value_1" ∧
    ¬ scene.ListsNumbered scene.evaluate 1 start (scene.HasInput 1) := by
  intro scene start
  have hsun : Numbered "value_1" 1 := ⟨"1", rfl, by decide +kernel⟩
  have hwired : (scene.site 1).isWired "value_1" = true := by decide +kernel
  refine ⟨by with_unfolding_all rfl, by with_unfolding_all rfl, by with_unfolding_all rfl, hsun,
    hasInput_iff_wired.mpr (.inl hwired), fun hlisted => ?_⟩
  have hproperty := (listsNumbered_inputs_iff scene _ 1 start).mp hlisted "value_1" 1 hsun hwired
  exact absurd hproperty (by unfold HasProperty; decide +kernel)

/-- In the sky the port of the sun is a property, too: all inputs are listed, the sun first. -/
theorem sky_is_listed :
    let scene : Scene := ⟨heavens, {}⟩
    let start := scene.after (.ofSeed 0) []
    (scene.site 2).isWired "value_1" = true ∧
    scene.ListsNumbered scene.evaluate 2 start (scene.HasInput 2) ∧
    (scene.execute scene.evaluate 2 .sourceLiteral start).1 =
      literalOutputs [.text "sun", .text "moon", .text "star"] := by
  intro scene start
  have hnumbers : numberedNames (scene.engine.props 2).names =
      [(10, "value_10"), (2, "value_2"), (1, "value_1")] := by decide +kernel
  have hnames : literalNames (scene.engine.props 2).names = ["value_1", "value_2", "value_10"] := by
    show ((numberedNames (scene.engine.props 2).names).mergeSort fun a b => a.1 ≤ b.1).map (·.2) = _
    rw [hnumbers]
    simp [List.mergeSort]
  have hproperty : scene.HasProperty 2 "value_1" := by unfold HasProperty; decide +kernel
  refine ⟨by decide +kernel, ?_, ?_⟩
  · apply (numbered_inputs_are_listed_iff scene scene.evaluate 2 start).2.mpr
    intro port n _ hwired
    obtain ⟨edge, hedge, -, hname⟩ := exists_edge_of_isWired hwired
    -- Both edges lead into the port of the same name.
    have htarget : edge.targetPort = 1 := by
      rcases List.mem_pair.mp hedge with rfl | rfl <;> rfl
    have hport := StringTable.get?_of_indexOf? (by decide +kernel) (htarget ▸ hname)
    have hsun : scene.engine.strings.get? 1 = some "value_1" := by decide +kernel
    rw [hsun] at hport
    exact Option.some.inj hport ▸ hproperty
  · rw [execute_sourceLiteral, hnames]
    with_unfolding_all rfl

end Scene

end StoryGraph
