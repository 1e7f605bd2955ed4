import StoryGraph.Proofs.Exact
import StoryGraph.Proofs.Upheld

/-!
# Outputs have a shape

Each kind of operator has its output ports, and on each port values of one shape, whatever its
inputs are: lists, numbers, truth values, counts, texts. An operator that is set wrongly gives a
neutral value of the same shape, and arithmetic gives zero where it has no finite result.

Main definitions: `Shape.Has`, `OperatorKind.ports`, `OperatorKind.Shaped`.
-/

namespace StoryGraph

/-! ## Shapes -/

inductive Shape where
  | any
  | list
  /-- A list of texts. -/
  | texts
  /-- A number, or a list of numbers. -/
  | numeric
  | flag
  /-- An integer that is not negative. -/
  | count
  | text

inductive Shape.Has : Shape → Value → Prop where
  | any (value : Value) : Has .any value
  | list (items : List Value) : Has .list (.list items)
  | texts (ss : List String) : Has .texts (.list (ss.map .text))
  | number (n : Number) : Has .numeric (.number n)
  | numbers (ns : List Number) : Has .numeric (.list (ns.map .number))
  | flag (b : Bool) : Has .flag (.bool b)
  | count (n : Nat) : Has .count (.ofNat n)
  | text (s : String) : Has .text (.text s)

namespace OperatorKind

def rootPorts : List (String × Shape) :=
  [("ids", .texts), ("personality", .text), ("scenario", .text), ("example_dialogs", .text),
    ("entries", .list)]

def ports : OperatorKind → List (String × Shape)
  | sourceEntries => [("entries", .list)]
  | sourceMessages => [("messages", .list)]
  | sourceLiteral => [("values", .list), ("value", .any)]
  | sourceContext => [("value", .any)]
  | keywordFilter => [("entries", .list), ("unmatched", .list)]
  | messageFilter => [("matched_messages", .list), ("unmatched_messages", .list),
      ("matched_conditions", .list), ("unmatched_conditions", .list), ("matched", .flag)]
  | entryFilter => [("entries", .list), ("rejected", .list)]
  | adjacency => [("entries", .list), ("count", .count)]
  | math | mathUnary => [("result", .numeric)]
  | compare | logic | setTest => [("result", .flag)]
  | switch | remap => [("result", .any)]
  | probability => [("value", .any), ("passed", .flag)]
  | joinList | slice => [("list", .list)]
  | sort => [("sorted", .list), ("reversed", .list)]
  | getAttribute => [("values", .list)]
  | count => [("count", .count)]
  | textJoin | regexReplace => [("text", .text)]
  | regexMatch => [("matched", .flag), ("matches", .list)]
  | reroute => [("output", .any)]
  | outputEntries | outputContext => rootPorts

/-- Outputs are those of a kind of operator: they have its ports, each of them once, with values of
the shape that the port has. -/
structure Shaped (kind : OperatorKind) (outputs : Outputs) : Prop where
  ports : List.Forall₂ (fun port declared => port.1 = declared.1 ∧ declared.2.Has port.2)
    outputs.ports kind.ports
  once : (outputs.ports.map Prod.fst).Nodup

theorem ports_nodup (kind : OperatorKind) : (kind.ports.map Prod.fst).Nodup := by
  cases kind <;> decide

variable {kind : OperatorKind} {outputs : Outputs}

theorem shaped_of_ports (h : List.Forall₂
    (fun port declared => port.1 = declared.1 ∧ declared.2.Has port.2) outputs.ports kind.ports) :
    kind.Shaped outputs := by
  have hnames : outputs.ports.map Prod.fst = kind.ports.map Prod.fst := by
    rw [← List.forall₂_eq_eq_eq, List.forall₂_map_left_iff, List.forall₂_map_right_iff]
    exact h.imp fun _ _ => And.left
  exact ⟨h, hnames ▸ kind.ports_nodup⟩

end OperatorKind

namespace Operator

open Body

variable {site : Site} {kind : OperatorKind}

abbrev Shapes (kind : OperatorKind) (body : Body Outputs) : Prop :=
  body.Gives (fun _ => True) kind.Shaped

variable {port port' : String} {shape shape' : Shape} {value value' : Value}

theorem shapes_single (hports : kind.ports = [(port, shape)]) (h : shape.Has value) :
    Shapes kind (pure (.single port value)) := by
  apply gives_pure
  apply OperatorKind.shaped_of_ports
  rw [hports]
  exact .cons ⟨rfl, h⟩ .nil

theorem shapes_pair (hports : kind.ports = [(port, shape), (port', shape')]) (h : shape.Has value)
    (h' : shape'.Has value') :
    Shapes kind (pure ((Outputs.single port value).add port' value')) := by
  apply gives_pure
  apply OperatorKind.shaped_of_ports
  rw [hports]
  exact .cons ⟨rfl, h⟩ (.cons ⟨rfl, h'⟩ .nil)

/-! ## Sources and selection -/

theorem sourceLiteral_shapes : Shapes .sourceLiteral (sourceLiteral site) :=
  gives_after _ fun _ => shapes_pair rfl (.list _) (.any _)

theorem sourceContext_shapes : Shapes .sourceContext (sourceContext site) := by
  refine gives_after _ fun field => ?_
  dsimp only
  split
  · exact shapes_single rfl (.any _)
  · exact gives_after _ fun _ => shapes_single rfl (.any _)

theorem keywordFilter_shapes : Shapes .keywordFilter (keywordFilter site) := by
  refine gives_after _ fun entries => gives_after _ fun messages => gives_after _ fun settings => ?_
  refine gives_after _ fun name => gives_after _ fun _ => ?_
  exact shapes_pair rfl (.list _) (.list _)

theorem messageFilter_shapes : Shapes .messageFilter (messageFilter site) := by
  refine gives_after _ fun messages => gives_after _ fun conditions => ?_
  refine gives_after _ fun useRegex => gives_after _ fun settings => ?_
  refine gives_after _ fun patterns => gives_after _ fun _ => gives_pure ?_
  apply OperatorKind.shaped_of_ports
  exact .cons ⟨rfl, .list _⟩ (.cons ⟨rfl, .list _⟩ (.cons ⟨rfl, .list _⟩
    (.cons ⟨rfl, .list _⟩ (.cons ⟨rfl, .flag _⟩ .nil))))

theorem entryFilter_shapes : Shapes .entryFilter (entryFilter site) := by
  refine gives_after _ fun entries => gives_after _ fun name => gives_after _ fun operator => ?_
  refine gives_after _ fun candidates => gives_after _ fun mode => ?_
  dsimp only
  split
  · exact shapes_pair rfl (.list _) (.list _)
  · exact gives_after _ fun _ => shapes_pair rfl (.list _) (.list _)

theorem adjacency_shapes : Shapes .adjacency (adjacency site) := by
  refine gives_after _ fun starts => ?_
  have hrest : ∀ pool, Shapes .adjacency (do
      let distance ← askCount "distance" 1
      let found := entriesAtDistance pool starts distance
      return (Outputs.single "entries" (.list found)).add "count" (.ofNat found.length)) :=
    fun pool => gives_after _ fun distance => shapes_pair rfl (.list _) (.count _)
  dsimp only
  split
  · exact gives_after _ hrest
  · exact gives_after _ hrest

/-! ## Arithmetic -/

theorem finiteOrZero_finite (x : Float) : Binary64.isFinite (finiteOrZero x) = true := by
  unfold finiteOrZero
  split
  · assumption
  · decide +kernel

theorem BinaryOperation.apply_number (operation : BinaryOperation) (x y : Float) :
    ∃ n, Value.ofFloat (operation.apply x y) = .number n :=
  Value.ofFloat_number (finiteOrZero_finite _)

theorem UnaryOperation.apply_number (operation : UnaryOperation) (x : Float) :
    ∃ n, Value.ofFloat (operation.apply x) = .number n :=
  Value.ofFloat_number (finiteOrZero_finite _)

theorem numeric_of_number (h : ∃ n, value = .number n) : Shape.numeric.Has value := by
  obtain ⟨n, rfl⟩ := h
  exact .number n

theorem numeric_of_numbers {items : List Value} (h : ∀ item ∈ items, ∃ n, item = .number n) :
    Shape.numeric.Has (.list items) := by
  obtain ⟨ns, rfl⟩ : ∃ ns : List Number, items = ns.map .number := by
    induction items with
    | nil => exact ⟨[], rfl⟩
    | cons item rest ih =>
        obtain ⟨⟨n, rfl⟩, hrest⟩ := List.forall_mem_cons.mp h
        obtain ⟨ns, rfl⟩ := ih hrest
        exact ⟨n :: ns, rfl⟩
  exact .numbers ns

theorem itemwise_numeric {f : Value → Value → Value} (h : ∀ a b, ∃ n, f a b = .number n)
    (a b : Value) : Shape.numeric.Has (itemwise f a b) := by
  unfold itemwise
  split
  · rw [← List.map_uncurry_zip_eq_zipWith]
    exact numeric_of_numbers (List.forall_mem_map.mpr fun _ _ => h _ _)
  · exact numeric_of_numbers (List.forall_mem_map.mpr fun _ _ => h _ _)
  · exact numeric_of_numbers (List.forall_mem_map.mpr fun _ _ => h _ _)
  · exact numeric_of_number (h _ _)

theorem unknownOperation_shapes (hports : kind.ports = [("result", .numeric)]) (name : String) :
    Shapes kind (unknownOperation site name) :=
  gives_after _ fun _ => shapes_single hports (.number _)

theorem math_shapes : Shapes .math (math site) := by
  refine gives_after _ fun name => ?_
  split
  · exact unknownOperation_shapes rfl name
  · rename_i operation _
    refine gives_after _ fun a => gives_after _ fun b => shapes_single rfl ?_
    exact itemwise_numeric (fun _ _ => operation.apply_number _ _) a b

theorem mathUnary_shapes : Shapes .mathUnary (mathUnary site) := by
  refine gives_after _ fun name => ?_
  split
  · exact unknownOperation_shapes rfl name
  · rename_i operation _
    refine gives_after _ fun value => shapes_single rfl ?_
    split
    · exact numeric_of_numbers (List.forall_mem_map.mpr fun _ _ => operation.apply_number _)
    · exact numeric_of_number (operation.apply_number _)

/-! ## Decisions -/

theorem compare_shapes : Shapes .compare (compare site) := by
  refine gives_after _ fun operator => gives_after _ fun a => gives_after _ fun b => ?_
  split
  · exact shapes_single rfl (.flag _)
  · exact gives_after _ fun _ => shapes_single rfl (.flag _)

theorem logic_shapes : Shapes .logic (logic site) :=
  gives_after _ fun _ => gives_after _ fun _ => gives_after _ fun _ => shapes_single rfl (.flag _)

theorem setTest_shapes : Shapes .setTest (setTest site) := by
  refine gives_after _ fun operator => gives_after _ fun subject => ?_
  refine gives_after _ fun reference => ?_
  split
  · exact shapes_single rfl (.flag _)
  · exact gives_after _ fun _ => shapes_single rfl (.flag _)

theorem switch_shapes : Shapes .switch switch :=
  gives_after _ fun _ => gives_after _ fun _ => shapes_single rfl (.any _)

theorem probability_shapes : Shapes .probability probability :=
  gives_after _ fun _ => gives_after _ fun _ => gives_after _ fun _ =>
    shapes_pair rfl (.any _) (.flag _)

/-! ## Lists, texts and roots -/

theorem joinList_shapes : Shapes .joinList (joinList site) :=
  gives_after _ fun _ => gives_after _ fun _ => gives_after _ fun _ => shapes_single rfl (.list _)

theorem remap_shapes : Shapes .remap remap :=
  gives_after _ fun _ => gives_after _ fun _ => gives_after _ fun _ => shapes_single rfl (.any _)

theorem sort_shapes : Shapes .sort Operator.sort :=
  gives_after _ fun _ => gives_after _ fun _ => shapes_pair rfl (.list _) (.list _)

theorem slice_shapes : Shapes .slice slice :=
  gives_after _ fun _ => gives_after _ fun _ => gives_after _ fun _ => gives_after _ fun _ =>
    shapes_single rfl (.list _)

theorem getAttribute_shapes : Shapes .getAttribute getAttribute :=
  gives_after _ fun _ => gives_after _ fun _ => shapes_single rfl (.list _)

theorem textJoin_shapes : Shapes .textJoin textJoin :=
  gives_after _ fun _ => gives_after _ fun _ => shapes_single rfl (.text _)

theorem regexMatch_shapes : Shapes .regexMatch (regexMatch site) :=
  gives_after _ fun _ => gives_after _ fun _ => shapes_pair rfl (.flag _) (.list _)

theorem regexReplace_shapes : Shapes .regexReplace (regexReplace site) :=
  gives_after _ fun _ => gives_after _ fun _ => gives_after _ fun _ => shapes_single rfl (.text _)

theorem rootOutputs_shaped (hports : kind.ports = OperatorKind.rootPorts) (ids : List String)
    (text : TextField → String) (entries : List Value) :
    kind.Shaped (rootOutputs ids text entries) := by
  apply OperatorKind.shaped_of_ports
  rw [hports]
  exact .cons ⟨rfl, .texts ids⟩ (.cons ⟨rfl, .text _⟩ (.cons ⟨rfl, .text _⟩
    (.cons ⟨rfl, .text _⟩ (.cons ⟨rfl, .list entries⟩ .nil))))

/-- **Every operator gives outputs of its kind**, whatever values it gets. -/
theorem body_shapes (kind : OperatorKind) : Shapes kind (kind.body site) := by
  cases kind with
  | sourceEntries => exact shapes_single rfl (.list _)
  | sourceMessages => exact shapes_single rfl (.list _)
  | sourceLiteral => exact sourceLiteral_shapes
  | sourceContext => exact sourceContext_shapes
  | keywordFilter => exact keywordFilter_shapes
  | messageFilter => exact messageFilter_shapes
  | entryFilter => exact entryFilter_shapes
  | adjacency => exact adjacency_shapes
  | math => exact math_shapes
  | mathUnary => exact mathUnary_shapes
  | compare => exact compare_shapes
  | logic => exact logic_shapes
  | setTest => exact setTest_shapes
  | switch => exact switch_shapes
  | probability => exact probability_shapes
  | joinList => exact joinList_shapes
  | remap => exact remap_shapes
  | sort => exact sort_shapes
  | slice => exact slice_shapes
  | getAttribute => exact getAttribute_shapes
  | count => exact gives_after _ fun _ => shapes_single rfl (.count _)
  | textJoin => exact textJoin_shapes
  | regexMatch => exact regexMatch_shapes
  | regexReplace => exact regexReplace_shapes
  | reroute => exact gives_after _ fun _ => shapes_single rfl (.any _)
  | outputEntries => exact gives_after _ fun _ => gives_pure (rootOutputs_shaped rfl _ _ _)
  | outputContext =>
      exact gives_after _ fun _ => gives_after _ fun _ => gives_after _ fun _ =>
        gives_pure (rootOutputs_shaped rfl _ _ _)

end Operator

/-! ## Nodes -/

namespace Scene

open Session

variable {scene : Scene} {node : Nat} {kind : OperatorKind}

def NodeShaped (scene : Scene) (node : Nat) (outputs : Outputs) : Prop :=
  ∀ kind, scene.engine.kind? node = some kind → kind.Shaped outputs

theorem upholds_shapes (scene : Scene) : scene.Upholds (fun _ => True) scene.NodeShaped where
  null := trivial
  property _ := trivial
  body {node kind} hkind := (Operator.body_shapes kind).mono fun outputs hshaped other hother => by
    rw [hkind] at hother
    exact Option.some.inj hother ▸ hshaped
  missing hnone _ hkind := by
    rw [hnone] at hkind
    exact nomatch hkind
  ports _ _ _ := trivial

/-- What comes out of a body that ensures something, however its inputs are found. -/
theorem performWith_ensures (pull : Pull) {α : Type} {Q : α → Prop} {body : Body α}
    (h : body.Gives (fun _ => True) Q) (s : Session) :
    Q (scene.performWith pull node body s).1 := by
  have hrobust : Robust fun _ => True :=
    ⟨fun _ _ => trivial, fun _ _ => trivial, fun _ _ => trivial⟩
  have hkeep : PullKeeps pull fun _ => True := fun _ _ _ _ => trivial
  exact performWith_gives scene.upholds_shapes hrobust hkeep (fun _ _ _ _ => trivial) body h.ensures
    trivial

/-- **A node that runs gives outputs of its kind**, however its inputs are found and whatever the
session is. -/
theorem execute_shaped (scene : Scene) (pull : Pull) (node : Nat) (kind : OperatorKind)
    (s : Session) : kind.Shaped (scene.execute pull node kind s).1 :=
  performWith_ensures pull (Operator.body_shapes kind) (s.enter node)

/-- **Outputs have their shape.** Whenever a node with an operator runs, from any session and
however its inputs are found, it gives each port of its kind once, with a value of the shape of the
port. So between calls a node that is asked for a value always has such outputs, and gives the value
from them. -/
theorem outputs_have_their_shape (scene : Scene) (chance : Chance) (calls : List Call) {node : Nat}
    {kind : OperatorKind} (hkind : scene.engine.kind? node = some kind) (port : String) :
    (∀ (pull : Pull) (s : Session), kind.Shaped (scene.execute pull node kind s).1) ∧
      ∃ outputs, kind.Shaped outputs ∧
        (scene.evaluate node port (scene.after chance calls)).2.memo.lookup node = some outputs ∧
        (scene.evaluate node port (scene.after chance calls)).1 = outputs.select port := by
  refine ⟨fun pull s => execute_shaped scene pull node kind s, ?_⟩
  have hholds : (scene.after chance calls).Holds scene.NodeShaped :=
    after_holds scene.upholds_shapes chance calls
  have hidle : node ∉ (scene.after chance calls).running := by
    rw [(scene.after_sound chance calls).2]
    exact List.not_mem_nil
  refine evaluateWithin_elim (motive := fun r => ∃ outputs, kind.Shaped outputs ∧
    r.2.memo.lookup node = some outputs ∧ r.1 = outputs.select port) _ ?_ ?_ ?_ ?_ ?_
  · intro hout
    exact absurd (Engine.kind?_lt hkind) (Nat.not_lt.mpr hout)
  · intro _ hrun
    exact absurd hrun hidle
  · intro outputs _ _ hmemo
    exact ⟨outputs, hholds node outputs hmemo kind hkind, hmemo, rfl⟩
  · intro _ _ _ hnone
    rw [hkind] at hnone
    exact nomatch hnone
  · intro other hruns
    have hother : other = kind := Option.some.inj (hruns.kind_eq.symm.trans hkind)
    subst hother
    refine ⟨_, execute_shaped scene _ node other _, ?_, rfl⟩
    rw [execute_eq]
    show List.lookup node ((node, _) :: _) = some _
    rw [lookup_memo_cons, if_pos rfl]

/-- A quotient that is its own divisor: by the cycle it divides by null, which counts as zero. -/
def ownDivisor : Engine where
  behavior := {
    strings := ⟨["math", "operator", "divide", "a", "b", "result", "six"]⟩
    nodeIds := ["ratio"]
    nodes := [⟨0, ⟨[(1, .string 2), (3, .list [.string 6, .null, .list []])]⟩⟩]
    edges := [⟨0, 5, 0, 4⟩] }
  data := {}
  config := {}

/-- The quotient is zero for every item, whether it is a number or not. -/
theorem ownDivisor_numeric :
    let scene : Scene := ⟨ownDivisor, {}⟩
    scene.engine.kind? 0 = some .math ∧
      (∃ outputs, OperatorKind.math.Shaped outputs ∧
        (scene.evaluate 0 "result" (scene.after (.ofSeed 7) [])).2.memo.lookup 0 = some outputs ∧
        (scene.evaluate 0 "result" (scene.after (.ofSeed 7) [])).1 = outputs.select "result") ∧
      Json.print (scene.evaluate 0 "result" (scene.after (.ofSeed 7) [])).1 = "[0,0,0]" := by
  intro scene
  have hkind : scene.engine.kind? 0 = some .math := by decide +kernel
  exact ⟨hkind, (outputs_have_their_shape scene (.ofSeed 7) [] hkind "result").2,
    by decide +kernel⟩

end Scene

end StoryGraph
