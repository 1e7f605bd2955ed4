import Mathlib.Logic.Relation
import StoryGraph.Proofs.Depth
import StoryGraph.Proofs.Steady

/-!
# Evaluation without memory

The plain way to find the value of a port is to run the operators up the edges, anew for each use,
with nothing kept and nothing guarded. At nodes that no cycle leads to it ends, for the nodes that
it goes through are distinct, and it has one result, however far it is allowed to go. Unless a draw
is met on the way, the result depends on the documents and the context alone.

Main definitions: `Scene.plain?`, `Engine.Plain`, `Scene.Yields`.
-/

namespace StoryGraph

open Relation

/-! ## The plain way -/

namespace Body

variable {α : Type}

/-- The result of a body when its inputs are known. There is none if an input has no value or if
the body draws. -/
def plain? (input? : String → Option Value) (inputs? : String → Option (List Value)) :
    Body α → Option α
  | .done result => some result
  | .input port next => (input? port).bind fun value => (next value).plain? input? inputs?
  | .inputs port next => (inputs? port).bind fun values => (next values).plain? input? inputs?
  | .warn _ next => next.plain? input? inputs?
  | .mark _ next => next.plain? input? inputs?
  | .draw _ => none

variable {input? input?' : String → Option Value} {inputs? inputs?' : String → Option (List Value)}

theorem plain?_mono (hinput : ∀ port value, input? port = some value → input?' port = some value)
    (hinputs : ∀ port values, inputs? port = some values → inputs?' port = some values)
    {body : Body α} {result : α} :
    body.plain? input? inputs? = some result → body.plain? input?' inputs?' = some result := by
  induction body with
  | done r => exact fun h => h
  | input port next ih =>
      intro h
      obtain ⟨value, hvalue, hnext⟩ := Option.bind_eq_some_iff.mp h
      exact Option.bind_eq_some_iff.mpr ⟨value, hinput port value hvalue, ih value hnext⟩
  | inputs port next ih =>
      intro h
      obtain ⟨values, hvalues, hnext⟩ := Option.bind_eq_some_iff.mp h
      exact Option.bind_eq_some_iff.mpr ⟨values, hinputs port values hvalues, ih values hnext⟩
  | warn text next ih => exact ih
  | mark m next ih => exact ih
  | draw next ih => exact fun h => absurd h (by simp [plain?])

theorem plain?_isSome (hinput : ∀ port, (input? port).isSome)
    (hinputs : ∀ port, (inputs? port).isSome) {body : Body α}
    (steady : body.Ensures (fun _ => True) False (fun _ => True)) :
    (body.plain? input? inputs?).isSome := by
  induction body with
  | done r => rfl
  | input port next ih =>
      obtain ⟨value, hvalue⟩ := Option.isSome_iff_exists.mp (hinput port)
      rw [plain?, hvalue]
      exact ih value (steady value trivial)
  | inputs port next ih =>
      obtain ⟨values, hvalues⟩ := Option.isSome_iff_exists.mp (hinputs port)
      rw [plain?, hvalues]
      exact ih values (steady values fun _ _ => trivial)
  | warn text next ih => exact ih steady
  | mark m next ih => exact ih steady
  | draw next ih => exact absurd steady.1 id

end Body

namespace Scene

/-- The value that an edge carries, when the outputs of nodes are known. -/
def plainEdge? (scene : Scene) (outputs? : Nat → Option Outputs) (edge : CompactEdge) :
    Option Value :=
  match scene.engine.strings.get? edge.sourcePort with
  | some name => (outputs? edge.source.toNat).map (·.select name)
  | none => some .null

/-- The value of an input: of its first edge, or else of the property of the same name. -/
def plainInput? (scene : Scene) (outputs? : Nat → Option Outputs) (node : Nat) (port : String) :
    Option Value :=
  match scene.engine.feeds node port with
  | edge :: _ => scene.plainEdge? outputs? edge
  | [] => some ((scene.engine.property? node port).getD .null)

/-- The values of all edges into a port, or else the property of the same name. -/
def plainInputs? (scene : Scene) (outputs? : Nat → Option Outputs) (node : Nat) (port : String) :
    Option (List Value) :=
  match scene.engine.feeds node port with
  | [] => some (scene.engine.property? node port).toList
  | edges => edges.mapM (scene.plainEdge? outputs?)

/-- What a node gives by plain recursion up the edges, at most `depth` nodes far. There is nothing
if the recursion goes farther, or if it meets a draw. -/
def plainOutputs? (scene : Scene) : (depth : Nat) → Nat → Option Outputs
  | 0, _ => none
  | depth + 1, node =>
    match scene.engine.kind? node with
    | none => some .empty
    | some kind =>
      (kind.body (scene.site node)).plain? (scene.plainInput? (scene.plainOutputs? depth) node)
        (scene.plainInputs? (scene.plainOutputs? depth) node)

def plain? (scene : Scene) (depth node : Nat) (port : String) : Option Value :=
  (scene.plainOutputs? depth node).map (·.select port)

end Scene

/-! ## Nodes that no cycle leads to -/

namespace Engine

variable {engine : Engine} {node source : Nat}

/-- An edge with both ends in range leads from the one node to the other. -/
def Leads (engine : Engine) (source target : Nat) : Prop :=
  ∃ edge ∈ engine.behavior.edges, engine.behavior.inRange edge = true ∧
    edge.source.toNat = source ∧ edge.target.toNat = target

theorem feeds_leads {port : String} {edge : CompactEdge} (h : edge ∈ engine.feeds node port) :
    engine.Leads edge.source.toNat node := by
  unfold feeds at h
  cases hname : engine.strings.indexOf? port with
  | none =>
      rw [hname] at h
      exact absurd h List.not_mem_nil
  | some name =>
      rw [hname] at h
      obtain ⟨hmem, hedge⟩ := List.mem_filter.mp h
      simp only [Bool.and_eq_true, beq_iff_eq] at hedge
      exact ⟨edge, hmem, hedge.1.1, rfl, hedge.1.2⟩

/-- Among the node and all nodes that lead to it there is no cycle and no chance gate. -/
structure Plain (engine : Engine) (node : Nat) : Prop where
  acyclic : ∀ m, ReflTransGen engine.Leads m node → ¬TransGen engine.Leads m m
  steady : ∀ m, ReflTransGen engine.Leads m node → engine.kind? m ≠ some .probability

theorem Plain.of_leads (h : engine.Plain node) (hleads : engine.Leads source node) :
    engine.Plain source where
  acyclic m hm := h.acyclic m (hm.tail hleads)
  steady m hm := h.steady m (hm.tail hleads)

/-- Nodes are plain if with each the nodes that lead to it are among them, numbers grow along the
edges between them, and none of them is a chance gate. -/
theorem plain_of_rank (up : Nat → Prop) (rank : Nat → Nat)
    (hedge : ∀ edge ∈ engine.behavior.edges, engine.behavior.inRange edge = true →
      up edge.target.toNat → up edge.source.toNat ∧ rank edge.source.toNat < rank edge.target.toNat)
    (hkind : ∀ m, up m → engine.kind? m ≠ some .probability) (hnode : up node) :
    engine.Plain node := by
  have hleads : ∀ {a b}, engine.Leads a b → up b → up a ∧ rank a < rank b := by
    rintro a b ⟨edge, hmem, hrange, rfl, rfl⟩ hb
    exact hedge edge hmem hrange hb
  have hup : ∀ m, ReflTransGen engine.Leads m node → up m := by
    intro m hm
    induction hm using ReflTransGen.head_induction_on with
    | refl => exact hnode
    | head hstep _ ih => exact (hleads hstep ih).1
  have hgrow : ∀ {a b}, TransGen engine.Leads a b → up b → up a ∧ rank a < rank b := by
    intro a b hab
    induction hab with
    | single hstep => exact hleads hstep
    | tail _ hstep ih =>
        intro hc
        obtain ⟨hb, hlast⟩ := hleads hstep hc
        exact ⟨(ih hb).1, Nat.lt_trans (ih hb).2 hlast⟩
  exact ⟨fun m hm hcycle => absurd (hgrow hcycle (hup m hm)).2 (Nat.lt_irrefl _),
    fun m hm => hkind m (hup m hm)⟩

/-- Distinct nodes of the document that a node leads to. The nodes at work are such a chain for the
node that is asked for. -/
structure Chain (engine : Engine) (node : Nat) (chain : List Nat) : Prop
    extends engine.Distinct chain where
  leads : ∀ m ∈ chain, TransGen engine.Leads node m

variable {chain : List Nat}

theorem chain_nil (node : Nat) : engine.Chain node [] :=
  ⟨distinct_nil, fun _ h => absurd h List.not_mem_nil⟩

/-- A chain grows by the node itself when a node that leads to it is asked for. -/
theorem Chain.cons (h : engine.Chain node chain) (hnode : node < engine.nodeCount)
    (hnew : node ∉ chain) (hleads : engine.Leads source node) :
    engine.Chain source (node :: chain) where
  toDistinct := h.toDistinct.cons hnode hnew
  leads m hm := by
    rcases List.mem_cons.mp hm with rfl | hm
    · exact .single hleads
    · exact .head hleads (h.leads m hm)

theorem Plain.not_mem (h : engine.Plain node) (hchain : engine.Chain node chain) : node ∉ chain :=
  fun hmem => h.acyclic node .refl (hchain.leads node hmem)

end Engine

namespace Scene

variable {scene : Scene} {node : Nat} {outputs? outputs?' : Nat → Option Outputs}

/-! ## The plain way has one result -/

theorem plainEdge?_mono
    (h : ∀ m outputs, outputs? m = some outputs → outputs?' m = some outputs)
    (edge : CompactEdge) (value : Value) :
    scene.plainEdge? outputs? edge = some value → scene.plainEdge? outputs?' edge = some value := by
  unfold plainEdge?
  cases scene.engine.strings.get? edge.sourcePort with
  | none => exact fun heq => heq
  | some name =>
      intro heq
      obtain ⟨outputs, houtputs, hvalue⟩ := Option.map_eq_some_iff.mp heq
      exact Option.map_eq_some_iff.mpr ⟨outputs, h _ outputs houtputs, hvalue⟩

theorem mapM_mono {f g : CompactEdge → Option Value} {edges : List CompactEdge}
    (h : ∀ edge ∈ edges, ∀ value, f edge = some value → g edge = some value) :
    ∀ {values : List Value}, edges.mapM f = some values → edges.mapM g = some values := by
  induction edges with
  | nil => exact fun heq => heq
  | cons edge rest ih =>
      intro values heq
      simp only [List.mapM_cons, Option.bind_eq_bind, Option.bind_eq_some_iff] at heq ⊢
      obtain ⟨value, hvalue, others, hothers, hsum⟩ := heq
      exact ⟨value, h edge List.mem_cons_self value hvalue, others,
        ih (fun e he => h e (List.mem_cons_of_mem _ he)) hothers, hsum⟩

theorem plainOutputs?_succ (depth : Nat) : ∀ node outputs,
    scene.plainOutputs? depth node = some outputs →
      scene.plainOutputs? (depth + 1) node = some outputs := by
  induction depth with
  | zero => exact fun _ _ h => absurd h (by simp [plainOutputs?])
  | succ depth ih =>
      intro node outputs
      rw [plainOutputs?, plainOutputs?]
      cases scene.engine.kind? node with
      | none => exact fun h => h
      | some kind =>
          refine Body.plain?_mono ?_ ?_
          · intro port value
            unfold plainInput?
            cases scene.engine.feeds node port with
            | nil => exact fun h => h
            | cons edge rest => exact plainEdge?_mono ih edge value
          · intro port values
            unfold plainInputs?
            cases scene.engine.feeds node port with
            | nil => exact fun h => h
            | cons edge rest => exact mapM_mono fun e _ => plainEdge?_mono ih e

theorem plainOutputs?_mono {depth more : Nat} (hle : depth ≤ more) {outputs : Outputs}
    (h : scene.plainOutputs? depth node = some outputs) :
    scene.plainOutputs? more node = some outputs := by
  induction hle with
  | refl => exact h
  | step _ ih => exact plainOutputs?_succ _ node outputs ih

def Yields (scene : Scene) (node : Nat) (outputs : Outputs) : Prop :=
  ∃ depth, scene.plainOutputs? depth node = some outputs

theorem Yields.unique {outputs outputs' : Outputs} (h : scene.Yields node outputs)
    (h' : scene.Yields node outputs') : outputs = outputs' := by
  obtain ⟨depth, hdepth⟩ := h
  obtain ⟨depth', hdepth'⟩ := h'
  have hmax := plainOutputs?_mono (Nat.le_max_left depth depth') hdepth
  rw [plainOutputs?_mono (Nat.le_max_right depth depth') hdepth'] at hmax
  exact (Option.some.inj hmax).symm

theorem yields_empty (hkind : scene.engine.kind? node = none) : scene.Yields node .empty :=
  ⟨1, by rw [plainOutputs?, hkind]⟩

/-! ## The plain way ends -/

theorem mapM_isSome {f : CompactEdge → Option Value} {edges : List CompactEdge}
    (h : ∀ edge ∈ edges, (f edge).isSome) : (edges.mapM f).isSome := by
  induction edges with
  | nil => rfl
  | cons edge rest ih =>
      obtain ⟨value, hvalue⟩ := Option.isSome_iff_exists.mp (h edge List.mem_cons_self)
      obtain ⟨values, hvalues⟩ := Option.isSome_iff_exists.mp
        (ih fun e he => h e (List.mem_cons_of_mem _ he))
      simp [List.mapM_cons, hvalue, hvalues]

theorem plainEdge?_isSome {edge : CompactEdge} (h : (outputs? edge.source.toNat).isSome) :
    (scene.plainEdge? outputs? edge).isSome := by
  unfold plainEdge?
  cases scene.engine.strings.get? edge.sourcePort with
  | none => rfl
  | some name =>
      obtain ⟨outputs, houtputs⟩ := Option.isSome_iff_exists.mp h
      simp [houtputs]

/-- **Plain recursion ends at a plain node.** The nodes that it went through are distinct, for each
leads to the next, so it goes no farther than there are nodes. -/
theorem plainOutputs?_isSome (depth : Nat) : ∀ (node : Nat) (chain : List Nat),
    scene.engine.Plain node → scene.engine.Chain node chain →
    scene.engine.nodeCount < depth + chain.length → (scene.plainOutputs? depth node).isSome := by
  induction depth with
  | zero =>
      intro node chain _ hchain hfuel
      have := hchain.length_le
      omega
  | succ depth ih =>
      intro node chain hplain hchain hfuel
      rw [plainOutputs?]
      cases hkind : scene.engine.kind? node with
      | none => rfl
      | some kind =>
          have hsteady : kind ≠ .probability := fun h => hplain.steady node .refl (h ▸ hkind)
          -- The chain grows by this node, which pays for the level that is gone.
          have hedge : ∀ port, ∀ edge ∈ scene.engine.feeds node port,
              (scene.plainEdge? (scene.plainOutputs? depth) edge).isSome := by
            intro port edge hmem
            have hleads := Engine.feeds_leads hmem
            have hlonger := hchain.cons (Engine.kind?_lt hkind) (hplain.not_mem hchain) hleads
            refine plainEdge?_isSome (ih _ _ (hplain.of_leads hleads) hlonger ?_)
            rw [List.length_cons]
            omega
          refine Body.plain?_isSome ?_ ?_ (Operator.steady_body kind _ hsteady).ensures
          · intro port
            unfold plainInput?
            cases hfeeds : scene.engine.feeds node port with
            | nil => rfl
            | cons edge rest => exact hedge port edge (hfeeds ▸ List.mem_cons_self)
          · intro port
            unfold plainInputs?
            cases hfeeds : scene.engine.feeds node port with
            | nil => rfl
            | cons edge rest => exact mapM_isSome fun e he => hedge port e (hfeeds ▸ he)

end Scene

end StoryGraph
