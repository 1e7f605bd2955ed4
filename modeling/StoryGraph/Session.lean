import StoryGraph.Chance
import StoryGraph.Engine
import StoryGraph.Operator.Kind
import StoryGraph.Recording

/-!
# Sessions

The evaluation of nodes on demand. A node runs when a value of it is asked for, and asks for
values of other nodes in turn. What it gave is kept, so it runs once. A node that is asked for a
value while it is still running closes a cycle: the cycle is reported and the value is null.

Calls nest no deeper than there are nodes, for every nested call is to a node that is not running
yet. So the number of nodes, and one more for the call that only looks up, bounds the depth.

Main definitions: `Session`, `Scene.evaluate`, `Scene.perform`, `Scene.collectRoot`.
-/

namespace StoryGraph

/-- Where the draws of a run begin: at the seed, or without one at what the system gives. -/
def Config.chance (config : Config) (entropy : Chance) : Chance :=
  config.seed.elim entropy .ofSeed

/-- What a root adds to the context. -/
structure Fragment where
  ids : List String
  texts : Character
deriving DecidableEq

/-- The state of one run. -/
structure Session where
  /-- What nodes gave that have run. -/
  memo : List (Nat × Outputs) := []
  /-- The nodes that are running, the innermost first. -/
  running : List Nat := []
  /-- The nodes at which cycles were reported. -/
  cycles : List Nat := []
  warnings : List String := []
  /-- How often the operators of nodes ran. -/
  executions : List (Nat × Nat) := []
  marks : MarkLog := .empty
  trace : Trace
  chance : Chance
  fragments : List Fragment := []

namespace Session

/-- A host that gives no entropy gets the draws of seed zero where the configuration has no seed. -/
def start (config : Config) (entropy : Chance := .ofSeed 0) : Session where
  trace := { keepsValues := config.recordTrace }
  chance := config.chance entropy

def warn (session : Session) (text : String) : Session :=
  { session with warnings := addNew session.warnings text }

/-- Reports a cycle, once for each node. -/
def reportCycle (session : Session) (node : Nat) (nodeId : String) : Session :=
  if session.cycles.contains node then session
  else
    { session with cycles := node :: session.cycles }.warn ("cycle detected at node " ++ nodeId)

def mark (session : Session) (mark : Mark) : Session :=
  { session with marks := session.marks.record mark }

def countUp (node : Nat) : List (Nat × Nat) → List (Nat × Nat)
  | [] => [(node, 1)]
  | (other, count) :: rest =>
    if other = node then (other, count + 1) :: rest else (other, count) :: countUp node rest

def enter (session : Session) (node : Nat) : Session :=
  { session with
    running := node :: session.running
    executions := countUp node session.executions }

def leave (session : Session) (node : Nat) (nodeId : String) (kind : OperatorKind)
    (outputs : Outputs) : Session :=
  { session with
    running := session.running.erase node
    trace := session.trace.note nodeId kind.isStructural outputs
    memo := (node, outputs) :: session.memo }

end Session

/-- An engine and the context that it runs on. -/
structure Scene where
  engine : Engine
  context : Context

namespace Scene

def site (scene : Scene) (node : Nat) : Site where
  nodeId := scene.engine.nodeId node
  label := scene.engine.label node
  propertyNames := (scene.engine.props node).names
  isWired port := !(scene.engine.feeds node port).isEmpty
  property? := scene.engine.property? node
  setting? := scene.engine.setting? node
  entries := scene.engine.entries
  chat := scene.context.messages
  character := scene.context.character
  activatedIds := scene.context.activatedIds
  config := scene.engine.config

/-! ## Inputs -/

/-- How the value of an output port is found. -/
abbrev Pull := Nat → String → StateM Session Value

/-- The value of an output port that is given by its name in the string table. -/
def pullPort (scene : Scene) (pull : Pull) (node : Nat) (port : Ref) : StateM Session Value :=
  match scene.engine.strings.get? port with
  | some name => pull node name
  | none => return .null

def pullEdge (scene : Scene) (pull : Pull) (edge : CompactEdge) : StateM Session Value :=
  scene.pullPort pull edge.source.toNat edge.sourcePort

def pullEdges (scene : Scene) (pull : Pull) : List CompactEdge → StateM Session (List Value)
  | [] => return []
  | edge :: rest => do
    let value ← scene.pullEdge pull edge
    let values ← pullEdges scene pull rest
    return value :: values

/-- The value of an input: of its first edge, or else of the property of the same name. -/
def resolve (scene : Scene) (pull : Pull) (node : Nat) (port : String) : StateM Session Value :=
  match scene.engine.feeds node port with
  | edge :: _ => scene.pullEdge pull edge
  | [] => return (scene.engine.property? node port).getD .null

/-- The values of all edges into a port, or else the property of the same name. -/
def resolveAll (scene : Scene) (pull : Pull) (node : Nat) (port : String) :
    StateM Session (List Value) :=
  match scene.engine.feeds node port with
  | [] => return (scene.engine.property? node port).toList
  | edges => scene.pullEdges pull edges

def performWith (scene : Scene) (pull : Pull) (node : Nat) {α : Type} :
    Body α → StateM Session α
  | .done result => return result
  | .input port next => do
    let value ← scene.resolve pull node port
    performWith scene pull node (next value)
  | .inputs port next => do
    let values ← scene.resolveAll pull node port
    performWith scene pull node (next values)
  | .warn text next => do
    modify (·.warn text)
    performWith scene pull node next
  | .mark mark next => do
    modify (·.mark mark)
    performWith scene pull node next
  | .draw next => do
    let (x, chance) := (← get).chance.draw
    modify ({ · with chance })
    performWith scene pull node (next x)

/-! ## Nodes -/

def noteMissing (scene : Scene) (node : Nat) (session : Session) : Session :=
  let type := (scene.engine.behavior.nodeType? node).getD "?"
  let session := session.warn
    ("no operator for type " ++ type ++ " at node " ++ scene.engine.nodeId node)
  { session with memo := (node, .empty) :: session.memo }

def execute (scene : Scene) (pull : Pull) (node : Nat) (kind : OperatorKind) :
    StateM Session Outputs := do
  modify (·.enter node)
  let outputs ← scene.performWith pull node (kind.body (scene.site node))
  modify (·.leave node (scene.engine.nodeId node) kind outputs)
  return outputs

/-- The value of a port of a node, with calls nested at most `depth` deep. -/
def evaluateWithin (scene : Scene) : (depth : Nat) → Pull
  | 0, _, _ => return .null
  | depth + 1, node, port => do
    if scene.engine.nodeCount ≤ node then return .null
    let session ← get
    if session.running.contains node then
      modify (·.reportCycle node (scene.engine.nodeId node))
      return .null
    match session.memo.lookup node with
    | some outputs => return outputs.select port
    | none =>
      match scene.engine.kind? node with
      | none =>
        modify (scene.noteMissing node)
        return .null
      | some kind =>
        let outputs ← scene.execute (scene.evaluateWithin depth) node kind
        return outputs.select port

/-- The value of a port of a node; null if there is no such node. -/
def evaluate (scene : Scene) : Pull := scene.evaluateWithin (scene.engine.nodeCount + 1)

def evaluatePort (scene : Scene) (node : Nat) (port : Ref) : StateM Session Value :=
  scene.pullPort scene.evaluate node port

/-- Does from outside what an operator could do at a node. -/
def perform (scene : Scene) (node : Nat) {α : Type} (body : Body α) : StateM Session α :=
  scene.performWith scene.evaluate node body

/-! ## Roots -/

/-- The non-empty ids among the outputs of a root, and its texts. -/
def fragmentOf (outputs : Outputs) : Fragment :=
  let text (field : TextField) : String := ((outputs.get? field.key).map Value.display).getD ""
  ⟨(((outputs.get? "ids").map Value.toItems).getD []).map Value.display |>.filter (!·.isEmpty),
    ⟨text .personality, text .scenario, text .exampleDialogs⟩⟩

def collectRootWith (pull : Pull) (root : Nat) : StateM Session Unit := do
  let _ ← pull root "entries"
  match (← get).memo.lookup root with
  | some outputs =>
    modify fun session =>
      { session with fragments := session.fragments ++ [fragmentOf outputs] }
  | none => return

def collectRootsWith (pull : Pull) : List Nat → StateM Session Unit
  | [] => return
  | root :: rest => do
    collectRootWith pull root
    collectRootsWith pull rest

def collectRoot (scene : Scene) (root : Nat) : StateM Session Unit :=
  collectRootWith scene.evaluate root

end Scene

end StoryGraph
