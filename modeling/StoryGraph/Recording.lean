import StoryGraph.Operator.Body

/-!
# Recording

What a run notes for its readers: the ranges that filters marked in the chat, the values of all
ports, and the nodes that produced something. Nothing of it is read by the run itself.

Main definitions: `MarkLog.slots`, `Trace`.
-/

namespace StoryGraph

/-! ## Marks -/

def rangeLt (a b : Nat × Nat) : Bool := a.1 < b.1 || (a.1 == b.1 && a.2 < b.2)

/-- Puts an item in its place among ascending items unless it is there. -/
def insertAscending {α : Type} (lt : α → α → Bool) (item : α) : List α → List α
  | [] => [item]
  | other :: rest =>
    if lt item other then item :: other :: rest
    else if lt other item then other :: insertAscending lt item rest
    else other :: rest

def ascending {α : Type} (lt : α → α → Bool) (items : List α) : List α :=
  items.foldl (fun sorted item => insertAscending lt item sorted) []

/-- All marks of a run, the latest first. Each holds at least one character. -/
structure MarkLog where
  marks : List Mark

namespace MarkLog

def empty : MarkLog := ⟨[]⟩

/-- Notes a mark unless it is empty. -/
def record (log : MarkLog) (mark : Mark) : MarkLog :=
  if mark.start < mark.stop then ⟨mark :: log.marks⟩ else log

def size (log : MarkLog) : Nat := log.marks.length

def rangesOf (marks : List Mark) (color : String) : List (Nat × Nat) :=
  ascending rangeLt ((marks.filter (·.color == color)).map fun mark => (mark.start, mark.stop))

def highlightsOf (log : MarkLog) (message : Nat) : List Highlight :=
  let marks := log.marks.filter (·.message == message)
  (ascending (fun a b => decide (a < b)) (marks.map (·.color))).map fun color =>
    ⟨color, rangesOf marks color⟩

/-- The highlights of each message of a chat, the latest message first. -/
def slots (log : MarkLog) (count : Nat) : List (List Highlight) :=
  (List.range count).reverse.map log.highlightsOf

end MarkLog

/-! ## Trace -/

structure Trace where
  /-- Whether values of ports are kept. -/
  keepsValues : Bool
  ports : PortValues := []
  /-- Ids of the nodes that produced something, in the order of their first execution. -/
  executed : List String := []

namespace Trace

def record (trace : Trace) (node port : String) (value : Value) : Trace :=
  if trace.keepsValues then
    { trace with ports := PortValues.update node (Fields.insert port value) trace.ports }
  else trace

def markExecuted (trace : Trace) (node : String) : Trace :=
  { trace with executed := addNew trace.executed node }

/-- Keeps what an operator gave; structural operators are not marked as executed. -/
def note (trace : Trace) (node : String) (structural : Bool) (outputs : Outputs) : Trace :=
  let trace := outputs.ports.foldl (fun trace (port, value) => trace.record node port value) trace
  if !structural && outputs.hasContent then trace.markExecuted node else trace

end Trace

end StoryGraph
