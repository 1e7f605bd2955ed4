import StoryGraph.Operator.Body
import StoryGraph.Value.Comparison

/-!
# Decisions

Operators that yield truth values, and operators that let a value through or not.
-/

namespace StoryGraph.Operator

def compare (site : Site) : Body Outputs := do
  let operator := (← site.askSetting "operator").getD "=="
  let a ← Body.ask "a"
  let b ← Body.ask "b"
  match Comparison.ofText? operator with
  | some comparison =>
    return .single "result" (.bool (comparison.holds (if a.isNull then none else some a) b))
  | none =>
    site.tell ("unknown operator " ++ Text.quoted operator)
    return .single "result" (.bool false)

def askTruth (port : String) : Body Bool := do
  return (← Body.ask port).isTrue

/-- The result of a logic operator on its left input. The right input is asked for only where it
can matter. -/
def applyLogic (site : Site) (operator : String) (a : Bool) : Body Bool :=
  match operator with
  | "not" => return !a
  | "and" => if a then askTruth "b" else return false
  | "or" => if a then return true else askTruth "b"
  | "xor" => return a != (← askTruth "b")
  | _ => do
    site.tell ("unknown logic operator " ++ Text.quoted operator)
    return false

def logic (site : Site) : Body Outputs := do
  let operator := (← site.askSetting "operator").getD "and"
  let a ← askTruth "a"
  return .single "result" (.bool (← applyLogic site operator a))

/-! ## Sets -/

/-- A relation between two sets of keys. -/
inductive SetRelation where
  | intersects
  | subset
  | disjoint
  | equal

namespace SetRelation

def ofSetting? : String → Option SetRelation
  | "any" | "intersects" => some intersects
  | "all" | "subset" => some subset
  | "none" | "disjoint" => some disjoint
  | "equal" | "equals" => some equal
  | _ => none

def holds (relation : SetRelation) (a b : List String) : Bool :=
  match relation with
  | intersects => a.any b.contains
  | subset => a.all b.contains
  | disjoint => !a.any b.contains
  | equal => a.all b.contains && b.all a.contains

end SetRelation

def setTest (site : Site) : Body Outputs := do
  let operator := (← site.askSetting "operator").getD "any"
  let subject ← Body.askItems "subject"
  let reference ← Body.askItems "reference"
  match SetRelation.ofSetting? operator with
  | some relation =>
    return .single "result"
      (.bool (relation.holds (subject.map Value.memberKey) (reference.map Value.memberKey)))
  | none =>
    site.tell ("unknown set operator " ++ Text.quoted operator)
    return .single "result" (.bool false)

/-! ## Gates -/

/-- Asks for one of two inputs only. -/
def switch : Body Outputs := do
  let condition ← askTruth "condition"
  return .single "result" (← Body.ask (if condition then "if_true" else "if_false"))

/-- Lets a value through by chance; otherwise the neutral value of its kind takes its place. -/
def probability : Body Outputs := do
  let chance ← Body.askNumber "chance" 0.5
  let value ← Body.ask "value"
  let passed := Binary64.compare (← Body.chance) chance == .lt
  return (Outputs.single "value" (if passed then value else value.neutral)).add "passed"
    (.bool passed)

end StoryGraph.Operator
