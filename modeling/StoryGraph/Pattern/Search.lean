import StoryGraph.Pattern.Program
import StoryGraph.Pattern.Parser
import Std.Data.HashSet

/-!
# Searching

The leftmost match of a program, and among those the preferred one. Threads wait on a stack in
the order of preference, and no place of program and text is visited twice: a thread that came to
the place earlier was preferred, and what it did not find there is not to be found.

Main definitions: `Program.search`, `Program.findAll`.
-/

namespace StoryGraph.Pattern

/-- Positions by slot, the latest first. -/
abbrev Slots := List (Nat × Nat)

/-- A run of a program: where it began, where it stands, and what it noted. -/
structure Thread where
  start : Nat
  state : Nat
  position : Nat
  slots : Slots

/-- A match from a position up to another, with the positions noted for captures. -/
structure Match where
  start : Nat
  stop : Nat
  slots : Slots

namespace Match

def isEmpty (found : Match) : Bool := found.start == found.stop

/-- The range of a capture; number zero is the whole match. -/
def range? (found : Match) (index : Nat) : Option (Nat × Nat) :=
  if index = 0 then some (found.start, found.stop)
  else do some (← found.slots.lookup (2 * index), ← found.slots.lookup (2 * index + 1))

end Match

def between (text : Array Char) (start stop : Nat) : String :=
  String.ofList (text.extract start stop).toList

namespace Program

/-- The threads that go on from a thread, the preferred one first. -/
def successors (program : Program) (text : Array Char) (thread : Thread) : List Thread :=
  match program.instrs[thread.state]? with
  | some (.chars members next) =>
    match text[thread.position]? with
    | some c =>
      if members.contains c then
        [{ thread with state := next, position := thread.position + 1 }]
      else []
    | none => []
  | some (.look condition next) =>
    let before := if thread.position = 0 then none else text[thread.position - 1]?
    if condition.holds before text[thread.position]? then [{ thread with state := next }] else []
  | some (.split preferred other) =>
    [{ thread with state := preferred }, { thread with state := other }]
  | some (.save slot next) =>
    [{ thread with state := next, slots := (slot, thread.position) :: thread.slots }]
  | _ => []

def accepts (program : Program) (thread : Thread) : Bool :=
  match program.instrs[thread.state]? with
  | some .accept => true
  | _ => false

/-- Runs the threads of a stack until one accepts. Each step takes one thread off the stack. -/
def explore (program : Program) (text : Array Char) :
    (bound : Nat) → (seen : Std.HashSet (Nat × Nat)) → List Thread → Option Match
  | 0, _, _ => none
  | _ + 1, _, [] => none
  | bound + 1, seen, thread :: rest =>
    if seen.contains (thread.state, thread.position) then explore program text bound seen rest
    else if program.accepts thread then some ⟨thread.start, thread.position, thread.slots⟩
    else explore program text bound (seen.insert (thread.state, thread.position))
      (program.successors text thread ++ rest)

/-- The preferred match at the leftmost possible start that is not before `first`. A place adds
at most two threads to the first ones, which bounds the number of steps. -/
def search (program : Program) (text : Array Char) (first : Nat) : Option Match :=
  let starts := List.range' first (text.size + 1 - first)
  program.explore text (starts.length + 2 * program.instrs.size * (text.size + 1) + 1) {}
    (starts.map fun start => ⟨start, program.start, start, []⟩)

/-- The next match after one that ended at `stop`. It must not be empty and stand there too. -/
def next? (program : Program) (text : Array Char) (stop : Nat) : Option Match :=
  match program.search text stop with
  | some found =>
    if found.isEmpty && found.stop == stop then program.search text (stop + 1) else some found
  | none => none

/-- The matches after one that ended at `stop`; each ends later than the one before. -/
def findAfter (program : Program) (text : Array Char) : (bound stop : Nat) → List Match
  | 0, _ => []
  | bound + 1, stop =>
    match program.next? text stop with
    | some found => found :: findAfter program text bound found.stop
    | none => []

def findAll (program : Program) (text : Array Char) : List Match :=
  match program.search text 0 with
  | some found => found :: program.findAfter text (text.size + 1) found.stop
  | none => []

end Program

/-! ## Patterns -/

/-- A pattern ready for searching. -/
structure Regex where
  program : Program
  captureNames : List (String × Nat)

namespace Regex

def ofText? (text : String) (caseSensitive : Bool) : Option Regex :=
  (parse? text caseSensitive).map fun parsed => ⟨.ofNode parsed.node, parsed.captureNames⟩

/-- Ranges of the non-empty matches, in characters. -/
def spans (regex : Regex) (text : String) : List (Nat × Nat) :=
  ((regex.program.findAll text.toList.toArray).filter (!·.isEmpty)).map
    fun found => (found.start, found.stop)

def occursIn (regex : Regex) (text : String) : Bool :=
  (regex.program.search text.toList.toArray 0).isSome

def matchTexts (regex : Regex) (text : String) : List String :=
  let chars := text.toList.toArray
  (regex.program.findAll chars).map fun found => between chars found.start found.stop

end Regex

end StoryGraph.Pattern
