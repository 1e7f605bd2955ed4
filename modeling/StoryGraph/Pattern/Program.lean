import StoryGraph.Pattern.Node

/-!
# Programs

A pattern as a machine with numbered instructions. Where a machine may go two ways, the first way
is preferred.

Instructions are emitted from the end of the pattern to its start, so each knows where to go on;
only a loop has to name its own head before it is known.

Main definition: `Program.ofNode`.
-/

namespace StoryGraph.Pattern

inductive Instr where
  /-- Takes one character of a class. -/
  | chars (members : CharClass) (next : Nat)
  /-- Goes on if a condition holds here. -/
  | look (condition : Look) (next : Nat)
  | split (preferred other : Nat)
  /-- Notes the position in a slot. -/
  | save (slot next : Nat)
  | accept
  | stuck

structure Program where
  instrs : Array Instr
  start : Nat

namespace Program

/-- Emitting code: instructions so far in the state, the number of the entry as the result. -/
abbrev Emit := StateM (Array Instr) Nat

def push (instr : Instr) : Emit := fun instrs => (instrs.size, instrs.push instr)

/-- Into a repeated part or past it. -/
def fork (greedy : Bool) (into past : Nat) : Instr :=
  if greedy then .split into past else .split past into

def emitTimes (part : Nat → Emit) : (count next : Nat) → Emit
  | 0, next => pure next
  | count + 1, next => do emitTimes part count (← part next)

/-- A part up to as many times as given; each time may be the last. -/
def emitUpTo (part : Nat → Emit) (greedy : Bool) (past : Nat) : (count next : Nat) → Emit
  | 0, next => pure next
  | count + 1, next => do
    let into ← part next
    emitUpTo part greedy past count (← push (fork greedy into past))

def emitOnceOrMore (part : Nat → Emit) (greedy : Bool) (next : Nat) : Emit := do
  let again ← push .stuck
  let into ← part again
  modify (·.set! again (fork greedy into next))
  return into

/-- A part any number of times. If it may be empty, the choice at the head must not be the one
after the part, or a way that takes nothing would hide the ways that come after it. -/
def emitAnyTimes (part : Nat → Emit) (mayBeEmpty greedy : Bool) (next : Nat) : Emit := do
  if mayBeEmpty then
    push (fork greedy (← emitOnceOrMore part greedy next) next)
  else
    let head ← push .stuck
    let into ← part head
    modify (·.set! head (fork greedy into next))
    return head

def emitRepetition (part : Nat → Emit) (mayBeEmpty greedy : Bool) (least : Nat)
    (most : Option Nat) (next : Nat) : Emit :=
  match least, most with
  | 0, none => emitAnyTimes part mayBeEmpty greedy next
  | least + 1, none => do emitTimes part least (← emitOnceOrMore part greedy next)
  | least, some most => do
    emitTimes part least (← emitUpTo part greedy next (most - least) next)

mutual

/-- The code of a node that goes on at `next`. -/
def emit : Node → (next : Nat) → Emit
  | .empty, next => pure next
  | .chars members, next => push (.chars members next)
  | .look condition, next => push (.look condition next)
  | .capture index inner, next => do
    let body ← emit inner (← push (.save (2 * index + 1) next))
    push (.save (2 * index) body)
  | .group inner, next => emit inner next
  | .sequence items, next => emitSequence items next
  | .choice branches, next => emitChoice branches next
  | .repetition inner least most greedy, next =>
    emitRepetition (emit inner) inner.mayBeEmpty greedy least most next

def emitSequence : List Node → (next : Nat) → Emit
  | [], next => pure next
  | item :: rest, next => do emit item (← emitSequence rest next)

def emitChoice : List Node → (next : Nat) → Emit
  | [], _ => push .stuck
  | [branch], next => emit branch next
  | branch :: rest, next => do
    let other ← emitChoice rest next
    push (.split (← emit branch next) other)

end

def ofNode (node : Node) : Program :=
  let (start, instrs) := (do emit node (← push .accept) : Emit) #[]
  ⟨instrs, start⟩

end Program

end StoryGraph.Pattern
