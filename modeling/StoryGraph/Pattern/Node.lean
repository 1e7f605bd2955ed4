import StoryGraph.Number.Binary64
import StoryGraph.Pattern.CharClass

/-!
# Patterns as trees

What a pattern text means: characters, conditions on the place, sequences, choices with the
preferred branch first, repetitions and captures.
-/

namespace StoryGraph.Pattern

/-- A condition on a place between two characters. `unicode` says what counts as a word. -/
inductive Look where
  | start
  | stop
  | lineStart
  | lineStop
  /-- A line may also end with a carriage return, alone or before a line feed. -/
  | anyLineStart
  | anyLineStop
  | wordBoundary (unicode : Bool)
  | noWordBoundary (unicode : Bool)
  | wordStart (unicode : Bool)
  | wordStop (unicode : Bool)
  /-- No word character before. -/
  | halfWordStart (unicode : Bool)
  /-- No word character after. -/
  | halfWordStop (unicode : Bool)

namespace Look

def isWord (unicode : Bool) : Option Char → Bool
  | none => false
  | some c => if unicode then Text.isWord c else (CharClass.word false).contains c

/-- Whether the condition holds between two characters; none is an end of the text. -/
def holds (look : Look) (before after : Option Char) : Bool :=
  match look with
  | start => before.isNone
  | stop => after.isNone
  | lineStart => before.isNone || before == some '\n'
  | lineStop => after.isNone || after == some '\n'
  | anyLineStart =>
    before.isNone || before == some '\n' || (before == some '\r' && after != some '\n')
  | anyLineStop =>
    after.isNone || after == some '\r' || (after == some '\n' && before != some '\r')
  | wordBoundary unicode => isWord unicode before != isWord unicode after
  | noWordBoundary unicode => isWord unicode before == isWord unicode after
  | wordStart unicode => !isWord unicode before && isWord unicode after
  | wordStop unicode => isWord unicode before && !isWord unicode after
  | halfWordStart unicode => !isWord unicode before
  | halfWordStop unicode => !isWord unicode after

end Look

inductive Node where
  | empty
  | chars (members : CharClass)
  | look (condition : Look)
  | capture (index : Nat) (inner : Node)
  | group (inner : Node)
  | sequence (items : List Node)
  | choice (branches : List Node)
  /-- Between `least` and `most` times; `greedy` prefers more. -/
  | repetition (inner : Node) (least : Nat) (most : Option Nat) (greedy : Bool)

namespace Node

mutual

/-- Whether a match may be empty, judged by the shape alone. -/
def mayBeEmpty : Node → Bool
  | empty => true
  | chars _ => false
  | look _ => true
  | capture _ inner => mayBeEmpty inner
  | group inner => mayBeEmpty inner
  | sequence items => allMayBeEmpty items
  | choice branches => anyMayBeEmpty branches
  | repetition inner least _ _ => least == 0 || mayBeEmpty inner

def allMayBeEmpty : List Node → Bool
  | [] => true
  | item :: rest => mayBeEmpty item && allMayBeEmpty rest

def anyMayBeEmpty : List Node → Bool
  | [] => false
  | branch :: rest => mayBeEmpty branch || anyMayBeEmpty rest

end

mutual

def depth : Node → Nat
  | empty => 0
  | chars _ => 0
  | look _ => 0
  | capture _ inner => depth inner + 1
  | group inner => depth inner + 1
  | sequence items => greatestDepth items + 1
  | choice branches => greatestDepth branches + 1
  | repetition inner _ _ _ => depth inner + 1

def greatestDepth : List Node → Nat
  | [] => 0
  | item :: rest => max (depth item) (greatestDepth rest)

end

/-- The size of a class in a program, in bytes. A class beyond ASCII is a small automaton over
encoded bytes, about 26 bytes for each of its ranges. -/
def classSize (members : CharClass) : Nat :=
  match members with
  | .range low high =>
    if low = high then 32 * low.utf8Size else if high.toNat < 128 then 32 else 256
  | other => 32 + 26 * other.rangeCount

mutual

/-- An estimate of the size of a program, in bytes. -/
def size : Node → Nat
  | empty => 32
  | chars members => classSize members
  | look _ => 32
  | capture _ inner => size inner + 64
  | group inner => size inner
  | sequence items => totalSize items
  | choice branches => totalSize branches + 4 * branches.length + 64
  | repetition inner least most _ =>
    match most with
    | none => size inner * max least 1 + 40
    | some most => size inner * most + 40 * (most - least)

def totalSize : List Node → Nat
  | [] => 0
  | item :: rest => size item + totalSize rest

end

def depthLimit : Nat := 250

/-- Nothing larger is accepted: ten mebibytes. -/
def sizeLimit : Nat := 10 * 2 ^ 20

end Node

end StoryGraph.Pattern
