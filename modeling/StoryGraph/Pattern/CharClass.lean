import StoryGraph.Text.Case
import StoryGraph.Text.Classes

/-!
# Character classes

What one place of a pattern can match, as an expression over ranges and character properties.
-/

namespace StoryGraph.Pattern

inductive CharClass where
  | empty
  | range (low high : Char)
  | property (members : Text.CharSet)
  | union (a b : CharClass)
  | intersection (a b : CharClass)
  | difference (a b : CharClass)
  | symmetricDifference (a b : CharClass)
  | complement (a : CharClass)
  /-- Everything that differs from a member at most in case. -/
  | anyCase (a : CharClass)
  /-- As `anyCase`, but only the letters of ASCII have cases. -/
  | anyAsciiCase (a : CharClass)

namespace CharClass

/-- An ASCII letter and its other case; other characters alone. -/
def asciiVariants (c : Char) : List Char := [c.toLower, c.toUpper]

def contains : CharClass → Char → Bool
  | empty, _ => false
  | range low high, c => low ≤ c && c ≤ high
  | property members, c => members.contains c
  | union a b, c => a.contains c || b.contains c
  | intersection a b, c => a.contains c && b.contains c
  | difference a b, c => a.contains c && !b.contains c
  | symmetricDifference a b, c => a.contains c != b.contains c
  | complement a, c => !a.contains c
  | anyCase a, c => (Text.caseVariants c).any a.contains
  | anyAsciiCase a, c => (asciiVariants c).any a.contains

def single (c : Char) : CharClass := range c c

def all : CharClass := complement empty

def unionOf (classes : List CharClass) : CharClass := classes.foldr union empty

def digit (unicode : Bool) : CharClass :=
  if unicode then property Text.decimalDigit else range '0' '9'

def blank (unicode : Bool) : CharClass :=
  if unicode then property Text.whiteSpace
  else union (range '\t' '\r') (single ' ')

def word (unicode : Bool) : CharClass :=
  if unicode then
    unionOf ([Text.alphabetic, Text.mark, Text.decimalDigit, Text.connector, Text.joiner].map
      property)
  else unionOf [range '0' '9', range 'A' 'Z', single '_', range 'a' 'z']

def ascii? : String → Option CharClass
  | "alnum" => some (unionOf [range '0' '9', range 'A' 'Z', range 'a' 'z'])
  | "alpha" => some (unionOf [range 'A' 'Z', range 'a' 'z'])
  | "ascii" => some (range (Char.ofNat 0) (Char.ofNat 0x7F))
  | "blank" => some (unionOf [single '\t', single ' '])
  | "cntrl" => some (unionOf [range (Char.ofNat 0) (Char.ofNat 0x1F), single (Char.ofNat 0x7F)])
  | "digit" => some (range '0' '9')
  | "graph" => some (range '!' '~')
  | "lower" => some (range 'a' 'z')
  | "print" => some (range ' ' '~')
  | "punct" => some (unionOf [range '!' '/', range ':' '@', range '[' '\x60', range '\x7b' '~'])
  | "space" => some (unionOf [range '\t' '\r', single ' '])
  | "upper" => some (range 'A' 'Z')
  | "word" => some (word false)
  | "xdigit" => some (unionOf [range '0' '9', range 'A' 'F', range 'a' 'f'])
  | _ => none

def isAscii (a : CharClass) : Bool :=
  (List.range 128).all fun i => !a.contains (Char.ofNat (128 + i))

/-- About how many ranges of characters a class consists of. -/
def rangeCount : CharClass → Nat
  | empty => 0
  | range _ _ => 1
  | property members => members.toggles.length / 2
  | union a b => a.rangeCount + b.rangeCount
  | intersection a b => max a.rangeCount b.rangeCount
  | difference a b => a.rangeCount + b.rangeCount
  | symmetricDifference a b => a.rangeCount + b.rangeCount
  | complement a => a.rangeCount + 1
  | anyCase a => 2 * a.rangeCount
  | anyAsciiCase a => 2 * a.rangeCount

end CharClass

end StoryGraph.Pattern
