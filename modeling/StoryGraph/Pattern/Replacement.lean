import StoryGraph.Pattern.Search
import StoryGraph.Number.Decimal

/-!
# Replacement

A replacement text names captures after a dollar sign, by number or by name, with or without
braces. Two dollar signs stand for one. A capture that is unknown or took no part stands for
nothing, and a dollar sign before anything else stands for itself.

Main definition: `Regex.replaceAll`.
-/

namespace StoryGraph.Pattern

inductive ReplacementPart where
  | literal (c : Char)
  | number (index : Nat)
  | name (name : String)

namespace ReplacementPart

/-- A reference is a number if it consists of digits, after an optional plus sign. -/
def ofReference (text : List Char) : ReplacementPart :=
  match Decimal.natural? text with
  | some index => .number index
  | none => .name (String.ofList text)

def isNameLetter (c : Char) : Bool := c.isAlphanum || c == '_'

/-- The part after a dollar sign, and the rest; none if the sign stands for itself. -/
def afterDollar? : List Char → Option (ReplacementPart × List Char)
  | '$' :: rest => some (.literal '$', rest)
  | '\x7b' :: rest =>
    match rest.dropWhile (· != '\x7d') with
    | [] => none
    | _ :: tail => some (ofReference (rest.takeWhile (· != '\x7d')), tail)
  | cs =>
    let name := cs.takeWhile isNameLetter
    if name.isEmpty then none else some (ofReference name, cs.dropWhile isNameLetter)

/-- The parts of a text; each takes at least one character. -/
def read : (bound : Nat) → List Char → List ReplacementPart
  | 0, _ => []
  | _ + 1, [] => []
  | bound + 1, '$' :: rest =>
    match afterDollar? rest with
    | some (part, rest) => part :: read bound rest
    | none => .literal '$' :: read bound rest
  | bound + 1, c :: rest => .literal c :: read bound rest

def ofText (text : String) : List ReplacementPart := read text.length text.toList

end ReplacementPart

namespace Regex

def captureText (chars : Array Char) (found : Match) (index : Nat) : String :=
  match found.range? index with
  | some (start, stop) => between chars start stop
  | none => ""

def expand (regex : Regex) (chars : Array Char) (found : Match) : ReplacementPart → String
  | .literal c => String.singleton c
  | .number index => captureText chars found index
  | .name name =>
    match regex.captureNames.lookup name with
    | some index => captureText chars found index
    | none => ""

def replaceFrom (regex : Regex) (chars : Array Char) (parts : List ReplacementPart) :
    (position : Nat) → List Match → String
  | position, [] => between chars position chars.size
  | position, found :: rest =>
    between chars position found.start ++
      String.join (parts.map (regex.expand chars found)) ++
      replaceFrom regex chars parts found.stop rest

def replaceAll (regex : Regex) (text replacement : String) : String :=
  let chars := text.toList.toArray
  regex.replaceFrom chars (ReplacementPart.ofText replacement) 0 (regex.program.findAll chars)

end Regex

end StoryGraph.Pattern
