import StoryGraph.Text.Classes
import StoryGraph.Text.Case

/-!
# Keywords

A keyword matches as a whole word. Asterisks at its end let the word go on.

The stem is compared character by character. Where the stem begins with a word character, a word
must begin in the text too, or end there: the place must be a boundary. The same is asked at the
end of the stem, unless the word may go on.

Main definitions: `Keyword.ofText?`, `Keyword.spans`.
-/

namespace StoryGraph

structure Keyword where
  /-- The keyword as it is shown. -/
  source : String
  /-- The keyword without asterisks at its end. -/
  stem : List Char
  /-- Whether the word may go on after the stem. -/
  openEnded : Bool
  caseSensitive : Bool

namespace Keyword

/-- A keyword from its text; none if nothing is left without blanks and asterisks. -/
def ofText? (text : String) (caseSensitive : Bool) : Option Keyword :=
  let source := Text.trim text
  let stem := Text.dropRightWhile (· == '*') source.toList
  if stem.isEmpty then none
  else some ⟨source, stem, stem.length != source.length, caseSensitive⟩

def asksForBoundary (c : Char) : Bool := Text.isAlphanumeric c || c == '_'

/-- Whether a word begins or ends between two characters; none is an end of the text. -/
def isBoundary (before after : Option Char) : Bool :=
  before.any Text.isWord != after.any Text.isWord

def sameChar (keyword : Keyword) (c d : Char) : Bool :=
  if keyword.caseSensitive then c == d else Text.sameIgnoringCase c d

def agrees (keyword : Keyword) (text : List Char) : Bool :=
  keyword.stem.length == text.length && (keyword.stem.zip text).all fun (c, d) =>
    keyword.sameChar c d

/-- The length of the match at the start of a text, given the character before it. -/
def matchLength? (keyword : Keyword) (before : Option Char) (text : List Char) : Option Nat :=
  let size := keyword.stem.length
  let tail := text.drop size
  let opens := keyword.stem.head?.any asksForBoundary
  let closes := !keyword.openEnded && keyword.stem.getLast?.any asksForBoundary
  if opens && !isBoundary before text.head? then none
  else if !keyword.agrees (text.take size) then none
  else if closes && !isBoundary (text.take size).getLast? tail.head? then none
  else if keyword.openEnded then some (size + (tail.takeWhile Text.isWord).length)
  else some size

/-- The matches in the rest of a text, at a position and after a character; `skip` characters
belong to the last match. -/
def spansFrom (keyword : Keyword) :
    (skip position : Nat) → (before : Option Char) → List Char → List (Nat × Nat)
  | _, _, _, [] => []
  | skip + 1, position, _, c :: rest => spansFrom keyword skip (position + 1) (some c) rest
  | 0, position, before, c :: rest =>
    match keyword.matchLength? before (c :: rest) with
    | some size =>
      (position, position + size) :: spansFrom keyword (size - 1) (position + 1) (some c) rest
    | none => spansFrom keyword 0 (position + 1) (some c) rest

/-- The ranges of all matches, from left to right and without overlap. -/
def spans (keyword : Keyword) (text : String) : List (Nat × Nat) :=
  keyword.spansFrom 0 0 none text.toList

def occursAfter (keyword : Keyword) : (before : Option Char) → List Char → Bool
  | _, [] => false
  | before, c :: rest =>
    (keyword.matchLength? before (c :: rest)).isSome || occursAfter keyword (some c) rest

def occursIn (keyword : Keyword) (text : String) : Bool := keyword.occursAfter none text.toList

end Keyword

end StoryGraph
