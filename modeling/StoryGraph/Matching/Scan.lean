import StoryGraph.Matching.Keyword
import StoryGraph.Pattern.Search
import StoryGraph.Value.Coercion

/-!
# Scanning messages

What a message is searched for: a keyword, or a regular expression. Which messages a filter looks
at, and what it finds in them.

Main definitions: `TextPattern`, `Candidate`.
-/

namespace StoryGraph

/-! ## Patterns -/

inductive TextPattern where
  | keyword (keyword : Keyword)
  | regex (source : String) (regex : Pattern.Regex)

namespace TextPattern

def ofKeyword? (text : String) (caseSensitive : Bool) : Option TextPattern :=
  (Keyword.ofText? text caseSensitive).map .keyword

def ofRegex? (text : String) (caseSensitive : Bool) : Option TextPattern :=
  (Pattern.Regex.ofText? text caseSensitive).map (.regex text)

def source : TextPattern → String
  | .keyword k => k.source
  | .regex text _ => text

def occursIn : TextPattern → String → Bool
  | .keyword k, text => k.occursIn text
  | .regex _ r, text => r.occursIn text

/-- Ranges of the non-empty matches, in characters. -/
def spans : TextPattern → String → List (Nat × Nat)
  | .keyword k, text => k.spans text
  | .regex _ r, text => r.spans text

end TextPattern

/-! ## Senders -/

/-- Whose messages count. -/
inductive Sender where
  | all
  | user
  | bot
deriving DecidableEq

namespace Sender

/-- The sender that a setting names; everyone unless it names one. -/
def ofSetting : Option String → Sender
  | some "user" | some "human" => user
  | some "bot" | some "character" | some "ai" => bot
  | _ => all

/-- Whether a message counts, given whether it is a bot's if that is known. -/
def accepts (sender : Sender) (isBot : Option Bool) : Bool :=
  match sender with
  | all => true
  | user => isBot == some false
  | bot => isBot == some true

end Sender

/-! ## Candidates -/

/-- A message to be searched. -/
structure Candidate where
  /-- Its place in the list of messages. -/
  position : Nat
  /-- Its place in the chat, if it is known. -/
  index : Option Nat
  text : String

namespace Candidate

/-- A message record has a text and an index; any other value is its own text. -/
def ofValue (position : Nat) : Value → Candidate
  | .record fields =>
    ⟨position, (Fields.get? fields "index").bind Value.toNat?,
      ((Fields.get? fields "message").map Value.display).getD ""⟩
  | value => ⟨position, none, value.display⟩

end Candidate

/-- The last so many items; zero means all. -/
def lastItems {α : Type} (depth : Nat) (items : List α) : List α :=
  if depth = 0 then items else items.drop (items.length - depth)

/-- The messages that a filter looks at: those of the sender, and of those the last `depth`. -/
def eligible (messages : List Value) (sender : Sender) (depth : Nat) : List Candidate :=
  lastItems depth ((messages.zipIdx.filter fun (message, _) =>
    sender.accepts ((message.get? "is_bot").bind Value.toBool?)).map fun (message, position) =>
      Candidate.ofValue position message)

/-! ## Finds -/

/-- The first so many items; zero means all. -/
def firstItems {α : Type} (cap : Nat) (items : List α) : List α :=
  if cap = 0 then items else items.take cap

def rangeLe (a b : Nat × Nat) : Bool := a.1 < b.1 || (a.1 == b.1 && a.2 ≤ b.2)

def spansOf (patterns : List TextPattern) (text : String) : List (Nat × Nat) :=
  (patterns.flatMap (·.spans text)).mergeSort rangeLe

/-- A message in which something was found, and where. -/
structure Find where
  candidate : Candidate
  spans : List (Nat × Nat)

def finds (patterns : List TextPattern) (candidates : List Candidate) : List Find :=
  (candidates.map fun candidate => ⟨candidate, spansOf patterns candidate.text⟩).filter
    (!·.spans.isEmpty)

def splitAtCommas (text : String) : List String :=
  (text.toList.splitOn ',').map String.ofList

/-- The keywords in an attribute: the items of a list, or a text split at commas. -/
def splitKeywords (value : Value) : List String :=
  let parts := match value with
    | .list items => items.map Value.display
    | .null => []
    | other => splitAtCommas other.display
  (parts.map Text.trim).filter (!·.isEmpty)

end StoryGraph
