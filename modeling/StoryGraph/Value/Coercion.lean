import StoryGraph.Json.Printer
import StoryGraph.Number.Decimal
import StoryGraph.Text.Classes
import StoryGraph.Text.Case

/-!
# Reading a value as another kind

Operators take whatever flows in. Each reading here is total: a value of the wrong kind reads as
the neutral value of the kind that is asked for.
-/

namespace StoryGraph.Value

/-- As a list: null has no items, any other value that is no list is its own only item. -/
def toItems : Value → List Value
  | .list items => items
  | .null => []
  | value => [value]

/-- The finite number that a text denotes, blanks around it aside. -/
def numeral? (s : String) : Option Float :=
  (Binary64.parse? (Text.trim s)).filter Binary64.isFinite

def number? : Value → Option Float
  | .number n => some n.toFloat
  | .text s => numeral? s
  | _ => none

/-- As a number: truth is one, and a list of one item is read as its item. -/
def toNumber : Value → Float
  | .number n => n.toFloat
  | .text s => (numeral? s).getD 0
  | .bool true => 1
  | .list [item] => toNumber item
  | _ => 0

/-- As a truth value: null, false, zero, the empty list, and the texts "" and "false" in any case
are false. -/
def isTrue : Value → Bool
  | .null => false
  | .bool b => b
  | .number n => !Binary64.same n.toFloat 0
  | .text s => !s.isEmpty && s.map Char.toLower != "false"
  | .list items => !items.isEmpty
  | .record _ => true

mutual

/-- As a text for readers: items of a list with commas between, records as JSON. -/
def display : Value → String
  | .null => ""
  | .text s => s
  | .number n => Json.print (Value.ofFloat n.toFloat)
  | .bool b => if b then "true" else "false"
  | .list items => ", ".intercalate (displayAll items)
  | .record fields => Json.print (.record fields)

def displayAll : List Value → List String
  | [] => []
  | item :: rest => display item :: displayAll rest

end

/-- Null, the empty text and the empty list. -/
def isNothing : Value → Bool
  | .null => true
  | .text s => s.isEmpty
  | .list items => items.isEmpty
  | _ => false

def neutral : Value → Value
  | .list _ => .list []
  | .number _ => ofNat 0
  | .bool _ => .bool false
  | .text _ => .text ""
  | _ => .null

/-! ## Records -/

/-- A text that two values share only if they are the same. -/
def identityKey (value : Value) : String := Json.print value

def id? (value : Value) : Option String :=
  match value.get? "id" with
  | some .null | none => none
  | some id => some id.display

/-- What stands for a value as a member of a set: the id of a record, the text of other values. -/
def memberKey : Value → String
  | .record fields => ((Value.record fields).id?).getD (identityKey (.record fields))
  | value => value.display

/-- A field of a record that is not null. -/
def attribute? (value : Value) (name : String) : Option Value :=
  match value.get? name with
  | some .null | none => none
  | some found => some found

/-! ## Order -/

def foldedText (value : Value) : String := Text.lowercase value.display

/-- The order of sorting: numbers by size before everything else, and that by text without regard
to case. -/
def compare (a b : Value) : Ordering :=
  match a.number?, b.number? with
  | some x, some y => Binary64.compare x y
  | some _, none => .lt
  | none, some _ => .gt
  | none, none => Ord.compare a.foldedText b.foldedText

end StoryGraph.Value
