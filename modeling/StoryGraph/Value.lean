import StoryGraph.Number.Binary64

/-!
# Values

What properties hold and what flows along the edges of a graph: null, truth values, numbers,
text, lists, and records. The fields of a record are kept in the order of their names, each name
once; `Fields.insert` keeps that order.

Numbers are either exact integers or doubles, and the two kinds stay apart: `5` and `5.0` are
different values.
-/

namespace StoryGraph

/-- A number as written: an integer, or a double. -/
inductive Number where
  | int (n : Int)
  | real (x : FiniteDouble)

def Number.toFloat : Number → Float
  | .int n => Binary64.ofInt n
  | .real x => x.val

/-- A number written as an integer that is not negative. -/
def Number.toNat? : Number → Option Nat
  | .int (.ofNat n) => some n
  | _ => none

inductive Value where
  | null
  | bool (b : Bool)
  | number (n : Number)
  | text (s : String)
  | list (items : List Value)
  | record (fields : List (String × Value))

instance : Inhabited Value := ⟨.null⟩

/-- Named values, in the order of their names. -/
abbrev Fields := List (String × Value)

namespace Fields

def get? (fields : Fields) (name : String) : Option Value := fields.lookup name

/-- Gives a name a value, in place of an earlier one, and keeps the names in order. -/
def insert (name : String) (value : Value) : Fields → Fields
  | [] => [(name, value)]
  | (other, old) :: rest =>
    if name < other then (name, value) :: (other, old) :: rest
    else if name = other then (name, value) :: rest
    else (other, old) :: insert name value rest

/-- Gives a name a value unless it has one. -/
def insertNew (name : String) (value : Value) (fields : Fields) : Fields :=
  if (fields.get? name).isSome then fields else fields.insert name value

def erase (fields : Fields) (name : String) : Fields := fields.filter (·.1 != name)

/-- Orders named values; of two with one name the later counts. -/
def ofList (pairs : List (String × Value)) : Fields :=
  pairs.foldl (fun fields (name, value) => fields.insert name value) []

end Fields

namespace Value

def ofFields (pairs : List (String × Value)) : Value := .record (Fields.ofList pairs)

/-- A field of a record; other values have none. -/
def get? (name : String) : Value → Option Value
  | .record fields => Fields.get? fields name
  | _ => none

def ofNat (n : Nat) : Value := .number (.int n)

mutual

def depth : Value → Nat
  | .list items => depthOfAll items + 1
  | .record fields => depthOfFields fields + 1
  | _ => 0

def depthOfAll : List Value → Nat
  | [] => 0
  | item :: rest => max (depth item) (depthOfAll rest)

def depthOfFields : List (String × Value) → Nat
  | [] => 0
  | (_, value) :: rest => max (depth value) (depthOfFields rest)

end

def isNull : Value → Bool
  | .null => true
  | _ => false

def toText? : Value → Option String
  | .text s => some s
  | _ => none

def toBool? : Value → Option Bool
  | .bool b => some b
  | _ => none

def toNat? : Value → Option Nat
  | .number n => n.toNat?
  | _ => none

/-- The value of a double: an integer when it is integral and smaller than 9·10¹⁵ in size, null
when it is infinite or NaN. -/
def ofFloat (x : Float) : Value :=
  if Binary64.isIntegral x && (Binary64.truncate x).natAbs < 9 * 10 ^ 15 then
    .number (.int (Binary64.truncate x))
  else match FiniteDouble.ofFloat? x with
    | some y => .number (.real y)
    | none => .null

end Value

end StoryGraph
