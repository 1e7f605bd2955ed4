import StoryGraph.Value.Coercion

/-!
# Comparisons

The comparisons that filters and conditions offer. A list is judged by its elements, at any
depth: it compares if some element does, and a negated comparison holds for it if the plain one
does not. A missing value equals nothing and contains nothing.

Main definitions: `Comparison.ofText?`, `Comparison.holds`.
-/

namespace StoryGraph

inductive Comparison where
  | equal
  | notEqual
  | greater
  | less
  | greaterOrEqual
  | lessOrEqual
  | contains
  | notContains
deriving DecidableEq

namespace Comparison

def ofText? (text : String) : Option Comparison :=
  match Text.trim text with
  | "==" | "=" | "eq" | "equals" | "is" => some equal
  | "!=" | "<>" | "ne" | "not equals" | "is not" => some notEqual
  | ">" | "gt" => some greater
  | "<" | "lt" => some less
  | ">=" | "gte" => some greaterOrEqual
  | "<=" | "lte" => some lessOrEqual
  | "contains" => some contains
  | "not contains" | "!contains" | "does not contain" => some notContains
  | _ => none

/-! ## Single values -/

/-- Numbers are equal by size, other values by their texts without regard to case. Nothing equals
a null on the right. -/
def looselyEqual (a b : Value) : Bool :=
  if b.isNull then false
  else match a.number?, b.number? with
    | some x, some y => Binary64.same x y
    | _, _ => a.foldedText == b.foldedText

def containsText (a b : Value) : Bool :=
  !b.foldedText.isEmpty && Text.occursIn b.foldedText.toList a.foldedText.toList

/-- Numbers are ordered among themselves, and so are texts; null has no order. -/
def order? (a b : Value) : Option Ordering :=
  match a.number?, b.number? with
  | some x, some y => some (Binary64.compare x y)
  | none, none =>
    if a.isNull || b.isNull then none else some (Ord.compare a.foldedText b.foldedText)
  | _, _ => none

/-- A comparison of a value that is no list. Values without an order are neither greater nor less
nor equal in order. -/
def holdsForSingle (comparison : Comparison) (a b : Value) : Bool :=
  match comparison with
  | equal => looselyEqual a b
  | notEqual => !looselyEqual a b
  | contains => containsText a b
  | notContains => !containsText a b
  | greater => (order? a b).any (· == .gt)
  | less => (order? a b).any (· == .lt)
  | greaterOrEqual => (order? a b).any (· != .lt)
  | lessOrEqual => (order? a b).any (· != .gt)

/-! ## Any value -/

mutual

/-- A comparison of any value. A list is judged by its elements: a negated comparison holds for it
when the plain one does not, any other one when it holds for some element. -/
def holdsFor (comparison : Comparison) (candidate : Value) : Value → Bool
  | .list items =>
    match comparison with
    | notEqual => !equal.holdsForSome candidate items
    | notContains => !contains.holdsForSome candidate items
    | other => other.holdsForSome candidate items
  | value => comparison.holdsForSingle value candidate

def holdsForSome (comparison : Comparison) (candidate : Value) : List Value → Bool
  | [] => false
  | item :: rest => comparison.holdsFor candidate item || comparison.holdsForSome candidate rest

end

/-- Whether an attribute compares with a candidate. Of a missing one only the negated comparisons
hold. -/
def holds (comparison : Comparison) (found : Option Value) (candidate : Value) : Bool :=
  match found with
  | none => comparison == notEqual || comparison == notContains
  | some value => comparison.holdsFor candidate value

end Comparison

end StoryGraph
