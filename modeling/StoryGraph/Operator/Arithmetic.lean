import StoryGraph.Operator.Body

/-!
# Arithmetic

Binary and unary operations on doubles, item by item over lists. A result that is no finite
number is zero, and so is what has no result: a quotient by zero, the root of a negative number,
the logarithm of a number that is not positive.
-/

namespace StoryGraph.Operator

def finiteOrZero (x : Float) : Float := if Binary64.isFinite x then x else 0

def isZero (x : Float) : Bool := Binary64.same x 0

/-! ## Operations -/

inductive BinaryOperation where
  | add
  | subtract
  | multiply
  | divide
  | modulo
  | power
  | min
  | max

namespace BinaryOperation

def ofSetting? : String → Option BinaryOperation
  | "add" | "+" => some add
  | "subtract" | "-" => some subtract
  | "multiply" | "*" => some multiply
  | "divide" | "/" => some divide
  | "modulo" | "%" => some modulo
  | "power" | "^" => some power
  | "min" => some min
  | "max" => some max
  | _ => none

/-- The words in a label that name an operation, in the order in which they are tried. -/
def words : List String :=
  ["add", "subtract", "multiply", "divide", "modulo", "power", "min", "max"]

def apply (operation : BinaryOperation) (a b : Float) : Float :=
  finiteOrZero <| match operation with
    | add => a + b
    | subtract => a - b
    | multiply => a * b
    | divide => if isZero b then 0 else a / b
    | modulo => if isZero b then 0 else Binary64.remainder a b
    | power => a.pow b
    | min => if Binary64.compare b a == .lt then b else a
    | max => if Binary64.compare a b == .lt then b else a

end BinaryOperation

inductive UnaryOperation where
  | floor
  | ceil
  | round
  | abs
  | sqrt
  | log

namespace UnaryOperation

def ofSetting? : String → Option UnaryOperation
  | "floor" => some floor
  | "ceil" => some ceil
  | "round" => some round
  | "abs" => some abs
  | "sqrt" => some sqrt
  | "log" => some log
  | _ => none

def words : List String := ["floor", "ceil", "round", "abs", "sqrt", "log"]

/-- The result for a finite number; a half rounds away from zero. -/
def apply (operation : UnaryOperation) (x : Float) : Float :=
  finiteOrZero <| match operation with
    | floor => Binary64.ofInt (Binary64.floor x)
    | ceil => Binary64.ofInt (Binary64.ceiling x)
    | round => Binary64.ofInt (Binary64.roundHalfAway x)
    | abs => x.abs
    | sqrt => if Binary64.compare x 0 == .lt then 0 else x.sqrt
    | log => if Binary64.compare x 0 == .gt then x.log else 0

end UnaryOperation

/-! ## Operators -/

/-- The operation that is set, or else the first of the words that the label holds. -/
def askOperation (site : Site) (words : List String) (default : String) : Body String := do
  match ← site.askSetting "operator" with
  | some name => return name
  | none =>
    let letters := (Text.lowercase site.label).toList
    return (words.find? fun word => Text.occursIn word.toList letters).getD default

/-- Applies an operation item by item: two lists up to the length of the shorter one, a list and
a single value with the value for every item. -/
def itemwise (f : Value → Value → Value) : Value → Value → Value
  | .list xs, .list ys => .list (xs.zipWith f ys)
  | .list xs, y => .list (xs.map (f · y))
  | x, .list ys => .list (ys.map (f x))
  | x, y => f x y

def unknownOperation (site : Site) (name : String) : Body Outputs := do
  site.tell ("unknown math operator " ++ Text.quoted name)
  return .single "result" (.ofNat 0)

def math (site : Site) : Body Outputs := do
  let name ← askOperation site BinaryOperation.words "add"
  match BinaryOperation.ofSetting? name with
  | none => unknownOperation site name
  | some operation =>
    let a ← Body.ask "a"
    let b ← Body.ask "b"
    let calculate (x y : Value) : Value := .ofFloat (operation.apply x.toNumber y.toNumber)
    return .single "result" (itemwise calculate a b)

def mathUnary (site : Site) : Body Outputs := do
  let name ← askOperation site UnaryOperation.words "round"
  match UnaryOperation.ofSetting? name with
  | none => unknownOperation site name
  | some operation =>
    let calculate (x : Value) : Value := .ofFloat (operation.apply x.toNumber)
    return .single "result" <| match ← Body.ask "value" with
      | .list items => .list (items.map calculate)
      | value => calculate value

end StoryGraph.Operator
