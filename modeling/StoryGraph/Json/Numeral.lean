import StoryGraph.Value
import StoryGraph.Number.Decimal

/-!
# JSON numerals

A numeral without fraction and exponent that fits 64 bits is an integer. Every other numeral is a
double, computed in floating point as a 64-bit significand times or divided by a power of ten;
digits that no longer fit the significand only count as places. A result that is too large for a
double is out of range.

Main definition: `read?`.
-/

namespace StoryGraph.Json.Numeral

/-- The parts of a well-formed numeral. -/
structure Parts where
  negative : Bool
  whole : List Char
  fraction : List Char
  /-- The exponent, if one is written. -/
  exponent : Option Int

/-- Fraction digits after a point, of which there must be one; nothing without a point. -/
def fractionPart? : List Char → Option (List Char × List Char)
  | '.' :: rest =>
    let digits := rest.takeWhile Char.isDigit
    if digits.isEmpty then none else some (digits, rest.dropWhile Char.isDigit)
  | cs => some ([], cs)

/-- The grammar: no superfluous zero in front, digits on both sides of the point, digits in the
exponent. -/
def parts? (numeral : List Char) : Option Parts := do
  let (negative, cs) := match numeral with
    | '-' :: rest => (true, rest)
    | _ => (false, numeral)
  let whole := cs.takeWhile Char.isDigit
  if whole.isEmpty || (whole.head? == some '0' && whole.length != 1) then none
  let (fraction, tail) ← fractionPart? (cs.dropWhile Char.isDigit)
  if tail.isEmpty then some ⟨negative, whole, fraction, none⟩
  else
    let exponent ← Binary64.exponent? tail
    some ⟨negative, whole, fraction, some exponent⟩

/-- Appends digits to a significand while it fits 64 bits, and counts them. -/
def absorb (significand : Nat) : List Char → Nat × Nat
  | [] => (significand, 0)
  | c :: rest =>
    let next := 10 * significand + (c.toNat - '0'.toNat)
    if next < 2 ^ 64 then
      let (final, count) := absorb next rest
      (final, count + 1)
    else (significand, 0)

def powerOfTen (k : Nat) : Float := Binary64.nearest false (10 ^ k) 1

/-- A double times `10 ^ exponent`, in steps of 308 places; a step up out of range fails. Two
steps down take every 64-bit significand to zero. -/
def scaled? : (steps : Nat) → Float → Int → Option Float
  | 0, _, _ => some 0.0
  | steps + 1, x, exponent =>
    if exponent.natAbs ≤ 308 then
      if 0 ≤ exponent then
        let result := x * powerOfTen exponent.natAbs
        if Binary64.isFinite result then some result else none
      else some (x / powerOfTen exponent.natAbs)
    else if Binary64.significand x = 0 then some x
    else if 0 ≤ exponent then none
    else scaled? steps (x / powerOfTen 308) (exponent + 308)

/-- The double of a numeral; none when it is out of range. -/
def toFloat? (parts : Parts) : Option Float := do
  let (wholeDigits, wholeCount) := absorb 0 parts.whole
  let (significand, fractionCount) := absorb wholeDigits parts.fraction
  let places : Int := (parts.whole.length : Int) - wholeCount - fractionCount
  let exponent := parts.exponent.getD 0
  let size ←
    if exponent.natAbs < 2 ^ 31 then
      scaled? 4 (Binary64.ofInt significand) (places + exponent)
    else if 0 < exponent && significand != 0 then none
    else some 0.0
  some (if parts.negative then -size else size)

/-- The integer of a numeral that is written as one and fits 64 bits. Minus zero does not count:
it is a double. -/
def toInt? (parts : Parts) : Option Int :=
  if parts.fraction.isEmpty && parts.exponent.isNone then
    let size := Decimal.digitsValue parts.whole
    if parts.negative then
      if 0 < size && size ≤ 2 ^ 63 then some (-size) else none
    else if size < 2 ^ 64 then some size
    else none
  else none

/-- Reads a numeral. The outer level is the grammar, the inner one the range. -/
def read? (numeral : List Char) : Option (Option Number) :=
  (parts? numeral).map fun parts =>
    match toInt? parts with
    | some n => some (.int n)
    | none => (toFloat? parts).bind fun x => (FiniteDouble.ofFloat? x).map .real

end StoryGraph.Json.Numeral
