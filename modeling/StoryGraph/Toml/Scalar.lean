import StoryGraph.Tree
import StoryGraph.Number.Decimal

/-!
# TOML scalars

Integers, floats, truth values and date-times are recognised from the run of characters that
could belong to one.

Main definition: `scalar?`.
-/

namespace StoryGraph.Toml

/-- Digits of a base, with single underscores between them. -/
def digits? (valid : Char → Bool) (cs : List Char) : Option (List Char) :=
  let groups := cs.splitOn '_'
  if groups.all fun group => !group.isEmpty && group.all valid then some groups.flatten else none

def isHexDigit (c : Char) : Bool := c.isDigit || ('a' ≤ c ∧ c ≤ 'f') || ('A' ≤ c ∧ c ≤ 'F')

def hexDigitValue (c : Char) : Nat :=
  if c.isDigit then c.toNat - '0'.toNat
  else if 'a' ≤ c then c.toNat - 'a'.toNat + 10
  else c.toNat - 'A'.toNat + 10

def baseValue (base : Nat) (cs : List Char) : Nat :=
  cs.foldl (fun value c => base * value + hexDigitValue c) 0

/-- Decimal digits without a superfluous zero in front. -/
def decimal? (cs : List Char) : Option (List Char) := do
  let digits ← digits? Char.isDigit cs
  if digits.head? == some '0' && digits.length != 1 then none else some digits

/-! ## Integers -/

/-- Integers have 64 bits. -/
def inWord? (n : Int) : Option Int := if -(2 ^ 63 : Nat) ≤ n ∧ n < (2 ^ 63 : Nat) then some n else none

def prefixed? (base : Nat) (valid : Char → Bool) (cs : List Char) : Option Int :=
  (digits? valid cs).bind fun digits => inWord? (baseValue base digits)

def integer? : List Char → Option Int
  | '0' :: 'x' :: rest => prefixed? 16 isHexDigit rest
  | '0' :: 'o' :: rest => prefixed? 8 (fun c => '0' ≤ c ∧ c ≤ '7') rest
  | '0' :: 'b' :: rest => prefixed? 2 (fun c => c = '0' ∨ c = '1') rest
  | cs =>
    let (negative, unsigned) := Binary64.splitSign cs
    (decimal? unsigned).bind fun digits =>
      let size : Int := baseValue 10 digits
      inWord? (if negative then -size else size)

/-! ## Floats -/

def floatExponent? (cs : List Char) : Option Int :=
  let (negative, unsigned) := Binary64.splitSign cs
  (digits? Char.isDigit unsigned).map fun digits =>
    let size : Int := baseValue 10 digits
    if negative then -size else size

/-- Splits at the first character that passes a test, which is left out. -/
def cut (p : Char → Bool) (cs : List Char) : List Char × Option (List Char) :=
  match cs.dropWhile (!p ·) with
  | [] => (cs, none)
  | _ :: rest => (cs.takeWhile (!p ·), some rest)

def unsignedFloat? (negative : Bool) (cs : List Char) : Option Float := do
  let (mantissa, exponentPart) := cut (fun c => c = 'e' || c = 'E') cs
  let (wholePart, fractionPart) := cut (· = '.') mantissa
  if exponentPart.isNone && fractionPart.isNone then none
  let whole ← decimal? wholePart
  let fraction ← match fractionPart with
    | some part => digits? Char.isDigit part
    | none => some []
  let exponent ← match exponentPart with
    | some part => floatExponent? part
    | none => some 0
  let x := Binary64.ofDecimal negative (Decimal.digitsValue (whole ++ fraction))
    (exponent - fraction.length)
  if Binary64.isFinite x then some x else none

/-- The number of a float; infinities and NaN are floats without a finite number. -/
def float? (cs : List Char) : Option (Option Number) :=
  let (negative, unsigned) := Binary64.splitSign cs
  if unsigned = ['i', 'n', 'f'] || unsigned = ['n', 'a', 'n'] then some none
  else (unsignedFloat? negative unsigned).map fun x => (FiniteDouble.ofFloat? x).map .real

/-! ## Date-times -/

/-- A number of exactly `width` digits between two bounds. -/
def field? (width low high : Nat) (cs : List Char) : Option (Nat × List Char) :=
  let digits := cs.take width
  if digits.length = width ∧ digits.all Char.isDigit ∧ low ≤ Decimal.digitsValue digits ∧
      Decimal.digitsValue digits ≤ high then
    some (Decimal.digitsValue digits, cs.drop width)
  else none

def expect? (c : Char) : List Char → Option (List Char)
  | d :: rest => if c = d then some rest else none
  | [] => none

def isLeapYear (year : Nat) : Bool := year % 4 == 0 && (year % 100 != 0 || year % 400 == 0)

def daysIn (year month : Nat) : Nat :=
  if month = 2 then if isLeapYear year then 29 else 28
  else if month = 4 || month = 6 || month = 9 || month = 11 then 30
  else 31

/-- A calendar day; gives the rest. -/
def date? (cs : List Char) : Option (List Char) := do
  let (year, cs) ← field? 4 0 9999 cs
  let cs ← expect? '-' cs
  let (month, cs) ← field? 2 1 12 cs
  let cs ← expect? '-' cs
  let (_, cs) ← field? 2 1 (daysIn year month) cs
  some cs

/-- A time of day with an optional fraction of a second; gives the rest. -/
def time? (cs : List Char) : Option (List Char) := do
  let (_, cs) ← field? 2 0 23 cs
  let cs ← expect? ':' cs
  let (_, cs) ← field? 2 0 59 cs
  let cs ← expect? ':' cs
  let (_, cs) ← field? 2 0 60 cs
  match cs with
  | '.' :: rest =>
    if (rest.takeWhile Char.isDigit).isEmpty then none else some (rest.dropWhile Char.isDigit)
  | _ => some cs

/-- A distance from universal time; gives the rest. -/
def offset? : List Char → Option (List Char)
  | 'Z' :: rest => some rest
  | 'z' :: rest => some rest
  | c :: rest =>
    if c = '+' || c = '-' then do
      let (_, cs) ← field? 2 0 23 rest
      let cs ← expect? ':' cs
      let (_, cs) ← field? 2 0 59 cs
      some cs
    else none
  | [] => some []

def isDateTime (cs : List Char) : Bool :=
  match date? cs with
  | some [] => true
  | some (c :: rest) =>
    (c = 'T' || c = 't' || c = ' ') && ((time? rest).bind offset?) == some []
  | none => time? cs == some []

/-! ## All scalars -/

/-- The tree of a scalar. A date-time is no text and no number: it stands as a number without a
value. -/
def scalar? (cs : List Char) : Option Tree :=
  if cs = "true".toList then some (.bool true)
  else if cs = "false".toList then some (.bool false)
  else if isDateTime cs then some (.number none)
  else match integer? cs with
    | some n => some (.number (some (.int n)))
    | none => (float? cs).map .number

def isScalarChar (c : Char) : Bool :=
  c.isAlphanum || c = '_' || c = '+' || c = '-' || c = '.' || c = ':'

/-- Takes the run of characters of a scalar. A date and a time may have a blank between them. -/
def takeScalar (cs : List Char) : List Char × List Char :=
  let run := cs.takeWhile isScalarChar
  let rest := cs.dropWhile isScalarChar
  match date? run, rest with
  | some [], ' ' :: c :: later =>
    if c.isDigit then
      (run ++ ' ' :: (c :: later).takeWhile isScalarChar, (c :: later).dropWhile isScalarChar)
    else (run, rest)
  | _, _ => (run, rest)

end StoryGraph.Toml
