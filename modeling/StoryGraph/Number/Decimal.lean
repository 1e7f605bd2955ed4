import StoryGraph.Number.Binary64

/-!
# Decimals

Reading and writing doubles in decimal digits. A numeral is read as the double nearest to it. A
double is written by the decimal with the fewest digits that a reader rounds back to it; a `Layout`
says how the digits are set out.

Main definitions: `Decimal.naturalBelow?`, `parse?`, `shortest`, `Layout.text`.
-/

namespace StoryGraph.Decimal

def digitsValue (digits : List Char) : Nat :=
  digits.foldl (fun value c => 10 * value + (c.toNat - '0'.toNat)) 0

/-- A numeral: digits, with a plus sign allowed in front. -/
def natural? (text : List Char) : Option Nat :=
  let digits := match text with
    | '+' :: rest => rest
    | other => other
  if digits.isEmpty || !digits.all Char.isDigit then none else some (digitsValue digits)

def naturalBelow? (bound : Nat) (text : List Char) : Option Nat :=
  (natural? text).filter (· < bound)

end StoryGraph.Decimal

namespace StoryGraph.Binary64

/-! ## Reading

A numeral is an optional sign, digits with an optional point among, before or after them, and an
optional exponent; at least one digit must stand before the exponent. The words `inf`, `infinity`
and `nan` are numerals too, in any case.
-/

/-- `± digits · 10 ^ exponent`, rounded to the nearest double. The two guards keep far-off
exponents from building large powers: beyond them the result is infinite or zero. -/
def ofDecimal (negative : Bool) (digits : Nat) (exponent : Int) : Float :=
  let leading : Int := exponent + (Nat.toDigits 10 digits).length
  if digits = 0 || leading < -400 then nearest negative 0 1
  else if 400 < leading then nearest negative (10 ^ 400) 1
  else match exponent with
    | .ofNat k => nearest negative (digits * 10 ^ k) 1
    | .negSucc k => nearest negative digits (10 ^ (k + 1))

/-- A sign, if there is one, and the rest; `true` means negative. -/
def splitSign : List Char → Bool × List Char
  | '-' :: rest => (true, rest)
  | '+' :: rest => (false, rest)
  | cs => (false, cs)

/-- The exponent part: nothing, or `e` with an optional sign and at least one digit. -/
def exponent? : List Char → Option Int
  | [] => some 0
  | c :: rest =>
    if c = 'e' || c = 'E' then
      let (negative, digits) := splitSign rest
      if digits.isEmpty || !digits.all Char.isDigit then none
      else
        let size : Int := Decimal.digitsValue digits
        some (if negative then -size else size)
    else none

def parseUnsigned? (negative : Bool) (cs : List Char) : Option Float :=
  let whole := cs.takeWhile Char.isDigit
  let afterWhole := cs.dropWhile Char.isDigit
  let (fraction, tail) := match afterWhole with
    | '.' :: rest => (rest.takeWhile Char.isDigit, rest.dropWhile Char.isDigit)
    | _ => ([], afterWhole)
  if whole.isEmpty && fraction.isEmpty then none
  else (exponent? tail).map fun exponent =>
    ofDecimal negative (Decimal.digitsValue (whole ++ fraction)) (exponent - fraction.length)

def parseWord? (negative : Bool) (cs : List Char) : Option Float :=
  let word := String.ofList (cs.map Char.toLower)
  if word == "inf" || word == "infinity" then some (nearest negative (10 ^ 400) 1)
  else if word == "nan" then some (Float.ofBits (UInt64.ofNat (infinityBits + 2 ^ 51)))
  else none

/-- Reads a whole text as a numeral; nothing, not even a blank, may stand around it. -/
def parse? (text : String) : Option Float :=
  let (negative, cs) := splitSign text.toList
  (parseUnsigned? negative cs).orElse fun _ => parseWord? negative cs

/-! ## Shortest decimals

Among the decimals that a reader rounds back to a given double, the one with the fewest digits;
of several with that many digits, the nearest. A double owns an interval of reals: those nearer
to it than to its neighbours, the two end points included iff its significand is even. If a
decimal grid meets that interval, one of the two grid points around the double lies in it.
-/

/-- The decimal `digits · 10 ^ exponent`. -/
structure Decimal where
  digits : Nat
  exponent : Int
deriving DecidableEq, Repr

/-- The reals that round to a double, as numerators over one denominator. -/
structure Interval where
  low : Nat
  middle : Nat
  high : Nat
  denominator : Nat
  closed : Bool

/-- The interval of a positive finite double. Below a power of two the neighbour is half as far
away, unless both are subnormal or at the edge of that range. -/
def interval (x : Float) : Interval :=
  let m := significand x
  let below := if fractionField x = 0 ∧ 1 < exponentField x then 1 else 2
  match scale x - 2 with
  | .ofNat k => ⟨(4 * m - below) * 2 ^ k, 4 * m * 2 ^ k, (4 * m + 2) * 2 ^ k, 1, m % 2 == 0⟩
  | .negSucc k => ⟨4 * m - below, 4 * m, 4 * m + 2, 2 ^ (k + 1), m % 2 == 0⟩

def Interval.admits (i : Interval) (digits unit grain : Nat) : Bool :=
  let point := digits * unit * i.denominator
  if i.closed then i.low * grain ≤ point && point ≤ i.high * grain
  else i.low * grain < point && point < i.high * grain

/-- The point of the grid of multiples of `10 ^ exponent` that lies in the interval, the nearer of
two; an exact tie goes to the even one. -/
def Interval.gridPoint? (i : Interval) (exponent : Int) : Option Nat :=
  let unit := match exponent with | .ofNat k => 10 ^ k | .negSucc _ => 1
  let grain := match exponent with | .ofNat _ => 1 | .negSucc k => 10 ^ (k + 1)
  let whole := i.middle * grain / (unit * i.denominator)
  let rest := i.middle * grain % (unit * i.denominator)
  let lower := i.admits whole unit grain
  let upper := i.admits (whole + 1) unit grain
  if lower && upper then some (divideToEven (i.middle * grain) (unit * i.denominator))
  else if lower then some whole
  else if upper && rest != 0 then some (whole + 1)
  else none

/-- The exponent of the leading decimal digit of `middle / denominator`. The logarithm of two is
0.30103, so the estimate from the binary exponent is right or one too small. -/
def Interval.leadingExponent (i : Interval) : Int :=
  let binary : Int := (i.middle.log2 : Int) - i.denominator.log2 - 1
  let guess := binary * 78913 / (2 ^ 18 : Nat)
  let reaches (e : Int) : Bool := match e with
    | .ofNat k => 10 ^ k * i.denominator ≤ i.middle
    | .negSucc k => i.denominator ≤ i.middle * 10 ^ (k + 1)
  if reaches (guess + 1) then guess + 1 else guess

/-- Tries ever finer grids: one significant digit, then two, and so on. -/
def Interval.search (i : Interval) (leading : Int) : (count digitsSoFar : Nat) → Decimal
  | 0, digitsSoFar =>
    ⟨(i.gridPoint? (leading - digitsSoFar)).getD 0, leading - digitsSoFar⟩
  | count + 1, digitsSoFar =>
    match i.gridPoint? (leading - digitsSoFar) with
    | some digits => ⟨digits, leading - digitsSoFar⟩
    | none => i.search leading count (digitsSoFar + 1)

/-- The shortest decimal that reads back as a positive finite double. Seventeen digits always
do. -/
def shortest (x : Float) : Decimal :=
  let i := interval x
  i.search i.leadingExponent 17 0

/-! ## Writing -/

/-- How the digits of a number are set out. -/
structure Layout where
  /-- The smallest exponent of the leading digit that is written without an exponent. -/
  leastPlain : Int
  /-- The largest such exponent. -/
  greatestPlain : Int
  /-- What follows the digits of an integral number written plainly. -/
  integralTail : String
  /-- What stands before a non-negative exponent. -/
  risingMark : String
  /-- What stands before the size of a negative exponent. -/
  fallingMark : String

/-- Plain from `0.00001` to below `1e+16`, always with a fraction; otherwise one digit before the
point and a signed exponent. -/
def Layout.standard : Layout := ⟨-5, 15, ".0", "e+", "e-"⟩

def zeros (count : Nat) : String := String.ofList (List.replicate count '0')

/-- Digits with a point after the first `places` of them; no point after the last digit. -/
def pointed (digits : List Char) (places : Nat) : String :=
  if digits.length ≤ places then String.ofList digits
  else String.ofList (digits.take places) ++ "." ++ String.ofList (digits.drop places)

/-- Sets out `digits · 10 ^ exponent`, where the last digit is not a zero. -/
def Layout.write (layout : Layout) (digits : List Char) (exponent : Int) : String :=
  let leading : Int := exponent + digits.length - 1
  if leading < layout.leastPlain || layout.greatestPlain < leading then
    pointed digits 1 ++
      (if leading < 0 then layout.fallingMark else layout.risingMark) ++ toString leading.natAbs
  else if 0 ≤ exponent then
    String.ofList digits ++ zeros exponent.toNat ++ layout.integralTail
  else if 0 ≤ leading then
    pointed digits (leading.toNat + 1)
  else
    "0." ++ zeros (-leading - 1).toNat ++ String.ofList digits

/-- Drops the zeros at the end of a positive number and counts them. -/
def stripZeros : (fuel number : Nat) → Nat × Nat
  | 0, number => (number, 0)
  | fuel + 1, number =>
    if number % 10 = 0 then
      let (rest, count) := stripZeros fuel (number / 10)
      (rest, count + 1)
    else (number, 0)

def Layout.text (layout : Layout) (x : Float) : String :=
  let unsigned :=
    if significand x = 0 then "0" ++ layout.integralTail
    else
      let decimal := shortest x
      let (digits, dropped) := stripZeros 20 decimal.digits
      layout.write (Nat.toDigits 10 digits) (decimal.exponent + dropped)
  if isNegative x then "-" ++ unsigned else unsigned

end StoryGraph.Binary64
