/-!
# Doubles as integers times powers of two

A finite double is `± significand · 2 ^ scale`. Everything that must be exact about doubles is
computed here from that reading, in integer arithmetic: the integral part, the rounding to
integers, the order, the remainder, and the double nearest to a fraction. Numbers inside values are
never infinite and never NaN; the type `FiniteDouble` says so.

Main definitions: `significand`, `scale`, `truncate`, `orderKey`, `nearest`, `FiniteDouble`.
-/

namespace StoryGraph

/-! ## Powers of natural numbers

Here `b ^ n` on natural numbers is always the power of core Lean, whatever more general meaning
the sign gets elsewhere. So the definitions of this library evaluate the same way everywhere.
-/

/-- Comes before every other power of natural numbers. -/
@[default_instance 20000]
instance (priority := 20000) powNat : Pow Nat Nat := instPowNat

end StoryGraph

namespace StoryGraph.Binary64

/-! ## Fields -/

def bits (x : Float) : Nat := x.toBits.toNat

/-- The sign bit; set for `-0.0` too. -/
def isNegative (x : Float) : Bool := bits x / 2 ^ 63 % 2 == 1

def exponentField (x : Float) : Nat := bits x / 2 ^ 52 % 2 ^ 11

def fractionField (x : Float) : Nat := bits x % 2 ^ 52

/-- The all-ones exponent is kept for the infinities and NaN. -/
def isFinite (x : Float) : Bool := exponentField x != 2047

/-- For a finite double: the integer whose product with `2 ^ scale x` is the magnitude. -/
def significand (x : Float) : Nat :=
  if exponentField x = 0 then fractionField x else fractionField x + 2 ^ 52

def scale (x : Float) : Int :=
  if exponentField x = 0 then -1074 else (exponentField x : Int) - 1075

/-! ## Order -/

/-- Finite doubles compare as these integers; both zeros are `0`. -/
def orderKey (x : Float) : Int :=
  let magnitude : Int := (bits x % 2 ^ 63 : Nat)
  if isNegative x then -magnitude else magnitude

/-- As `orderKey`, with `-0.0` just before `0.0`. -/
def signedOrderKey (x : Float) : Int :=
  let magnitude : Int := (bits x % 2 ^ 63 : Nat)
  if isNegative x then -magnitude - 1 else magnitude

def compare (x y : Float) : Ordering := Ord.compare (orderKey x) (orderKey y)

/-- Numeric equality of finite doubles: `-0.0` equals `0.0`. -/
def same (x y : Float) : Bool := orderKey x == orderKey y

/-! ## Integral part -/

/-- The magnitude rounded down, and whether nothing was cut off. -/
def wholePart (x : Float) : Nat × Bool :=
  match scale x with
  | .ofNat k => (significand x * 2 ^ k, true)
  | .negSucc k => (significand x / 2 ^ (k + 1), significand x % 2 ^ (k + 1) == 0)

def isIntegral (x : Float) : Bool := isFinite x && (wholePart x).2

/-- A finite double rounded toward zero. -/
def truncate (x : Float) : Int :=
  if isNegative x then -((wholePart x).1 : Int) else (wholePart x).1

def floor (x : Float) : Int :=
  if isNegative x && !(wholePart x).2 then truncate x - 1 else truncate x

def ceiling (x : Float) : Int :=
  if !isNegative x && !(wholePart x).2 then truncate x + 1 else truncate x

/-- A finite double rounded to the nearest integer, a half going away from zero. -/
def roundHalfAway (x : Float) : Int :=
  let magnitude : Nat := match scale x with
    | .ofNat k => significand x * 2 ^ k
    | .negSucc k => (significand x + 2 ^ k) / 2 ^ (k + 1)
  if isNegative x then -(magnitude : Int) else magnitude

/-- A count read from a finite double: negative numbers give `0`, numbers beyond 64 bits the
largest word. -/
def toCount (x : Float) : Nat := min (truncate x).toNat (2 ^ 64 - 1)

/-! ## Nearest double -/

/-- Bits of infinity, and one more than those of the largest finite double. -/
def infinityBits : Nat := 2047 * 2 ^ 52

/-- The quotient rounded to the nearest integer, a half going to the even neighbour. -/
def divideToEven (numerator denominator : Nat) : Nat :=
  let quotient := numerator / denominator
  let rest := numerator % denominator
  if 2 * rest < denominator then quotient
  else if 2 * rest = denominator then quotient + quotient % 2
  else quotient + 1

def multiplesOf (exponent : Int) (numerator denominator : Nat) : Nat :=
  match exponent with
  | .ofNat k => divideToEven numerator (denominator * 2 ^ k)
  | .negSucc k => divideToEven (numerator * 2 ^ (k + 1)) denominator

/-- The exponent of the grid of doubles around `numerator / denominator`: the quotient by its
power of two has 53 binary digits, unless the grid of subnormal numbers is reached first. -/
def gridExponent (numerator denominator : Nat) : Int :=
  let guess : Int := (numerator.log2 : Int) - denominator.log2 - 53
  let fits : Bool := match guess with
    | .ofNat k => numerator / (denominator * 2 ^ k) < 2 ^ 53
    | .negSucc k => numerator * 2 ^ (k + 1) / denominator < 2 ^ 53
  max (if fits then guess else guess + 1) (-1074)

/-- Bits of the non-negative double nearest to `numerator / denominator`, ties to even. Adding
the rounded significand to the exponent field lets a carry move to the next power of two. -/
def nearestBits (numerator denominator : Nat) : Nat :=
  if numerator = 0 then 0
  else
    let exponent := gridExponent numerator denominator
    min infinityBits
      ((exponent + 1074).toNat * 2 ^ 52 + multiplesOf exponent numerator denominator)

/-- The double nearest to `± numerator / denominator`; infinite when the fraction is too large. -/
def nearest (negative : Bool) (numerator denominator : Nat) : Float :=
  Float.ofBits (UInt64.ofNat
    (nearestBits numerator denominator + if negative then 2 ^ 63 else 0))

def ofInt (n : Int) : Float := nearest (n < 0) n.natAbs 1

/-! ## Remainder -/

/-- The remainder of the division that rounds toward zero, computed exactly: both numbers are
brought to the smaller scale. Meant for finite `x` and finite, non-zero `y`. -/
def remainder (x y : Float) : Float :=
  let common := min (scale x) (scale y)
  let a := significand x * 2 ^ (scale x - common).toNat
  let b := significand y * 2 ^ (scale y - common).toNat
  match common with
  | .ofNat k => nearest (isNegative x) (a % b * 2 ^ k) 1
  | .negSucc k => nearest (isNegative x) (a % b) (2 ^ (k + 1))

end StoryGraph.Binary64

namespace StoryGraph

/-! ## Finite doubles -/

/-- A double that is neither infinite nor NaN. -/
structure FiniteDouble where
  val : Float
  isFinite : Binary64.isFinite val = true

namespace FiniteDouble

def ofFloat? (x : Float) : Option FiniteDouble :=
  if h : Binary64.isFinite x = true then some ⟨x, h⟩ else none

theorem ofFloat?_val (x : FiniteDouble) : ofFloat? x.val = some x := by
  simp [ofFloat?, x.isFinite]

theorem val_of_ofFloat? {x : Float} {y : FiniteDouble} (h : ofFloat? x = some y) : y.val = x := by
  unfold ofFloat? at h
  split at h
  · exact (Option.some.inj h) ▸ rfl
  · contradiction

end FiniteDouble

end StoryGraph
