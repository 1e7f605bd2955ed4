import StoryGraph.Number.Binary64

/-!
# Seeded chance

Draws from a ChaCha stream with twelve rounds: a 64-bit seed is stretched to the eight key words,
the block counter starts at zero and the stream number is zero. A draw takes two words.

Main definitions: `Chance.ofSeed`, `Chance.draw`.
-/

namespace StoryGraph

/-- A source of draws: the key, and the number of draws taken. -/
structure Chance where
  key : List UInt32
  drawn : Nat
deriving DecidableEq

namespace Chance

/-! ## Key -/

def rotateLeft (x : UInt32) (n : UInt32) : UInt32 := (x <<< n) ||| (x >>> (32 - n))

/-- Rotation by zero to 31 places; shifts take their amount modulo 32. -/
def rotateRight (x : UInt32) (n : UInt32) : UInt32 := (x >>> n) ||| (x <<< (32 - n))

/-- One step of the congruential generator that stretches the seed. -/
def advance (state : UInt64) : UInt64 := state * 6364136223846793005 + 11634580027462260723

/-- The key word of a state: its high bits mixed, then rotated by its highest five. -/
def keyWord (state : UInt64) : UInt32 :=
  let mixed := (((state >>> 18) ^^^ state) >>> 27).toUInt32
  rotateRight mixed (state >>> 59).toUInt32

def keyWords : (count : Nat) → UInt64 → List UInt32
  | 0, _ => []
  | count + 1, state => keyWord (advance state) :: keyWords count (advance state)

def ofSeed (seed : UInt64) : Chance := ⟨keyWords 8 seed, 0⟩

/-! ## Blocks -/

/-- Four words of a block. -/
structure Row where
  a : UInt32
  b : UInt32
  c : UInt32
  d : UInt32

/-- The quarter round on one word of each row. -/
def quarterRound (a b c d : UInt32) : UInt32 × UInt32 × UInt32 × UInt32 :=
  let a := a + b
  let d := rotateLeft (d ^^^ a) 16
  let c := c + d
  let b := rotateLeft (b ^^^ c) 12
  let a := a + b
  let d := rotateLeft (d ^^^ a) 8
  let c := c + d
  let b := rotateLeft (b ^^^ c) 7
  (a, b, c, d)

/-- The sixteen words of a block, as four rows. -/
structure Block where
  r0 : Row
  r1 : Row
  r2 : Row
  r3 : Row

def Block.columns (s : Block) : Block :=
  let (a0, b0, c0, d0) := quarterRound s.r0.a s.r1.a s.r2.a s.r3.a
  let (a1, b1, c1, d1) := quarterRound s.r0.b s.r1.b s.r2.b s.r3.b
  let (a2, b2, c2, d2) := quarterRound s.r0.c s.r1.c s.r2.c s.r3.c
  let (a3, b3, c3, d3) := quarterRound s.r0.d s.r1.d s.r2.d s.r3.d
  ⟨⟨a0, a1, a2, a3⟩, ⟨b0, b1, b2, b3⟩, ⟨c0, c1, c2, c3⟩, ⟨d0, d1, d2, d3⟩⟩

/-- Turns the rows so that diagonals become columns. -/
def Block.skew (s : Block) : Block :=
  ⟨s.r0, ⟨s.r1.b, s.r1.c, s.r1.d, s.r1.a⟩, ⟨s.r2.c, s.r2.d, s.r2.a, s.r2.b⟩,
    ⟨s.r3.d, s.r3.a, s.r3.b, s.r3.c⟩⟩

def Block.unskew (s : Block) : Block :=
  ⟨s.r0, ⟨s.r1.d, s.r1.a, s.r1.b, s.r1.c⟩, ⟨s.r2.c, s.r2.d, s.r2.a, s.r2.b⟩,
    ⟨s.r3.b, s.r3.c, s.r3.d, s.r3.a⟩⟩

def Block.doubleRound (s : Block) : Block := s.columns.skew.columns.unskew

def Block.rounds : (count : Nat) → Block → Block
  | 0, s => s
  | count + 1, s => Block.rounds count s.doubleRound

def Row.add (x y : Row) : Row := ⟨x.a + y.a, x.b + y.b, x.c + y.c, x.d + y.d⟩

def Row.toList (x : Row) : List UInt32 := [x.a, x.b, x.c, x.d]

/-- The start of a block: constants, key, and the block's number. -/
def startBlock (key : List UInt32) (number : UInt64) : Block :=
  let word (i : Nat) : UInt32 := key.getD i 0
  ⟨⟨0x61707865, 0x3320646e, 0x79622d32, 0x6b206574⟩,
    ⟨word 0, word 1, word 2, word 3⟩, ⟨word 4, word 5, word 6, word 7⟩,
    ⟨number.toUInt32, (number >>> 32).toUInt32, 0, 0⟩⟩

def blockWords (key : List UInt32) (number : UInt64) : List UInt32 :=
  let start := startBlock key number
  let mixed := Block.rounds 6 start
  (mixed.r0.add start.r0).toList ++ (mixed.r1.add start.r1).toList ++
    (mixed.r2.add start.r2).toList ++ (mixed.r3.add start.r3).toList

/-! ## Draws -/

/-- The pair of words of the next draw, low word first. -/
def nextWord (chance : Chance) : UInt64 :=
  let words := blockWords chance.key (UInt64.ofNat (chance.drawn / 8))
  let position := chance.drawn % 8 * 2
  (words.getD position 0).toUInt64 ||| ((words.getD (position + 1) 0).toUInt64 <<< 32)

/-- A number from zero up to but without one: the 53 high bits of the next pair of words. -/
def draw (chance : Chance) : Float × Chance :=
  (Binary64.nearest false (chance.nextWord.toNat / 2 ^ 11) (2 ^ 53),
    { chance with drawn := chance.drawn + 1 })

end Chance

end StoryGraph
