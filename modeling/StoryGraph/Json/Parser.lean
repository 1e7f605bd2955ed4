import StoryGraph.Tree
import StoryGraph.Json.Numeral

/-!
# Reading JSON text

Two machines, one after the other, each taking one item at a time: the first groups characters
into tokens, the second arranges tokens into a tree with an explicit stack. Neither looks ahead,
so both are folds over their input.

Main definition: `parse?`.
-/

namespace StoryGraph.Json

inductive Token where
  | openList
  | closeList
  | openRecord
  | closeRecord
  | comma
  | colon
  | null
  | bool (b : Bool)
  | number (n : Option Number)
  | text (s : Option String)

/-! ## Tokens -/

/-- The inside of a string read so far. -/
structure StringSoFar where
  reversed : List Char := []
  /-- The first half of a surrogate pair, when the second must follow. -/
  high : Option Nat := none
  /-- Cleared by half a surrogate pair. -/
  sound : Bool := true

namespace StringSoFar

def push (s : StringSoFar) (c : Char) : StringSoFar :=
  ⟨c :: s.reversed, none, s.sound && s.high.isNone⟩

def pushUnit (s : StringSoFar) (unit : Nat) : StringSoFar :=
  match s.high with
  | some high =>
    if 0xDC00 ≤ unit && unit ≤ 0xDFFF then
      ⟨Char.ofNat (0x10000 + (high - 0xD800) * 0x400 + (unit - 0xDC00)) :: s.reversed, none, s.sound⟩
    else ⟨s.reversed, none, false⟩
  | none =>
    if 0xD800 ≤ unit && unit ≤ 0xDBFF then ⟨s.reversed, some unit, s.sound⟩
    else if 0xDC00 ≤ unit && unit ≤ 0xDFFF then ⟨s.reversed, none, false⟩
    else s.push (Char.ofNat unit)

def finish (s : StringSoFar) : Option String :=
  if s.sound && s.high.isNone then some (String.ofList s.reversed.reverse) else none

end StringSoFar

/-- What the lexer is in the middle of. -/
inductive Mode where
  | between
  | word (reversed : List Char)
  | numeral (reversed : List Char)
  | string (soFar : StringSoFar)
  | escape (soFar : StringSoFar)
  | hex (soFar : StringSoFar) (value count : Nat)

/-- The lexer's state: its mode, and the tokens found so far, last one first. -/
structure Lexer where
  mode : Mode
  reversed : List Token

def isNumeralChar (c : Char) : Bool :=
  c.isDigit || c = '-' || c = '+' || c = '.' || c = 'e' || c = 'E'

def isBlank (c : Char) : Bool := c = ' ' || c = '\n' || c = '\t' || c = '\r'

def hexValue? (c : Char) : Option Nat :=
  if c.isDigit then some (c.toNat - '0'.toNat)
  else if 'a' ≤ c ∧ c ≤ 'f' then some (c.toNat - 'a'.toNat + 10)
  else if 'A' ≤ c ∧ c ≤ 'F' then some (c.toNat - 'A'.toNat + 10)
  else none

def wordToken? (reversed : List Char) : Option Token :=
  match String.ofList reversed.reverse with
  | "null" => some .null
  | "true" => some (.bool true)
  | "false" => some (.bool false)
  | _ => none

/-- Ends a word or a numeral. -/
def Lexer.settle? (lexer : Lexer) : Option Lexer :=
  match lexer.mode with
  | .word reversed => (wordToken? reversed).map fun token => ⟨.between, token :: lexer.reversed⟩
  | .numeral reversed =>
    (Numeral.read? reversed.reverse).map fun n => ⟨.between, .number n :: lexer.reversed⟩
  | _ => some lexer

def Lexer.begin? (lexer : Lexer) (c : Char) : Option Lexer :=
  let one (token : Token) : Option Lexer := some ⟨.between, token :: lexer.reversed⟩
  match c with
  | '[' => one .openList
  | ']' => one .closeList
  | '\x7b' => one .openRecord
  | '\x7d' => one .closeRecord
  | ',' => one .comma
  | ':' => one .colon
  | '"' => some ⟨.string {}, lexer.reversed⟩
  | _ =>
    if isBlank c then some ⟨.between, lexer.reversed⟩
    else if c.isDigit || c = '-' then some ⟨.numeral [c], lexer.reversed⟩
    else if c.isLower then some ⟨.word [c], lexer.reversed⟩
    else none

def escaped? : Char → Option Char
  | '"' => some '"'
  | '\\' => some '\\'
  | '/' => some '/'
  | 'b' => some (Char.ofNat 8)
  | 'f' => some (Char.ofNat 12)
  | 'n' => some '\n'
  | 'r' => some '\r'
  | 't' => some '\t'
  | _ => none

def Lexer.step? (lexer : Lexer) (c : Char) : Option Lexer :=
  match lexer.mode with
  | .between => lexer.begin? c
  | .word reversed =>
    if c.isLower then some ⟨.word (c :: reversed), lexer.reversed⟩
    else lexer.settle?.bind (·.begin? c)
  | .numeral reversed =>
    if isNumeralChar c then some ⟨.numeral (c :: reversed), lexer.reversed⟩
    else lexer.settle?.bind (·.begin? c)
  | .string soFar =>
    if c = '"' then some ⟨.between, .text soFar.finish :: lexer.reversed⟩
    else if c = '\\' then some ⟨.escape soFar, lexer.reversed⟩
    else if c.toNat < 32 then none
    else some ⟨.string (soFar.push c), lexer.reversed⟩
  | .escape soFar =>
    if c = 'u' then some ⟨.hex soFar 0 0, lexer.reversed⟩
    else (escaped? c).map fun d => ⟨.string (soFar.push d), lexer.reversed⟩
  | .hex soFar value count =>
    (hexValue? c).map fun digit =>
      let value := 16 * value + digit
      if count = 3 then ⟨.string (soFar.pushUnit value), lexer.reversed⟩
      else ⟨.hex soFar value (count + 1), lexer.reversed⟩

def tokens? (text : String) : Option (List Token) := do
  let last ← text.toList.foldlM Lexer.step? ⟨.between, []⟩
  let settled ← last.settle?
  match settled.mode with
  | .between => some settled.reversed.reverse
  | _ => none

/-! ## Trees -/

/-- A list or record whose end has not been seen, with what it holds so far, last one first. -/
inductive Frame where
  | list (reversed : List Tree)
  | record (reversed : List (Option String × Tree)) (pending : Option String)

/-- What may come next. -/
inductive Expectation where
  | value
  | valueOrClose
  | name
  | nameOrClose
  | colon
  | commaOrClose
  | nothing

/-- The parser's state: the open lists and records, innermost first, what may come next, and the
finished tree once there is one. -/
structure Builder where
  frames : List Frame
  expects : Expectation
  result : Option Tree

def Builder.place (builder : Builder) (tree : Tree) : Builder :=
  match builder.frames with
  | [] => ⟨[], .nothing, some tree⟩
  | .list reversed :: frames => ⟨.list (tree :: reversed) :: frames, .commaOrClose, none⟩
  | .record reversed pending :: frames =>
    ⟨.record ((pending, tree) :: reversed) none :: frames, .commaOrClose, none⟩

def Builder.close? (builder : Builder) (isList : Bool) : Option Builder :=
  match builder.frames, isList with
  | .list reversed :: frames, true =>
    some (Builder.place { builder with frames } (.list reversed.reverse))
  | .record reversed _ :: frames, false =>
    some (Builder.place { builder with frames } (.record reversed.reverse))
  | _, _ => none

def Builder.value? (builder : Builder) : Token → Option Builder
  | .openList => some ⟨.list [] :: builder.frames, .valueOrClose, none⟩
  | .openRecord => some ⟨.record [] none :: builder.frames, .nameOrClose, none⟩
  | .null => some (builder.place .null)
  | .bool b => some (builder.place (.bool b))
  | .number n => some (builder.place (.number n))
  | .text s => some (builder.place (.text s))
  | _ => none

def Builder.name? (builder : Builder) : Token → Option Builder
  | .text s =>
    match builder.frames with
    | .record reversed _ :: frames => some ⟨.record reversed s :: frames, .colon, none⟩
    | _ => none
  | _ => none

def Builder.step? (builder : Builder) (token : Token) : Option Builder :=
  match builder.expects, token with
  | .value, _ => builder.value? token
  | .valueOrClose, .closeList => builder.close? true
  | .valueOrClose, _ => builder.value? token
  | .name, _ => builder.name? token
  | .nameOrClose, .closeRecord => builder.close? false
  | .nameOrClose, _ => builder.name? token
  | .colon, .colon => some { builder with expects := .value }
  | .commaOrClose, .comma =>
    match builder.frames with
    | .list _ :: _ => some { builder with expects := .value }
    | .record _ _ :: _ => some { builder with expects := .name }
    | [] => none
  | .commaOrClose, .closeList => builder.close? true
  | .commaOrClose, .closeRecord => builder.close? false
  | _, _ => none

/-- The tree of a text that holds one JSON value and nothing else. -/
def parse? (text : String) : Option Tree := do
  let tokens ← tokens? text
  let last ← tokens.foldlM Builder.step? ⟨[], .value, none⟩
  last.result

/-- How deep lists and records may be nested in a text. -/
def depthLimit : Nat := 127

def parseValue? (text : String) : Option Value :=
  (parse? text).bind (Tree.toValue? depthLimit)

end StoryGraph.Json
