import StoryGraph.Toml.Scalar

/-!
# TOML strings

Four kinds: basic and literal, each on one line or on several. Basic strings have escapes,
literal strings have none. Each reader starts after the opening quotes and gives the content and
the rest.

Main definition: `string?`.
-/

namespace StoryGraph.Toml

/-- Characters that may stand in a string or a comment: no controls but the tab. -/
def isOrdinary (c : Char) : Bool := c = '\t' || (32 ≤ c.toNat && c.toNat ≠ 127)

def scalarValue? (cs : List Char) : Option Char :=
  if cs.all isHexDigit then
    let code := baseValue 16 cs
    if code < 0xD800 || (0xDFFF < code && code < 0x110000) then some (Char.ofNat code) else none
  else none

def escaped? : Char → Option Char
  | 'b' => some (Char.ofNat 8)
  | 't' => some '\t'
  | 'n' => some '\n'
  | 'f' => some (Char.ofNat 12)
  | 'r' => some '\r'
  | '"' => some '"'
  | '\\' => some '\\'
  | _ => none

/-- Content read so far, last character first, and what follows the string. -/
abbrev Reading := Option (List Char × List Char)

def basic (content : List Char) : List Char → Reading
  | [] => none
  | '"' :: rest => some (content, rest)
  | '\\' :: 'u' :: a :: b :: c :: d :: rest =>
    match scalarValue? [a, b, c, d] with
    | some x => basic (x :: content) rest
    | none => none
  | '\\' :: 'U' :: a :: b :: c :: d :: e :: f :: g :: h :: rest =>
    match scalarValue? [a, b, c, d, e, f, g, h] with
    | some x => basic (x :: content) rest
    | none => none
  | '\\' :: c :: rest =>
    match escaped? c with
    | some x => basic (x :: content) rest
    | none => none
  | c :: rest => if isOrdinary c && c != '\\' then basic (c :: content) rest else none

def literal (content : List Char) : List Char → Reading
  | [] => none
  | '\'' :: rest => some (content, rest)
  | c :: rest => if isOrdinary c then literal (c :: content) rest else none

/-- Where a backslash at the end of a line has led: nowhere, to blanks before the line's end, or
to blanks after it. -/
inductive Gap where
  | none
  | toLineEnd
  | afterLineEnd

/-- Two more quotes may stand before the closing ones. -/
def longBasic : Gap → (content : List Char) → List Char → Reading
  | _, _, [] => none
  | .toLineEnd, content, '\r' :: '\n' :: rest => longBasic .afterLineEnd content rest
  | .toLineEnd, content, c :: rest =>
    if c = '\n' then longBasic .afterLineEnd content rest
    else if c = ' ' || c = '\t' then longBasic .toLineEnd content rest
    else none
  | _, content, '"' :: '"' :: '"' :: '"' :: '"' :: rest => some ('"' :: '"' :: content, rest)
  | _, content, '"' :: '"' :: '"' :: '"' :: rest => some ('"' :: content, rest)
  | _, content, '"' :: '"' :: '"' :: rest => some (content, rest)
  | .afterLineEnd, content, '\r' :: '\n' :: rest => longBasic .afterLineEnd content rest
  | .none, content, '\r' :: '\n' :: rest => longBasic .none ('\n' :: content) rest
  | _, content, '\\' :: 'u' :: a :: b :: c :: d :: rest =>
    match scalarValue? [a, b, c, d] with
    | some x => longBasic .none (x :: content) rest
    | none => none
  | _, content, '\\' :: 'U' :: a :: b :: c :: d :: e :: f :: g :: h :: rest =>
    match scalarValue? [a, b, c, d, e, f, g, h] with
    | some x => longBasic .none (x :: content) rest
    | none => none
  | _, content, '\\' :: '\r' :: '\n' :: rest => longBasic .afterLineEnd content rest
  | _, content, '\\' :: c :: rest =>
    match escaped? c with
    | some x => longBasic .none (x :: content) rest
    | none =>
      if c = '\n' then longBasic .afterLineEnd content rest
      else if c = ' ' || c = '\t' then longBasic .toLineEnd content rest
      else none
  | gap, content, c :: rest =>
    match gap with
    | .afterLineEnd =>
      if c = ' ' || c = '\t' || c = '\n' then longBasic .afterLineEnd content rest
      else if isOrdinary c && c != '\\' then longBasic .none (c :: content) rest
      else none
    | _ =>
      if c = '\n' || (isOrdinary c && c != '\\') then longBasic .none (c :: content) rest
      else none

def longLiteral (content : List Char) : List Char → Reading
  | [] => none
  | '\'' :: '\'' :: '\'' :: '\'' :: '\'' :: rest => some ('\'' :: '\'' :: content, rest)
  | '\'' :: '\'' :: '\'' :: '\'' :: rest => some ('\'' :: content, rest)
  | '\'' :: '\'' :: '\'' :: rest => some (content, rest)
  | '\r' :: '\n' :: rest => longLiteral ('\n' :: content) rest
  | c :: rest => if c = '\n' || isOrdinary c then longLiteral (c :: content) rest else none

/-- A line end right after the opening quotes does not count. -/
def dropLineEnd : List Char → List Char
  | '\n' :: rest => rest
  | '\r' :: '\n' :: rest => rest
  | cs => cs

/-- A string of any kind that begins here, or of the two short kinds only. -/
def string? (allowLong : Bool) (cs : List Char) : Option (String × List Char) :=
  let reading : Reading := match allowLong, cs with
    | true, '"' :: '"' :: '"' :: rest => longBasic .none [] (dropLineEnd rest)
    | true, '\'' :: '\'' :: '\'' :: rest => longLiteral [] (dropLineEnd rest)
    | _, '"' :: rest => basic [] rest
    | _, '\'' :: rest => literal [] rest
    | _, _ => none
  reading.map fun (content, rest) => (String.ofList content.reverse, rest)

end StoryGraph.Toml
