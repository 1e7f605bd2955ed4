import StoryGraph.Toml.Tables
import StoryGraph.Fault

/-!
# Reading TOML text

Lines are headers, key-value pairs, or blank; values may span lines inside brackets. The readers
take characters and give what they read with the rest. Those that loop carry a bound on the
number of items, for which the length of the text is enough.

Main definition: `parse?`.
-/

namespace StoryGraph.Toml

/-! ## Blanks -/

def skipBlanks (cs : List Char) : List Char := cs.dropWhile fun c => c = ' ' || c = '\t'

def lineEnd? : List Char → Option (List Char)
  | '\n' :: rest => some rest
  | '\r' :: '\n' :: rest => some rest
  | _ => none

def skipComment? : List Char → Option (List Char)
  | '#' :: rest =>
    let text := rest.takeWhile (· != '\n')
    let tail := rest.dropWhile (· != '\n')
    let text := if !tail.isEmpty && text.getLast? == some '\r' then text.dropLast else text
    if text.all isOrdinary then some tail else none
  | cs => some cs

/-- The rest of a line after what stands on it: blanks and a comment. -/
def finishLine? (cs : List Char) : Option (List Char) := do
  let cs ← skipComment? (skipBlanks cs)
  if cs.isEmpty then some [] else lineEnd? cs

def skipSpace? : (bound : Nat) → List Char → Option (List Char)
  | 0, cs => some cs
  | bound + 1, cs => do
    let cs ← skipComment? (skipBlanks cs)
    match lineEnd? cs with
    | some rest => skipSpace? bound rest
    | none => some cs

/-! ## Keys -/

def isKeyChar (c : Char) : Bool := c.isAlphanum || c = '_' || c = '-'

def simpleKey? (cs : List Char) : Option (String × List Char) :=
  let bare := cs.takeWhile isKeyChar
  if bare.isEmpty then string? false cs
  else some (String.ofList bare, cs.dropWhile isKeyChar)

/-- Keys with points between them, and blanks around the points. -/
def dottedKey? : (bound : Nat) → List Char → Option (List String × List Char)
  | 0, _ => none
  | bound + 1, cs => do
    let (key, rest) ← simpleKey? (skipBlanks cs)
    match skipBlanks rest with
    | '.' :: rest =>
      let (keys, rest) ← dottedKey? bound rest
      some (key :: keys, rest)
    | rest => some ([key], rest)

/-! ## Values -/

/-- A value and what follows it. `room` bounds how deep lists and tables are nested, `bound` how
many items they have. -/
def value? (bound : Nat) : (room : Nat) → List Char → Option (Tree × List Char)
  | room, cs =>
    match cs with
    | '"' :: _ | '\'' :: _ => (string? true cs).map fun (s, rest) => (.text (some s), rest)
    | '[' :: rest =>
      match room with
      | 0 => none
      | room + 1 =>
        let rec items : Nat → List Tree → List Char → Option (Tree × List Char)
          | 0, _, _ => none
          | left + 1, reversed, cs => do
            match ← skipSpace? bound cs with
            | ']' :: rest => some (.list reversed.reverse, rest)
            | cs => do
              let (item, rest) ← value? bound room cs
              match ← skipSpace? bound rest with
              | ',' :: rest => items left (item :: reversed) rest
              | ']' :: rest => some (.list (item :: reversed).reverse, rest)
              | _ => none
        items bound [] rest
    | '\x7b' :: rest =>
      match room with
      | 0 => none
      | room + 1 =>
        let rec pairs : Nat → Entries → List Char → Option (Tree × List Char)
          | 0, _, _ => none
          | left + 1, entries, cs => do
            let (key, rest) ← dottedKey? bound cs
            let rest ← expect? '=' rest
            let (tree, rest) ← value? bound room (skipBlanks rest)
            let entries ← assign tree key entries
            match skipBlanks rest with
            | ',' :: rest => pairs left entries rest
            | '\x7d' :: rest => some (.record (entriesToMembers entries), rest)
            | _ => none
        match skipBlanks rest with
        | '\x7d' :: rest => some (.record [], rest)
        | rest => pairs bound [] rest
    | _ =>
      let (run, rest) := takeScalar cs
      (scalar? run).map (·, rest)

/-! ## Lines -/

/-- The document so far: the way to the table that pairs go to, and everything read. -/
structure Document where
  path : List String
  root : Entries

/-- A header of one kind: the way between its brackets, and the rest of its line. -/
def header? (bound : Nat) (closing : List Char) (cs : List Char) :
    Option (List String × List Char) := do
  let (path, rest) ← dottedKey? bound cs
  if closing.isPrefixOf rest then
    let rest ← finishLine? (rest.drop closing.length)
    some (path, rest)
  else none

def line? (bound : Nat) (document : Document) (cs : List Char) :
    Option (Document × List Char) := do
  match skipBlanks cs with
  | '[' :: '[' :: rest =>
    let (path, rest) ← header? bound [']', ']'] rest
    let root ← openElement path document.root
    some (⟨path, root⟩, rest)
  | '[' :: rest =>
    let (path, rest) ← header? bound [']'] rest
    let root ← openTable path document.root
    some (⟨path, root⟩, rest)
  | cs =>
    match finishLine? cs with
    | some rest => some (document, rest)
    | none =>
      let (key, rest) ← dottedKey? bound cs
      let rest ← expect? '=' rest
      let (tree, rest) ← value? bound 79 (skipBlanks rest)
      let rest ← finishLine? rest
      let root ← descend (assign tree key) document.path document.root
      some ({ document with root }, rest)

def lines? (bound : Nat) : (left : Nat) → Document → List Char → Option Document
  | _, document, [] => some document
  | 0, _, _ => none
  | left + 1, document, cs => do
    let (document, rest) ← line? bound document cs
    lines? bound left document rest

/-- A mark of the byte order may stand in front. -/
def dropByteOrderMark : List Char → List Char
  | c :: rest => if c.toNat = 0xFEFF then rest else c :: rest
  | [] => []

/-- The tree of a text: a record of its top-level keys. -/
def parse? (text : String) : Option Tree := do
  let cs := dropByteOrderMark text.toList
  let bound := cs.length + 1
  let document ← lines? bound bound ⟨[], []⟩ cs
  some (.record (entriesToMembers document.root))

end StoryGraph.Toml
