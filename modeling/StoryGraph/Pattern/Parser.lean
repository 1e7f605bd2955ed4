import StoryGraph.Pattern.Node
import StoryGraph.Number.Decimal
import StoryGraph.Text.Script
import StoryGraph.Text.Property

/-!
# Pattern texts

The syntax of patterns: literals, classes, anchors, groups with flags and names, repetitions and
choices. There is no look-around and there are no references back to a group.

Escapes and classes are read by functions that take characters and give the rest. Groups are kept
on a stack, so the main loop only goes forward.

Main definition: `parse?`.
-/

namespace StoryGraph.Pattern

/-! ## Flags -/

structure Flags where
  ignoreCase : Bool := false
  multiLine : Bool := false
  dotAll : Bool := false
  swapGreed : Bool := false
  unicode : Bool := true
  anyLineEnd : Bool := false
  verbose : Bool := false

def Flags.set? (flags : Flags) (letter : Char) (on : Bool) : Option Flags :=
  match letter with
  | 'i' => some { flags with ignoreCase := on }
  | 'm' => some { flags with multiLine := on }
  | 's' => some { flags with dotAll := on }
  | 'U' => some { flags with swapGreed := on }
  | 'u' => some { flags with unicode := on }
  | 'R' => some { flags with anyLineEnd := on }
  | 'x' => some { flags with verbose := on }
  | _ => none

/-- Reads flag letters up to a colon or a closing bracket, which is left in place. No letter and
no minus may come twice, and a minus must be followed by a letter. -/
def readFlags? (flags : Flags) (on : Bool) (seen : List Char) :
    List Char → Option (Flags × List Char)
  | [] => none
  | c :: rest =>
    if c = ':' || c = ')' then
      if seen.head? == some '-' then none else some (flags, c :: rest)
    else if seen.contains c then none
    else if c = '-' then readFlags? flags false (c :: seen) rest
    else match flags.set? c on with
      | some flags => readFlags? flags on (c :: seen) rest
      | none => none

/-! ## Blanks in verbose patterns -/

def skipVerbose : (inComment : Bool) → List Char → List Char
  | _, [] => []
  | true, c :: rest => skipVerbose (c != '\n') rest
  | false, c :: rest =>
    if Text.isBlank c then skipVerbose false rest
    else if c = '#' then skipVerbose true rest
    else c :: rest

/-- In a verbose pattern blanks do not count. -/
def skip (flags : Flags) (cs : List Char) : List Char :=
  if flags.verbose then skipVerbose false cs else cs

/-! ## Literals and classes by name -/

def literal (flags : Flags) (c : Char) : Node :=
  if !flags.ignoreCase then .chars (.single c)
  else if flags.unicode then .chars (.anyCase (.single c))
  else if c.toNat < 128 then .chars (.anyAsciiCase (.single c))
  else .chars (.single c)

def foldCase (flags : Flags) (members : CharClass) : CharClass :=
  if !flags.ignoreCase then members
  else if flags.unicode then .anyCase members
  else .anyAsciiCase members

def negateIf (negated : Bool) (members : CharClass) : CharClass :=
  if negated then .complement members else members

/-- Names are compared without blanks, underscores, hyphens, case and a leading `is`. -/
def looseName (name : List Char) : String :=
  let letters := (name.filter fun c => !(c = ' ' || c = '_' || c = '-')).map Char.toLower
  match letters with
  | ['i', 's', 'c'] => "isc"
  | 'i' :: 's' :: rest => String.ofList rest
  | _ => String.ofList letters

def namedIn? (sets : List Text.NamedSet) (name : String) : Option CharClass :=
  (sets.find? (·.names.contains name)).map fun set => .property set.members

/-- A general category, a group of categories, or one of three special names. -/
def category? (name : String) : Option CharClass :=
  if name = "any" then some .all
  else if name = "assigned" then (namedIn? Text.categories "cn").map .complement
  else if name = "ascii" then some (.range (Char.ofNat 0) (Char.ofNat 0x7F))
  else match Text.categoryGroups.find? (·.1.contains name) with
    | some (_, members) =>
      some (.unionOf (members.filterMap (namedIn? Text.categories)))
    | none => namedIn? Text.categories name

/-- A class named alone. Three short names mean categories though properties have them too. -/
def propertyAlone? (name : String) : Option CharClass :=
  let categoryOrScript := (category? name).orElse fun _ => namedIn? Text.scripts name
  if name = "cf" || name = "sc" || name = "lc" then categoryOrScript
  else (namedIn? Text.properties name).orElse fun _ => categoryOrScript

def propertyValue? (name value : String) : Option CharClass :=
  if name = "gc" || name = "generalcategory" then category? value
  else if name = "sc" || name = "script" || name = "scx" || name = "scriptextensions" then
    namedIn? Text.scripts value
  else none

def splitAt? (mark : List Char) : (before : List Char) → List Char → Option (List Char × List Char)
  | _, [] => none
  | before, c :: rest =>
    if mark.isPrefixOf (c :: rest) then some (before.reverse, (c :: rest).drop mark.length)
    else splitAt? mark (c :: before) rest

/-- The class that stands between the braces of a property escape, and whether it is negated. -/
def property? (text : List Char) : Option (Bool × CharClass) :=
  match splitAt? ['!', '='] [] text with
  | some (name, value) => (propertyValue? (looseName name) (looseName value)).map (true, ·)
  | none =>
    match (splitAt? [':'] [] text).orElse fun _ => splitAt? ['='] [] text with
    | some (name, value) => (propertyValue? (looseName name) (looseName value)).map (false, ·)
    | none => (propertyAlone? (looseName text)).map (false, ·)

/-! ## Escapes -/

/-- What an escape stands for. -/
inductive Escape where
  | literal (c : Char)
  | members (members : CharClass)
  | look (condition : Look)

def hexValue? (c : Char) : Option Nat :=
  if c.isDigit then some (c.toNat - '0'.toNat)
  else if 'a' ≤ c ∧ c ≤ 'f' then some (c.toNat - 'a'.toNat + 10)
  else if 'A' ≤ c ∧ c ≤ 'F' then some (c.toNat - 'A'.toNat + 10)
  else none

def scalar? (code : Nat) : Option Char :=
  if code < 0xD800 || (0xDFFF < code && code < 0x110000) then some (Char.ofNat code) else none

def hexDigits? (flags : Flags) : (count value : Nat) → List Char → Option (Nat × List Char)
  | 0, value, cs => some (value, cs)
  | count + 1, value, cs =>
    match skip flags cs with
    | [] => none
    | c :: rest => (hexValue? c).bind fun digit => hexDigits? flags count (16 * value + digit) rest

/-- Takes characters up to a closing brace, leaving out blanks of verbose patterns. -/
def braced? (flags : Flags) : (bound : Nat) → (taken : List Char) → List Char →
    Option (List Char × List Char)
  | 0, _, _ => none
  | bound + 1, taken, cs =>
    match skip flags cs with
    | [] => none
    | '\x7d' :: rest => some (taken.reverse, rest)
    | c :: rest => braced? flags bound (c :: taken) rest

/-- A code point in hexadecimal, with a fixed number of digits or in braces. Without Unicode a
two-digit one is a byte, and a byte beyond ASCII is no character. -/
def hexEscape? (flags : Flags) (count : Nat) (cs : List Char) : Option (Escape × List Char) := do
  let (code, rest, isByte) ← match skip flags cs with
    | '\x7b' :: rest => do
      let (digits, rest) ← braced? flags (rest.length + 1) [] rest
      if digits.isEmpty then none
      let values ← digits.mapM hexValue?
      some (values.foldl (fun code digit => 16 * code + digit) 0, skip flags rest, false)
    | cs => do
      let (code, rest) ← hexDigits? flags count 0 cs
      some (code, skip flags rest, count == 2)
  let c ← scalar? code
  if isByte && !flags.unicode && 128 ≤ code then none
  some (.literal c, rest)

def propertyEscape? (flags : Flags) (negated : Bool) (cs : List Char) :
    Option (Escape × List Char) := do
  let (text, rest) ← match skip flags cs with
    | '\x7b' :: rest => braced? flags (rest.length + 1) [] rest
    | '\\' :: _ => none
    | c :: rest => some ([c], skip flags rest)
    | [] => none
  if !flags.unicode then none
  let (flipped, members) ← property? text
  some (.members (negateIf (negated != flipped) (foldCase flags members)), rest)

/-- A named class escape. Without Unicode its complement would hold bytes that are no
characters. -/
def classEscape? (flags : Flags) (negated : Bool) (members : Bool → CharClass) : Option Escape :=
  if negated && !flags.unicode then none
  else some (.members (negateIf negated (members flags.unicode)))

/-- Characters with a meaning in patterns; they may always be escaped. -/
def isMeta (c : Char) : Bool := "\\.+*?()|[]\x7b\x7d^$#&-~".toList.contains c

/-- The condition between the braces after `\b`, if the brace begins one. A brace that is not
followed by a letter or a hyphen belongs to a repetition. The outer level is the syntax. -/
def specialBoundary? (flags : Flags) (cs : List Char) : Option (Option (Look × List Char)) :=
  let isNameChar (c : Char) : Bool := c.isAlpha || c = '-'
  match cs with
  | '\x7b' :: rest =>
    match skip flags rest with
    | [] => none
    | c :: _ =>
      if !isNameChar c then some none
      else match braced? flags (rest.length + 1) [] rest with
        | none => none
        | some (name, rest) =>
          match String.ofList name with
          | "start" => some (some (.wordStart flags.unicode, rest))
          | "end" => some (some (.wordStop flags.unicode, rest))
          | "start-half" => some (some (.halfWordStart flags.unicode, rest))
          | "end-half" => some (some (.halfWordStop flags.unicode, rest))
          | _ => none
  | _ => some none

def escape? (flags : Flags) : List Char → Option (Escape × List Char)
  | [] => none
  | c :: rest =>
    match c with
    | 'x' => hexEscape? flags 2 rest
    | 'u' => hexEscape? flags 4 rest
    | 'U' => hexEscape? flags 8 rest
    | 'p' => propertyEscape? flags false rest
    | 'P' => propertyEscape? flags true rest
    | 'd' => (classEscape? flags false .digit).map (·, rest)
    | 'D' => (classEscape? flags true .digit).map (·, rest)
    | 's' => (classEscape? flags false .blank).map (·, rest)
    | 'S' => (classEscape? flags true .blank).map (·, rest)
    | 'w' => (classEscape? flags false .word).map (·, rest)
    | 'W' => (classEscape? flags true .word).map (·, rest)
    | 'a' => some (.literal (Char.ofNat 7), rest)
    | 'f' => some (.literal (Char.ofNat 12), rest)
    | 't' => some (.literal '\t', rest)
    | 'n' => some (.literal '\n', rest)
    | 'r' => some (.literal '\r', rest)
    | 'v' => some (.literal (Char.ofNat 11), rest)
    | 'A' => some (.look .start, rest)
    | 'z' => some (.look .stop, rest)
    | 'B' => some (.look (.noWordBoundary flags.unicode), rest)
    | '<' => some (.look (.wordStart flags.unicode), rest)
    | '>' => some (.look (.wordStop flags.unicode), rest)
    | 'b' =>
      match specialBoundary? flags rest with
      | none => none
      | some none => some (.look (.wordBoundary flags.unicode), rest)
      | some (some (look, rest)) => some (.look look, rest)
    | _ =>
      if isMeta c || (c.toNat < 128 && !c.isAlphanum) then some (.literal c, rest) else none

/-! ## Bracketed classes -/

inductive SetOperation where
  | intersection
  | difference
  | symmetricDifference

/-- What is unfinished around the innermost set. -/
inductive ClassFrame where
  /-- A bracket, with what its surroundings hold so far. -/
  | bracket (surroundings : CharClass) (negated : Bool)
  | operation (kind : SetOperation) (left : CharClass)

/-- Combines two sets; case is ignored in each of them first. -/
def combine (flags : Flags) (kind : SetOperation) (left right : CharClass) : CharClass :=
  let left := foldCase flags left
  let right := foldCase flags right
  match kind with
  | .intersection => .intersection left right
  | .difference => .difference left right
  | .symmetricDifference => .symmetricDifference left right

def finishOperation (flags : Flags) (members : CharClass) :
    List ClassFrame → CharClass × List ClassFrame
  | .operation kind left :: frames => (combine flags kind left members, frames)
  | frames => (members, frames)

def leadingHyphens (flags : Flags) : (bound : Nat) → (members : CharClass) → List Char →
    CharClass × List Char
  | 0, members, cs => (members, cs)
  | bound + 1, members, cs =>
    match cs with
    | '-' :: rest =>
      leadingHyphens flags bound (.union members (.single '-')) (skip flags rest)
    | _ => (members, cs)

/-- The beginning of a bracket after its opening sign: negation, hyphens, and a closing bracket
that counts as a member because it stands first. The rest must not be empty. -/
def openBracket? (flags : Flags) (cs : List Char) : Option (Bool × CharClass × List Char) :=
  let cs := skip flags cs
  let (negated, cs) := match cs with
    | '^' :: rest => (true, skip flags rest)
    | _ => (false, cs)
  let (members, cs) := leadingHyphens flags (cs.length + 1) .empty cs
  match members, cs with
  | .empty, ']' :: rest =>
    let rest := skip flags rest
    if rest.isEmpty then none else some (negated, .single ']', rest)
  | _, [] => none
  | _, _ => some (negated, members, cs)

def asciiClass? (flags : Flags) : List Char → Option (CharClass × List Char)
  | ':' :: rest =>
    let (negated, rest) := match rest with
      | '^' :: rest => (true, rest)
      | _ => (false, rest)
    match rest.dropWhile (· != ':') with
    | ':' :: ']' :: after =>
      (CharClass.ascii? (String.ofList (rest.takeWhile (· != ':')))).map fun members =>
        (negateIf negated (foldCase flags members), after)
    | _ => none
  | _ => none

/-- One member of a bracket: a character, or a class escape. -/
def classItem? (flags : Flags) : List Char → Option (Escape × List Char)
  | '\\' :: rest => escape? flags rest
  | c :: rest => some (.literal c, rest)
  | [] => none

/-- A character may be a member without Unicode only if it is ASCII. -/
def classLiteral? (flags : Flags) : Escape → Option Char
  | .literal c => if flags.unicode || c.toNat < 128 then some c else none
  | _ => none

/-- A member or a range of a bracket. A hyphen before a closing bracket or before another hyphen
makes no range. -/
def classRange? (flags : Flags) (cs : List Char) : Option (CharClass × List Char) := do
  let (first, rest) ← classItem? flags cs
  let rest := skip flags rest
  let alone : Option (CharClass × List Char) := match first with
    | .members members => some (members, rest)
    | .literal _ => (classLiteral? flags first).map fun c => (.single c, rest)
    | .look _ => none
  match rest with
  | [] => none
  | '-' :: afterHyphen =>
    match skip flags afterHyphen with
    | ']' :: _ => alone
    | '-' :: _ => alone
    | [] => none
    | afterHyphen =>
      let (second, rest) ← classItem? flags afterHyphen
      let low ← classLiteral? flags first
      let high ← classLiteral? flags second
      if low ≤ high then some (.range low high, rest) else none
  | _ => alone

/-- Reads a bracketed class after its opening sign. `members` is what the innermost set holds so
far. -/
def classLoop? (flags : Flags) : (bound : Nat) → List ClassFrame → (members : CharClass) →
    List Char → Option (CharClass × List Char)
  | 0, _, _, _ => none
  | bound + 1, frames, members, cs =>
    let operate (kind : SetOperation) (rest : List Char) : Option (CharClass × List Char) :=
      let (left, frames) := finishOperation flags members frames
      classLoop? flags bound (.operation kind left :: frames) .empty rest
    match skip flags cs with
    | [] => none
    | '[' :: rest =>
      match asciiClass? flags rest with
      | some (named, rest) => classLoop? flags bound frames (.union members named) rest
      | none =>
        if Node.depthLimit < frames.length then none
        else match openBracket? flags rest with
          | none => none
          | some (negated, inner, rest) =>
            classLoop? flags bound (.bracket members negated :: frames) inner rest
    | ']' :: rest =>
      match finishOperation flags members frames with
      | (members, .bracket surroundings negated :: frames) =>
        let closed := negateIf negated (foldCase flags members)
        if frames.isEmpty then some (closed, rest)
        else classLoop? flags bound frames (.union surroundings closed) rest
      | _ => none
    | '&' :: '&' :: rest => operate .intersection rest
    | '-' :: '-' :: rest => operate .difference rest
    | '~' :: '~' :: rest => operate .symmetricDifference rest
    | cs =>
      match classRange? flags cs with
      | none => none
      | some (item, rest) => classLoop? flags bound frames (.union members item) rest

/-- A bracketed class after its opening sign. Without Unicode it must be within ASCII. -/
def bracketed? (flags : Flags) (cs : List Char) : Option (Node × List Char) := do
  let (negated, members, rest) ← openBracket? flags cs
  let (members, rest) ← classLoop? flags (cs.length + 1) [.bracket .empty negated] members rest
  if flags.unicode || members.isAscii then some (.chars members, rest) else none

/-! ## Groups and repetitions -/

/-- A part of a sequence. A flag setting is a part that cannot be repeated. -/
inductive Part where
  | setting
  | node (node : Node)

def Part.toNode : Part → Node
  | setting => .empty
  | node n => n

/-- A sequence of parts, the last one first. -/
def sequenceOf : List Part → Node
  | [] => .empty
  | [part] => part.toNode
  | reversed => .sequence (reversed.reverse.map Part.toNode)

def choiceOf : List Node → Node
  | [branch] => branch
  | reversed => .choice reversed.reverse

/-- An unfinished group: what surrounds it, and how it will be closed. -/
structure GroupFrame where
  capture : Option Nat
  flags : Flags
  parts : List Part
  branches : List Node

structure Parser where
  flags : Flags
  frames : List GroupFrame := []
  /-- The parts of the current sequence, last one first. -/
  parts : List Part := []
  /-- The finished branches of the current choice, last one first. -/
  branches : List Node := []
  /-- How many captures there are; the whole match is capture zero. -/
  captures : Nat := 1
  names : List (String × Nat) := []

namespace Parser

def add (parser : Parser) (node : Node) : Parser :=
  { parser with parts := .node node :: parser.parts }

/-- The node of everything since the current group was opened. -/
def current (parser : Parser) : Node := choiceOf (sequenceOf parser.parts :: parser.branches)

def openGroup (parser : Parser) (capture : Option Nat) (flags : Flags) : Parser :=
  { parser with
    flags
    frames := ⟨capture, parser.flags, parser.parts, parser.branches⟩ :: parser.frames
    parts := []
    branches := [] }

def openCapture (parser : Parser) : Parser :=
  { parser.openGroup (some parser.captures) parser.flags with captures := parser.captures + 1 }

/-- Closes the innermost group; its flags end with it. -/
def closeGroup? (parser : Parser) : Option Parser :=
  match parser.frames with
  | [] => none
  | frame :: frames =>
    let inner := parser.current
    let node := match frame.capture with
      | some index => .capture index inner
      | none => .group inner
    some { parser with
      flags := frame.flags, frames, parts := .node node :: frame.parts,
      branches := frame.branches }

def endBranch (parser : Parser) : Parser :=
  { parser with parts := [], branches := sequenceOf parser.parts :: parser.branches }

/-- Repeats the last part. A question mark after the operator swaps the preference. -/
def repeatLast? (parser : Parser) (least : Nat) (most : Option Nat) (greedy : Bool) :
    Option Parser :=
  match parser.parts with
  | .node inner :: parts =>
    let repeated : Node :=
      .repetition inner least most (greedy != parser.flags.swapGreed)
    some { parser with parts := .node repeated :: parts }
  | _ => none

end Parser

def lazyMark : List Char → Bool × List Char
  | '?' :: rest => (false, rest)
  | cs => (true, cs)

/-- Decimal digits, with blanks around them, that fit 32 bits. The outer level is the syntax, the
inner one tells whether there are digits. -/
def decimal? (flags : Flags) (cs : List Char) : Option (Option Nat) × List Char :=
  let rec digits : List Char → List Char × List Char
    | [] => ([], [])
    | c :: rest =>
      if c.isDigit then
        let (more, rest) := digits rest
        (c :: more, rest)
      else if flags.verbose && Text.isBlank c then digits rest
      else ([], c :: rest)
  let (taken, rest) := digits (cs.dropWhile Text.isBlank)
  let rest := skip flags (rest.dropWhile Text.isBlank)
  let value := Decimal.digitsValue taken
  if taken.isEmpty then (some none, rest)
  else if value < 2 ^ 32 then (some (some value), rest)
  else (none, rest)

def bounds? (flags : Flags) (cs : List Char) : Option (Nat × Option Nat × List Char) := do
  let (least, rest) := decimal? flags (skip flags cs)
  let least ← (← least)
  match rest with
  | '\x7d' :: rest => some (least, some least, rest)
  | ',' :: rest =>
    match skip flags rest with
    | '\x7d' :: rest => some (least, none, rest)
    | rest =>
      let (most, rest) := decimal? flags rest
      let most ← (← most)
      match rest with
      | '\x7d' :: rest => if least ≤ most then some (least, some most, rest) else none
      | _ => none
  | _ => none

def isNameChar (isFirst : Bool) (c : Char) : Bool :=
  if isFirst then c = '_' || Text.isAlphabetic c
  else c = '_' || c = '.' || c = '[' || c = ']' || Text.isAlphanumeric c

def captureName? (cs : List Char) : Option (String × List Char) :=
  let name := cs.takeWhile (· != '>')
  match name, cs.dropWhile (· != '>') with
  | c :: more, '>' :: rest =>
    if isNameChar true c && more.all (isNameChar false) then some (String.ofList name, rest)
    else none
  | _, _ => none

def openNamed? (parser : Parser) (cs : List Char) : Option (Parser × List Char) := do
  let (name, rest) ← captureName? cs
  if parser.names.any (·.1 == name) then none
  some ({ parser.openCapture with names := parser.names ++ [(name, parser.captures)] }, rest)

def group? (parser : Parser) (cs : List Char) : Option (Parser × List Char) :=
  match skip parser.flags cs with
  | '?' :: '=' :: _ => none
  | '?' :: '!' :: _ => none
  | '?' :: '<' :: '=' :: _ => none
  | '?' :: '<' :: '!' :: _ => none
  | '?' :: 'P' :: '<' :: rest => openNamed? parser rest
  | '?' :: '<' :: rest => openNamed? parser rest
  | '?' :: rest =>
    match readFlags? parser.flags true [] rest with
    | some (flags, ')' :: after) =>
      if rest.head? == some ')' then none
      else some ({ parser with flags, parts := .setting :: parser.parts }, after)
    | some (flags, ':' :: after) => some (parser.openGroup none flags, after)
    | _ => none
  | cs => some (parser.openCapture, cs)

/-! ## The main loop -/

/-- Any character but those that end a line, unless they count too. -/
def dot? (flags : Flags) : Option Node :=
  if !flags.unicode then none
  else if flags.dotAll then some (.chars .all)
  else if flags.anyLineEnd then
    some (.chars (.complement (.union (.single '\n') (.single '\r'))))
  else some (.chars (.complement (.single '\n')))

def lineStart (flags : Flags) : Look :=
  if !flags.multiLine then .start else if flags.anyLineEnd then .anyLineStart else .lineStart

def lineStop (flags : Flags) : Look :=
  if !flags.multiLine then .stop else if flags.anyLineEnd then .anyLineStop else .lineStop

def escapePart? (flags : Flags) (cs : List Char) : Option (Node × List Char) :=
  (escape? flags cs).map fun (escape, rest) =>
    match escape with
    | .literal c => (literal flags c, rest)
    | .members members => (.chars members, rest)
    | .look look => (.look look, rest)

/-- Takes the next part of the text, which is not empty. -/
def Parser.step? (parser : Parser) (c : Char) (rest : List Char) : Option (Parser × List Char) :=
  let flags := parser.flags
  let repeated (least : Nat) (most : Option Nat) : Option (Parser × List Char) :=
    let (greedy, rest) := lazyMark rest
    (parser.repeatLast? least most greedy).map (·, rest)
  let part (found : Option (Node × List Char)) : Option (Parser × List Char) :=
    found.map fun (node, rest) => (parser.add node, rest)
  match c with
  | '(' => group? parser rest
  | ')' => parser.closeGroup?.map (·, rest)
  | '|' => some (parser.endBranch, rest)
  | '[' => part (bracketed? flags rest)
  | '?' => repeated 0 (some 1)
  | '*' => repeated 0 none
  | '+' => repeated 1 none
  | '\x7b' => do
    let (least, most, rest) ← bounds? flags rest
    let (greedy, rest) := lazyMark (skip flags rest)
    (parser.repeatLast? least most greedy).map (·, rest)
  | '\\' => part (escapePart? flags rest)
  | '.' => part ((dot? flags).map (·, rest))
  | '^' => part (some (.look (lineStart flags), rest))
  | '$' => part (some (.look (lineStop flags), rest))
  | c => part (some (literal flags c, rest))

/-- Goes through the text; each step takes at least one character. -/
def loop? : (bound : Nat) → Parser → List Char → Option Parser
  | 0, _, _ => none
  | bound + 1, parser, cs =>
    match skip parser.flags cs with
    | [] => some parser
    | c :: rest => (parser.step? c rest).bind fun (parser, rest) => loop? bound parser rest

/-- A pattern as a tree, with the names of its captures. -/
structure Parsed where
  node : Node
  captureNames : List (String × Nat)

/-- Reads a pattern. It must be well formed, and neither too deep nor too large. -/
def parse? (text : String) (caseSensitive : Bool) : Option Parsed := do
  let cs := text.toList
  let parser ← loop? (cs.length + 1) { flags := { ignoreCase := !caseSensitive } } cs
  if !parser.frames.isEmpty then none
  let node := parser.current
  if Node.depthLimit < node.depth || Node.sizeLimit < node.size then none
  some ⟨node, parser.names⟩

end StoryGraph.Pattern
