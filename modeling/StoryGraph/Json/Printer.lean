import StoryGraph.Value
import StoryGraph.Number.Decimal

/-!
# Values as JSON text

The compact form: no blanks, fields in order, quotes, backslashes and control characters escaped
and all other characters as they are.
-/

namespace StoryGraph.Json

/-- The hexadecimal digits of a number below 256, two of them. -/
def hexPair (n : Nat) : String :=
  String.ofList [Nat.digitChar (n / 16), Nat.digitChar (n % 16)]

def escapeChar (c : Char) : String :=
  if c = '"' then "\\\""
  else if c = '\\' then "\\\\"
  else if c = '\n' then "\\n"
  else if c = '\t' then "\\t"
  else if c = '\r' then "\\r"
  else if c.toNat = 8 then "\\b"
  else if c.toNat = 12 then "\\f"
  else if c.toNat < 32 then "\\u00" ++ hexPair c.toNat
  else String.singleton c

def quote (s : String) : String :=
  "\"" ++ s.foldl (fun out c => out ++ escapeChar c) "" ++ "\""

def numberText : Number → String
  | .int n => toString n
  | .real x => Binary64.Layout.standard.text x.val

/-- Texts between two brackets with commas between them. -/
def bracketed (opening closing : String) (parts : List String) : String :=
  opening ++ ",".intercalate parts ++ closing

mutual

def print : Value → String
  | .null => "null"
  | .bool b => if b then "true" else "false"
  | .number n => numberText n
  | .text s => quote s
  | .list items => bracketed "[" "]" (printItems items)
  | .record fields => bracketed "\x7b" "\x7d" (printFields fields)

def printItems : List Value → List String
  | [] => []
  | item :: rest => print item :: printItems rest

def printFields : List (String × Value) → List String
  | [] => []
  | (name, value) :: rest => (quote name ++ ":" ++ print value) :: printFields rest

end

end StoryGraph.Json
