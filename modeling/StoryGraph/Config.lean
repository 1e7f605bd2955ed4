import StoryGraph.Toml.Parser

/-!
# Configuration

What a run can be told besides its documents.
-/

namespace StoryGraph

structure Config where
  /-- Where the random draws start; none leaves it to the host. -/
  seed : Option UInt64 := none
  /-- Whether the values of all ports are kept for inspection. -/
  recordTrace : Bool := true
  /-- The entry attribute that holds keywords when a filter names none. -/
  keywordAttribute : String := "keywords"
  /-- The colour of keyword matches. -/
  keywordColor : String := "#ffd54f"
  /-- The colour of condition matches. -/
  messageColor : String := "#81d4fa"

namespace Config

def ofTree? (tree : Tree) : Option Config := do
  let base : Config := {}
  match ← tree.fields? ["seed", "record_trace", "keyword_attribute", "keyword_color",
      "message_color"] with
  | [seed, trace, keywordsFrom, keyword, message] =>
    some {
      seed := (← Field.withDefault none (Tree.toOption? (Tree.toNat? (2 ^ 64))) seed).map
        UInt64.ofNat
      recordTrace := ← Field.withDefault base.recordTrace Tree.toBool? trace
      keywordAttribute := ← Field.withDefault base.keywordAttribute Tree.toText? keywordsFrom
      keywordColor := ← Field.withDefault base.keywordColor Tree.toText? keyword
      messageColor := ← Field.withDefault base.messageColor Tree.toText? message }
  | _ => none

def ofToml (text : String) : Except Fault Config :=
  match (Toml.parse? text).bind ofTree? with
  | some config => .ok config
  | none => .error .malformedConfig

def toValue (config : Config) : Value :=
  Value.ofFields [
    ("seed", match config.seed with | some seed => .ofNat seed.toNat | none => .null),
    ("record_trace", .bool config.recordTrace),
    ("keyword_attribute", .text config.keywordAttribute),
    ("keyword_color", .text config.keywordColor),
    ("message_color", .text config.messageColor)]

end Config

end StoryGraph
