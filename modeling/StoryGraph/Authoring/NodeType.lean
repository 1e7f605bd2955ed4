import StoryGraph.Toml.Parser

/-!
# Node types

Which types of nodes a graph may use. A type declares its ports; the type tag of a port says how
a property of the same name is stored.

Main definitions: `NodeType.storageHint`, `Registry`, `Registry.builtin`.
-/

namespace StoryGraph

inductive Direction where
  | input
  | output
deriving DecidableEq

/-- How the text of a property is stored. -/
inductive StorageHint where
  /-- Always as text, even if it looks like a number. -/
  | text
  /-- As a number when it reads as one. -/
  | number
  /-- As a number when it reads as one; said of properties that nothing is declared about. -/
  | auto
deriving DecidableEq

def StorageHint.ofTypeTag (tag : String) : StorageHint :=
  if tag = "string" ∨ tag = "text" then .text
  else if tag = "number" then .number
  else .auto

structure Port where
  id : String
  label : String
  typeTag : String
  direction : Direction

def Port.storageHint (port : Port) : StorageHint := .ofTypeTag port.typeTag

structure NodeType where
  name : String
  category : String
  ports : List Port

namespace NodeType

def port? (type : NodeType) (id : String) : Option Port := type.ports.find? (·.id == id)

/-- How a property is stored: as the port of its name says. -/
def storageHint (type : NodeType) (property : String) : StorageHint :=
  ((type.port? property).map Port.storageHint).getD .auto

end NodeType

/-! ## Registries -/

/-- The known node types, in the order of their names. -/
structure Registry where
  types : List NodeType

namespace Registry

def empty : Registry := ⟨[]⟩

/-- Puts a type where its name belongs, in place of an earlier one of that name. -/
def insertType (type : NodeType) : List NodeType → List NodeType
  | [] => [type]
  | other :: rest =>
    if type.name < other.name then type :: other :: rest
    else if type.name = other.name then type :: rest
    else other :: insertType type rest

def register (registry : Registry) (type : NodeType) : Registry :=
  ⟨insertType type registry.types⟩

def ofList (types : List NodeType) : Registry := types.foldl register empty

/-- Adds all types of another registry, which win. -/
def extend (registry other : Registry) : Registry := other.types.foldl register registry

def get? (registry : Registry) (name : String) : Option NodeType :=
  registry.types.find? (·.name == name)

def contains (registry : Registry) (name : String) : Bool := (registry.get? name).isSome

def size (registry : Registry) : Nat := registry.types.length

/-! ## Built-in types -/

def capitalized (word : String) : String :=
  match word.toList with
  | [] => ""
  | c :: rest => String.ofList (c.toUpper :: rest)

/-- The label of a built-in port: the words of its id with capitals. -/
def portLabel (id : String) : String :=
  " ".intercalate (((id.splitOn "_").filter (· != "")).map capitalized)

/-- A type with the given input and output ports, each an id and a type tag. -/
def ofPorts (name category : String) (inputs outputs : List (String × String)) : NodeType :=
  let port (direction : Direction) (entry : String × String) : Port :=
    ⟨entry.1, portLabel entry.1, entry.2, direction⟩
  ⟨name, category, inputs.map (port .input) ++ outputs.map (port .output)⟩

/-- One type for each operator, and the types whose operator depends on the label. -/
def builtinTypes : List NodeType := [
    ofPorts "source_entries" "source" [] [("entries", "entries")],
    ofPorts "source_messages" "source" [] [("messages", "messages")],
    ofPorts "source_literal" "source" [("value_1", "any")] [("values", "list"), ("value", "any")],
    ofPorts "source_context" "source" [("field", "string")] [("value", "any")],
    ofPorts "source" "source"
      [("field", "string"), ("value_1", "any")]
      [("entries", "entries"), ("messages", "messages"), ("values", "list"), ("value", "any")],
    ofPorts "keyword_filter" "filter"
      [("entries", "entries"), ("messages", "messages"), ("keyword_attribute", "string"),
       ("case_sensitive", "boolean"), ("sender", "string"), ("scan_depth", "number"),
       ("match_cap", "number")]
      [("entries", "entries"), ("unmatched", "entries")],
    ofPorts "message_filter" "filter"
      [("messages", "messages"), ("conditions", "list"), ("use_regex", "boolean"),
       ("case_sensitive", "boolean"), ("sender", "string"), ("scan_depth", "number"),
       ("match_cap", "number")]
      [("matched_messages", "messages"), ("unmatched_messages", "messages"),
       ("matched_conditions", "list"), ("unmatched_conditions", "list"), ("matched", "boolean")],
    ofPorts "entry_filter" "filter"
      [("entries", "entries"), ("attribute_name", "string"), ("operator", "string"),
       ("values", "list"), ("mode", "string")]
      [("entries", "entries"), ("rejected", "entries")],
    ofPorts "filter" "filter"
      [("entries", "entries"), ("messages", "messages"), ("conditions", "list"),
       ("attribute_name", "string"), ("operator", "string"), ("values", "list"),
       ("mode", "string")]
      [("entries", "entries"), ("matched_messages", "messages")],
    ofPorts "adjacency" "graph"
      [("entries", "entries"), ("pool", "entries"), ("distance", "number")]
      [("entries", "entries")],
    ofPorts "math" "math" [("a", "any"), ("b", "any"), ("operator", "string")] [("result", "any")],
    ofPorts "math_unary" "math" [("value", "any"), ("operator", "string")] [("result", "any")],
    ofPorts "compare" "logic"
      [("a", "any"), ("b", "any"), ("operator", "string")]
      [("result", "boolean")],
    ofPorts "logic" "logic"
      [("a", "boolean"), ("b", "boolean"), ("operator", "string")]
      [("result", "boolean")],
    ofPorts "set_test" "logic"
      [("subject", "list"), ("reference", "list"), ("operator", "string")]
      [("result", "boolean")],
    ofPorts "switch" "logic"
      [("condition", "boolean"), ("if_true", "any"), ("if_false", "any")]
      [("result", "any")],
    ofPorts "probability" "logic"
      [("value", "any"), ("chance", "number")]
      [("value", "any"), ("passed", "boolean")],
    ofPorts "join_list" "list"
      [("lists", "list"), ("dedupe", "string"), ("keep", "string")]
      [("list", "list")],
    ofPorts "remap" "list"
      [("value", "any"), ("mapping", "attributes"), ("fallback", "any")]
      [("result", "any")],
    ofPorts "sort" "list"
      [("entries", "entries"), ("attribute", "string")]
      [("sorted", "entries"), ("reversed", "entries")],
    ofPorts "slice" "list"
      [("list", "list"), ("start", "number"), ("count", "number"), ("step", "number")]
      [("list", "list")],
    ofPorts "get_attribute" "list"
      [("entries", "entries"), ("attribute_name", "string")]
      [("values", "list")],
    ofPorts "count" "list" [("list", "list")] [("count", "number")],
    ofPorts "text_join" "text" [("values", "list"), ("separator", "text")] [("text", "text")],
    ofPorts "regex_match" "text"
      [("text", "any"), ("pattern", "text"), ("case_sensitive", "boolean")]
      [("matched", "boolean"), ("matches", "list")],
    ofPorts "regex_replace" "text"
      [("text", "any"), ("pattern", "text"), ("replacement", "text"),
       ("case_sensitive", "boolean")]
      [("text", "text")],
    ofPorts "reroute" "structural" [("input", "any")] [("output", "any")],
    ofPorts "output_entries" "output" [("entries", "entries"), ("order", "number")] [],
    ofPorts "output_context" "output"
      [("personality", "text"), ("scenario", "text"), ("example_dialogs", "text"),
       ("order", "number")]
      [],
    ofPorts "output" "output"
      [("entries", "entries"), ("personality", "text"), ("scenario", "text"),
       ("example_dialogs", "text"), ("order", "number")]
      []]

def builtin : Registry := ofList builtinTypes

end Registry

/-! ## Text form -/

namespace Direction

def toText : Direction → String
  | input => "input"
  | output => "output"

def ofTree? (tree : Tree) : Option Direction :=
  match tree.toText? with
  | some "input" => some .input
  | some "output" => some .output
  | _ => none

end Direction

namespace Port

def ofTree? (tree : Tree) : Option Port := do
  match ← tree.fields? ["id", "label", "type", "direction"] with
  | [id, label, type, direction] =>
    some ⟨← Field.required Tree.toText? id, ← Field.withDefault "" Tree.toText? label,
      ← Field.withDefault "any" Tree.toText? type,
      ← Field.withDefault .input Direction.ofTree? direction⟩
  | _ => none

def toValue (port : Port) : Value :=
  Value.ofFields [("id", .text port.id), ("label", .text port.label),
    ("type", .text port.typeTag), ("direction", .text port.direction.toText)]

end Port

namespace NodeType

def ofTree? (tree : Tree) : Option NodeType := do
  match ← tree.fields? ["name", "category", "ports"] with
  | [name, category, ports] =>
    some ⟨← Field.required Tree.toText? name, ← Field.withDefault "" Tree.toText? category,
      ← Field.withDefault [] (Tree.toList? Port.ofTree?) ports⟩
  | _ => none

def toValue (type : NodeType) : Value :=
  Value.ofFields [("name", .text type.name), ("category", .text type.category),
    ("ports", .list (type.ports.map Port.toValue))]

end NodeType

/-- A registry is a list of types under the name `node`; of two types of one name the later
counts. -/
def Registry.ofTree? (tree : Tree) : Option Registry := do
  match ← tree.fields? ["node"] with
  | [types] => some (.ofList (← Field.withDefault [] (Tree.toList? NodeType.ofTree?) types))
  | _ => none

def Registry.ofToml (text : String) : Except Fault Registry :=
  match (Toml.parse? text).bind ofTree? with
  | some registry => .ok registry
  | none => .error .malformedRegistry

end StoryGraph
