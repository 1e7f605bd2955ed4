import StoryGraph.Tree

/-!
# Conversation context

What a host hands to each turn and takes back: the chat, the character's texts, and what earlier
turns found. A turn reads the chat and appends; it never overwrites a text.
-/

namespace StoryGraph

structure Message where
  message : String
  isBot : Bool
  date : Option String
deriving DecidableEq

namespace Message

def user (text : String) : Message := ⟨text, false, none⟩

def bot (text : String) : Message := ⟨text, true, none⟩

end Message

/-- The texts that describe a character and its scene. -/
structure Character where
  personality : String := ""
  scenario : String := ""
  exampleDialogs : String := ""
deriving DecidableEq

inductive TextField where
  | personality
  | scenario
  | exampleDialogs
deriving DecidableEq

namespace TextField

def all : List TextField := [personality, scenario, exampleDialogs]

/-- The name of the field in entries and in contexts. -/
def key : TextField → String
  | personality => "personality"
  | scenario => "scenario"
  | exampleDialogs => "example_dialogs"

end TextField

/-- A text with a fragment on a line of its own at its end; an empty fragment adds nothing. -/
def appendLine (text fragment : String) : String :=
  if fragment.isEmpty then text
  else if text.isEmpty || text.toList.getLast? == some '\n' then text ++ fragment
  else text ++ "\n" ++ fragment

namespace Character

def get (character : Character) : TextField → String
  | .personality => character.personality
  | .scenario => character.scenario
  | .exampleDialogs => character.exampleDialogs

def append (character : Character) (field : TextField) (fragment : String) : Character :=
  match field with
  | .personality =>
    { character with personality := appendLine character.personality fragment }
  | .scenario => { character with scenario := appendLine character.scenario fragment }
  | .exampleDialogs =>
    { character with exampleDialogs := appendLine character.exampleDialogs fragment }

end Character

/-- Marked ranges of one colour within one message: characters from the first position up to but
without the second. -/
structure Highlight where
  color : String
  ranges : List (Nat × Nat)
deriving DecidableEq

/-- Values of ports by node id and port name, in the order of the names. -/
abbrev PortValues := List (String × Fields)

structure Context where
  messages : List Message := []
  character : Character := {}
  /-- Ids of activated entries, each once. -/
  activatedIds : List String := []
  /-- Highlights of each message, the latest message first. -/
  chatHighlights : List (List Highlight) := []
  /-- Ids of the nodes that produced something. -/
  debugNodes : List String := []
  debugPorts : PortValues := []
  warnings : List String := []

/-- Adds a text to a list of texts unless it is there. -/
def addNew (texts : List String) (text : String) : List String :=
  if texts.contains text then texts else texts ++ [text]

namespace PortValues

def get? (ports : PortValues) (node : String) : Option Fields := List.lookup node ports

/-- Changes what is kept for a node, in the place where the node belongs. -/
def update (node : String) (change : Fields → Fields) : PortValues → PortValues
  | [] => [(node, change [])]
  | (other, fields) :: rest =>
    if node < other then (node, change []) :: (other, fields) :: rest
    else if node = other then (node, change fields) :: rest
    else (other, fields) :: update node change rest

/-- Adds everything that other port values hold, which win. -/
def merge (ports others : PortValues) : PortValues :=
  others.foldl (fun ports (node, fields) =>
    update node (fun old => fields.foldl (fun (old : Fields) (port, value) =>
      Fields.insert port value old) old) ports) ports

def toValue (ports : PortValues) : Value :=
  .record (ports.map fun (node, fields) => (node, .record fields))

end PortValues

namespace Context

/-- Records an activated id; whether it is new. -/
def activate (context : Context) (id : String) : Bool × Context :=
  (!context.activatedIds.contains id,
    { context with activatedIds := addNew context.activatedIds id })

def warn (context : Context) (warning : String) : Context :=
  { context with warnings := addNew context.warnings warning }

end Context

/-! ## Text form -/

namespace Message

def ofTree? (tree : Tree) : Option Message := do
  match ← tree.fields? ["message", "is_bot", "date"] with
  | [message, isBot, date] =>
    some ⟨← Field.required Tree.toText? message, ← Field.withDefault false Tree.toBool? isBot,
      ← Field.withDefault none (Tree.toOption? Tree.toText?) date⟩
  | _ => none

def toValue (message : Message) : Value :=
  Value.ofFields ([("message", .text message.message), ("is_bot", .bool message.isBot)] ++
    (message.date.toList.map fun date => ("date", .text date)))

end Message

namespace Character

def ofTree? (tree : Tree) : Option Character := do
  match ← tree.fields? ["personality", "scenario", "example_dialogs"] with
  | [personality, scenario, exampleDialogs] =>
    some ⟨← Field.withDefault "" Tree.toText? personality,
      ← Field.withDefault "" Tree.toText? scenario,
      ← Field.withDefault "" Tree.toText? exampleDialogs⟩
  | _ => none

def toValue (character : Character) : Value :=
  Value.ofFields (TextField.all.map fun field => (field.key, .text (character.get field)))

end Character

namespace Highlight

def rangeOfTree? (tree : Tree) : Option (Nat × Nat) := do
  match ← tree.toList? (Tree.toNat? (2 ^ 64)) with
  | [start, stop] => some (start, stop)
  | _ => none

def ofTree? (tree : Tree) : Option Highlight := do
  match ← tree.fields? ["color", "ranges"] with
  | [color, ranges] =>
    some ⟨← Field.required Tree.toText? color,
      ← Field.required (Tree.toList? rangeOfTree?) ranges⟩
  | _ => none

def rangeToValue (range : Nat × Nat) : Value := .list [.ofNat range.1, .ofNat range.2]

def toValue (highlight : Highlight) : Value :=
  Value.ofFields [("color", .text highlight.color),
    ("ranges", .list (highlight.ranges.map rangeToValue))]

end Highlight

namespace PortValues

def ofTree? (tree : Tree) : Option PortValues := do
  let fields ← tree.toRecord?
  fields.mapM fun (node, value) => match value with
    | .record ports => some (node, ports)
    | _ => none

end PortValues

namespace Context

def chatOfTree? (tree : Tree) : Option (List Message) := do
  match ← tree.fields? ["last_messages"] with
  | [messages] => Field.withDefault [] (Tree.toList? Message.ofTree?) messages
  | _ => none

def ofTree? (tree : Tree) : Option Context := do
  match ← tree.fields? ["chat", "character", "activated_ids", "chat_highlights", "debug_nodes",
      "debug_ports", "warnings"] with
  | [chat, character, activatedIds, chatHighlights, debugNodes, debugPorts, warnings] =>
    let texts := Field.withDefault [] (Tree.toList? Tree.toText?)
    some {
      messages := ← Field.withDefault [] chatOfTree? chat
      character := ← Field.withDefault {} Character.ofTree? character
      activatedIds := ← texts activatedIds
      chatHighlights :=
        ← Field.withDefault [] (Tree.toList? (Tree.toList? Highlight.ofTree?)) chatHighlights
      debugNodes := ← texts debugNodes
      debugPorts := ← Field.withDefault [] PortValues.ofTree? debugPorts
      warnings := ← texts warnings }
  | _ => none

/-- The context as a record; port values are left out when there are none. -/
def toValue (context : Context) : Value :=
  Value.ofFields ([
    ("chat", Value.ofFields [("last_messages", .list (context.messages.map Message.toValue))]),
    ("character", context.character.toValue),
    ("activated_ids", .list (context.activatedIds.map .text)),
    ("chat_highlights",
      .list (context.chatHighlights.map fun slot => .list (slot.map Highlight.toValue))),
    ("debug_nodes", .list (context.debugNodes.map .text)),
    ("warnings", .list (context.warnings.map .text))] ++
    (if context.debugPorts.isEmpty then [] else [("debug_ports", context.debugPorts.toValue)]))

end Context

end StoryGraph
