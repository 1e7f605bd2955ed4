import StoryGraph.Config
import StoryGraph.Context
import StoryGraph.Value.Coercion

/-!
# Bodies

What an operator does, as a tree of its dealings with the run: it asks for inputs one at a time,
and may warn, mark a range of a message or draw a random number. What it may look at without
asking, its site, is fixed before. So a body says which inputs are wanted and in which order, and
everything about how inputs are found is left to the run.

Main definitions: `Site`, `Body`.
-/

namespace StoryGraph

/-! ## Outputs

What one run of an operator gives: a value for each of its output ports.
-/

structure Outputs where
  ports : List (String × Value)

namespace Outputs

def empty : Outputs := ⟨[]⟩

def single (port : String) (value : Value) : Outputs := ⟨[(port, value)]⟩

def add (outputs : Outputs) (port : String) (value : Value) : Outputs :=
  ⟨outputs.ports ++ [(port, value)]⟩

def get? (outputs : Outputs) (port : String) : Option Value := outputs.ports.lookup port

/-- The value that an edge from a port carries. The only port of an operator answers to every
name; otherwise an unknown port carries null. -/
def select (outputs : Outputs) (port : String) : Value :=
  match outputs.get? port, outputs.ports with
  | some value, _ => value
  | none, [(_, value)] => value
  | none, _ => .null

/-- Whether some port has more than null, an empty text or an empty list. -/
def hasContent (outputs : Outputs) : Bool := outputs.ports.any fun (_, value) => !value.isNothing

end Outputs

/-! ## Bodies -/

/-- A range of a chat message that a filter marks. -/
structure Mark where
  message : Nat
  color : String
  start : Nat
  stop : Nat
deriving DecidableEq

/-- What an operator can see from its node. -/
structure Site where
  nodeId : String
  label : String
  /-- Names of the node's own properties. -/
  propertyNames : List String
  /-- Whether an edge ends in the port. -/
  isWired : String → Bool
  /-- The node's own property, as a value. -/
  property? : String → Option Value
  /-- The node's own property, if it is one of the settings that are kept as text. -/
  setting? : String → Option String
  /-- All lore entries, as records. -/
  entries : List Value
  /-- The chat, oldest first. -/
  chat : List Message
  character : Character
  activatedIds : List String
  config : Config

inductive Body (α : Type) where
  | done (result : α)
  /-- Asks for the value of one input. -/
  | input (port : String) (next : Value → Body α)
  /-- Asks for the values of all edges into a port. -/
  | inputs (port : String) (next : List Value → Body α)
  | warn (text : String) (next : Body α)
  | mark (mark : Mark) (next : Body α)
  | draw (next : Float → Body α)

namespace Body

variable {α β : Type}

def andThen : Body α → (α → Body β) → Body β
  | .done result, f => f result
  | .input port next, f => .input port fun value => (next value).andThen f
  | .inputs port next, f => .inputs port fun values => (next values).andThen f
  | .warn text next, f => .warn text (next.andThen f)
  | .mark m next, f => .mark m (next.andThen f)
  | .draw next, f => .draw fun x => (next x).andThen f

instance : Monad Body where
  pure := done
  bind := andThen

def ask (port : String) : Body Value := .input port .done

def askAll (port : String) : Body (List Value) := .inputs port .done

def tell (text : String) : Body Unit := .warn text (.done ())

def markAll : List Mark → Body Unit
  | [] => .done ()
  | m :: rest => .mark m (markAll rest)

def chance : Body Float := .draw .done

end Body

/-! ## Records of messages -/

def Message.toRecord (message : Message) (index : Nat) : Value :=
  Value.ofFields ([("message", .text message.message), ("is_bot", .bool message.isBot),
    ("index", .ofNat index)] ++ message.date.toList.map fun date => ("date", .text date))

def chatRecords (chat : List Message) : List Value :=
  chat.zipIdx.map fun (message, index) => message.toRecord index

/-! ## Inputs read as another kind -/

namespace Body

def askItems (port : String) : Body (List Value) := do
  return (← ask port).toItems

/-- An input as text, without the blanks around it; none when nothing is left. Case is kept. -/
def askText (port : String) : Body (Option String) := do
  let text := Text.trim (← ask port).display
  return if text.isEmpty then none else some text

def askNumber (port : String) (default : Float) : Body Float := do
  return (← ask port).number?.getD default

/-- An input as a count: not negative, rounded down. -/
def askCount (port : String) (default : Float) : Body Nat := do
  return Binary64.toCount (← askNumber port default)

def askFlag (port : String) (default : Bool) : Body Bool := do
  let value ← ask port
  return if value.isNull then default else value.isTrue

end Body

namespace Site

def messages (site : Site) : List Value := chatRecords site.chat

/-- Whether an input is wired or is a property of the node. -/
def hasInput (site : Site) (port : String) : Bool :=
  site.isWired port || (site.property? port).isSome

/-- The text of a setting. An edge comes before the node's own property. -/
def askSettingText (site : Site) (port : String) : Body (Option String) := do
  if site.isWired port then return some (← Body.ask port).display
  else return site.setting? port

/-- A setting in lower case and without the blanks around it; none when nothing is left. -/
def askSetting (site : Site) (port : String) : Body (Option String) := do
  let text ← site.askSettingText port
  return (text.map fun text => Text.lowercase (Text.trim text)).filter (!·.isEmpty)

def tell (site : Site) (problem : String) : Body Unit :=
  Body.tell (problem ++ " at node " ++ site.nodeId)

end Site

end StoryGraph
