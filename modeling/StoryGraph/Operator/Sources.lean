import StoryGraph.Operator.Body

/-!
# Sources and results

Operators that bring values into a graph, which are lore entries, chat messages, literal values and
fields of the context, and the roots of a graph. Their ports carry the ids that a run activates and
the texts that it adds to the character.
-/

namespace StoryGraph.Operator

def sourceEntries (site : Site) : Body Outputs :=
  return .single "entries" (.list site.entries)

def sourceMessages (site : Site) : Body Outputs :=
  return .single "messages" (.list site.messages)

/-! ## Literal values -/

def literalNumber? (name : String) : Option Nat :=
  let word := "value_".toList
  if word.isPrefixOf name.toList then
    Decimal.naturalBelow? (2 ^ 32) (name.toList.drop word.length)
  else none

/-- The names `value_n` among the given ones, by their numbers. -/
def literalNames (names : List String) : List String :=
  ((names.filterMap fun name => (literalNumber? name).map (·, name)).mergeSort
    fun a b => a.1 ≤ b.1).map (·.2)

def askEach : List String → Body (List Value)
  | [] => return []
  | port :: rest => do
    let value ← Body.ask port
    let values ← askEach rest
    return value :: values

/-- The numbered values of a node, in the order of their numbers, and the first of them. -/
def sourceLiteral (site : Site) : Body Outputs := do
  let values ← askEach (literalNames site.propertyNames)
  return (Outputs.single "values" (.list values)).add "value" (values.headD .null)

/-! ## Context -/

/-- The text of the last message that passes a test; null if there is none. -/
def lastText (chat : List Message) (test : Message → Bool) : Value :=
  match (chat.filter test).getLast? with
  | some message => .text message.message
  | none => .null

def contextField? (site : Site) : String → Option Value
  | "personality" => some (.text site.character.personality)
  | "scenario" => some (.text site.character.scenario)
  | "example_dialogs" => some (.text site.character.exampleDialogs)
  | "last_message" => some (lastText site.chat fun _ => true)
  | "last_user_message" => some (lastText site.chat (!·.isBot))
  | "last_bot_message" => some (lastText site.chat (·.isBot))
  | "message_count" => some (.ofNat site.chat.length)
  | "chat_text" => some (.text ("\n".intercalate (site.chat.map (·.message))))
  | "activated_ids" => some (.list (site.activatedIds.map .text))
  | _ => none

def sourceContext (site : Site) : Body Outputs := do
  let field := (← site.askSetting "field").getD ""
  match contextField? site field with
  | some value => return .single "value" value
  | none =>
    site.tell ("unknown context field " ++ Text.quoted field)
    return .single "value" .null

/-! ## Results -/

/-- The texts that entries have for a field, one on a line. -/
def fieldText (entries : List Value) (field : TextField) : String :=
  "\n".intercalate ((entries.filterMap fun entry =>
    (entry.get? field.key).map Value.display).filter (!·.isEmpty))

def rootOutputs (ids : List String) (text : TextField → String) (entries : List Value) :
    Outputs :=
  ⟨[("ids", .list (ids.map .text))] ++
    TextField.all.map (fun field => (field.key, .text (text field))) ++
    [("entries", .list entries)]⟩

def outputEntries : Body Outputs := do
  let entries ← Body.askItems "entries"
  return rootOutputs (entries.filterMap Value.id?) (fieldText entries) entries

def outputContext : Body Outputs := do
  let personality := (← Body.ask TextField.personality.key).display
  let scenario := (← Body.ask TextField.scenario.key).display
  let exampleDialogs := (← Body.ask TextField.exampleDialogs.key).display
  return rootOutputs [] (Character.mk personality scenario exampleDialogs).get []

end StoryGraph.Operator
