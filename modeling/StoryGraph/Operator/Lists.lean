import StoryGraph.Operator.Body

/-!
# Lists

Operators on lists and records: joining, mapping, sorting, cutting out a window, taking one
attribute, counting.
-/

namespace StoryGraph.Operator

/-! ## Joining -/

/-- What makes two items the same. -/
inductive Sameness where
  /-- No two items are the same. -/
  | never
  | identity
  /-- Records with the same id are the same; items without an id are compared whole. -/
  | id
deriving DecidableEq

def Sameness.ofSetting : Option String → Sameness
  | some "identity" | some "value" => identity
  | some "id" => id
  | _ => never

/-- Equal keys mean the same item. -/
def Sameness.key (sameness : Sameness) (item : Value) : String :=
  match sameness with
  | id => item.id?.getD item.identityKey
  | _ => item.identityKey

/-- The first item of each key; `seen` are the keys of items before. -/
def firstOfEach (key : Value → String) (seen : List String) : List Value → List Value
  | [] => []
  | item :: rest =>
    if seen.contains (key item) then firstOfEach key seen rest
    else item :: firstOfEach key (key item :: seen) rest

/-- Keeps one item of those that are the same, the first or the last, in its place. -/
def deduplicate (sameness : Sameness) (keepLast : Bool) (items : List Value) : List Value :=
  if sameness = .never then items
  else if keepLast then (firstOfEach sameness.key [] items.reverse).reverse
  else firstOfEach sameness.key [] items

/-- All lists that are wired in, one after the other in the order of the edges. -/
def joinList (site : Site) : Body Outputs := do
  let items := (← Body.askAll "lists").flatMap Value.toItems
  let sameness := Sameness.ofSetting (← site.askSetting "dedupe")
  let keepLast := (← site.askSetting "keep") == some "last"
  return .single "list" (.list (deduplicate sameness keepLast items))

/-! ## Mapping -/

mutual

/-- The rows of a table: records with a name and a value, records whose fields are rows, or lists
of such. -/
def rows : Value → List (String × Value)
  | .record fields =>
    match Fields.get? fields "name" with
    | some name => [(name.display, (Fields.get? fields "value").getD .null)]
    | none => fields
  | .list items => rowsOf items
  | _ => []

def rowsOf : List Value → List (String × Value)
  | [] => []
  | item :: rest => rows item ++ rowsOf rest

end

/-- The value of the first row for the text of a value; otherwise the fallback, and without one
the value itself. -/
def mapValue (table : List (String × Value)) (fallback value : Value) : Value :=
  match table.lookup value.display with
  | some found => found
  | none => if fallback.isNull then value else fallback

def remap : Body Outputs := do
  let value ← Body.ask "value"
  let table := rows (← Body.ask "mapping")
  let fallback ← Body.ask "fallback"
  return .single "result" <| match value with
    | .list items => .list (items.map (mapValue table fallback))
    | .null => .null
    | other => mapValue table fallback other

/-! ## Sorting -/

/-- What an item is sorted by: itself, or an attribute that it may lack. -/
def sortKey? (name : Option String) (item : Value) : Option Value :=
  match name with
  | some name => item.attribute? name
  | none => some item

/-- Items that lack the attribute come last. -/
def compareBy (name : Option String) (a b : Value) : Ordering :=
  match sortKey? name a, sortKey? name b with
  | some x, some y => x.compare y
  | some _, none => .lt
  | none, some _ => .gt
  | none, none => .eq

def sortBy (name : Option String) (items : List Value) : List Value :=
  items.mergeSort fun a b => compareBy name a b != .gt

def sort : Body Outputs := do
  let items ← Body.askItems "entries"
  let name ← Body.askText "attribute"
  let sorted := sortBy name items
  return (Outputs.single "sorted" (.list sorted)).add "reversed" (.list sorted.reverse)

/-! ## Windows -/

/-- Leaves out `wait` items, takes one, and from then on every `step`-th. -/
def everyNth {α : Type} (step : Nat) : (wait : Nat) → List α → List α
  | _, [] => []
  | 0, item :: rest => item :: everyNth step (step - 1) rest
  | wait + 1, _ :: rest => everyNth step wait rest

/-- Where a window begins; a negative start counts from the end. -/
def windowStart (length : Nat) (start : Int) : Nat :=
  if start < 0 then length - start.natAbs else start.toNat

/-- Every `step`-th item from a start on, at most `count` of them; zero means all. -/
def window {α : Type} (start : Int) (count step : Nat) (items : List α) : List α :=
  let taken := everyNth step 0 (items.drop (windowStart items.length start))
  if count = 0 then taken else taken.take count

def slice : Body Outputs := do
  let items ← Body.askItems "list"
  let start := Binary64.truncate (← Body.askNumber "start" 0)
  let count ← Body.askCount "count" 0
  let step := max 1 (← Body.askCount "step" 1)
  return .single "list" (.list (window start count step items))

/-! ## Attributes and counts -/

def getAttribute : Body Outputs := do
  let items ← Body.askItems "entries"
  let name ← Body.askText "attribute_name"
  return .single "values" <| .list <| match name with
    | some name => items.filterMap (·.attribute? name)
    | none => []

def count : Body Outputs := do
  return .single "count" (.ofNat (← Body.askItems "list").length)

end StoryGraph.Operator
