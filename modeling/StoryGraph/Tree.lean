import StoryGraph.Value

/-!
# Document trees

A document as it is written, before it is known what each part is for. Numbers out of range and
texts with half a surrogate pair are only faults where the part is used, and the members of a
record keep their order and their repetitions. The text formats produce trees, and everything
that is read from a document is read from a tree.

Main definitions: `Tree.toValue?` and the field readers `Tree.fields?`, `Field.required`.
-/

namespace StoryGraph

inductive Tree where
  | null
  | bool (b : Bool)
  /-- None when the number has no finite value. -/
  | number (n : Option Number)
  /-- None when the text is no sequence of characters. -/
  | text (s : Option String)
  | list (items : List Tree)
  | record (members : List (Option String × Tree))

namespace Tree

/-! ## Trees and values -/

mutual

/-- The value a tree stands for, when no list or record is nested deeper than `room`. Of two
members with one name the later counts. -/
def toValue? (room : Nat) : Tree → Option Value
  | .null => some .null
  | .bool b => some (.bool b)
  | .number n => n.map .number
  | .text s => s.map .text
  | .list items =>
    if room = 0 then none else (toValues? (room - 1) items).map .list
  | .record members =>
    if room = 0 then none else (toFields? (room - 1) [] members).map .record

def toValues? (room : Nat) : List Tree → Option (List Value)
  | [] => some []
  | item :: rest => do
    let value ← toValue? room item
    let values ← toValues? room rest
    some (value :: values)

def toFields? (room : Nat) (fields : Fields) : List (Option String × Tree) → Option Fields
  | [] => some fields
  | (name, member) :: rest => do
    let name ← name
    let value ← toValue? room member
    toFields? room (fields.insert name value) rest

end

mutual

def ofValue : Value → Tree
  | .null => .null
  | .bool b => .bool b
  | .number n => .number (some n)
  | .text s => .text (some s)
  | .list items => .list (ofValues items)
  | .record fields => .record (ofFields fields)

def ofValues : List Value → List Tree
  | [] => []
  | item :: rest => ofValue item :: ofValues rest

def ofFields : List (String × Value) → List (Option String × Tree)
  | [] => []
  | (name, value) :: rest => (some name, ofValue value) :: ofFields rest

end

/-! ## Reading parts -/

def toBool? : Tree → Option Bool
  | .bool b => some b
  | _ => none

def toText? : Tree → Option String
  | .text s => s
  | _ => none

/-- An integer that is not negative and below `bound`. -/
def toNat? (bound : Nat) : Tree → Option Nat
  | .number (some n) => n.toNat?.filter (· < bound)
  | _ => none

def toList? {α : Type} (read : Tree → Option α) : Tree → Option (List α)
  | .list items => items.mapM read
  | _ => none

def toRecord? (tree : Tree) : Option Fields :=
  match tree.toValue? 127 with
  | some (.record fields) => some fields
  | _ => none

/-- Null reads as nothing. -/
def toOption? {α : Type} (read : Tree → Option α) : Tree → Option (Option α)
  | .null => some none
  | tree => (read tree).map some

/-- Picks the members with the given names, each of which may occur once. A member whose name is
no text is a fault even if nobody asks for it; other unknown members are passed over. -/
def pick? (names : List String) (members : List (Option String × Tree)) :
    Option (List (Option Tree)) := do
  let named ← members.mapM fun (name, tree) => name.map (·, tree)
  names.mapM fun name =>
    match named.filter (·.1 == name) with
    | [] => some none
    | [(_, tree)] => some (some tree)
    | _ => none

/-- The named parts of a structure, in the order of `names`: the members of a record, or the
items of a list by position. -/
def fields? (names : List String) : Tree → Option (List (Option Tree))
  | .record members => pick? names members
  | .list items =>
    if items.length ≤ names.length then
      some (items.map some ++ List.replicate (names.length - items.length) none)
    else none
  | _ => none

end Tree

namespace Field

def required {α : Type} (read : Tree → Option α) (field : Option Tree) : Option α :=
  field.bind read

/-- A part that stands for `default` when it is missing. -/
def withDefault {α : Type} (default : α) (read : Tree → Option α) : Option Tree → Option α
  | none => some default
  | some tree => read tree

end Field

end StoryGraph
