import StoryGraph.Fault

/-!
# Compact values

The form in which a document holds a property: strings are references to the document's table,
and a record is kept only if it is an attribute, that is, a value with a name and a kind. The
properties of a node or an entry stand in their order, by references to their names.

On the wire an unsigned integer is a reference and any other number is a number, so a number is
always written with a fraction. A property list is flat there: name, value, name, value.

Main definitions: `StringTable`, `Compact.decompress`, `Compact.encode`, `Compact.decode`, `Props`.
-/

namespace StoryGraph

/-! ## String tables

A document stores each string once and refers to it by its position. A table only grows, so a
reference that was handed out stays valid. A table that was read from a document may hold a string
twice; looking the string up then finds its first position.
-/

/-- A reference to a string of a table. -/
abbrev Ref := UInt32

structure StringTable where
  strings : List String

namespace StringTable

def empty : StringTable := ⟨[]⟩

instance : Inhabited StringTable := ⟨empty⟩

def size (table : StringTable) : Nat := table.strings.length

def get? (table : StringTable) (ref : Ref) : Option String := table.strings[ref.toNat]?

/-- The string at a position, or the fault of a position that the table does not have. -/
def resolve (table : StringTable) (ref : Ref) : Except Fault String :=
  match table.get? ref with
  | some s => .ok s
  | none => .error (.referenceOutOfRange ref.toNat table.size)

/-- The first position of a string. -/
def indexOf? (table : StringTable) (s : String) : Option Ref :=
  (table.strings.findIdx? (· == s)).map UInt32.ofNat

def add (table : StringTable) (s : String) : StringTable :=
  if (table.indexOf? s).isSome then table else ⟨table.strings ++ [s]⟩

def intern (s : String) : StateM StringTable Ref := fun table =>
  match table.indexOf? s with
  | some ref => (ref, table)
  | none => (UInt32.ofNat table.size, ⟨table.strings ++ [s]⟩)

def toValue (table : StringTable) : Value := .list (table.strings.map .text)

def toJson (table : StringTable) : String := Json.print table.toValue

end StringTable

inductive Compact where
  | null
  | bool (b : Bool)
  | number (x : Float)
  | string (ref : Ref)
  | list (items : List Compact)
  | attribute (name kind : Ref) (value : Compact)

instance : Inhabited Compact := ⟨.null⟩

namespace Compact

/-! ## Plain form -/

/-- The string of a reference; null when there is none. -/
def textOf (table : StringTable) (ref : Ref) : Value :=
  match table.get? ref with
  | some s => .text s
  | none => .null

mutual

/-- The plain value, with references resolved and integral numbers as integers. -/
def decompress (table : StringTable) : Compact → Value
  | .null => .null
  | .bool b => .bool b
  | .number x => Value.ofFloat x
  | .string ref => textOf table ref
  | .list items => .list (decompressAll table items)
  | .attribute name kind value =>
    .record [("name", textOf table name), ("type", textOf table kind),
      ("value", decompress table value)]

def decompressAll (table : StringTable) : List Compact → List Value
  | [] => []
  | item :: rest => decompress table item :: decompressAll table rest

end

def toText? (table : StringTable) : Compact → Option String
  | .string ref => table.get? ref
  | _ => none

mutual

/-- All references in a value, in the order in which it is written. -/
def refs : Compact → List Ref
  | .string ref => [ref]
  | .list items => refsOfAll items
  | .attribute name kind value => name :: kind :: refs value
  | _ => []

def refsOfAll : List Compact → List Ref
  | [] => []
  | item :: rest => refs item ++ refsOfAll rest

end

/-! ## Wire form -/

def encodeRef (ref : Ref) : Value := Value.ofNat ref.toNat

mutual

/-- The value as it is written. A number without finite value is written as null. -/
def encode : Compact → Value
  | .null => .null
  | .bool b => .bool b
  | .number x =>
    match FiniteDouble.ofFloat? x with
    | some y => .number (.real y)
    | none => .null
  | .string ref => encodeRef ref
  | .list items => .list (encodeAll items)
  | .attribute name kind value =>
    .record [("n", encodeRef name), ("t", encodeRef kind), ("v", encode value)]

def encodeAll : List Compact → List Value
  | [] => []
  | item :: rest => encode item :: encodeAll rest

end

/-- A reference has 32 bits. -/
def decodeRef (n : Nat) : Except PropsFault Ref :=
  if n < 2 ^ 32 then .ok (UInt32.ofNat n) else .error (.referenceTooLarge n)

def decodeField (fields : Fields) (name : String) : Except PropsFault Ref :=
  match (fields.get? name).bind Value.toNat? with
  | some n => decodeRef n
  | none => .error (.missingReference name)

mutual

def decode : Value → Except PropsFault Compact
  | .null => .ok .null
  | .bool b => .ok (.bool b)
  | .number n =>
    match n.toNat? with
    | some ref => (decodeRef ref).map .string
    | none => .ok (.number n.toFloat)
  | .text s => .error (.bareText s)
  | .list items => (decodeAll items).map .list
  | .record fields => do
    let name ← decodeField fields "n"
    let kind ← decodeField fields "t"
    let value ← decodeMember "v" fields
    .ok (.attribute name kind value)

def decodeAll : List Value → Except PropsFault (List Compact)
  | [] => .ok []
  | item :: rest => do
    let value ← decode item
    let values ← decodeAll rest
    .ok (value :: values)

/-- The value of the first field with the given name; null when there is none. -/
def decodeMember (name : String) : List (String × Value) → Except PropsFault Compact
  | [] => .ok .null
  | (other, value) :: rest =>
    if name == other then decode value else decodeMember name rest

end

end Compact

/-! ## Property lists

A list may hold a name twice; the first one counts.
-/

structure Props where
  pairs : List (Ref × Compact)

namespace Props

def empty : Props := ⟨[]⟩

instance : Inhabited Props := ⟨empty⟩

def push (props : Props) (key : Ref) (value : Compact) : Props :=
  ⟨props.pairs ++ [(key, value)]⟩

/-- The first value under a key. -/
def get? (props : Props) (key : Ref) : Option Compact := props.pairs.lookup key

def getNamed? (props : Props) (table : StringTable) (name : String) : Option Compact :=
  (table.indexOf? name).bind props.get?

def firstKey? (props : Props) : Option Ref := props.pairs.head?.map (·.1)

/-- The properties by name. A key that the table does not have is left out; of two keys with one
name the first counts. -/
def decompress (table : StringTable) (props : Props) : Fields :=
  props.pairs.foldl (fun (fields : Fields) (key, value) =>
    match table.get? key with
    | some name => fields.insertNew name (value.decompress table)
    | none => fields) []

/-- All references in the list, in the order in which it is written. -/
def refs (props : Props) : List Ref :=
  props.pairs.flatMap fun (key, value) => key :: value.refs

def encode (props : Props) : List Value :=
  props.pairs.flatMap fun (key, value) => [Compact.encodeRef key, value.encode]

def decodePairs : List Value → Except PropsFault (List (Ref × Compact))
  | key :: value :: rest =>
    match key.toNat? with
    | none => .error (.keyIsNoReference key)
    | some n => do
      let key ← Compact.decodeRef n
      let value ← Compact.decode value
      let pairs ← decodePairs rest
      .ok ((key, value) :: pairs)
  | _ => .ok []

/-- Reads a list from the wire; its length must be even. -/
def decode (flat : List Value) : Except PropsFault Props :=
  if flat.length % 2 ≠ 0 then .error (.oddLength flat.length)
  else (decodePairs flat).map Props.mk

end Props

end StoryGraph
