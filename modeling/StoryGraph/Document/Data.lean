import StoryGraph.Document.Behavior
import StoryGraph.Authoring.Graph

/-!
# Data documents

Compiled lore entries with their string table.

Main definitions: `DataDocument.validate`, `toJson`, `ofJson`, `entries`.
-/

namespace StoryGraph

structure CompactEntry where
  id : String
  label : Ref
  props : Props

structure DataDocument where
  version : String := formatVersion
  strings : StringTable := .empty
  items : List CompactEntry := []

namespace DataDocument

/-! ## Entries -/

/-- An entry as its author wrote it. The label is among the compact properties and is not one of
the author's. -/
def decompressEntry (document : DataDocument) (entry : CompactEntry) : Entry :=
  ⟨entry.id, (document.strings.get? entry.label).getD "",
    (entry.props.decompress document.strings).erase "label"⟩

def entries (document : DataDocument) : List Entry :=
  document.items.map document.decompressEntry

def entryIndex? (document : DataDocument) (id : String) : Option Nat :=
  document.items.findIdx? (·.id == id)

/-! ## Validity -/

def checkEntry (strings : StringTable) (entry : CompactEntry) : Except Fault Unit := do
  let _ ← strings.resolve entry.label
  entry.props.validate strings

/-- Accepts a document whose references its table has; otherwise gives the first fault. -/
def validate (document : DataDocument) : Except Fault Unit :=
  document.items.forM (checkEntry document.strings)

/-! ## Text -/

def entryToJson (entry : CompactEntry) : String :=
  Json.bracketed "\x7b" "\x7d" [
    "\"id\":" ++ Json.quote entry.id,
    "\"l\":" ++ Json.print (Compact.encodeRef entry.label),
    "\"p\":" ++ Json.print (.list entry.props.encode)]

/-- The JSON text, with the parts in a fixed order. -/
def toJson (document : DataDocument) : String :=
  Json.bracketed "\x7b" "\x7d" [
    "\"v\":" ++ Json.quote document.version,
    "\"s\":" ++ document.strings.toJson,
    "\"d\":" ++ Json.bracketed "[" "]" (document.items.map entryToJson)]

def entryOfTree? (room : Nat) (tree : Tree) : Option CompactEntry := do
  match ← tree.fields? ["id", "l", "p"] with
  | [id, label, props] =>
    some ⟨← Field.required Tree.toText? id, ← Field.required Tree.toWord? label,
      ← Field.required (Props.ofTree? room) props⟩
  | _ => none

def ofTree? (room : Nat) (tree : Tree) : Option DataDocument := do
  match ← tree.fields? ["v", "s", "d"] with
  | [v, s, d] =>
    some {
      version := ← Field.withDefault formatVersion Tree.toText? v
      strings := ← Field.required StringTable.ofTree? s
      items := ← Field.required (Tree.toList? (entryOfTree? room)) d }
  | _ => none

def parse (text : String) : Except Fault DataDocument :=
  match (Json.parse? text).bind (ofTree? propertyDepth) with
  | some document => .ok document
  | none => .error .malformedDocument

def ofJson (text : String) : Except Fault DataDocument := do
  let document ← parse text
  document.validate
  return document

end DataDocument

end StoryGraph
