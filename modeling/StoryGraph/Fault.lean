import StoryGraph.Json.Printer
import StoryGraph.Text.Quoted

/-!
# Faults

What can be wrong with a document, a configuration or a template. Each fault is a cause; its
wording is given in one place.
-/

namespace StoryGraph

/-- What can be wrong with an encoded property list. -/
inductive PropsFault where
  /-- A text stands where a reference to the string table belongs. -/
  | bareText (text : String)
  | referenceTooLarge (n : Nat)
  /-- An attribute record lacks the named reference. -/
  | missingReference (field : String)
  | oddLength (count : Nat)
  | keyIsNoReference (key : Value)

inductive Fault where
  /-- The text of a document does not have the form of one. -/
  | malformedDocument
  /-- The text of a registry does not have the form of one. -/
  | malformedRegistry
  /-- The text of a configuration does not have the form of one. -/
  | malformedConfig
  | idTableMismatch (ids nodes : Nat)
  | edgeOutOfRange (edge node count : Nat)
  | referenceOutOfRange (reference count : Nat)
  | malformedProps (cause : PropsFault)
  | missingPlaceholder (name : String)

namespace PropsFault

def message : PropsFault → String
  | bareText text =>
    "bare string " ++ Text.quoted text ++ " where a string index was expected"
  | referenceTooLarge n => "string index " ++ toString n ++ " is too large"
  | missingReference field =>
    "attribute record is missing index field " ++ Text.quoted field
  | oddLength count =>
    "odd number of items (" ++ toString count ++ ") in a key/value list"
  | keyIsNoReference key => "key " ++ Json.print key ++ " is not an index"

end PropsFault

namespace Fault

/-- The wording of a fault, for those that say more than their kind. -/
def message? : Fault → Option String
  | malformedDocument => none
  | malformedRegistry => none
  | malformedConfig => none
  | idTableMismatch ids nodes =>
    some ("node id table has " ++ toString ids ++ " entries but there are " ++ toString nodes ++
      " nodes")
  | edgeOutOfRange edge node count =>
    some ("edge " ++ toString edge ++ " references node " ++ toString node ++ " but only " ++
      toString count ++ " nodes exist")
  | referenceOutOfRange reference count =>
    some ("string index " ++ toString reference ++ " is out of range for a table of " ++
      toString count ++ " strings")
  | malformedProps cause => some ("malformed property list: " ++ cause.message)
  | missingPlaceholder name => some ("script template has no " ++ name ++ " placeholder")

end Fault

end StoryGraph
