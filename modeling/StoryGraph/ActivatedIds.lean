import StoryGraph.Document.Data

/-!
# Activated ids

A script may report an activated entry by its position or by its id. Reports are brought to ids.
-/

namespace StoryGraph

namespace DataDocument

def idAt? (document : DataDocument) (position : Nat) : Option String :=
  (document.items[position]?).map (·.id)

/-- The id that a report names: a number is a position; a text is an id if an entry has it,
otherwise a position if it is the number of one, otherwise taken as it is. -/
def activatedId? (document : DataDocument) : Value → Option String
  | .number n => n.toNat?.bind document.idAt?
  | .text s =>
    if (document.entryIndex? s).isSome then some s
    else some (((Decimal.naturalBelow? (2 ^ 64) s.toList).bind document.idAt?).getD s)
  | _ => none

/-- The ids that reports name, each once, in the order of their first report. -/
def activatedIds (document : DataDocument) (reports : List Value) : List String :=
  (reports.filterMap document.activatedId?).foldl
    (fun ids id => if ids.contains id then ids else ids ++ [id]) []

end DataDocument

end StoryGraph
