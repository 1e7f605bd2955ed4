import StoryGraph.Document.Data

/-!
# Script templates

A script with two placeholders, each of which stands for the text of a document.
-/

namespace StoryGraph

def behaviorPlaceholder : String := "__LORE_BEHAVIOR__"

def dataPlaceholder : String := "__LORE_DATA__"

/-- Replaces every occurrence of a non-empty word, found from the left without overlap. While
`skip` is not zero, the characters belong to an occurrence that was already replaced. -/
def replaceAll (word replacement : List Char) : (skip : Nat) → List Char → List Char
  | _, [] => []
  | skip + 1, _ :: rest => replaceAll word replacement skip rest
  | 0, c :: rest =>
    if word.isPrefixOf (c :: rest) then
      replacement ++ replaceAll word replacement (word.length - 1) rest
    else c :: replaceAll word replacement 0 rest

def occurs (word : List Char) : List Char → Bool
  | [] => word.isEmpty
  | c :: rest => word.isPrefixOf (c :: rest) || occurs word rest

/-- Puts both documents into a template, the behavior document first. A template must have both
placeholders. -/
def embed (template : String) (behavior : BehaviorDocument) (data : DataDocument) :
    Except Fault String :=
  let text := template.toList
  let first := behaviorPlaceholder.toList
  let second := dataPlaceholder.toList
  if !occurs first text then .error (.missingPlaceholder behaviorPlaceholder)
  else if !occurs second text then .error (.missingPlaceholder dataPlaceholder)
  else .ok (String.ofList (replaceAll second data.toJson.toList 0
    (replaceAll first behavior.toJson.toList 0 text)))

end StoryGraph
