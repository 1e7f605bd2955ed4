import StoryGraph.Operator.Body
import StoryGraph.Pattern.Replacement

/-!
# Texts

Operators on text: joining, searching and replacing.
-/

namespace StoryGraph.Operator

def textJoin : Body Outputs := do
  let values ← Body.askItems "values"
  let separator ← Body.ask "separator"
  let between := if separator.isNull then ", " else separator.display
  return .single "text"
    (.text (between.intercalate ((values.map Value.display).filter (!·.isEmpty))))

/-- The pattern of a node, which minds case unless told otherwise. One that is not well formed is
warned of. -/
def askPattern (site : Site) : Body (Option Pattern.Regex) := do
  match ← Body.askText "pattern" with
  | none => return none
  | some source =>
    let caseSensitive ← Body.askFlag "case_sensitive" true
    match Pattern.Regex.ofText? source caseSensitive with
    | some regex => return some regex
    | none =>
      site.tell ("invalid regex " ++ Text.quoted source)
      return none

def regexMatch (site : Site) : Body Outputs := do
  let text := (← Body.ask "text").display
  let texts := match ← askPattern site with
    | some regex => regex.matchTexts text
    | none => []
  return (Outputs.single "matched" (.bool !texts.isEmpty)).add "matches" (.list (texts.map .text))

/-- Without a usable pattern the text stays as it is. -/
def regexReplace (site : Site) : Body Outputs := do
  let text := (← Body.ask "text").display
  let replacement := (← Body.ask "replacement").display
  return .single "text" <| .text <| match ← askPattern site with
    | some regex => regex.replaceAll text replacement
    | none => text

end StoryGraph.Operator
