import StoryGraph.Matching.Scan
import StoryGraph.Operator.Body
import StoryGraph.Value.Comparison

/-!
# Selection

Operators that split a list in two: entries by keywords in the chat, messages and conditions by
each other, entries by an attribute. Each item goes to exactly one side, in its order.
-/

namespace StoryGraph.Operator

/-! ## Scanning -/

/-- How messages are scanned. -/
structure ScanSettings where
  sender : Sender
  caseSensitive : Bool
  /-- How many of the last messages are scanned; zero means all. -/
  depth : Nat
  /-- How many ranges are marked at a time; zero means all. -/
  cap : Nat

def askScanSettings (site : Site) : Body ScanSettings := do
  let sender := Sender.ofSetting (← site.askSetting "sender")
  let caseSensitive ← Body.askFlag "case_sensitive" false
  let depth ← Body.askCount "scan_depth" 0
  let cap ← Body.askCount "match_cap" 0
  return ⟨sender, caseSensitive, depth, cap⟩

/-- The messages that are given, or the whole chat when none are. -/
def askMessages (site : Site) : Body (List Value) :=
  if site.hasInput "messages" then Body.askItems "messages" else return site.messages

/-- The marks for a find; a message that is not known to be in the chat gets none. -/
def marksOf (color : String) (cap : Nat) (found : Find) : List Mark :=
  match found.candidate.index with
  | some index => (firstItems cap found.spans).map fun (start, stop) => ⟨index, color, start, stop⟩
  | none => []

/-! ## Keywords -/

def keywordsOf (entry : Value) (attributeName : String) (caseSensitive : Bool) :
    List TextPattern :=
  ((entry.attribute? attributeName).map splitKeywords |>.getD []).filterMap fun keyword =>
    TextPattern.ofKeyword? keyword caseSensitive

def keywordFilter (site : Site) : Body Outputs := do
  let entries ← Body.askItems "entries"
  let messages ← askMessages site
  let settings ← askScanSettings site
  let attributeName := (← Body.askText "keyword_attribute").getD site.config.keywordAttribute
  let candidates := eligible messages settings.sender settings.depth
  let found := entries.map fun entry =>
    (entry, finds (keywordsOf entry attributeName settings.caseSensitive) candidates)
  Body.markAll (found.flatMap fun (_, finds) =>
    finds.flatMap (marksOf site.config.keywordColor settings.cap))
  let (hits, misses) := found.partition fun (_, finds) => !finds.isEmpty
  return (Outputs.single "entries" (.list (hits.map (·.1)))).add "unmatched"
    (.list (misses.map (·.1)))

/-! ## Conditions on messages -/

/-- The pattern of a condition; a regular expression that is not well formed is warned of. -/
def conditionPattern (site : Site) (useRegex caseSensitive : Bool) (condition : String) :
    Body (Option TextPattern) := do
  if useRegex then
    match TextPattern.ofRegex? condition caseSensitive with
    | some pattern => return some pattern
    | none =>
      site.tell ("invalid regex " ++ Text.quoted condition)
      return none
  else return TextPattern.ofKeyword? condition caseSensitive

def conditionPatterns (site : Site) (useRegex caseSensitive : Bool) :
    List String → Body (List (String × Option TextPattern))
  | [] => return []
  | condition :: rest => do
    let pattern ← conditionPattern site useRegex caseSensitive condition
    let patterns ← conditionPatterns site useRegex caseSensitive rest
    return (condition, pattern) :: patterns

def matchesSome (candidates : List Candidate) (pattern : Option TextPattern) : Bool :=
  pattern.any fun pattern => candidates.any fun candidate =>
    !(pattern.spans candidate.text).isEmpty

/-- Messages in which some condition holds, conditions that hold in some message, and the others
of both. -/
def messageFilter (site : Site) : Body Outputs := do
  let messages ← askMessages site
  let conditions := ((← Body.askItems "conditions").map Value.display).filter fun condition =>
    !(Text.trim condition).isEmpty
  let useRegex ← Body.askFlag "use_regex" false
  let settings ← askScanSettings site
  let patterns ← conditionPatterns site useRegex settings.caseSensitive conditions
  let candidates := eligible messages settings.sender settings.depth
  let found := finds (patterns.filterMap (·.2)) candidates
  Body.markAll (found.flatMap (marksOf site.config.messageColor settings.cap))
  let (hitMessages, otherMessages) := messages.zipIdx.partition fun (_, position) =>
    found.any (·.candidate.position == position)
  let (hitConditions, otherConditions) := patterns.partition fun (_, pattern) =>
    matchesSome candidates pattern
  return ⟨[
    ("matched_messages", .list (hitMessages.map (·.1))),
    ("unmatched_messages", .list (otherMessages.map (·.1))),
    ("matched_conditions", .list (hitConditions.map fun (condition, _) => .text condition)),
    ("unmatched_conditions", .list (otherConditions.map fun (condition, _) => .text condition)),
    ("matched", .bool !hitMessages.isEmpty)]⟩

/-! ## Attributes -/

def splitByAttribute (comparison : Comparison) (name : String) (requireAll : Bool)
    (candidates entries : List Value) : List Value × List Value :=
  entries.partition fun entry =>
    let holds := comparison.holds (entry.attribute? name)
    if requireAll then candidates.all holds else candidates.any holds

def entryFilter (site : Site) : Body Outputs := do
  let entries ← Body.askItems "entries"
  let name := (← Body.askText "attribute_name").getD ""
  let operator := (← site.askSetting "operator").getD "=="
  let candidates ← Body.askItems "values"
  let mode ← site.askSetting "mode"
  match Comparison.ofText? operator with
  | some comparison =>
    let (kept, rejected) := splitByAttribute comparison name
      (mode == some "all" || mode == some "and") candidates entries
    return (Outputs.single "entries" (.list kept)).add "rejected" (.list rejected)
  | none =>
    site.tell ("unknown operator " ++ Text.quoted operator)
    return (Outputs.single "entries" (.list [])).add "rejected" (.list entries)

end StoryGraph.Operator
