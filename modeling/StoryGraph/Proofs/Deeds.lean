import StoryGraph.Proofs.Spans
import StoryGraph.Proofs.Upheld

/-!
# What operators do

Besides asking for single inputs an operator may gather the values of all edges into a port, warn,
and mark ranges. Which of these a body does is read along its tree, like what it ensures. Only the
joining of lists gathers. A warning of an operator is one of a few complaints and names the node.
Only two filters mark, in messages that they were given.

So a statement about sessions survives a run as soon as it survives these few things, the report of
a cycle or of a node without operator, and that nodes begin and end.

Main definitions: `Body.Does`, `OperatorKind.May`, `Scene.Withstands`.
-/

namespace StoryGraph

inductive Deed where
  /-- Asks for the values of all edges into a port. -/
  | gather (port : String)
  | warn (text : String)
  | mark (mark : Mark)

namespace Body

variable {α β : Type} {G : Value → Prop} {D : Deed → Prop}

/-- All deeds of the body satisfy `D`, as long as the values that it gets satisfy `G`. -/
inductive Does (G : Value → Prop) (D : Deed → Prop) : Body α → Prop where
  | done (result : α) : Does G D (.done result)
  | input {port : String} {next : Value → Body α} :
      (∀ value, G value → Does G D (next value)) → Does G D (.input port next)
  | inputs {port : String} {next : List Value → Body α} :
      D (.gather port) → (∀ values, (∀ value ∈ values, G value) → Does G D (next values)) →
      Does G D (.inputs port next)
  | warn {text : String} {next : Body α} :
      D (.warn text) → Does G D next → Does G D (.warn text next)
  | mark {m : Mark} {next : Body α} :
      D (.mark m) → Does G D next → Does G D (.mark m next)
  | draw {next : Float → Body α} : (∀ x, Does G D (next x)) → Does G D (.draw next)

theorem does_pure (result : α) : (pure result : Body α).Does G D := .done result

theorem does_ask (port : String) : (ask port).Does G D := .input fun value _ => .done value

theorem does_askAll {port : String} (h : D (.gather port)) : (askAll port).Does G D :=
  .inputs h fun values _ => .done values

theorem does_tell {text : String} (h : D (.warn text)) : (tell text).Does G D := .warn h (.done ())

theorem does_markAll {marks : List Mark} (h : ∀ m ∈ marks, D (.mark m)) :
    (markAll marks).Does G D := by
  induction marks with
  | nil => exact .done ()
  | cons m rest ih =>
      obtain ⟨hm, hrest⟩ := List.forall_mem_cons.mp h
      exact .mark hm (ih hrest)

theorem does_chance : Body.chance.Does G D := .draw fun x => .done x

/-- **A sequence does what its parts do.** The second part may rely on what the first one gives. -/
theorem Does.bind {P : α → Prop} {x : Body α} {f : α → Body β} (hx : x.Does G D)
    (hgive : x.Gives G P) (hf : ∀ a, P a → (f a).Does G D) : (x >>= f).Does G D := by
  obtain ⟨hgive⟩ := hgive
  induction hx with
  | done result => exact hf result hgive
  | input _ ih => exact .input fun value hvalue => ih value hvalue (hgive value hvalue)
  | inputs hport _ ih =>
      exact .inputs hport fun values hvalues => ih values hvalues (hgive values hvalues)
  | warn htext _ ih => exact .warn htext (ih hgive)
  | mark hm _ ih => exact .mark hm (ih hgive)
  | draw _ ih => exact .draw fun x => ih x (hgive.2 x)

theorem Does.andThen {x : Body α} {f : α → Body β} (hx : x.Does G D)
    (hf : ∀ a, (f a).Does G D) : (x >>= f).Does G D :=
  hx.bind (gives_true x) fun a _ => hf a

end Body

namespace Operator

open Body

def complaints : List String :=
  ["unknown math operator ", "unknown operator ", "unknown logic operator ",
    "unknown set operator ", "unknown context field ", "invalid regex "]

def IsComplaint (text : String) : Prop :=
  ∃ beginning ∈ complaints, ∃ found, text = beginning ++ Text.quoted found

variable {G : Value → Prop} {D : Deed → Prop} {site : Site}

/-! ## Inputs -/

theorem does_askItems (port : String) : (askItems port).Does G D :=
  (does_ask port).andThen fun _ => does_pure _

theorem does_askText (port : String) : (askText port).Does G D :=
  (does_ask port).andThen fun _ => does_pure _

theorem does_askNumber (port : String) (default : Float) : (askNumber port default).Does G D :=
  (does_ask port).andThen fun _ => does_pure _

theorem does_askCount (port : String) (default : Float) : (askCount port default).Does G D :=
  (does_askNumber port default).andThen fun _ => does_pure _

theorem does_askFlag (port : String) (default : Bool) : (askFlag port default).Does G D :=
  (does_ask port).andThen fun _ => does_pure _

theorem does_askTruth (port : String) : (askTruth port).Does G D :=
  (does_ask port).andThen fun _ => does_pure _

theorem does_askSetting (port : String) : (site.askSetting port).Does G D := by
  have htext : (site.askSettingText port).Does G D := by
    unfold Site.askSettingText
    split
    · exact (does_ask port).andThen fun _ => does_pure _
    · exact does_pure _
  exact htext.andThen fun _ => does_pure _

theorem does_askMessages : (askMessages site).Does G D := by
  unfold askMessages
  split
  · exact does_askItems "messages"
  · exact does_pure _

theorem does_askScanSettings : (askScanSettings site).Does G D :=
  (does_askSetting "sender").andThen fun _ => (does_askFlag "case_sensitive" false).andThen fun _ =>
    (does_askCount "scan_depth" 0).andThen fun _ => (does_askCount "match_cap" 0).andThen fun _ =>
      does_pure _

theorem does_askEach (ports : List String) : (askEach ports).Does G D := by
  induction ports with
  | nil => exact does_pure []
  | cons port rest ih =>
      exact (does_ask port).andThen fun _ => ih.andThen fun _ => does_pure _

theorem does_askOperation (words : List String) (default : String) :
    (askOperation site words default).Does G D := by
  refine (does_askSetting "operator").andThen fun name => ?_
  split <;> exact does_pure _

/-! ## Marks -/

section

variable (hmark : ∀ m message, G message → m.LiesIn message → D (.mark m))
include hmark

theorem does_markFinds {patterns : List TextPattern} {messages : List Value}
    (hmessages : ∀ message ∈ messages, G message) {sender : Sender} {depth cap : Nat}
    {color : String} {m : Mark}
    (hm : m ∈ (finds patterns (eligible messages sender depth)).flatMap (marksOf color cap)) :
    D (.mark m) := by
  obtain ⟨found, hfound, hm⟩ := List.mem_flatMap.mp hm
  obtain ⟨message, hmessage, hlies⟩ := mem_marksOf hfound hm
  exact hmark m message (hmessages message hmessage) hlies

theorem keywordFilter_does (hG : Value.Hereditary G) (h : site.Has G) :
    (keywordFilter site).Does G D := by
  refine (does_askItems "entries").andThen fun entries => ?_
  refine does_askMessages.bind (askMessages_has hG h) fun messages hmessages => ?_
  refine does_askScanSettings.andThen fun settings => ?_
  refine (does_askText "keyword_attribute").andThen fun name => ?_
  refine (does_markAll fun m hm => ?_).andThen fun _ => does_pure _
  obtain ⟨pair, hpair, hm⟩ := List.mem_flatMap.mp hm
  obtain ⟨entry, -, rfl⟩ := List.mem_map.mp hpair
  exact does_markFinds hmark hmessages hm

end

/-! ## Complaints -/

section

variable (hwarn : ∀ text, IsComplaint text → D (.warn (text ++ " at node " ++ site.nodeId)))
include hwarn

theorem does_complain {beginning : String} (h : beginning ∈ complaints) (found : String) {α : Type}
    (result : α) :
    (do site.tell (beginning ++ Text.quoted found); return result : Body α).Does G D :=
  (does_tell (hwarn _ ⟨beginning, h, found, rfl⟩)).andThen fun _ => does_pure result

theorem does_conditionPatterns (useRegex caseSensitive : Bool) (conditions : List String) :
    (conditionPatterns site useRegex caseSensitive conditions).Does G D := by
  induction conditions with
  | nil => exact does_pure []
  | cons condition rest ih =>
      have hpattern : (conditionPattern site useRegex caseSensitive condition).Does G D := by
        unfold conditionPattern
        split
        · split
          · exact does_pure _
          · exact does_complain hwarn (by decide) condition none
        · exact does_pure _
      exact hpattern.andThen fun _ => ih.andThen fun _ => does_pure _

theorem messageFilter_does (hmark : ∀ m message, G message → m.LiesIn message → D (.mark m))
    (hG : Value.Hereditary G) (h : site.Has G) : (messageFilter site).Does G D := by
  refine does_askMessages.bind (askMessages_has hG h) fun messages hmessages => ?_
  refine (does_askItems "conditions").andThen fun conditions => ?_
  refine (does_askFlag "use_regex" false).andThen fun useRegex => ?_
  refine does_askScanSettings.andThen fun settings => ?_
  refine (does_conditionPatterns hwarn _ _ _).andThen fun patterns => ?_
  refine (does_markAll fun m hm => ?_).andThen fun _ => does_pure _
  exact does_markFinds hmark hmessages hm

theorem sourceContext_does : (sourceContext site).Does G D := by
  refine (does_askSetting "field").andThen fun field => ?_
  dsimp only
  split
  · exact does_pure _
  · exact does_complain hwarn (by decide) _ _

theorem entryFilter_does : (entryFilter site).Does G D := by
  refine (does_askItems "entries").andThen fun entries => ?_
  refine (does_askText "attribute_name").andThen fun name => ?_
  refine (does_askSetting "operator").andThen fun operator => ?_
  refine (does_askItems "values").andThen fun candidates => ?_
  refine (does_askSetting "mode").andThen fun mode => ?_
  dsimp only
  split
  · exact does_pure _
  · exact does_complain hwarn (by decide) _ _

theorem math_does : (math site).Does G D := by
  refine (does_askOperation _ _).andThen fun name => ?_
  split
  · exact does_complain hwarn (by decide) name _
  · exact (does_ask "a").andThen fun _ => (does_ask "b").andThen fun _ => does_pure _

theorem mathUnary_does : (mathUnary site).Does G D := by
  refine (does_askOperation _ _).andThen fun name => ?_
  split
  · exact does_complain hwarn (by decide) name _
  · exact (does_ask "value").andThen fun _ => does_pure _

theorem compare_does : (compare site).Does G D := by
  refine (does_askSetting "operator").andThen fun operator => ?_
  refine (does_ask "a").andThen fun a => (does_ask "b").andThen fun b => ?_
  split
  · exact does_pure _
  · exact does_complain hwarn (by decide) _ _

theorem logic_does : (logic site).Does G D := by
  refine (does_askSetting "operator").andThen fun operator => ?_
  refine (does_askTruth "a").andThen fun a => Does.andThen ?_ fun _ => does_pure _
  unfold applyLogic
  split
  · exact does_pure _
  · split
    · exact does_askTruth "b"
    · exact does_pure _
  · split
    · exact does_pure _
    · exact does_askTruth "b"
  · exact (does_askTruth "b").andThen fun _ => does_pure _
  · exact does_complain hwarn (by decide) _ _

theorem setTest_does : (setTest site).Does G D := by
  refine (does_askSetting "operator").andThen fun operator => ?_
  refine (does_askItems "subject").andThen fun subject => ?_
  refine (does_askItems "reference").andThen fun reference => ?_
  split
  · exact does_pure _
  · exact does_complain hwarn (by decide) _ _

theorem askPattern_does : (askPattern site).Does G D := by
  refine (does_askText "pattern").andThen fun source => ?_
  split
  · exact does_pure _
  · refine (does_askFlag "case_sensitive" true).andThen fun caseSensitive => ?_
    split
    · exact does_pure _
    · exact does_complain hwarn (by decide) _ _

theorem regexMatch_does : (regexMatch site).Does G D :=
  (does_ask "text").andThen fun _ => (askPattern_does hwarn).andThen fun _ => does_pure _

theorem regexReplace_does : (regexReplace site).Does G D :=
  (does_ask "text").andThen fun _ => (does_ask "replacement").andThen fun _ =>
    (askPattern_does hwarn).andThen fun _ => does_pure _

end

end Operator

/-! ## The operators -/

/-- What an operator of the kind may do at a site where values meet `G`. -/
def OperatorKind.May (kind : OperatorKind) (site : Site) (G : Value → Prop) : Deed → Prop
  | .gather port => kind = .joinList ∧ port = "lists"
  | .warn text =>
    ∃ complaint, Operator.IsComplaint complaint ∧ text = complaint ++ " at node " ++ site.nodeId
  | .mark m =>
    (kind = .keywordFilter ∨ kind = .messageFilter) ∧ ∃ message, G message ∧ m.LiesIn message

namespace Operator

open Body

variable {G : Value → Prop} {site : Site}

/-- **What operators do**: only the joining of lists gathers, every warning is a complaint at the
node, and only two filters mark, in messages that they were given. -/
theorem body_does (hG : Value.Hereditary G) (h : site.Has G) (kind : OperatorKind) :
    (kind.body site).Does G (kind.May site G) := by
  have hwarn : ∀ text, IsComplaint text →
      kind.May site G (.warn (text ++ " at node " ++ site.nodeId)) :=
    fun text htext => ⟨text, htext, rfl⟩
  cases kind with
  | sourceEntries => exact does_pure _
  | sourceMessages => exact does_pure _
  | sourceLiteral => exact (does_askEach _).andThen fun _ => does_pure _
  | sourceContext => exact sourceContext_does hwarn
  | keywordFilter =>
      exact keywordFilter_does
        (fun m message hmessage hlies => ⟨.inl rfl, message, hmessage, hlies⟩) hG h
  | messageFilter =>
      exact messageFilter_does hwarn
        (fun m message hmessage hlies => ⟨.inr rfl, message, hmessage, hlies⟩) hG h
  | entryFilter => exact entryFilter_does hwarn
  | adjacency =>
      refine (does_askItems "entries").andThen fun starts => ?_
      have hpool : ∀ pool : List Value, Does G (OperatorKind.adjacency.May site G) (do
          let distance ← askCount "distance" 1
          let found := entriesAtDistance pool starts distance
          return (Outputs.single "entries" (.list found)).add "count" (.ofNat found.length)) :=
        fun pool => (does_askCount "distance" 1).andThen fun _ => does_pure _
      dsimp only
      split
      · exact (does_askItems "pool").andThen hpool
      · exact hpool site.entries
  | math => exact math_does hwarn
  | mathUnary => exact mathUnary_does hwarn
  | compare => exact compare_does hwarn
  | logic => exact logic_does hwarn
  | setTest => exact setTest_does hwarn
  | switch =>
      exact (does_askTruth "condition").andThen fun _ => (does_ask _).andThen fun _ => does_pure _
  | probability =>
      exact (does_askNumber "chance" 0.5).andThen fun _ => (does_ask "value").andThen fun _ =>
        does_chance.andThen fun _ => does_pure _
  | joinList =>
      refine (does_askAll ⟨rfl, rfl⟩).andThen fun lists => ?_
      exact (does_askSetting "dedupe").andThen fun _ => (does_askSetting "keep").andThen fun _ =>
        does_pure _
  | remap =>
      exact (does_ask "value").andThen fun _ => (does_ask "mapping").andThen fun _ =>
        (does_ask "fallback").andThen fun _ => does_pure _
  | sort =>
      exact (does_askItems "entries").andThen fun _ => (does_askText "attribute").andThen fun _ =>
        does_pure _
  | slice =>
      exact (does_askItems "list").andThen fun _ => (does_askNumber "start" 0).andThen fun _ =>
        (does_askCount "count" 0).andThen fun _ => (does_askCount "step" 1).andThen fun _ =>
          does_pure _
  | getAttribute =>
      exact (does_askItems "entries").andThen fun _ =>
        (does_askText "attribute_name").andThen fun _ => does_pure _
  | count => exact (does_askItems "list").andThen fun _ => does_pure _
  | textJoin =>
      exact (does_askItems "values").andThen fun _ => (does_ask "separator").andThen fun _ =>
        does_pure _
  | regexMatch => exact regexMatch_does hwarn
  | regexReplace => exact regexReplace_does hwarn
  | reroute => exact (does_ask "input").andThen fun _ => does_pure _
  | outputEntries => exact (does_askItems "entries").andThen fun _ => does_pure _
  | outputContext =>
      exact (does_ask _).andThen fun _ => (does_ask _).andThen fun _ =>
        (does_ask _).andThen fun _ => does_pure _

end Operator

/-! ## In a run -/

/-- The statement survives the deeds that satisfy `D`, and draws. -/
structure Session.Bears (D : Deed → Prop) (P : Session → Prop) : Prop where
  warn : ∀ {s : Session} {text : String}, D (.warn text) → P s → P (s.warn text)
  mark : ∀ {s : Session} {m : Mark}, D (.mark m) → P s → P (s.mark m)
  draw : ∀ {s : Session} (chance : Chance), P s → P { s with chance }

/-- The statement survives all that a run does to a session, where values meet `G`. -/
structure Scene.Withstands (scene : Scene) (G : Value → Prop) (P : Session → Prop) : Prop where
  bears : ∀ {node kind}, scene.engine.kind? node = some kind →
    Session.Bears (kind.May (scene.site node) G) P
  cycle : ∀ {s : Session} {node}, node < scene.engine.nodeCount → P s →
    P (s.reportCycle node (scene.engine.nodeId node))
  missing : ∀ {s : Session} {node}, P s → P (scene.noteMissing node s)
  enter : ∀ {s : Session} {node}, P s → P (s.enter node)
  leave : ∀ {s : Session} {node kind outputs}, P s →
    P (s.leave node (scene.engine.nodeId node) kind outputs)

theorem Value.hereditary_true : Value.Hereditary fun _ => True := by
  constructor <;> intros <;> trivial

theorem Site.has_true (site : Site) : site.Has fun _ => True :=
  ⟨fun _ _ => trivial, fun _ _ => trivial⟩

namespace Scene

variable {scene : Scene} {pull : Pull} {G : Value → Prop} {R : Nat → Outputs → Prop}
  {P : Session → Prop} {D : Deed → Prop} {node : Nat} {α : Type}

/-- Conditions that are inherited are upheld if they hold of what comes in from outside. -/
theorem upholds_all (hG : Value.Hereditary G) (hsite : ∀ node, (scene.site node).Has G)
    (hproperty : ∀ {node name value}, scene.engine.property? node name = some value → G value) :
    scene.Upholds G fun _ outputs => outputs.All G where
  null := hG.null
  property := hproperty
  body {node kind} _ := Operator.body_all hG (hsite node) kind
  missing _ := Outputs.all_empty
  ports h := h

theorem performWith_bears (hup : scene.Upholds G R) (hP : Session.Bears D P)
    (hkeep : PullKeeps pull P) (hgive : PullGives pull P G) {body : Body α}
    (hbody : body.Does G D) : ∀ {s : Session}, P s → P (scene.performWith pull node body s).2 := by
  induction hbody with
  | done result => exact fun hs => hs
  | input _ ih =>
      exact fun hs => ih _ (resolve_gives hup hgive hs _) (resolve_keeps hkeep.edges hs _)
  | inputs _ _ ih =>
      exact fun hs =>
        ih _ (resolveAll_gives hup hkeep hgive hs _) (resolveAll_keeps hkeep.edges hs _)
  | warn htext _ ih => exact fun hs => ih (hP.warn htext hs)
  | mark hm _ ih => exact fun hs => ih (hP.mark hm hs)
  | draw _ ih => exact fun hs => ih _ (hP.draw _ hs)

/-- **Evaluation keeps whatever survives its steps**, along with the conditions on values that it
upholds. -/
theorem evaluateWithin_withstands (hup : scene.Upholds G R) (hG : Value.Hereditary G)
    (hsite : ∀ node, (scene.site node).Has G) (hP : scene.Withstands G P) (depth : Nat) :
    PullKeeps (scene.evaluateWithin depth) (fun s => s.Holds R ∧ P s) := by
  have hrobust := (holds_open R).toRobust
  induction depth with
  | zero => exact fun _ _ _ hs => hs
  | succ depth ih =>
      intro node port s ⟨hs, hPs⟩
      refine ⟨(evaluateWithin_upholds hup _).2 node port s hs, ?_⟩
      refine evaluateWithin_elim (motive := fun r => P r.2) depth ?_ ?_ ?_ ?_ ?_
      · exact fun _ => hPs
      · exact fun hnode _ => hP.cycle hnode hPs
      · exact fun _ _ _ _ => hPs
      · exact fun _ _ _ _ => hP.missing hPs
      · intro kind hruns
        have hgive : PullGives (scene.evaluateWithin depth) (fun s => s.Holds R ∧ P s) G :=
          fun node port s hs => (evaluateWithin_upholds hup depth).1 node port s hs.1
        have hbears : Session.Bears (kind.May (scene.site node) G) (fun s => s.Holds R ∧ P s) := by
          have hdeeds := hP.bears hruns.kind_eq
          exact ⟨fun htext hs => ⟨hrobust.warn _ hs.1, hdeeds.warn htext hs.2⟩,
            fun hm hs => ⟨hrobust.mark _ hs.1, hdeeds.mark hm hs.2⟩,
            fun chance hs => ⟨hrobust.draw chance hs.1, hdeeds.draw chance hs.2⟩⟩
        have henter : (s.enter node).Holds R ∧ P (s.enter node) := ⟨hs, hP.enter hPs⟩
        have hbody : P (scene.runBody (scene.evaluateWithin depth) node kind s).2 :=
          (performWith_bears hup hbears ih hgive
            (Operator.body_does hG (hsite node) kind) henter).2
        rw [execute_eq]
        exact hP.leave hbody

end Scene

end StoryGraph
