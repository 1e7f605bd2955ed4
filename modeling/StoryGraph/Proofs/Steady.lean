import StoryGraph.Operator.Kind

/-!
# What a body ensures

The results of a body are known from its tree alone: it is enough to look at every answer that it
may get. `Body.Ensures` computes the condition for this along the tree, so a body put together from
smaller ones is judged by what those ensure. The first use is that of all operators only the chance
gate draws.
-/

namespace StoryGraph

namespace Body

variable {α β : Type} {given : Value → Prop} {chance : Prop}

/-- Every result satisfies the condition, as long as the values that the body gets satisfy `given`;
and the body draws only if `chance` holds. -/
def Ensures (given : Value → Prop) (chance : Prop) (P : α → Prop) : Body α → Prop
  | .done result => P result
  | .input _ next => ∀ value, given value → (next value).Ensures given chance P
  | .inputs _ next =>
    ∀ values, (∀ value ∈ values, given value) → (next values).Ensures given chance P
  | .warn _ next => next.Ensures given chance P
  | .mark _ next => next.Ensures given chance P
  | .draw next => chance ∧ ∀ x, (next x).Ensures given chance P

@[simp] theorem ensures_pure {P : α → Prop} (result : α) :
    (pure result : Body α).Ensures given chance P ↔ P result := Iff.rfl

@[simp] theorem ensures_ask {P : Value → Prop} (port : String) :
    (ask port).Ensures given chance P ↔ ∀ value, given value → P value := Iff.rfl

@[simp] theorem ensures_askAll {P : List Value → Prop} (port : String) :
    (askAll port).Ensures given chance P ↔
      ∀ values, (∀ value ∈ values, given value) → P values := Iff.rfl

@[simp] theorem ensures_tell {P : Unit → Prop} (text : String) :
    (tell text).Ensures given chance P ↔ P () := Iff.rfl

@[simp] theorem ensures_chance {P : Float → Prop} :
    Body.chance.Ensures given chance P ↔ chance ∧ ∀ x, P x := Iff.rfl

@[simp] theorem ensures_markAll {P : Unit → Prop} (marks : List Mark) :
    (markAll marks).Ensures given chance P ↔ P () := by
  induction marks with
  | nil => exact Iff.rfl
  | cons m rest ih => exact ih

/-- **A sequence is judged by its parts.** -/
@[simp] theorem ensures_bind {P : β → Prop} (x : Body α) (f : α → Body β) :
    (x >>= f).Ensures given chance P ↔
      x.Ensures given chance (fun result => (f result).Ensures given chance P) := by
  induction x with
  | done result => exact Iff.rfl
  | input port next ih => exact forall_congr' fun value => imp_congr_right fun _ => ih value
  | inputs port next ih => exact forall_congr' fun values => imp_congr_right fun _ => ih values
  | warn text next ih => exact ih
  | mark m next ih => exact ih
  | draw next ih => exact and_congr_right fun _ => forall_congr' fun x => ih x

@[simp] theorem ensures_ite {P : α → Prop} (c : Prop) [Decidable c] (x y : Body α) :
    (if c then x else y).Ensures given chance P ↔
      if c then x.Ensures given chance P else y.Ensures given chance P := by
  split <;> exact Iff.rfl

/-! ## Inputs read as another kind -/

@[simp] theorem ensures_askItems {P : List Value → Prop} (port : String) :
    (askItems port).Ensures given chance P ↔ ∀ value, given value → P value.toItems := by
  simp [askItems]

@[simp] theorem ensures_askNumber {P : Float → Prop} (port : String) (default : Float) :
    (askNumber port default).Ensures given chance P ↔
      ∀ value, given value → P (value.number?.getD default) := by
  simp [askNumber]

@[simp] theorem ensures_askCount {P : Nat → Prop} (port : String) (default : Float) :
    (askCount port default).Ensures given chance P ↔
      ∀ value, given value → P (Binary64.toCount (value.number?.getD default)) := by
  simp [askCount]

@[simp] theorem ensures_siteTell {P : Unit → Prop} (site : Site) (problem : String) :
    (site.tell problem).Ensures given chance P ↔ P () := Iff.rfl

/-! ## Bodies that draw nothing -/

structure Steady (body : Body α) : Prop where
  ensures : body.Ensures (fun _ => True) False (fun _ => True)

theorem Ensures.mono {P Q : α → Prop} {body : Body α} (h : body.Ensures given chance P)
    (hPQ : ∀ result, P result → Q result) : body.Ensures given chance Q := by
  induction body with
  | done result => exact hPQ result h
  | input port next ih => exact fun value hvalue => ih value (h value hvalue)
  | inputs port next ih => exact fun values hvalues => ih values (h values hvalues)
  | warn text next ih => exact ih h
  | mark m next ih => exact ih h
  | draw next ih => exact ⟨h.1, fun x => ih x (h.2 x)⟩

theorem steady_pure (result : α) : (pure result : Body α).Steady := ⟨trivial⟩

theorem steady_ask (port : String) : (ask port).Steady := ⟨fun _ _ => trivial⟩

theorem Steady.bind {x : Body α} {f : α → Body β} (hx : x.Steady) (hf : ∀ a, (f a).Steady) :
    (x >>= f).Steady :=
  ⟨(ensures_bind x f).mpr (hx.ensures.mono fun a _ => (hf a).ensures)⟩

end Body

namespace Operator

open Body

theorem steady_askText (port : String) : (askText port).Steady :=
  ⟨by simp [askText]⟩

theorem steady_askItems (port : String) : (askItems port).Steady :=
  ⟨by simp⟩

theorem steady_askFlag (port : String) (default : Bool) : (askFlag port default).Steady :=
  ⟨by simp [askFlag]⟩

theorem steady_askSetting (site : Site) (port : String) : (site.askSetting port).Steady :=
  ⟨by simp [Site.askSetting, Site.askSettingText]⟩

theorem steady_askEach (ports : List String) : (askEach ports).Steady := by
  induction ports with
  | nil => exact steady_pure []
  | cons port rest ih => exact (steady_ask port).bind fun _ => ih.bind fun _ => steady_pure _

theorem steady_conditionPatterns (site : Site) (useRegex caseSensitive : Bool)
    (conditions : List String) :
    (conditionPatterns site useRegex caseSensitive conditions).Steady := by
  induction conditions with
  | nil => exact steady_pure []
  | cons condition rest ih =>
      have hpattern : (conditionPattern site useRegex caseSensitive condition).Steady := by
        unfold conditionPattern
        split
        · split <;> exact ⟨by simp⟩
        · exact steady_pure _
      exact hpattern.bind fun _ => ih.bind fun _ => steady_pure _

theorem steady_askMessages (site : Site) : (askMessages site).Steady :=
  ⟨by simp [askMessages]⟩

theorem steady_askScanSettings (site : Site) : (askScanSettings site).Steady :=
  ⟨by simp [askScanSettings, askFlag, Site.askSetting, Site.askSettingText]⟩

theorem steady_askOperation (site : Site) (words : List String) (default : String) :
    (askOperation site words default).Steady := by
  refine (steady_askSetting site "operator").bind fun name => ?_
  split <;> exact steady_pure _

theorem steady_unknownOperation (site : Site) (name : String) :
    (unknownOperation site name).Steady :=
  ⟨by simp [unknownOperation]⟩

theorem steady_askTruth (port : String) : (askTruth port).Steady :=
  ⟨by simp [askTruth]⟩

theorem steady_applyLogic (site : Site) (operator : String) (a : Bool) :
    (applyLogic site operator a).Steady := by
  unfold applyLogic
  split
  · exact steady_pure _
  · split
    · exact steady_askTruth "b"
    · exact steady_pure _
  · split
    · exact steady_pure _
    · exact steady_askTruth "b"
  · exact (steady_askTruth "b").bind fun _ => steady_pure _
  · exact ⟨by simp⟩

theorem steady_askPattern (site : Site) : (askPattern site).Steady := by
  refine (steady_askText "pattern").bind fun source => ?_
  split
  · exact steady_pure _
  · refine (steady_askFlag "case_sensitive" true).bind fun caseSensitive => ?_
    split
    · exact steady_pure _
    · exact ⟨by simp⟩

/-! ## The operators -/

theorem steady_sourceContext (site : Site) : (sourceContext site).Steady := by
  refine (steady_askSetting site "field").bind fun field => ?_
  dsimp only
  split
  · exact steady_pure _
  · exact ⟨by simp⟩

theorem steady_keywordFilter (site : Site) : (keywordFilter site).Steady := by
  refine (steady_askItems "entries").bind fun entries => ?_
  refine (steady_askMessages site).bind fun messages => ?_
  refine (steady_askScanSettings site).bind fun settings => ?_
  refine (steady_askText "keyword_attribute").bind fun name => ?_
  exact ⟨by simp⟩

theorem steady_messageFilter (site : Site) : (messageFilter site).Steady := by
  refine (steady_askMessages site).bind fun messages => ?_
  refine (steady_askItems "conditions").bind fun conditions => ?_
  refine (steady_askFlag "use_regex" false).bind fun useRegex => ?_
  refine (steady_askScanSettings site).bind fun settings => ?_
  refine (steady_conditionPatterns site _ _ _).bind fun patterns => ?_
  exact ⟨by simp⟩

theorem steady_entryFilter (site : Site) : (entryFilter site).Steady := by
  refine (steady_askItems "entries").bind fun entries => ?_
  refine (steady_askText "attribute_name").bind fun name => ?_
  refine (steady_askSetting site "operator").bind fun operator => ?_
  refine (steady_askItems "values").bind fun candidates => ?_
  refine (steady_askSetting site "mode").bind fun mode => ?_
  dsimp only
  split
  · exact steady_pure _
  · exact ⟨by simp⟩

theorem steady_adjacency (site : Site) : (adjacency site).Steady :=
  ⟨by simp [adjacency]⟩

theorem steady_math (site : Site) : (math site).Steady := by
  refine (steady_askOperation site _ _).bind fun name => ?_
  split
  · exact steady_unknownOperation site name
  · exact ⟨by simp⟩

theorem steady_mathUnary (site : Site) : (mathUnary site).Steady := by
  refine (steady_askOperation site _ _).bind fun name => ?_
  split
  · exact steady_unknownOperation site name
  · exact ⟨by simp⟩

theorem steady_compare (site : Site) : (compare site).Steady := by
  refine (steady_askSetting site "operator").bind fun operator => ?_
  refine (steady_ask "a").bind fun a => (steady_ask "b").bind fun b => ?_
  split
  · exact steady_pure _
  · exact ⟨by simp⟩

theorem steady_logic (site : Site) : (logic site).Steady :=
  (steady_askSetting site "operator").bind fun _ => (steady_askTruth "a").bind fun a =>
    (steady_applyLogic site _ a).bind fun _ => steady_pure _

theorem steady_setTest (site : Site) : (setTest site).Steady := by
  refine (steady_askSetting site "operator").bind fun operator => ?_
  refine (steady_askItems "subject").bind fun subject => ?_
  refine (steady_askItems "reference").bind fun reference => ?_
  split
  · exact steady_pure _
  · exact ⟨by simp⟩

theorem steady_joinList (site : Site) : (joinList site).Steady := by
  refine Steady.bind (x := askAll "lists") ⟨by simp⟩ fun lists => ?_
  refine (steady_askSetting site "dedupe").bind fun dedupe => ?_
  exact (steady_askSetting site "keep").bind fun keep => steady_pure _

theorem steady_regexMatch (site : Site) : (regexMatch site).Steady :=
  (steady_ask "text").bind fun _ => (steady_askPattern site).bind fun _ => steady_pure _

theorem steady_regexReplace (site : Site) : (regexReplace site).Steady :=
  (steady_ask "text").bind fun _ => (steady_ask "replacement").bind fun _ =>
    (steady_askPattern site).bind fun _ => steady_pure _

/-- **Only the chance gate draws.** -/
theorem steady_body (kind : OperatorKind) (site : Site) (h : kind ≠ .probability) :
    (kind.body site).Steady := by
  cases kind with
  | probability => exact absurd rfl h
  | sourceEntries => exact steady_pure _
  | sourceMessages => exact steady_pure _
  | sourceLiteral => exact (steady_askEach _).bind fun _ => steady_pure _
  | sourceContext => exact steady_sourceContext site
  | keywordFilter => exact steady_keywordFilter site
  | messageFilter => exact steady_messageFilter site
  | entryFilter => exact steady_entryFilter site
  | adjacency => exact steady_adjacency site
  | math => exact steady_math site
  | mathUnary => exact steady_mathUnary site
  | compare => exact steady_compare site
  | logic => exact steady_logic site
  | setTest => exact steady_setTest site
  | switch => exact ⟨by simp [OperatorKind.body, switch, askTruth]⟩
  | joinList => exact steady_joinList site
  | remap => exact ⟨by simp [OperatorKind.body, remap]⟩
  | sort => exact ⟨by simp [OperatorKind.body, Operator.sort, askText]⟩
  | slice => exact ⟨by simp [OperatorKind.body, slice]⟩
  | getAttribute => exact ⟨by simp [OperatorKind.body, getAttribute, askText]⟩
  | count => exact ⟨by simp [OperatorKind.body, count]⟩
  | textJoin => exact ⟨by simp [OperatorKind.body, textJoin]⟩
  | regexMatch => exact steady_regexMatch site
  | regexReplace => exact steady_regexReplace site
  | reroute => exact ⟨by simp [OperatorKind.body, reroute]⟩
  | outputEntries => exact ⟨by simp [OperatorKind.body, outputEntries]⟩
  | outputContext => exact ⟨by simp [OperatorKind.body, outputContext]⟩

end Operator

end StoryGraph
