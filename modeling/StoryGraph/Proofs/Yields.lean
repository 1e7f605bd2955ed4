import StoryGraph.Proofs.Parts
import StoryGraph.Proofs.Steady
import StoryGraph.Session

/-!
# What operators pass on

No operator builds a record. Each passes values on, takes them apart, or builds lists, texts,
numbers and truth values. So whatever the values that it gets inherit, the values that it gives
have too.

Main definitions: `Outputs.All`, `Body.Gives`, `Operator.Activates`.
-/

namespace StoryGraph

def Outputs.All (G : Value → Prop) (outputs : Outputs) : Prop :=
  ∀ port ∈ outputs.ports, G port.2

namespace Outputs

variable {G : Value → Prop} {outputs : Outputs} {port : String} {value : Value}

theorem all_empty : empty.All G := fun _ h => absurd h List.not_mem_nil

theorem all_cons {rest : List (String × Value)} :
    All G ⟨(port, value) :: rest⟩ ↔ G value ∧ All G ⟨rest⟩ := List.forall_mem_cons

@[simp] theorem all_single : (single port value).All G ↔ G value := by
  simp [All, single]

@[simp] theorem all_add : (outputs.add port value).All G ↔ outputs.All G ∧ G value := by
  simp [All, add, or_imp, forall_and]

theorem All.get? (h : outputs.All G) (hget : outputs.get? port = some value) : G value :=
  h _ (Fields.mem_of_get? hget)

theorem All.select (h : outputs.All G) (hnull : G .null) : G (outputs.select port) := by
  unfold Outputs.select
  split
  · rename_i hget
    exact h.get? hget
  · rename_i hports
    exact h _ (hports ▸ List.mem_cons_self)
  · exact hnull

end Outputs

structure Site.Has (site : Site) (G : Value → Prop) : Prop where
  entries : ∀ entry ∈ site.entries, G entry
  messages : ∀ message ∈ site.messages, G message

namespace Body

variable {α β : Type} {G : Value → Prop} {P : α → Prop} {Q : β → Prop}

/-- As long as the values that the body gets meet the one condition, its result meets the other. -/
structure Gives (G : Value → Prop) (P : α → Prop) (body : Body α) : Prop where
  ensures : body.Ensures G True P

theorem gives_pure {result : α} (h : P result) : (pure result : Body α).Gives G P := ⟨h⟩

theorem gives_ask (port : String) : (ask port).Gives G G := ⟨fun _ h => h⟩

theorem gives_askAll (port : String) :
    (askAll port).Gives G fun values => ∀ value ∈ values, G value := ⟨fun _ h => h⟩

theorem gives_true (body : Body α) : body.Gives G fun _ => True := by
  constructor
  induction body with
  | done result => trivial
  | input port next ih => exact fun value _ => ih value
  | inputs port next ih => exact fun values _ => ih values
  | warn text next ih => exact ih
  | mark m next ih => exact ih
  | draw next ih => exact ⟨trivial, ih⟩

theorem Gives.mono {P' : α → Prop} {body : Body α} (h : body.Gives G P)
    (hP : ∀ result, P result → P' result) : body.Gives G P' :=
  ⟨h.ensures.mono hP⟩

theorem Gives.bind {x : Body α} {f : α → Body β} (hx : x.Gives G P)
    (hf : ∀ a, P a → (f a).Gives G Q) : (x >>= f).Gives G Q :=
  ⟨(ensures_bind x f).mpr (hx.ensures.mono fun a ha => (hf a ha).ensures)⟩

theorem gives_after (x : Body α) {f : α → Body β} (h : ∀ a, (f a).Gives G Q) :
    (x >>= f).Gives G Q :=
  (gives_true x).bind fun a _ => h a

variable {port port' : String} {value value' : Value}

theorem gives_single (h : G value) :
    (pure (.single port value) : Body Outputs).Gives G (·.All G) :=
  gives_pure (Outputs.all_single.mpr h)

theorem gives_pair (h : G value) (h' : G value') :
    (pure ((Outputs.single port value).add port' value') : Body Outputs).Gives G (·.All G) :=
  gives_pure (Outputs.all_add.mpr ⟨Outputs.all_single.mpr h, h'⟩)

end Body

namespace Operator

open Body

variable {G : Value → Prop} {site : Site}

/-! ## What lists are made of -/

theorem mem_firstOfEach {key : Value → String} {item : Value} {items : List Value} :
    ∀ {seen : List String}, item ∈ firstOfEach key seen items → item ∈ items := by
  induction items with
  | nil => exact fun h => h
  | cons first rest ih =>
      intro seen h
      unfold firstOfEach at h
      split at h
      · exact List.mem_cons_of_mem _ (ih h)
      · exact List.mem_cons.mpr ((List.mem_cons.mp h).imp_right ih)

theorem mem_deduplicate {sameness : Sameness} {keepLast : Bool} {item : Value}
    {items : List Value} (h : item ∈ deduplicate sameness keepLast items) : item ∈ items := by
  unfold deduplicate at h
  split at h
  · exact h
  · split at h
    · exact List.mem_reverse.mp (mem_firstOfEach (List.mem_reverse.mp h))
    · exact mem_firstOfEach h

theorem mem_everyNth {α : Type} {step : Nat} {item : α} {items : List α} :
    ∀ {wait : Nat}, item ∈ everyNth step wait items → item ∈ items := by
  induction items with
  | nil => exact fun {wait} h => by cases wait <;> exact absurd h List.not_mem_nil
  | cons first rest ih =>
      intro wait h
      cases wait with
      | zero => exact List.mem_cons.mpr ((List.mem_cons.mp h).imp_right ih)
      | succ wait => exact List.mem_cons_of_mem _ (ih h)

theorem mem_window {α : Type} {start : Int} {count step : Nat} {item : α} {items : List α}
    (h : item ∈ window start count step items) : item ∈ items := by
  unfold window at h
  dsimp only at h
  split at h
  · exact List.mem_of_mem_drop (mem_everyNth h)
  · exact List.mem_of_mem_drop (mem_everyNth (List.mem_of_mem_take h))

/-! ## What tables and literals are made of -/

mutual

theorem rows_has (hG : Value.Hereditary G) : ∀ table : Value, G table → ∀ row ∈ rows table, G row.2
  | .record fields, h, row, hrow => by
      rw [rows] at hrow
      split at hrow
      · rw [List.mem_singleton.mp hrow]
        cases hvalue : Fields.get? fields "value" with
        | none => exact hG.null
        | some value =>
            exact hG.get? h (show Value.get? "value" (.record fields) = some value from hvalue)
      · exact hG.field h row hrow
  | .list items, h, row, hrow => rowsOf_has hG items (hG.item h) row hrow
  | .null, _, _, hrow => absurd hrow List.not_mem_nil
  | .bool _, _, _, hrow => absurd hrow List.not_mem_nil
  | .number _, _, _, hrow => absurd hrow List.not_mem_nil
  | .text _, _, _, hrow => absurd hrow List.not_mem_nil

theorem rowsOf_has (hG : Value.Hereditary G) : ∀ items : List Value, (∀ item ∈ items, G item) →
    ∀ row ∈ rowsOf items, G row.2
  | [], _, _, hrow => absurd hrow List.not_mem_nil
  | first :: rest, h, row, hrow => by
      obtain ⟨hfirst, hrest⟩ := List.forall_mem_cons.mp h
      rcases List.mem_append.mp hrow with hrow | hrow
      · exact rows_has hG first hfirst row hrow
      · exact rowsOf_has hG rest hrest row hrow

end

theorem mapValue_has {table : List (String × Value)} {fallback value : Value}
    (htable : ∀ row ∈ table, G row.2) (hfallback : G fallback) (hvalue : G value) :
    G (mapValue table fallback value) := by
  unfold mapValue
  split
  · rename_i found hfound
    exact htable _ (Fields.mem_of_get? hfound)
  · split
    · exact hvalue
    · exact hfallback

theorem askEach_has (ports : List String) :
    (askEach ports).Gives G fun values => ∀ value ∈ values, G value := by
  induction ports with
  | nil => exact gives_pure fun _ h => absurd h List.not_mem_nil
  | cons port rest ih =>
      refine (gives_ask port).bind fun value hvalue => ih.bind fun values hvalues => ?_
      exact gives_pure (List.forall_mem_cons.mpr ⟨hvalue, hvalues⟩)

/-! ## Inputs -/

variable (hG : Value.Hereditary G)
include hG

theorem askItems_has (port : String) :
    (askItems port).Gives G fun items => ∀ item ∈ items, G item :=
  (gives_ask port).bind fun _ h => gives_pure (hG.toItems h)

theorem askMessages_has (h : site.Has G) :
    (askMessages site).Gives G fun messages => ∀ message ∈ messages, G message := by
  unfold askMessages
  split
  · exact askItems_has hG "messages"
  · exact gives_pure h.messages

/-! ## Sources -/

theorem sourceLiteral_all : (sourceLiteral site).Gives G (·.All G) := by
  refine (askEach_has _).bind fun values hvalues => ?_
  have hfirst : G (values.headD .null) := by
    cases values with
    | nil => exact hG.null
    | cons first rest => exact hvalues first List.mem_cons_self
  exact gives_pair (hG.list hvalues) hfirst

theorem sourceContext_all : (sourceContext site).Gives G (·.All G) := by
  have hfield : ∀ field value, contextField? site field = some value → G value := by
    intro field value h
    have hlast : ∀ test, G (lastText site.chat test) := by
      intro test
      unfold lastText
      split
      · exact hG.text _
      · exact hG.null
    unfold contextField? at h
    split at h <;> cases h
    · exact hG.text _
    · exact hG.text _
    · exact hG.text _
    · exact hlast _
    · exact hlast _
    · exact hlast _
    · exact hG.ofNat _
    · exact hG.text _
    · exact hG.list (hG.texts _)
  refine gives_after _ fun field => ?_
  dsimp only
  split
  · rename_i value hvalue
    exact gives_single (hfield _ value hvalue)
  · exact gives_after _ fun _ => gives_single hG.null

/-! ## Selection -/

theorem keywordFilter_all : (keywordFilter site).Gives G (·.All G) := by
  refine (askItems_has hG "entries").bind fun entries hentries => ?_
  refine gives_after _ fun messages => gives_after _ fun settings => ?_
  refine gives_after _ fun name => gives_after _ fun _ => ?_
  dsimp only
  rw [List.partition_eq_filter_filter]
  -- Both sides are made of the entries.
  have hside : ∀ (test : Value × List Find → Bool), G (.list
      (((entries.map fun entry => (entry, finds (keywordsOf entry
        (name.getD site.config.keywordAttribute) settings.caseSensitive)
        (eligible messages settings.sender settings.depth))).filter test).map (·.1))) := by
    intro test
    refine hG.list (List.forall_mem_map.mpr fun pair hpair => ?_)
    obtain ⟨entry, hentry, rfl⟩ := List.mem_map.mp (List.mem_filter.mp hpair).1
    exact hentries entry hentry
  exact gives_pair (hside _) (hside _)

theorem messageFilter_all (h : site.Has G) : (messageFilter site).Gives G (·.All G) := by
  refine (askMessages_has hG h).bind fun messages hmessages => ?_
  refine gives_after _ fun conditions => gives_after _ fun useRegex => ?_
  refine gives_after _ fun settings => gives_after _ fun patterns => ?_
  refine gives_after _ fun _ => ?_
  dsimp only
  rw [List.partition_eq_filter_filter, List.partition_eq_filter_filter]
  have hside : ∀ test : Value × Nat → Bool,
      G (.list ((messages.zipIdx.filter test).map (·.1))) := by
    intro test
    refine hG.list (List.forall_mem_map.mpr fun pair hpair => ?_)
    exact hmessages _ (List.fst_mem_of_mem_zipIdx (List.mem_filter.mp hpair).1)
  have htexts : ∀ test : String × Option TextPattern → Bool,
      G (.list ((patterns.filter test).map fun pattern => .text pattern.1)) :=
    fun test => hG.list (List.forall_mem_map.mpr fun _ _ => hG.text _)
  refine gives_pure ?_
  simp only [Outputs.all_cons]
  exact ⟨hside _, hside _, htexts _, htexts _, hG.bool _, Outputs.all_empty⟩

theorem entryFilter_all : (entryFilter site).Gives G (·.All G) := by
  refine (askItems_has hG "entries").bind fun entries hentries => ?_
  refine gives_after _ fun name => gives_after _ fun operator => ?_
  refine gives_after _ fun candidates => gives_after _ fun mode => ?_
  dsimp only
  split
  · unfold splitByAttribute
    rw [List.partition_eq_filter_filter]
    exact gives_pair (hG.list fun item h => hentries item (List.mem_filter.mp h).1)
      (hG.list fun item h => hentries item (List.mem_filter.mp h).1)
  · refine gives_after _ fun _ => gives_pair (hG.list fun _ h => ?_) (hG.list hentries)
    exact absurd h List.not_mem_nil

theorem adjacency_all (h : site.Has G) : (adjacency site).Gives G (·.All G) := by
  refine gives_after _ fun starts => ?_
  have hfound : ∀ pool, (∀ entry ∈ pool, G entry) → ∀ distance,
      G (.list (entriesAtDistance pool starts distance)) := by
    intro pool hpool distance
    refine hG.list (List.forall_mem_map.mpr fun pair hpair => ?_)
    exact hpool _ (List.fst_mem_of_mem_zipIdx (List.mem_filter.mp hpair).1)
  dsimp only
  split
  · refine (askItems_has hG "pool").bind fun pool hpool => gives_after _ fun distance => ?_
    exact gives_pair (hfound pool hpool distance) (hG.ofNat _)
  · refine Gives.bind (P := fun pool => ∀ entry ∈ pool, G entry) (gives_pure h.entries) ?_
    exact fun pool hpool => gives_after _ fun distance =>
      gives_pair (hfound pool hpool distance) (hG.ofNat _)

/-! ## Arithmetic and decisions -/

theorem itemwise_has {f : Value → Value → Value} (h : ∀ a b, G (f a b)) (a b : Value) :
    G (itemwise f a b) := by
  unfold itemwise
  split
  · rw [← List.map_uncurry_zip_eq_zipWith]
    exact hG.list (List.forall_mem_map.mpr fun _ _ => h _ _)
  · exact hG.list (List.forall_mem_map.mpr fun _ _ => h _ _)
  · exact hG.list (List.forall_mem_map.mpr fun _ _ => h _ _)
  · exact h _ _

theorem unknownOperation_all (name : String) :
    (unknownOperation site name).Gives G (·.All G) :=
  gives_after _ fun _ => gives_single (hG.ofNat 0)

theorem math_all : (math site).Gives G (·.All G) := by
  refine gives_after _ fun name => ?_
  split
  · exact unknownOperation_all hG name
  · refine gives_after _ fun a => gives_after _ fun b => ?_
    exact gives_single (itemwise_has hG (fun _ _ => hG.ofFloat _) a b)

theorem mathUnary_all : (mathUnary site).Gives G (·.All G) := by
  refine gives_after _ fun name => ?_
  split
  · exact unknownOperation_all hG name
  · refine gives_after _ fun value => gives_single ?_
    split
    · exact hG.list (List.forall_mem_map.mpr fun _ _ => hG.ofFloat _)
    · exact hG.ofFloat _

theorem compare_all : (compare site).Gives G (·.All G) := by
  refine gives_after _ fun operator => gives_after _ fun a => gives_after _ fun b => ?_
  split
  · exact gives_single (hG.bool _)
  · exact gives_after _ fun _ => gives_single (hG.bool _)

theorem logic_all : (logic site).Gives G (·.All G) :=
  gives_after _ fun _ => gives_after _ fun _ => gives_after _ fun _ =>
    gives_single (hG.bool _)

theorem setTest_all : (setTest site).Gives G (·.All G) := by
  refine gives_after _ fun _ => gives_after _ fun _ => gives_after _ fun _ => ?_
  split
  · exact gives_single (hG.bool _)
  · exact gives_after _ fun _ => gives_single (hG.bool _)

omit hG in
theorem switch_all : switch.Gives G (·.All G) :=
  gives_after _ fun _ => (gives_ask _).bind fun _ => gives_single

theorem probability_all : probability.Gives G (·.All G) := by
  refine gives_after _ fun chance => ?_
  refine (gives_ask _).bind fun value hvalue => gives_after _ fun x => ?_
  refine gives_pair ?_ (hG.bool _)
  split
  · exact hvalue
  · exact hG.neutral value

/-! ## Lists -/

theorem joinList_all : (joinList site).Gives G (·.All G) := by
  refine (gives_askAll _).bind fun lists hlists => ?_
  refine gives_after _ fun dedupe => gives_after _ fun keep => ?_
  refine gives_single (hG.list fun item hitem => ?_)
  obtain ⟨list, hlist, hitem⟩ := List.mem_flatMap.mp (mem_deduplicate hitem)
  exact hG.toItems (hlists list hlist) item hitem

theorem remap_all : remap.Gives G (·.All G) := by
  refine (gives_ask _).bind fun value hvalue => ?_
  refine (gives_ask _).bind fun mapping hmapping => ?_
  refine (gives_ask _).bind fun fallback hfallback => gives_single ?_
  have hmap : ∀ v, G v → G (mapValue (rows mapping) fallback v) :=
    fun v => mapValue_has (rows_has hG mapping hmapping) hfallback
  split
  · exact hG.list (List.forall_mem_map.mpr fun old hold => hmap old (hG.item hvalue old hold))
  · exact hG.null
  · exact hmap _ hvalue

theorem sort_all : Operator.sort.Gives G (·.All G) := by
  refine (askItems_has hG "entries").bind fun items hitems => gives_after _ fun name => ?_
  have hsorted : ∀ item ∈ sortBy name items, G item :=
    fun item hitem => hitems item ((List.mergeSort_perm _ _).mem_iff.mp hitem)
  refine gives_pair (hG.list hsorted) (hG.list fun item hitem => ?_)
  exact hsorted item (List.mem_reverse.mp hitem)

theorem slice_all : slice.Gives G (·.All G) := by
  refine (askItems_has hG "list").bind fun items hitems => ?_
  refine gives_after _ fun start => gives_after _ fun count => gives_after _ fun step => ?_
  exact gives_single (hG.list fun item hitem => hitems item (mem_window hitem))

theorem getAttribute_all : getAttribute.Gives G (·.All G) := by
  refine (askItems_has hG "entries").bind fun items hitems => gives_after _ fun name => ?_
  refine gives_single (hG.list fun value hvalue => ?_)
  cases name with
  | none => exact absurd hvalue List.not_mem_nil
  | some name =>
      obtain ⟨item, hitem, hvalue⟩ := List.mem_filterMap.mp hvalue
      exact hG.attribute? (hitems item hitem) hvalue

theorem count_all : Operator.count.Gives G (·.All G) :=
  gives_after _ fun _ => gives_single (hG.ofNat _)

/-! ## Roots -/

theorem rootOutputs_all {ids : List String} {text : TextField → String} {entries : List Value}
    (h : ∀ entry ∈ entries, G entry) : (rootOutputs ids text entries).All G := by
  intro port hport
  rcases List.mem_append.mp hport with hport | hport
  · rcases List.mem_append.mp hport with hport | hport
    · rw [List.mem_singleton.mp hport]
      exact hG.list (hG.texts ids)
    · obtain ⟨field, -, rfl⟩ := List.mem_map.mp hport
      exact hG.text _
  · rw [List.mem_singleton.mp hport]
    exact hG.list h

omit hG in
theorem rootOutputs_ids (ids : List String) (text : TextField → String) (entries : List Value) :
    (Scene.fragmentOf (rootOutputs ids text entries)).ids = ids.filter (!·.isEmpty) := by
  have hids : (rootOutputs ids text entries).get? "ids" = some (.list (ids.map .text)) := rfl
  unfold Scene.fragmentOf
  dsimp only
  rw [hids]
  show ((ids.map Value.text).map Value.display).filter _ = _
  rw [List.map_map]
  congr 1
  exact (List.map_congr_left fun id _ => Value.display.eq_2 id).trans (List.map_id ids)

/-- The ids that outputs activate as those of a root are ids of values that meet a condition. -/
def Activates (G : Value → Prop) (outputs : Outputs) : Prop :=
  ∀ id ∈ (Scene.fragmentOf outputs).ids, id ≠ "" ∧ ∃ value, G value ∧ value.id? = some id

theorem outputEntries_yields :
    outputEntries.Gives G fun outputs => outputs.All G ∧ Activates G outputs := by
  refine (askItems_has hG "entries").bind fun entries hentries => ?_
  refine gives_pure ⟨rootOutputs_all hG hentries, fun id hid => ?_⟩
  rw [rootOutputs_ids] at hid
  obtain ⟨hid, hempty⟩ := List.mem_filter.mp hid
  obtain ⟨entry, hentry, hentryId⟩ := List.mem_filterMap.mp hid
  exact ⟨by simpa using hempty, entry, hentries entry hentry, hentryId⟩

theorem outputContext_yields :
    outputContext.Gives G fun outputs => outputs.All G ∧ Activates G outputs := by
  refine gives_after _ fun _ => gives_after _ fun _ => gives_after _ fun _ => ?_
  refine gives_pure ⟨rootOutputs_all hG fun _ h => absurd h List.not_mem_nil, fun id hid => ?_⟩
  rw [rootOutputs_ids] at hid
  exact absurd hid List.not_mem_nil

/-! ## Texts -/

theorem textJoin_all : textJoin.Gives G (·.All G) := by
  refine gives_after _ fun values => gives_after _ fun separator => ?_
  exact gives_single (hG.text _)

theorem regexMatch_all : (regexMatch site).Gives G (·.All G) := by
  refine gives_after _ fun text => gives_after _ fun pattern => ?_
  exact gives_pair (hG.bool _) (hG.list (hG.texts _))

theorem regexReplace_all : (regexReplace site).Gives G (·.All G) := by
  refine gives_after _ fun text => gives_after _ fun replacement => ?_
  refine gives_after _ fun pattern => ?_
  exact gives_single (hG.text _)

/-- **Every operator passes on what values inherit.** -/
theorem body_all (h : site.Has G) (kind : OperatorKind) :
    (kind.body site).Gives G (·.All G) := by
  cases kind with
  | sourceEntries => exact gives_single (hG.list h.entries)
  | sourceMessages => exact gives_single (hG.list h.messages)
  | sourceLiteral => exact sourceLiteral_all hG
  | sourceContext => exact sourceContext_all hG
  | keywordFilter => exact keywordFilter_all hG
  | messageFilter => exact messageFilter_all hG h
  | entryFilter => exact entryFilter_all hG
  | adjacency => exact adjacency_all hG h
  | math => exact math_all hG
  | mathUnary => exact mathUnary_all hG
  | compare => exact compare_all hG
  | logic => exact logic_all hG
  | setTest => exact setTest_all hG
  | switch => exact switch_all
  | probability => exact probability_all hG
  | joinList => exact joinList_all hG
  | remap => exact remap_all hG
  | sort => exact sort_all hG
  | slice => exact slice_all hG
  | getAttribute => exact getAttribute_all hG
  | count => exact count_all hG
  | textJoin => exact textJoin_all hG
  | regexMatch => exact regexMatch_all hG
  | regexReplace => exact regexReplace_all hG
  | reroute => exact (gives_ask _).bind fun _ => gives_single
  | outputEntries => exact (outputEntries_yields hG).mono fun _ => And.left
  | outputContext => exact (outputContext_yields hG).mono fun _ => And.left

end Operator

end StoryGraph
