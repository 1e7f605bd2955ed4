import Mathlib.Data.List.Induction
import StoryGraph.ActivatedIds
import StoryGraph.Proofs.Gains
import StoryGraph.Proofs.Numerals

/-!
# Reports of activated entries

A report names an entry by its position, by its id, or by the numeral of its position where no entry
has that numeral as its id. Reports are brought to ids, each once, in the order of their first
report, and bringing the ids to ids again changes nothing. A text that names no entry is not left
out: it comes back as it is. So the ids are ids of entries exactly if all texts name entries.

Main definitions: `FirstOccurrences`, `DataDocument.Names`, `DataDocument.Resolves`,
`DataDocument.Form`. Main results: `DataDocument.unknown_texts_come_back`,
`DataDocument.activated_ids_are_canonical`.
-/

namespace StoryGraph

/-! ## First occurrences -/

/-- The items of a list, each once, in the order in which they first occur there. -/
structure FirstOccurrences (items kept : List String) : Prop where
  nodup : kept.Nodup
  mem : ∀ text, text ∈ kept ↔ text ∈ items
  ascending : kept.Pairwise fun a b => items.idxOf a < items.idxOf b

theorem FirstOccurrences.unique {items kept other : List String} (h : FirstOccurrences items kept)
    (h' : FirstOccurrences items other) : kept = other := by
  have hperm : kept.Perm other := by
    rw [List.perm_ext_iff_of_nodup h.nodup h'.nodup]
    intro text
    rw [h.mem, h'.mem]
  refine hperm.eq_of_pairwise (fun a b _ _ hab hba => ?_) h.ascending h'.ascending
  exact absurd hab (Nat.lt_asymm hba)

/-- Texts that are added to a list one by one stand there in the order of their first addition. -/
theorem firstOccurrences_foldl_addNew (items : List String) :
    FirstOccurrences items (items.foldl addNew []) := by
  induction items using List.reverseRecOn with
  | nil => exact ⟨.nil, by simp, .nil⟩
  | append_singleton items last ih =>
      -- Where the items stood before, they still stand.
      have hkept : (items.foldl addNew []).Pairwise fun a b =>
          (items ++ [last]).idxOf a < (items ++ [last]).idxOf b := by
        refine ih.ascending.imp_of_mem fun {a b} ha hb hlt => ?_
        rw [ih.mem] at ha hb
        rwa [List.idxOf_append_of_mem ha, List.idxOf_append_of_mem hb]
      rw [List.foldl_append, List.foldl_cons, List.foldl_nil]
      constructor
      · obtain ⟨added, hgains⟩ := gains_addNew (items.foldl addNew []) last
        exact hgains.nodup_new ih.nodup
      · intro text
        rw [mem_addNew, ih.mem]
        simp
      · by_cases hlast : last ∈ items
        · have hold := List.contains_iff_mem.mpr ((ih.mem last).mpr hlast)
          rwa [addNew, if_pos hold]
        · have hnew := mt List.contains_iff_mem.mp (mt (ih.mem last).mp hlast)
          rw [addNew, if_neg hnew, List.pairwise_append]
          refine ⟨hkept, by simp, ?_⟩
          intro a ha b hb
          rw [ih.mem] at ha
          rw [List.mem_singleton.mp hb, List.idxOf_append_of_mem ha,
            List.idxOf_append_of_notMem hlast]
          have := List.idxOf_lt_length_iff.mpr ha
          omega

namespace DataDocument

variable {document : DataDocument} {report : Value} {id s : String} {n : Nat}

/-! ## What a report names -/

def HasId (document : DataDocument) (id : String) : Prop := ∃ item ∈ document.items, item.id = id

/-- The report names the entry with the id: a number names the entry at its position, and a text the
entries that have it as their id. If no entry has it, a numeral names the entry at its position. -/
inductive Names (document : DataDocument) : Value → String → Prop
  | position {n : Nat} {id : String} : document.idAt? n = some id → Names document (.ofNat n) id
  | id {id : String} : document.HasId id → Names document (.text id) id
  | numeral {s : String} {n : Nat} {id : String} : ¬ document.HasId s →
      Decimal.naturalBelow? (2 ^ 64) s.toList = some n → document.idAt? n = some id →
      Names document (.text s) id

def Unknown (document : DataDocument) (report : Value) : Prop := ∀ id, ¬ document.Names report id

/-- What a report comes to: the id of the entry that it names, or itself if it is a text that names
none. -/
def Resolves (document : DataDocument) (report : Value) (id : String) : Prop :=
  document.Names report id ∨ report = .text id ∧ document.Unknown report

theorem hasId_of_idAt? (h : document.idAt? n = some id) : document.HasId id := by
  obtain ⟨item, hitem, rfl⟩ := Option.map_eq_some_iff.mp h
  exact ⟨item, List.mem_of_getElem? hitem, rfl⟩

theorem Names.hasId (h : document.Names report id) : document.HasId id := by
  cases h with
  | position hid => exact hasId_of_idAt? hid
  | id hid => exact hid
  | numeral _ _ hid => exact hasId_of_idAt? hid

theorem isSome_entryIndex? : (document.entryIndex? s).isSome ↔ document.HasId s := by
  simp [entryIndex?, HasId]

theorem activatedId?_text_of_hasId (h : document.HasId s) :
    document.activatedId? (.text s) = some s := by
  rw [activatedId?, if_pos (isSome_entryIndex?.mpr h)]

theorem activatedId?_text_of_not_hasId (h : ¬ document.HasId s) :
    document.activatedId? (.text s) =
      some (((Decimal.naturalBelow? (2 ^ 64) s.toList).bind document.idAt?).getD s) := by
  rw [activatedId?, if_neg (mt isSome_entryIndex?.mp h)]

theorem Names.activatedId? (h : document.Names report id) :
    document.activatedId? report = some id := by
  cases h with
  | position hid => exact hid
  | id hid => exact activatedId?_text_of_hasId hid
  | numeral hnone hn hid =>
      rw [activatedId?_text_of_not_hasId hnone, hn, Option.bind_some, hid, Option.getD_some]

theorem Unknown.activatedId?_text (h : document.Unknown (.text s)) :
    document.activatedId? (.text s) = some s := by
  have hnone : ¬ document.HasId s := fun hs => h s (.id hs)
  rw [activatedId?_text_of_not_hasId hnone]
  cases hn : Decimal.naturalBelow? (2 ^ 64) s.toList with
  | none => rfl
  | some n =>
      cases hid : document.idAt? n with
      | none => simp [hid]
      | some id => exact absurd (.numeral hnone hn hid) (h id)

theorem Unknown.activatedId?_eq_none (h : document.Unknown report)
    (hreport : ∀ s, report ≠ .text s) : document.activatedId? report = none := by
  cases report with
  | text s => exact absurd rfl (hreport s)
  | number number =>
      cases number with
      | real x => rfl
      | int n =>
          cases n with
          | negSucc n => rfl
          | ofNat n =>
              cases hid : document.idAt? n with
              | none => exact hid
              | some id => exact absurd (.position hid) (h id)
  | _ => rfl

/-- **What a report comes to.** -/
theorem activatedId?_eq_some_iff :
    document.activatedId? report = some id ↔ document.Resolves report id := by
  constructor
  · intro h
    by_cases hunknown : document.Unknown report
    · by_cases hreport : ∀ s, report ≠ .text s
      · rw [hunknown.activatedId?_eq_none hreport] at h
        exact nomatch h
      · push Not at hreport
        obtain ⟨s, rfl⟩ := hreport
        rw [hunknown.activatedId?_text] at h
        cases h
        exact .inr ⟨rfl, hunknown⟩
    · unfold Unknown at hunknown
      push Not at hunknown
      obtain ⟨other, hnames⟩ := hunknown
      rw [hnames.activatedId?] at h
      cases h
      exact .inl hnames
  · rintro (hnames | ⟨rfl, hunknown⟩)
    · exact hnames.activatedId?
    · exact hunknown.activatedId?_text

theorem activatedId?_eq_none_iff : document.activatedId? report = none ↔
    document.Unknown report ∧ ∀ s, report ≠ .text s := by
  constructor
  · intro h
    refine ⟨fun id hnames => ?_, ?_⟩
    · rw [hnames.activatedId?] at h
      exact nomatch h
    · rintro s rfl
      by_cases hs : document.HasId s
      · rw [activatedId?_text_of_hasId hs] at h
        exact nomatch h
      · rw [activatedId?_text_of_not_hasId hs] at h
        exact nomatch h
  · exact fun h => h.1.activatedId?_eq_none h.2

/-! ## Lists of reports -/

theorem activatedIds_eq (reports : List Value) :
    document.activatedIds reports = (reports.filterMap document.activatedId?).foldl addNew [] := rfl

theorem activatedIds_firstOccurrences (document : DataDocument) (reports : List Value) :
    FirstOccurrences (reports.filterMap document.activatedId?) (document.activatedIds reports) :=
  firstOccurrences_foldl_addNew _

theorem mem_activatedIds {reports : List Value} :
    id ∈ document.activatedIds reports ↔ ∃ report ∈ reports, document.Resolves report id := by
  rw [(document.activatedIds_firstOccurrences reports).mem, List.mem_filterMap]
  simp only [activatedId?_eq_some_iff]

def Idle (document : DataDocument) (report : Value) : Prop :=
  ∀ before after, document.activatedIds (before ++ report :: after) =
    document.activatedIds (before ++ after)

theorem idle_iff : document.Idle report ↔ document.activatedId? report = none := by
  constructor
  · intro h
    cases hid : document.activatedId? report with
    | none => rfl
    | some id =>
        have hone : id ∈ document.activatedIds ([] ++ report :: []) :=
          mem_activatedIds.mpr ⟨report, by simp, activatedId?_eq_some_iff.mp hid⟩
        rw [h [] []] at hone
        exact absurd hone List.not_mem_nil
  · intro h before after
    simp [activatedIds_eq, List.filterMap_append, List.filterMap_cons_none h]

/-- **Texts that name no entry come back.** What is returned is what the reports come to, and a
report makes no difference exactly if it names no entry and is no text. So all that is returned are
ids of entries exactly if every text among the reports names an entry. -/
theorem unknown_texts_come_back (document : DataDocument) :
    (∀ reports id, id ∈ document.activatedIds reports ↔
      ∃ report ∈ reports, document.Resolves report id) ∧
    (∀ report, document.Idle report ↔ document.Unknown report ∧ ∀ s, report ≠ .text s) ∧
    ∀ reports, (∀ id ∈ document.activatedIds reports, document.HasId id) ↔
      ∀ s, Value.text s ∈ reports → ¬ document.Unknown (.text s) := by
  refine ⟨fun _ _ => mem_activatedIds, fun _ => idle_iff.trans activatedId?_eq_none_iff, ?_⟩
  intro reports
  constructor
  · intro h s hs hunknown
    have hback : s ∈ document.activatedIds reports :=
      mem_activatedIds.mpr ⟨.text s, hs, .inr ⟨rfl, hunknown⟩⟩
    exact hunknown s (.id (h s hback))
  · intro h id hid
    obtain ⟨report, hreport, hnames | ⟨rfl, hunknown⟩⟩ := mem_activatedIds.mp hid
    · exact hnames.hasId
    · exact absurd hunknown (h id hreport)

/-- Three entries, one of which has a numeral as its id and two of which share theirs. -/
def tavern : DataDocument where
  items := [⟨"inn", 0, ⟨[]⟩⟩, ⟨"3", 0, ⟨[]⟩⟩, ⟨"inn", 0, ⟨[]⟩⟩, ⟨"cellar", 0, ⟨[]⟩⟩]

/-- The numeral of a position out of range and a text that is no id are returned, though no entry
has them as its id. -/
theorem strangers_come_back :
    tavern.activatedIds [.text "4", .ofNat 4, .text "nobody", .null] = ["4", "nobody"] ∧
    ¬ tavern.HasId "4" ∧ ¬ tavern.HasId "nobody" ∧ ¬ tavern.Idle (.text "4") ∧
    ¬ tavern.Idle (.text "nobody") ∧ tavern.Idle (.ofNat 4) ∧ tavern.Idle .null := by
  have hfour : tavern.activatedId? (.text "4") = some "4" := by decide +kernel
  have hnobody : tavern.activatedId? (.text "nobody") = some "nobody" := by decide +kernel
  refine ⟨by decide +kernel, ?_, ?_, ?_, ?_, idle_iff.mpr rfl, idle_iff.mpr rfl⟩
  · simp [HasId, tavern]
  · simp [HasId, tavern]
  · rw [idle_iff, hfour]
    exact Option.some_ne_none _
  · rw [idle_iff, hnobody]
    exact Option.some_ne_none _

/-- Reports of every shape that name entries, and some that are nothing, give ids of entries
only. -/
theorem tavern_gives_ids :
    (∀ s, Value.text s ∈ [.text "3", .text "0", .ofNat 3, .null] →
      ¬ tavern.Unknown (.text s)) ∧
    ∀ id ∈ tavern.activatedIds [.text "3", .text "0", .ofNat 3, .null], tavern.HasId id := by
  have hknown : ∀ s, Value.text s ∈ [.text "3", .text "0", .ofNat 3, .null] →
      ¬ tavern.Unknown (.text s) := by
    intro s hs hunknown
    simp only [List.mem_cons, Value.text.injEq, List.not_mem_nil, or_false] at hs
    rcases hs with rfl | rfl | hs | hs
    · exact hunknown "3" (.id (by simp [HasId, tavern]))
    · have hnone : ¬ tavern.HasId "0" := by simp [HasId, tavern]
      have hzero : Decimal.naturalBelow? (2 ^ 64) "0".toList = some 0 := by decide +kernel
      exact hunknown "inn" (.numeral hnone hzero rfl)
    · exact nomatch hs
    · exact nomatch hs
  exact ⟨hknown, ((unknown_texts_come_back tavern).2.2 _).mpr hknown⟩

/-! ## Ways to report one entry -/

/-- The ways to report the entry at a position: the position itself, the id, and the numeral of the
position where no entry has it as its id. Positions of a document have no more than 64 bits. -/
inductive Form (document : DataDocument) (i : Nat) : Value → Prop
  | position : Form document i (.ofNat i)
  | id {id : String} : document.idAt? i = some id → Form document i (.text id)
  | numeral : i < 2 ^ 64 → ¬ document.HasId (toString i) → Form document i (.text (toString i))

/-- The reports are the same, or two ways to report the entry at one position. -/
def SameEntry (document : DataDocument) (report other : Value) : Prop :=
  report = other ∨ ∃ i id, document.idAt? i = some id ∧ document.Form i report ∧
    document.Form i other

variable {i : Nat} {other : Value} {reports others : List Value}

theorem Form.names (h : document.Form i report) (hid : document.idAt? i = some id) :
    document.Names report id := by
  cases h with
  | position => exact .position hid
  | id hother =>
      cases hid.symm.trans hother
      exact .id (hasId_of_idAt? hid)
  | numeral hi hnone => exact .numeral hnone (Decimal.naturalBelow?_toString hi) hid

theorem SameEntry.activatedId?_eq (h : document.SameEntry report other) :
    document.activatedId? report = document.activatedId? other := by
  obtain rfl | ⟨i, id, hid, hreport, hother⟩ := h
  · rfl
  · rw [(hreport.names hid).activatedId?, (hother.names hid).activatedId?]

theorem filterMap_sameEntry (h : List.Forall₂ document.SameEntry reports others) :
    reports.filterMap document.activatedId? = others.filterMap document.activatedId? := by
  induction h with
  | nil => rfl
  | cons hhead htail ih => rw [List.filterMap_cons, List.filterMap_cons, hhead.activatedId?_eq, ih]

/-- What a report comes to comes to itself: an id by its entry, and a text that names none as it
is. -/
theorem Resolves.text (h : document.Resolves report id) : document.Resolves (.text id) id := by
  rcases h with hnames | ⟨rfl, hunknown⟩
  · exact .inl (.id hnames.hasId)
  · exact .inr ⟨rfl, hunknown⟩

/-- **The ids of reports are their ids.** -/
theorem activatedIds_activatedIds (document : DataDocument) (reports : List Value) :
    document.activatedIds ((document.activatedIds reports).map .text) =
      document.activatedIds reports := by
  have hfixed : ((document.activatedIds reports).map Value.text).filterMap document.activatedId? =
      document.activatedIds reports := by
    rw [List.filterMap_map]
    conv_rhs => rw [← List.filterMap_some (l := document.activatedIds reports)]
    refine List.filterMap_congr fun id hid => ?_
    obtain ⟨report, -, hresolves⟩ := mem_activatedIds.mp hid
    exact activatedId?_eq_some_iff.mpr hresolves.text
  have hnodup := (document.activatedIds_firstOccurrences reports).nodup
  calc document.activatedIds ((document.activatedIds reports).map .text)
    _ = (document.activatedIds reports).foldl addNew [] := by rw [activatedIds_eq, hfixed]
    _ = document.activatedIds reports := foldl_addNew_of_nodup _ [] hnodup

/-- **Activated ids are canonical.** They are what the reports come to, each once, in the order of
the first report, and no other list is. Reporting them again gives them again. All ways to report
the entry at a position come to its id, so it makes no difference which of them are used. -/
theorem activated_ids_are_canonical (document : DataDocument) :
    (∀ report id, document.activatedId? report = some id ↔ document.Resolves report id) ∧
    (∀ reports kept, FirstOccurrences (reports.filterMap document.activatedId?) kept ↔
      kept = document.activatedIds reports) ∧
    (∀ reports, document.activatedIds ((document.activatedIds reports).map .text) =
      document.activatedIds reports) ∧
    (∀ i id, document.idAt? i = some id → ∀ report, document.Form i report →
      document.Resolves report id) ∧
    ∀ reports others, List.Forall₂ document.SameEntry reports others →
      document.activatedIds reports = document.activatedIds others := by
  refine ⟨fun _ _ => activatedId?_eq_some_iff, ?_, document.activatedIds_activatedIds, ?_, ?_⟩
  · intro reports kept
    have hids := document.activatedIds_firstOccurrences reports
    constructor
    · intro hkept
      exact hkept.unique hids
    · rintro rfl
      exact hids
  · intro i id hid report hreport
    exact .inl (hreport.names hid)
  · intro reports others hsame
    rw [activatedIds_eq, activatedIds_eq, filterMap_sameEntry hsame]

/-- An id that is a numeral is no position, and a numeral that is no id is one. -/
theorem tavern_ids_are_canonical :
    List.Forall₂ tavern.SameEntry [.ofNat 1, .text "2", .text "cellar", .text "nobody"]
      [.text "3", .text "inn", .ofNat 3, .text "nobody"] ∧
    tavern.activatedIds [.ofNat 1, .text "2", .text "cellar", .text "nobody"] =
      tavern.activatedIds [.text "3", .text "inn", .ofNat 3, .text "nobody"] ∧
    tavern.activatedIds [.text "3", .text "inn", .ofNat 3, .text "nobody"] =
      ["3", "inn", "cellar", "nobody"] ∧
    tavern.activatedIds [.text "3", .text "inn", .text "cellar", .text "nobody"] =
      ["3", "inn", "cellar", "nobody"] := by
  obtain ⟨-, -, hagain, -, hsame⟩ := activated_ids_are_canonical tavern
  have hreports : List.Forall₂ tavern.SameEntry
      [.ofNat 1, .text "2", .text "cellar", .text "nobody"]
      [.text "3", .text "inn", .ofNat 3, .text "nobody"] := by
    have htwo : ¬ tavern.HasId (toString 2) := by
      show ¬ tavern.HasId "2"
      simp [HasId, tavern]
    refine .cons ?_ (.cons ?_ (.cons ?_ (.cons (.inl rfl) .nil)))
    · exact .inr ⟨1, "3", rfl, .position, .id rfl⟩
    · exact .inr ⟨2, "inn", rfl, .numeral (by decide) htwo, .id rfl⟩
    · exact .inr ⟨3, "cellar", rfl, .id rfl, .position⟩
  have hids : tavern.activatedIds [.text "3", .text "inn", .ofNat 3, .text "nobody"] =
      ["3", "inn", "cellar", "nobody"] := by decide +kernel
  have hback := hagain [.text "3", .text "inn", .ofNat 3, .text "nobody"]
  rw [hids] at hback
  exact ⟨hreports, hsame _ _ hreports, hids, hback⟩

end DataDocument

end StoryGraph
