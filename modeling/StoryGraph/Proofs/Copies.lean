import Mathlib.Data.List.Dedup
import StoryGraph.Proofs.Adjacency

/-!
# Copies in a pool

A pool may hold a record more than once. Its id means the last copy, so nothing leads to the earlier
ones by their name. But an earlier copy mentions what the last one mentions, and edges go both ways:
if that is in the pool, then the copy is found two steps from its own id. So copies do no harm
exactly if those of an entry that goes by its id mention nothing in the pool.

Two positions of two pools play the same part if they hold one record, and what goes by the one goes
by the other. Walks are carried over from position to position, from their end to their start.

Main definitions: `SilentCopies`, `Carries`, `Distills`. Main result: `copies_are_harmless_iff`.
-/

namespace StoryGraph.Operator

/-! ## Near positions -/

section

variable {G : SimpleGraph Nat} {starts : Set Nat} {m n p q : Nat}

/-- A walk no longer than the length leads from a start to the position. -/
def Near (G : SimpleGraph Nat) (starts : Set Nat) (length position : Nat) : Prop :=
  ∃ n ≤ length, Reaches G starts n position

theorem Near.mono (h : Near G starts m p) (hle : m ≤ n) : Near G starts n p := by
  obtain ⟨k, hk, hreach⟩ := h
  exact ⟨k, Nat.le_trans hk hle, hreach⟩

theorem Near.step (h : Near G starts n p) (hadj : G.Adj p q) : Near G starts (n + 1) q := by
  obtain ⟨k, hk, hreach⟩ := h
  exact ⟨k + 1, Nat.succ_le_succ hk, hreach.step hadj⟩

theorem atDistance_iff_near :
    AtDistance G starts n p ↔ Near G starts n p ∧ ∀ m < n, ¬Near G starts m p := by
  constructor
  · rintro ⟨hreach, hleast⟩
    refine ⟨⟨n, Nat.le_refl n, hreach⟩, fun m hm ⟨k, hk, hk'⟩ => ?_⟩
    have := hleast k hk'
    omega
  · rintro ⟨⟨k, hk, hreach⟩, hnone⟩
    have hle : ∀ l, Reaches G starts l p → n ≤ l := fun l hl =>
      Nat.not_lt.mp fun hlt => hnone l hlt ⟨l, Nat.le_refl l, hl⟩
    obtain rfl : k = n := Nat.le_antisymm hk (hle k hreach)
    exact ⟨hreach, hle⟩

theorem Near.exists_atDistance (h : Near G starts n p) : ∃ d ≤ n, AtDistance G starts d p := by
  classical
  obtain ⟨k, hk, hreach⟩ := h
  have hex : ∃ d, Reaches G starts d p := ⟨k, hreach⟩
  exact ⟨Nat.find hex, Nat.le_trans (Nat.find_le hreach) hk, Nat.find_spec hex,
    fun l hl => Nat.find_le hl⟩

theorem AtDistance.eq_zero (h : AtDistance G starts n p) (hp : p ∈ starts) : n = 0 :=
  Nat.le_zero.mp (h.shortest 0 (reaches_start hp))

theorem Reaches.start_or_adj (h : Reaches G starts n p) : p ∈ starts ∨ ∃ q, G.Adj p q := by
  obtain ⟨start, hstart, walk, -⟩ := h
  cases walk.reverse with
  | nil => exact .inl hstart
  | cons hadj => exact .inr ⟨_, hadj⟩

end

/-! ## What goes by an id -/

variable {pool other distinct starts : List Value} {entry : Value} {s : String} {p q : Nat}

def StandsFor (pool : List Value) (s : String) (entry : Value) : Prop :=
  ∃ p, IsLast pool s p ∧ pool[p]? = some entry

def OneRecordPerId (pool : List Value) : Prop :=
  ∀ a ∈ pool, ∀ b ∈ pool, ∀ s, a.id? = some s → b.id? = some s → a = b

/-- The earlier copies of an entry that goes by its id are silent: the entry mentions no id that is
in the pool. -/
def SilentCopies (pool : List Value) : Prop :=
  ∀ s entry, StandsFor pool s entry → ∀ p, pool[p]? = some entry → ¬IsLast pool s p →
    ∀ t, entry.Mentions t → ∀ q, ¬IsLast pool t q

theorem IsLast.id_eq (h : IsLast pool s p) (hp : pool[p]? = some entry) : entry.id? = some s := by
  obtain ⟨other, hother, hid⟩ := h.entry
  exact Option.some.inj (hp.symm.trans hother) ▸ hid

theorem StandsFor.id_eq (h : StandsFor pool s entry) : entry.id? = some s := by
  obtain ⟨p, hlast, hp⟩ := h
  exact hlast.id_eq hp

theorem StandsFor.mem (h : StandsFor pool s entry) : entry ∈ pool := by
  obtain ⟨p, -, hp⟩ := h
  exact List.mem_of_getElem? hp

theorem IsLast.id_unique {t : String} (hs : IsLast pool s p) (ht : IsLast pool t p) : s = t :=
  Option.some.inj (hs.holds.symm.trans ht.holds)

theorem standsFor_cons {first : Value} : StandsFor (first :: pool) s entry ↔
    StandsFor pool s entry ∨
      entry = first ∧ first.id? = some s ∧ ∀ later ∈ pool, later.id? ≠ some s := by
  constructor
  · rintro ⟨_ | p, ⟨hholds, hlater⟩, hp⟩
    · obtain rfl : first = entry := Option.some.inj hp
      refine .inr ⟨rfl, hholds, fun later hmem hid => ?_⟩
      obtain ⟨q, hq⟩ := List.mem_iff_getElem?.mp hmem
      exact hlater (q + 1) (Nat.succ_pos q) (Option.bind_eq_some_iff.mpr ⟨later, hq, hid⟩)
    · exact .inl ⟨p, ⟨hholds, fun q hq => hlater (q + 1) (Nat.succ_lt_succ hq)⟩, hp⟩
  · rintro (⟨p, ⟨hholds, hlater⟩, hp⟩ | ⟨rfl, hid, hlater⟩)
    · refine ⟨p + 1, ⟨hholds, fun q hq => ?_⟩, hp⟩
      obtain ⟨q, rfl⟩ := Nat.exists_eq_succ_of_ne_zero (Nat.ne_zero_of_lt hq)
      exact hlater q (Nat.lt_of_succ_lt_succ hq)
    · refine ⟨0, ⟨hid, fun q hq hsame => ?_⟩, rfl⟩
      obtain ⟨q, rfl⟩ := Nat.exists_eq_succ_of_ne_zero (Nat.ne_zero_of_lt hq)
      obtain ⟨later, hget, hlid⟩ := Option.bind_eq_some_iff.mp hsame
      exact hlater later (List.mem_of_getElem? hget) hlid

theorem OneRecordPerId.standsFor_iff (h : OneRecordPerId pool) :
    StandsFor pool s entry ↔ entry ∈ pool ∧ entry.id? = some s := by
  refine ⟨fun hstands => ⟨hstands.mem, hstands.id_eq⟩, fun ⟨hmem, hid⟩ => ?_⟩
  obtain ⟨p, hp⟩ := List.mem_iff_getElem?.mp hmem
  obtain ⟨q, hlast⟩ := exists_isLast (Option.bind_eq_some_iff.mpr ⟨entry, hp, hid⟩)
  obtain ⟨last, hq, hlastid⟩ := hlast.entry
  exact ⟨q, hlast, h entry hmem last (List.mem_of_getElem? hq) s hid hlastid ▸ hq⟩

/-! ## From pool to pool -/

/-- The record at a position of a pool is at a position of another one, and goes there by the id by
which it goes here. -/
structure Carries (pool other : List Value) (p q : Nat) : Prop where
  entry : ∃ entry, pool[p]? = some entry ∧ other[q]? = some entry
  last : ∀ s, IsLast pool s p → IsLast other s q

/-- All records of a pool are in another one, and go there by the ids by which they go here. -/
structure Covers (pool other : List Value) : Prop where
  mem : ∀ entry ∈ pool, entry ∈ other
  standsFor : ∀ s entry, StandsFor pool s entry → StandsFor other s entry

theorem Covers.exists_carries (h : Covers pool other) (hp : pool[p]? = some entry) :
    ∃ q, Carries pool other p q := by
  by_cases hlast : ∃ s, IsLast pool s p
  · obtain ⟨s, hs⟩ := hlast
    obtain ⟨q, hq, hentry⟩ := h.standsFor s entry ⟨p, hs, hp⟩
    exact ⟨q, ⟨entry, hp, hentry⟩, fun t ht => hs.id_unique ht ▸ hq⟩
  · obtain ⟨q, hq⟩ := List.mem_iff_getElem?.mp (h.mem entry (List.mem_of_getElem? hp))
    exact ⟨q, ⟨entry, hp, hq⟩, fun t ht => absurd ⟨t, ht⟩ hlast⟩

theorem Carries.refers (hp : Carries pool other p q) {p' q' : Nat} (hp' : Carries pool other p' q')
    (h : Refers pool p p') : Refers other q q' := by
  obtain ⟨entry, hentry, s, hs, hlast⟩ := h
  obtain ⟨same, hsame, hother⟩ := hp.entry
  rw [Option.some.inj (hsame.symm.trans hentry)] at hother
  exact ⟨entry, hother, s, hs, hp'.last s hlast⟩

/-- **One edge.** It is carried over, or falls together. -/
theorem Carries.adj (hcovers : Covers pool other) (h : Carries pool other p q) {p' : Nat}
    (hadj : (poolGraph pool).Adj p p') :
    ∃ q', Carries pool other p' q' ∧ (q = q' ∨ (poolGraph other).Adj q q') := by
  obtain ⟨-, hrefers⟩ := (SimpleGraph.fromRel_adj ..).mp hadj
  have hlt : p' < pool.length := hrefers.elim (·.lt.2) (·.lt.1)
  obtain ⟨q', h'⟩ := hcovers.exists_carries (List.getElem?_eq_getElem hlt)
  refine ⟨q', h', ?_⟩
  by_cases hq : q = q'
  · exact .inl hq
  · exact .inr ((SimpleGraph.fromRel_adj ..).mpr
      ⟨hq, hrefers.imp (h.refers h') (h'.refers h)⟩)

/-- **A whole walk,** from its end to its start. -/
theorem Carries.walk (hcovers : Covers pool other) {start : Nat}
    (walk : (poolGraph pool).Walk p start) (hstart : start ∈ startsOf pool starts) : ∀ {q},
    Carries pool other p q → Near (poolGraph other) (startsOf other starts) walk.length q := by
  induction walk with
  | nil =>
      intro q h
      obtain ⟨value, hvalue, s, hs, hlast⟩ := hstart
      exact ⟨0, Nat.le_refl 0, reaches_start ⟨value, hvalue, s, hs, h.last s hlast⟩⟩
  | cons hadj walk ih =>
      intro q h
      rw [SimpleGraph.Walk.length_cons]
      obtain ⟨q', h', heq | hadj'⟩ := h.adj hcovers hadj
      · exact heq ▸ (ih hstart h').mono (Nat.le_succ _)
      · exact (ih hstart h').step hadj'.symm

theorem Carries.near (hcovers : Covers pool other) (h : Carries pool other p q) {n : Nat}
    (hnear : Near (poolGraph pool) (startsOf pool starts) n p) :
    Near (poolGraph other) (startsOf other starts) n q := by
  obtain ⟨_, hle, start, hstart, walk, rfl⟩ := hnear
  rw [← walk.length_reverse] at hle
  exact (Carries.walk hcovers walk.reverse hstart h).mono hle

/-! ## A pool without copies -/

structure Distills (pool distinct : List Value) : Prop where
  nodup : distinct.Nodup
  mem_iff : ∀ entry, entry ∈ distinct ↔ entry ∈ pool
  standsFor_iff : ∀ s entry, StandsFor distinct s entry ↔ StandsFor pool s entry

theorem Distills.covers (h : Distills pool distinct) :
    Covers pool distinct ∧ Covers distinct pool :=
  ⟨⟨fun entry => (h.mem_iff entry).mpr, fun s entry => (h.standsFor_iff s entry).mpr⟩,
    ⟨fun entry => (h.mem_iff entry).mp, fun s entry => (h.standsFor_iff s entry).mp⟩⟩

open Classical in
theorem standsFor_dedup (pool : List Value) :
    StandsFor pool.dedup s entry ↔ StandsFor pool s entry := by
  induction pool with
  | nil => exact Iff.rfl
  | cons first rest ih =>
      by_cases hmem : first ∈ rest
      · rw [List.dedup_cons_of_mem hmem, ih, standsFor_cons]
        exact ⟨.inl, fun h => h.resolve_right fun h => h.2.2 first hmem h.2.1⟩
      · simp only [List.dedup_cons_of_notMem hmem, standsFor_cons, ih, List.mem_dedup]

open Classical in
theorem distills_dedup (pool : List Value) : Distills pool pool.dedup :=
  ⟨pool.nodup_dedup, fun _ => List.mem_dedup, fun _ _ => standsFor_dedup pool⟩

theorem OneRecordPerId.distills (h : OneRecordPerId pool) (hnodup : distinct.Nodup)
    (hmem : ∀ entry, entry ∈ distinct ↔ entry ∈ pool) : Distills pool distinct := by
  have hdistinct : OneRecordPerId distinct := fun a ha b hb =>
    h a ((hmem a).mp ha) b ((hmem b).mp hb)
  refine ⟨hnodup, hmem, fun s entry => ?_⟩
  rw [h.standsFor_iff, hdistinct.standsFor_iff, hmem]

theorem Distills.position_unique (h : Distills pool distinct) (hp : distinct[p]? = some entry)
    (hq : distinct[q]? = some entry) : p = q := by
  obtain ⟨hlt, -⟩ := List.getElem?_eq_some_iff.mp hp
  exact (List.getElem?_inj hlt h.nodup).mp (hp.trans hq.symm)

theorem Distills.carries (h : Distills pool distinct) (hp : pool[p]? = some entry)
    (hq : distinct[q]? = some entry) : Carries pool distinct p q := by
  refine ⟨⟨entry, hp, hq⟩, fun s hs => ?_⟩
  obtain ⟨q', hlast, hq'⟩ := (h.standsFor_iff s entry).mpr ⟨p, hs, hp⟩
  exact h.position_unique hq' hq ▸ hlast

theorem Carries.atDistance (hcovers : Covers pool other ∧ Covers other pool)
    (h : Carries pool other p q) (h' : Carries other pool q p) {n : Nat} :
    AtDistance (poolGraph pool) (startsOf pool starts) n p ↔
      AtDistance (poolGraph other) (startsOf other starts) n q := by
  have hnear : ∀ m, Near (poolGraph pool) (startsOf pool starts) m p ↔
      Near (poolGraph other) (startsOf other starts) m q := fun m =>
    ⟨h.near hcovers.1, h'.near hcovers.2⟩
  simp only [atDistance_iff_near, hnear]

/-! ## What is found -/

theorem mem_entriesAtDistance {distance : Nat} : entry ∈ entriesAtDistance pool starts distance ↔
    ∃ p, pool[p]? = some entry ∧
      AtDistance (poolGraph pool) (startsOf pool starts) distance p := by
  rw [entriesAtDistance_eq, mem_entriesAt]

variable {distance : Nat}

theorem mem_of_mem_entriesAtDistance (h : entry ∈ entriesAtDistance pool starts distance) :
    entry ∈ pool := by
  obtain ⟨p, hp, -⟩ := mem_entriesAtDistance.mp h
  exact List.mem_of_getElem? hp

theorem Distills.found (h : Distills pool distinct)
    (hfound : entry ∈ entriesAtDistance distinct starts distance) :
    entry ∈ entriesAtDistance pool starts distance := by
  obtain ⟨q, hq, hdistance⟩ := mem_entriesAtDistance.mp hfound
  obtain ⟨p, hp⟩ := h.covers.2.exists_carries hq
  obtain ⟨same, hsame, hentry⟩ := hp.entry
  rw [Option.some.inj (hsame.symm.trans hq)] at hentry
  exact mem_entriesAtDistance.mpr
    ⟨p, hentry, (Carries.atDistance h.covers (h.carries hentry hq) hp).mpr hdistance⟩

theorem SilentCopies.not_reaches (h : SilentCopies pool) (hs : StandsFor pool s entry)
    (hp : pool[p]? = some entry) (hcopy : ¬IsLast pool s p) {n : Nat} :
    ¬Reaches (poolGraph pool) (startsOf pool starts) n p := by
  have hlast : ∀ t, ¬IsLast pool t p := fun t ht =>
    hcopy (Option.some.inj ((ht.id_eq hp).symm.trans hs.id_eq) ▸ ht)
  intro hreach
  rcases hreach.start_or_adj with ⟨-, -, t, -, ht⟩ | ⟨q, hadj⟩
  · exact hlast t ht
  · rcases ((SimpleGraph.fromRel_adj ..).mp hadj).2 with
      ⟨same, hsame, t, ht, hq⟩ | ⟨-, -, t, -, ht⟩
    · rw [Option.some.inj (hsame.symm.trans hp)] at ht
      exact h s entry hs p hp hcopy t ht q hq
    · exact hlast t ht

/-- **Silent copies do no harm.** -/
theorem SilentCopies.found_iff (hsilent : SilentCopies pool) (h : Distills pool distinct) :
    entry ∈ entriesAtDistance pool starts distance ↔
      entry ∈ entriesAtDistance distinct starts distance := by
  refine ⟨fun hfound => ?_, h.found⟩
  obtain ⟨p, hp, hdistance⟩ := mem_entriesAtDistance.mp hfound
  obtain ⟨q, hq⟩ := List.mem_iff_getElem?.mp
    ((h.mem_iff entry).mpr (List.mem_of_getElem? hp))
  have hback : Carries distinct pool q p := by
    refine ⟨⟨entry, hq, hp⟩, fun s hs => ?_⟩
    by_contra hcopy
    have hstands : StandsFor pool s entry := (h.standsFor_iff s entry).mp ⟨q, hs, hq⟩
    exact hsilent.not_reaches hstands hp hcopy hdistance.reached
  exact mem_entriesAtDistance.mpr
    ⟨q, hq, (Carries.atDistance h.covers (h.carries hp hq) hback).mp hdistance⟩

theorem Distills.start_not_found (h : Distills pool distinct) {start : Value}
    (hstart : start ∈ starts) (hnames : start.Names s) (hs : StandsFor pool s entry)
    (hpos : 0 < distance) : entry ∉ entriesAtDistance distinct starts distance := by
  intro hfound
  obtain ⟨q, hq, hdistance⟩ := mem_entriesAtDistance.mp hfound
  obtain ⟨q', hlast, hq'⟩ := (h.standsFor_iff s entry).mpr hs
  have hmem : q ∈ startsOf distinct starts :=
    ⟨start, hstart, s, hnames, h.position_unique hq' hq ▸ hlast⟩
  exact absurd (hdistance.eq_zero hmem) (Nat.pos_iff_ne_zero.mp hpos)

/-- **A copy that is not silent is found from its own id,** in two steps or one. -/
theorem exists_start_found (h : ¬SilentCopies pool) : ∃ s entry distance, 0 < distance ∧
    StandsFor pool s entry ∧ entry ∈ entriesAtDistance pool [.text s] distance := by
  unfold SilentCopies at h
  push Not at h
  obtain ⟨s, entry, hs, p, hp, hcopy, t, ht, j, hj⟩ := h
  have ⟨q, hlast, hq⟩ := hs
  have hstart : q ∈ startsOf pool [.text s] := ⟨_, List.mem_singleton_self _, s, .text s, hlast⟩
  have honly : p ∉ startsOf pool [.text s] := by
    rintro ⟨_, hmem, _, hnames, hother⟩
    cases List.mem_singleton.mp hmem
    cases hnames
    exact hcopy hother
  -- Both copies mention the entry at `j`, so it lies between them unless it is one of them.
  have hjp : j ≠ p := by
    rintro rfl
    exact hcopy (Option.some.inj ((hj.id_eq hp).symm.trans hs.id_eq) ▸ hj)
  have hnear : Near (poolGraph pool) (startsOf pool [.text s]) 1 j := by
    by_cases hjq : q = j
    · exact ⟨0, Nat.zero_le 1, reaches_start (hjq ▸ hstart)⟩
    · exact ⟨1, Nat.le_refl 1, (reaches_start hstart).step
        ((SimpleGraph.fromRel_adj ..).mpr ⟨hjq, .inl ⟨entry, hq, t, ht, hj⟩⟩)⟩
  obtain ⟨d, -, hd⟩ := (hnear.step ((SimpleGraph.fromRel_adj ..).mpr
    ⟨hjp, .inr ⟨entry, hp, t, ht, hj⟩⟩)).exists_atDistance
  refine ⟨s, entry, d, Nat.pos_of_ne_zero fun hzero => ?_, hs,
    mem_entriesAtDistance.mpr ⟨p, hp, hd⟩⟩
  obtain ⟨start, hmem, walk, hlength⟩ := hzero ▸ hd.reached
  exact honly (SimpleGraph.Walk.eq_of_length_eq_zero hlength ▸ hmem)

theorem silentCopies_of_not_found (h : ∀ s entry distance, 0 < distance →
    StandsFor pool s entry → entry ∉ entriesAtDistance pool [.text s] distance) :
    SilentCopies pool := by
  by_contra hloud
  obtain ⟨s, entry, distance, hpos, hs, hfound⟩ := exists_start_found hloud
  exact h s entry distance hpos hs hfound

def idsFound (pool starts : List Value) (distance : Nat) : Set String :=
  {s | ∃ entry ∈ entriesAtDistance pool starts distance, entry.id? = some s}

open Classical in
/-- **Copies do no harm exactly if they are silent.** Then, and only then, a search always finds
the records that it finds in the pool without copies, and never finds an entry away from its own id.
If each id belongs to one record, the same holds of the ids that are found, whichever copies are
taken away. -/
theorem copies_are_harmless_iff (pool : List Value) :
    (SilentCopies pool ↔ ∀ starts distance entry,
      entry ∈ entriesAtDistance pool starts distance ↔
        entry ∈ entriesAtDistance pool.dedup starts distance) ∧
    (SilentCopies pool ↔ ∀ starts distance, 0 < distance →
      ∀ start ∈ starts, ∀ s, start.Names s → ∀ entry, StandsFor pool s entry →
        entry ∉ entriesAtDistance pool starts distance) ∧
    (OneRecordPerId pool →
      (∀ distinct, distinct.Nodup → (∀ entry, entry ∈ distinct ↔ entry ∈ pool) →
        (SilentCopies pool ↔ ∀ starts distance,
          idsFound pool starts distance = idsFound distinct starts distance)) ∧
      (SilentCopies pool ↔ ∀ starts distance, 0 < distance →
        ∀ start ∈ starts, ∀ s, start.Names s → s ∉ idsFound pool starts distance)) := by
  have hdedup := distills_dedup pool
  refine ⟨⟨fun h starts distance entry => h.found_iff hdedup, fun h => ?_⟩,
    ⟨fun h starts distance hpos start hstart s hnames entry hs hfound => ?_, fun h => ?_⟩,
    fun hone => ⟨fun distinct hnodup hmem => ?_, ?_⟩⟩
  · refine silentCopies_of_not_found fun s entry distance hpos hs hfound => ?_
    exact hdedup.start_not_found (List.mem_singleton_self _) (.text s) hs hpos
      ((h _ _ _).mp hfound)
  · exact hdedup.start_not_found hstart hnames hs hpos ((h.found_iff hdedup).mp hfound)
  · exact silentCopies_of_not_found fun s entry distance hpos =>
      h [.text s] distance hpos _ (List.mem_singleton_self _) s (.text s) entry
  · have hdistills := hone.distills hnodup hmem
    constructor
    · intro h starts distance
      ext s
      simp only [idsFound, Set.mem_ofPred_eq, h.found_iff hdistills]
    · refine fun h => silentCopies_of_not_found fun s entry distance hpos hs hfound => ?_
      have hid : s ∈ idsFound distinct [.text s] distance :=
        h [.text s] distance ▸ ⟨entry, hfound, hs.id_eq⟩
      obtain ⟨same, hsame, hsameid⟩ := hid
      have hsamemem : same ∈ pool := (hmem same).mp (mem_of_mem_entriesAtDistance hsame)
      rw [hone same hsamemem entry hs.mem s hsameid hs.id_eq] at hsame
      exact hdistills.start_not_found (List.mem_singleton_self _) (.text s) hs hpos hsame
  · constructor
    · rintro h starts distance hpos start hstart s hnames ⟨entry, hfound, hid⟩
      have hs : StandsFor pool s entry :=
        hone.standsFor_iff.mpr ⟨mem_of_mem_entriesAtDistance hfound, hid⟩
      exact hdedup.start_not_found hstart hnames hs hpos ((h.found_iff hdedup).mp hfound)
    · refine fun h => silentCopies_of_not_found fun s entry distance hpos hs hfound => ?_
      exact h [.text s] distance hpos _ (List.mem_singleton_self _) s (.text s)
        ⟨entry, hfound, hs.id_eq⟩

def sword : Value := .record [("id", .text "sword"), ("forged_in", .text "forge")]

def forge : Value := .record [("id", .text "forge")]

theorem mem_idsFound : s ∈ idsFound pool starts distance ↔
    some s ∈ (entriesAtDistance pool starts distance).map Value.id? := List.mem_map.symm

theorem nodup_forge_sword : [forge, sword].Nodup :=
  List.nodup_cons.mpr ⟨fun h => absurd (congrArg Value.id? (List.mem_singleton.mp h)) (by decide),
    List.nodup_singleton _⟩

/-- A second forge does no harm, wherever the search starts. -/
theorem secondForge_is_harmless : OneRecordPerId [forge, forge, sword] ∧
    [forge, sword].Nodup ∧ (∀ entry, entry ∈ [forge, sword] ↔ entry ∈ [forge, forge, sword]) ∧
    SilentCopies [forge, forge, sword] ∧
    (∀ starts distance, idsFound [forge, forge, sword] starts distance =
      idsFound [forge, sword] starts distance) ∧
    ∀ distance, 0 < distance →
      "sword" ∉ idsFound [forge, forge, sword] [.text "forge", .text "sword"] distance := by
  have hone : OneRecordPerId [forge, forge, sword] := by
    intro a ha b hb s hs hs'
    simp only [List.mem_cons, List.not_mem_nil, or_false] at ha hb
    rcases ha with rfl | rfl | rfl <;> rcases hb with rfl | rfl | rfl <;>
      first | rfl | exact absurd (hs.trans hs'.symm) (by decide)
  have hmem : ∀ entry, entry ∈ [forge, sword] ↔ entry ∈ [forge, forge, sword] := fun entry => by
    simp only [List.mem_cons, List.not_mem_nil, or_false, or_self_left]
  have hforge : ∀ t, ¬forge.Mentions t := by
    rintro t ⟨_, heq, field, hfield, hid, -⟩
    cases heq
    exact hid (List.mem_singleton.mp hfield ▸ rfl)
  have hsilent : SilentCopies [forge, forge, sword] := by
    intro s entry hs p hp hcopy t ht
    rcases p with _ | _ | _ | p
    · obtain rfl : forge = entry := Option.some.inj hp
      exact absurd ht (hforge t)
    · obtain rfl : forge = entry := Option.some.inj hp
      exact absurd ht (hforge t)
    · obtain rfl : sword = entry := Option.some.inj hp
      cases hs.id_eq
      exact absurd (position?_eq_some_iff.mp (by decide +kernel)) hcopy
    · simp at hp
  obtain ⟨-, -, hall⟩ := copies_are_harmless_iff [forge, forge, sword]
  exact ⟨hone, nodup_forge_sword, hmem, hsilent,
    ((hall hone).1 _ nodup_forge_sword hmem).mp hsilent, fun distance hpos =>
      (hall hone).2.mp hsilent _ distance hpos (.text "sword") (by simp) "sword" (.text _)⟩

/-- From a sword the search leads to the forge, and from the forge to the other copy of the sword;
without that copy nothing is two steps away. -/
theorem otherSword_is_found :
    [forge, sword].Nodup ∧ (∀ entry, entry ∈ [forge, sword] ↔ entry ∈ [sword, forge, sword]) ∧
    "sword" ∈ idsFound [sword, forge, sword] [.text "sword"] 2 ∧
    "sword" ∉ idsFound [forge, sword] [.text "sword"] 2 := by
  refine ⟨nodup_forge_sword, fun entry => ?_, ?_, ?_⟩
  · simp only [List.mem_cons, List.not_mem_nil, or_false]
    tauto
  · rw [mem_idsFound]
    decide +kernel
  · rw [mem_idsFound]
    decide +kernel

end StoryGraph.Operator
