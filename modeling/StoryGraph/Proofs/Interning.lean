import Mathlib.Data.List.Forall2
import StoryGraph.Compile
import StoryGraph.Proofs.Gains
import StoryGraph.Proofs.Ports

/-!
# Storing strings

A program that stores strings only adds to the table, so what it gives reads the same by every
later table. `Stored` says this of one step from a table to the next: the references that come out
of the step read, in their order, as the texts that it stored, and the result reads as it should.
Steps are put together as the programs are.

Main definitions: `StringTable.Later`, `StringTable.Stored`.
-/

namespace StoryGraph

namespace StringTable

variable {t t₁ t₂ u : StringTable} {s : String} {ref : Ref} {α β γ δ : Type}

/-- A table that has grown from another one, and in which positions fit a reference. -/
structure Later (t u : StringTable) : Prop where
  grown : t.strings <+: u.strings
  fits : u.size ≤ 2 ^ 32

theorem Later.refl (h : t.size ≤ 2 ^ 32) : t.Later t := ⟨List.prefix_refl _, h⟩

theorem Later.trans (h : t₁.Later u) (hgrown : t.strings <+: t₁.strings) : t.Later u :=
  ⟨hgrown.trans h.grown, h.fits⟩

theorem get?_of_isPrefix (h : t.strings <+: u.strings) (hget : t.get? ref = some s) :
    u.get? ref = some s := by
  obtain ⟨added, hadded⟩ := h
  unfold StringTable.get? at hget ⊢
  obtain ⟨hlt, -⟩ := List.getElem?_eq_some_iff.mp hget
  rw [← hadded, List.getElem?_append_left hlt, hget]

theorem Later.get? (h : t.Later u) (hget : t.get? ref = some s) : u.get? ref = some s :=
  get?_of_isPrefix h.grown hget

/-- What a step from a table to the next stores. The last three arguments are the references that
come out of it, what its result reads as by a table, and what it should read as. -/
structure Stored (t t₁ : StringTable) (refs : List Ref) (read : StringTable → α) (meaning : α) :
    Prop where
  texts : ∃ texts : List String, t₁.strings = texts.foldl addNew t.strings ∧
    ∀ u, t₁.Later u → refs.map u.get? = texts.map some
  reads : ∀ u, t₁.Later u → read u = meaning

variable {refs refs' : List Ref} {read : StringTable → α} {read' : StringTable → β} {a : α} {b : β}

theorem Stored.grown (h : Stored t t₁ refs read a) : t.strings <+: t₁.strings := by
  obtain ⟨texts, heq, -⟩ := h.texts
  obtain ⟨added, hgains⟩ := gains_foldl_addNew texts t.strings
  exact heq ▸ hgains.isPrefix

theorem stored_nothing (t : StringTable) (a : α) : Stored t t [] (fun _ => a) a where
  texts := ⟨[], rfl, fun _ _ => rfl⟩
  reads _ _ := rfl

/-- **Two steps are one**, with the references of the first before those of the second. -/
theorem Stored.seq (h : Stored t t₁ refs read a) (h' : Stored t₁ t₂ refs' read' b)
    (f : α → β → γ) : Stored t t₂ (refs ++ refs') (fun u => f (read u) (read' u)) (f a b) where
  texts := by
    obtain ⟨texts, heq, hrefs⟩ := h.texts
    obtain ⟨texts', heq', hrefs'⟩ := h'.texts
    refine ⟨texts ++ texts', by rw [heq', heq, List.foldl_append], fun u hu => ?_⟩
    rw [List.map_append, List.map_append, hrefs u (hu.trans h'.grown), hrefs' u hu]
  reads u hu := by rw [h.reads u (hu.trans h'.grown), h'.reads u hu]

theorem Stored.map (h : Stored t t₁ refs read a) (f : α → γ) :
    Stored t t₁ refs (fun u => f (read u)) (f a) :=
  ⟨h.texts, fun u hu => congrArg f (h.reads u hu)⟩

/-! ## One string -/

theorem indexOf?_isSome : (t.indexOf? s).isSome ↔ s ∈ t.strings := by
  rw [indexOf?, Option.isSome_map, List.findIdx?_isSome, List.any_eq_true]
  constructor
  · rintro ⟨other, hmem, heq⟩
    exact beq_iff_eq.mp heq ▸ hmem
  · exact fun hmem => ⟨s, hmem, beq_self_eq_true s⟩

theorem intern_strings (s : String) (t : StringTable) :
    (intern s t).2.strings = addNew t.strings s := by
  unfold intern addNew
  cases hindex : t.indexOf? s with
  | some ref =>
      have hmem : s ∈ t.strings := indexOf?_isSome.mp (by rw [hindex]; rfl)
      rw [if_pos (List.contains_iff_mem.mpr hmem)]
  | none =>
      have hnot : s ∉ t.strings := fun hmem => by
        have := indexOf?_isSome.mpr hmem
        rw [hindex] at this
        exact nomatch this
      rw [if_neg (mt List.contains_iff_mem.mp hnot)]

theorem intern_get? (s : String) (t : StringTable) (hfits : (intern s t).2.size ≤ 2 ^ 32) :
    (intern s t).2.get? (intern s t).1 = some s := by
  unfold intern at hfits ⊢
  cases hindex : t.indexOf? s with
  | some ref =>
      rw [hindex] at hfits
      exact get?_of_indexOf? hfits hindex
  | none =>
      rw [hindex] at hfits
      have hlt : t.strings.length < 2 ^ 32 := by
        have : (t.strings ++ [s]).length ≤ 2 ^ 32 := hfits
        rw [List.length_append, List.length_singleton] at this
        exact this
      have hposition : (UInt32.ofNat t.size).toNat = t.strings.length :=
        UInt32.toNat_ofNat_of_lt hlt
      show (t.strings ++ [s])[(UInt32.ofNat t.size).toNat]? = some s
      rw [hposition]
      exact List.getElem?_concat_length

theorem intern_stored (s : String) (t : StringTable) :
    Stored t (intern s t).2 [(intern s t).1] (fun u => u.get? (intern s t).1) (some s) := by
  have hread : ∀ u, (intern s t).2.Later u → u.get? (intern s t).1 = some s := fun u hu =>
    hu.get? (intern_get? s t (Nat.le_trans hu.grown.length_le hu.fits))
  refine ⟨⟨[s], intern_strings s t, fun u hu => ?_⟩, hread⟩
  rw [List.map_singleton, hread u hu]
  rfl

/-! ## Many steps -/

/-- **A list of steps**, one for each item; `r`, `d` and `m` give the references of what comes out of
one of them, what it reads as and what it should read as. -/
theorem mapM_stored {f : α → StateM StringTable β} {r : β → List Ref}
    {d : StringTable → β → γ} {m : α → γ} (items : List α)
    (h : ∀ item ∈ items, ∀ t, Stored t (f item t).2 (r (f item t).1) (d · (f item t).1) (m item)) :
    ∀ t, Stored t (items.mapM f t).2 ((items.mapM f t).1.flatMap r)
      (fun u => (items.mapM f t).1.map (d u)) (items.map m) := by
  induction items with
  | nil => exact fun t => stored_nothing t []
  | cons item rest ih =>
      intro t
      rw [List.mapM_cons]
      exact (h item List.mem_cons_self t).seq
        (ih (fun other hother => h other (List.mem_cons_of_mem _ hother)) _) List.cons

theorem mem_mapM {f : α → StateM StringTable β} (items : List α) :
    ∀ t, b ∈ (items.mapM f t).1 → ∃ item ∈ items, ∃ t', b = (f item t').1 := by
  induction items with
  | nil => exact fun _ h => absurd h List.not_mem_nil
  | cons item rest ih =>
      intro t h
      rw [List.mapM_cons] at h
      rcases List.mem_cons.mp h with rfl | h
      · exact ⟨item, List.mem_cons_self, t, rfl⟩
      · obtain ⟨other, hother, hresult⟩ := ih _ h
        exact ⟨other, List.mem_cons_of_mem _ hother, hresult⟩

/-- Each result of a list of steps comes from its item, by a step before the table at the end. -/
theorem mapM_each {f : α → StateM StringTable β} {r : β → List Ref}
    {d : StringTable → β → γ} {m : α → γ} (items : List α)
    (h : ∀ item ∈ items, ∀ t, Stored t (f item t).2 (r (f item t).1) (d · (f item t).1) (m item)) :
    ∀ t, (items.mapM f t).2.Later u →
      List.Forall₂
        (fun item result => item ∈ items ∧ ∃ t', (f item t').2.Later u ∧ result = (f item t').1)
        items (items.mapM f t).1 := by
  induction items with
  | nil => exact fun _ _ => .nil
  | cons item rest ih =>
      intro t hu
      have hrest := fun other hother => h other (List.mem_cons_of_mem item hother)
      rw [List.mapM_cons] at hu ⊢
      have hlast : (rest.mapM f (f item t).2).2.Later u := hu
      have hfirst : (f item t).2.Later u := hlast.trans (mapM_stored rest hrest _).grown
      refine .cons ⟨List.mem_cons_self, t, hfirst, rfl⟩ ((ih hrest _ hlast).imp ?_)
      exact fun other result ⟨hother, hresult⟩ => ⟨List.mem_cons_of_mem _ hother, hresult⟩

/-! ## Tables of documents -/

theorem Stored.nodup (h : Stored .empty t₁ refs read a) : t₁.strings.Nodup := by
  obtain ⟨texts, heq, -⟩ := h.texts
  obtain ⟨added, hgains⟩ := gains_foldl_addNew texts []
  exact heq ▸ hgains.nodup_new List.nodup_nil

variable (hfits : t₁.size ≤ 2 ^ 32)
include hfits

theorem Stored.used (h : Stored .empty t₁ refs read a) (hs : s ∈ t₁.strings) :
    ∃ ref ∈ refs, t₁.get? ref = some s := by
  obtain ⟨texts, heq, hrefs⟩ := h.texts
  rw [heq, mem_foldl_addNew] at hs
  have hmem : some s ∈ refs.map t₁.get? := by
    rw [hrefs t₁ (.refl hfits)]
    exact List.mem_map_of_mem (hs.resolve_left List.not_mem_nil)
  exact List.mem_map.mp hmem

theorem Stored.known (h : Stored t t₁ refs read a) (href : ref ∈ refs) :
    ∃ s, t₁.get? ref = some s := by
  obtain ⟨texts, -, hrefs⟩ := h.texts
  have hmem : t₁.get? ref ∈ texts.map some := by
    rw [← hrefs t₁ (.refl hfits)]
    exact List.mem_map_of_mem href
  obtain ⟨s, -, heq⟩ := List.mem_map.mp hmem
  exact ⟨s, heq.symm⟩

end StringTable

end StoryGraph
