import StoryGraph.Context

/-!
# Lists that gain new items

The ids that a context holds, its warnings, and the strings of a table are kept in lists that grow
in one way: an item is put at the end unless the list has it.

Main definition: `Gains`.
-/

namespace StoryGraph

/-- The last list is the first with the items of the second at its end, each once and none of them
there before. -/
structure Gains (old added new : List String) : Prop where
  eq : new = old ++ added
  nodup : added.Nodup
  fresh : ∀ text ∈ added, text ∉ old

theorem gains_nil (old : List String) : Gains old [] old where
  eq := (List.append_nil old).symm
  nodup := List.nodup_nil
  fresh _ h := absurd h List.not_mem_nil

variable {old added new more last : List String} {text : String}

theorem Gains.trans (h : Gains old added new) (h' : Gains new more last) :
    Gains old (added ++ more) last where
  eq := by rw [h'.eq, h.eq, List.append_assoc]
  nodup := by
    refine List.nodup_append.mpr ⟨h.nodup, h'.nodup, ?_⟩
    rintro a ha b hb rfl
    exact h'.fresh a hb (h.eq ▸ List.mem_append_right old ha)
  fresh text htext hold := by
    rcases List.mem_append.mp htext with hadded | hmore
    · exact h.fresh text hadded hold
    · exact h'.fresh text hmore (h.eq ▸ List.mem_append_left added hold)

theorem gains_new (h : text ∉ old) : Gains old [text] (old ++ [text]) where
  eq := rfl
  nodup := by simp
  fresh other hother := List.mem_singleton.mp hother ▸ h

theorem Gains.nodup_new (h : Gains old added new) (hold : old.Nodup) : new.Nodup := by
  rw [h.eq]
  refine List.nodup_append.mpr ⟨hold, h.nodup, ?_⟩
  rintro a ha b hb rfl
  exact h.fresh a hb ha

theorem mem_addNew {other : String} : other ∈ addNew old text ↔ other ∈ old ∨ other = text := by
  unfold addNew
  split
  · rename_i h
    have hmem := List.contains_iff_mem.mp h
    exact ⟨.inl, fun hor => hor.elim id fun he => he ▸ hmem⟩
  · simp

theorem gains_addNew (old : List String) (text : String) :
    ∃ added, Gains old added (addNew old text) := by
  unfold addNew
  split
  · exact ⟨[], gains_nil old⟩
  · rename_i h
    exact ⟨[text], gains_new (mt List.contains_iff_mem.mpr h)⟩

theorem mem_foldl_addNew (texts : List String) : ∀ old : List String,
    text ∈ texts.foldl addNew old ↔ text ∈ old ∨ text ∈ texts := by
  induction texts with
  | nil => simp
  | cons first rest ih =>
      intro old
      rw [List.foldl_cons, ih, mem_addNew, List.mem_cons, or_assoc]

theorem gains_foldl_addNew (texts : List String) : ∀ old : List String,
    ∃ added, Gains old added (texts.foldl addNew old) := by
  induction texts with
  | nil => exact fun old => ⟨[], gains_nil old⟩
  | cons first rest ih =>
      intro old
      obtain ⟨added, hfirst⟩ := gains_addNew old first
      obtain ⟨more, hrest⟩ := ih (addNew old first)
      exact ⟨added ++ more, hfirst.trans hrest⟩

theorem foldl_addNew_of_nodup (texts : List String) : ∀ old : List String,
    (old ++ texts).Nodup → texts.foldl addNew old = old ++ texts := by
  induction texts with
  | nil => exact fun old _ => (List.append_nil old).symm
  | cons first rest ih =>
      intro old hnodup
      have hnew : first ∉ old := by
        intro hmem
        exact (List.nodup_append.mp hnodup).2.2 first hmem first List.mem_cons_self rfl
      have hadd : addNew old first = old ++ [first] :=
        if_neg (mt List.contains_iff_mem.mp hnew)
      rw [List.append_cons] at hnodup
      rw [List.foldl_cons, hadd, ih _ hnodup, ← List.append_cons]

theorem Gains.isPrefix (h : Gains old added new) : old <+: new := ⟨added, h.eq.symm⟩

end StoryGraph
