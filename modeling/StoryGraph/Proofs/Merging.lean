import StoryGraph.Proofs.PrintedApart
import StoryGraph.Proofs.Survivors

/-!
# What deduplication by id merges

Items with ids are the same if their ids have the same text, and items without ids if they are
equal. Both texts share one set of keys, so an item without an id is also taken for one whose id is
its JSON text. Where no two items clash like that, items with ids and items without do not affect
each other, and those that stay are the first or the last of their kind; where two clash, one
removes the other.

Main definitions: `Operator.SameById`, `Operator.Clash`, `Operator.Unclashed`. Main result:
`Operator.merging_by_id`.
-/

namespace StoryGraph.Operator

variable {a b : Value} {items : List Value} {keepLast : Bool}

/-! ## Keys -/

/-- Two items are the same by id: their ids have the same text, or neither has an id and they are
equal. -/
inductive SameById (a b : Value) : Prop
  | ids {text : String} : a.id? = some text → b.id? = some text → SameById a b
  | equal : a.id? = none → b.id? = none → a = b → SameById a b

def Clash (a b : Value) : Prop := a.id? = some (Json.print b) ∧ b.id? = none

def Unclashed (items : List Value) : Prop := ∀ a ∈ items, ∀ b ∈ items, ¬ Clash a b

def hasId (item : Value) : Bool := item.id?.isSome

theorem id_ne_never : Sameness.id ≠ .never := nofun

theorem key_of_id {text : String} (h : a.id? = some text) : Sameness.id.key a = text := by
  unfold Sameness.key
  rw [h]
  rfl

theorem key_of_none (h : a.id? = none) : Sameness.id.key a = Json.print a := by
  unfold Sameness.key
  rw [h]
  rfl

/-- **Items have one key exactly if they are the same by id or clash.** -/
theorem key_eq_iff : Sameness.id.key a = Sameness.id.key b ↔ SameById a b ∨ Clash a b ∨ Clash b a := by
  constructor
  · intro h
    cases ha : a.id? with
    | some text =>
        rw [key_of_id ha] at h
        cases hb : b.id? with
        | some other =>
            rw [key_of_id hb] at h
            exact .inl (.ids (h ▸ ha) hb)
        | none =>
            rw [key_of_none hb] at h
            exact .inr (.inl ⟨h ▸ ha, hb⟩)
    | none =>
        rw [key_of_none ha] at h
        cases hb : b.id? with
        | some other =>
            rw [key_of_id hb] at h
            exact .inr (.inr ⟨h ▸ hb, ha⟩)
        | none =>
            rw [key_of_none hb] at h
            exact .inl (.equal ha hb (Json.print_injective h))
  · rintro ((⟨ha, hb⟩ | ⟨-, -, rfl⟩) | ⟨ha, hb⟩ | ⟨hb, ha⟩)
    · rw [key_of_id ha, key_of_id hb]
    · rfl
    · rw [key_of_id ha, key_of_none hb]
    · rw [key_of_none ha, key_of_id hb]

theorem Unclashed.key_eq_iff (h : Unclashed items) (ha : a ∈ items) (hb : b ∈ items) :
    Sameness.id.key a = Sameness.id.key b ↔ SameById a b := by
  rw [Operator.key_eq_iff]
  exact or_iff_left (not_or.mpr ⟨h a ha b hb, h b hb a ha⟩)

theorem Unclashed.key_ne (h : Unclashed items) (ha : a ∈ items) (hb : b ∈ items)
    (hid : hasId a = true) (hnone : hasId b = false) :
    Sameness.id.key a ≠ Sameness.id.key b := by
  rw [Ne, h.key_eq_iff ha hb]
  unfold hasId at hid hnone
  rintro (⟨-, hb⟩ | ⟨ha, -, -⟩)
  · rw [hb] at hnone
    exact nomatch hnone
  · rw [ha] at hid
    exact nomatch hid

/-! ## Parts of a list -/

/-- Items that have no key in common with the other ones are deduplicated on their own. -/
theorem filter_firstOfEach {key : Value → String} {p : Value → Bool} : ∀ {items : List Value}
    {seen own : List String}, (∀ a ∈ items, ∀ b ∈ items, p a = true → p b = false → key a ≠ key b) →
    (∀ a ∈ items, p a = true → (key a ∈ seen ↔ key a ∈ own)) →
    (firstOfEach key seen items).filter p = firstOfEach key own (items.filter p)
  | [], _, _, _, _ => rfl
  | item :: rest, seen, own, hapart, hseen => by
      have hrestApart : ∀ a ∈ rest, ∀ b ∈ rest, p a = true → p b = false → key a ≠ key b :=
        fun a ha b hb => hapart a (List.mem_cons_of_mem _ ha) b (List.mem_cons_of_mem _ hb)
      obtain ⟨hitem, hrest⟩ := List.forall_mem_cons.mp hseen
      rw [firstOfEach]
      cases hp : p item with
      | true =>
          rw [List.filter_cons_of_pos hp, firstOfEach]
          by_cases hmem : key item ∈ seen
          · rw [if_pos (List.contains_iff_mem.mpr hmem),
              if_pos (List.contains_iff_mem.mpr ((hitem hp).mp hmem))]
            exact filter_firstOfEach hrestApart hrest
          · rw [if_neg (mt List.contains_iff_mem.mp hmem),
              if_neg (mt List.contains_iff_mem.mp (mt (hitem hp).mpr hmem)),
              List.filter_cons_of_pos hp]
            refine congrArg (item :: ·) (filter_firstOfEach hrestApart fun a ha hpa => ?_)
            rw [List.mem_cons, List.mem_cons, hrest a ha hpa]
      | false =>
          have hneg : ¬ p item = true := ne_true_of_eq_false hp
          rw [List.filter_cons_of_neg hneg]
          split
          · exact filter_firstOfEach hrestApart hrest
          · rw [List.filter_cons_of_neg hneg]
            refine filter_firstOfEach hrestApart fun a ha hpa => ?_
            have hne := hapart a (List.mem_cons_of_mem _ ha) item List.mem_cons_self hpa hp
            rw [List.mem_cons, or_iff_right hne, hrest a ha hpa]

theorem filter_deduplicate {sameness : Sameness} {p : Value → Bool}
    (hapart : ∀ a ∈ items, ∀ b ∈ items, p a = true → p b = false →
      sameness.key a ≠ sameness.key b) (keepLast : Bool) :
    (deduplicate sameness keepLast items).filter p =
      deduplicate sameness keepLast (items.filter p) := by
  by_cases hnever : sameness = .never
  · unfold deduplicate
    rw [if_pos hnever, if_pos hnever]
  have hfirst : ∀ others : List Value, (∀ a ∈ others, a ∈ items) →
      (firstOfEach sameness.key [] others).filter p =
        firstOfEach sameness.key [] (others.filter p) := fun others hothers =>
    filter_firstOfEach (fun a ha b hb => hapart a (hothers a ha) b (hothers b hb))
      fun _ _ _ => Iff.rfl
  cases keepLast with
  | false =>
      rw [deduplicate_first hnever, deduplicate_first hnever]
      exact hfirst items fun _ => id
  | true =>
      rw [deduplicate_last, deduplicate_last, deduplicate_first hnever, deduplicate_first hnever,
        List.filter_reverse, hfirst _ fun _ => List.mem_reverse.mp, List.filter_reverse]

/-! ## Merging -/

/-- Items with ids are deduplicated as if there were no others, and so are items without. -/
structure Independent (keepLast : Bool) (items : List Value) : Prop where
  withIds : (deduplicate .id keepLast items).filter hasId =
    deduplicate .id keepLast (items.filter hasId)
  withoutIds : (deduplicate .id keepLast items).filter (!hasId ·) =
    deduplicate .id keepLast (items.filter (!hasId ·))

theorem Unclashed.independent (h : Unclashed items) (keepLast : Bool) :
    Independent keepLast items where
  withIds := filter_deduplicate (fun _ ha _ hb hid hnone => h.key_ne ha hb hid hnone) keepLast
  withoutIds := filter_deduplicate (fun _ ha _ hb hnone hid =>
    (h.key_ne hb ha (by simpa using hid) (by simpa using hnone)).symm) keepLast

theorem Independent.unclashed (h : Independent keepLast items) : Unclashed items := by
  rintro a ha b hb ⟨hid, hnone⟩
  have hthins := deduplicate_thins id_ne_never keepLast items
  have hkey : Sameness.id.key a = Sameness.id.key b := key_eq_iff.mpr (.inr (.inl ⟨hid, hnone⟩))
  -- Among its own kind each of them, or one with its key, stays.
  have hown : ∀ {p : Value → Bool} {item : Value}, item ∈ items → p item = true →
      (deduplicate .id keepLast items).filter p = deduplicate .id keepLast (items.filter p) →
      ∃ kept ∈ deduplicate .id keepLast items, p kept = true ∧
        Sameness.id.key kept = Sameness.id.key item := by
    intro p item hitem hp heq
    have hmem : Sameness.id.key item ∈
        (deduplicate .id keepLast (items.filter p)).map Sameness.id.key :=
      ((deduplicate_thins id_ne_never keepLast (items.filter p)).keys _).mpr
        (List.mem_map_of_mem (List.mem_filter.mpr ⟨hitem, hp⟩))
    rw [← heq] at hmem
    obtain ⟨kept, hkept, hsame⟩ := List.mem_map.mp hmem
    obtain ⟨hmem, hpkept⟩ := List.mem_filter.mp hkept
    exact ⟨kept, hmem, hpkept, hsame⟩
  obtain ⟨first, hfirst, hfirstId, hfirstKey⟩ := hown ha (by simp [hasId, hid]) h.withIds
  obtain ⟨second, hsecond, hsecondNone, hsecondKey⟩ :=
    hown hb (by simp [hasId, hnone]) h.withoutIds
  have hsame : first = second :=
    List.inj_on_of_nodup_map hthins.distinct hfirst hsecond
      (hfirstKey.trans (hkey.trans hsecondKey.symm))
  rw [← hsame, hfirstId] at hsecondNone
  exact nomatch hsecondNone

/-- The item at a position stands for those that are the same by id: it is the first of them, or
the last if that is kept. -/
def StandsById (keepLast : Bool) (items : List Value) (i : Nat) : Prop :=
  ∃ item, items[i]? = some item ∧
    ∀ j other, items[j]? = some other → SameById other item → if keepLast then j ≤ i else i ≤ j

theorem Unclashed.hasAt (h : Unclashed items) (keepLast : Bool) :
    HasAt (StandsById keepLast items) items (deduplicate .id keepLast items) := by
  refine (deduplicate_thins id_ne_never keepLast items).places.congr fun i => ?_
  refine exists_congr fun item => and_congr_right fun hitem => ?_
  refine forall_congr' fun j => forall_congr' fun other => forall_congr' fun hother => ?_
  rw [h.key_eq_iff (List.mem_of_getElem? hother) (List.mem_of_getElem? hitem)]

/-- **What deduplication by id merges.** Two items have one key exactly if they are the same by id
or clash. A list deduplicates its items with ids and those without independently of each other
exactly if no two items clash, and then what stays is the first, or the last, of the items that are
the same by id, each in its place. -/
theorem merging_by_id (keepLast : Bool) (items : List Value) :
    (∀ a b : Value, Sameness.id.key a = Sameness.id.key b ↔
      SameById a b ∨ Clash a b ∨ Clash b a) ∧
    (Independent keepLast items ↔ Unclashed items) ∧
    (Unclashed items → HasAt (StandsById keepLast items) items (deduplicate .id keepLast items)) :=
  ⟨fun _ _ => key_eq_iff, ⟨Independent.unclashed, fun h => h.independent keepLast⟩,
    fun h => h.hasAt keepLast⟩

def fifth : Value := .record [("id", .text "5"), ("label", .text "The fifth")]

/-- The number five is taken for the item whose id is its text, and either removes the other. -/
theorem five_is_taken_for_fifth : fifth.id? = some "5" ∧ (Value.ofNat 5).id? = none ∧
    deduplicate .id false [fifth, .ofNat 5] = [fifth] ∧
    deduplicate .id true [fifth, .ofNat 5] = [.ofNat 5] := by
  refine ⟨rfl, rfl, ?_, ?_⟩ <;> cbv

/-- The text "five" is quoted in JSON, so it is not taken for an item with an id. -/
theorem fifth_and_five_are_independent : Unclashed [fifth, .text "five", fifth, .text "five"] ∧
    Independent true [fifth, .text "five", fifth, .text "five"] ∧
    HasAt (StandsById true [fifth, .text "five", fifth, .text "five"])
      [fifth, .text "five", fifth, .text "five"]
      (deduplicate .id true [fifth, .text "five", fifth, .text "five"]) := by
  have hquoted : Json.print (.text "five") ≠ "5" := by
    intro heq
    have hlist := congrArg String.toList heq
    rw [Json.print, Json.toList_quote] at hlist
    exact absurd (List.cons.inj hlist).1 (by decide)
  have hunclashed : Unclashed [fifth, .text "five", fifth, .text "five"] := by
    rintro a ha b hb ⟨hid, hnone⟩
    simp only [List.mem_cons, List.not_mem_nil, or_false] at ha hb
    obtain rfl : b = .text "five" := by
      rcases hb with rfl | rfl | rfl | rfl
      · exact absurd hnone (Option.some_ne_none _)
      · rfl
      · exact absurd hnone (Option.some_ne_none _)
      · rfl
    rcases ha with rfl | rfl | rfl | rfl
    · exact hquoted (Option.some.inj hid).symm
    · exact absurd hid.symm (Option.some_ne_none _)
    · exact hquoted (Option.some.inj hid).symm
    · exact absurd hid.symm (Option.some_ne_none _)
  obtain ⟨-, hindependent, hplaces⟩ :=
    merging_by_id true [fifth, .text "five", fifth, .text "five"]
  exact ⟨hunclashed, hindependent.mpr hunclashed, hplaces hunclashed⟩

end StoryGraph.Operator
