import StoryGraph.Proofs.Turns
import StoryGraph.Proofs.Upheld

/-!
# Only lore is activated

A record with an id, wherever it sits in a value, is the record of an entry: this holds of all that
comes into a run and so of all that flows in it. The ids that roots read from the records that reach
them are therefore ids of entries.

Main definition: `Engine.IsLore`.
-/

namespace StoryGraph

namespace Engine

/-- Every record with an id, anywhere in the value, is the record of an entry. -/
def IsLore (engine : Engine) : Value → Prop :=
  Value.EveryRecord fun fields =>
    (Fields.get? fields "id").isSome → Value.record fields ∈ engine.entries

variable {engine : Engine}

theorem IsLore.id {value : Value} (h : engine.IsLore value) {id : String}
    (hid : value.id? = some id) : ∃ item ∈ engine.data.items, item.id = id := by
  unfold Value.id? at hid
  cases hget : value.get? "id" with
  | none => simp [hget] at hid
  | some found =>
      cases value with
      | record fields =>
          have hmem := h fields .self (by rw [show Fields.get? fields "id" = _ from hget]; rfl)
          obtain ⟨entry, hentry, heq⟩ := List.mem_map.mp hmem
          obtain ⟨item, hitem, rfl⟩ := List.mem_map.mp hentry
          obtain ⟨own, hown, hownId, -⟩ := (engine.data.decompressEntry item).toRecord_fields
          rw [← heq, hown] at hid
          rw [show (Value.record own).get? "id" = _ from hownId] at hid
          exact ⟨item, hitem, Option.some.inj hid⟩
      | _ => exact nomatch hget

theorem site_lore (engine : Engine) (context : Context) (node : Nat) :
    ((Scene.mk engine context).site node).Has engine.IsLore where
  entries := entries_everyRecord (fun _ _ _ h => nomatch h) fun _ h _ => h
  messages := by
    refine chatRecords_everyRecord fun fields hfields hid => ?_
    -- The record of a message has no field of that name.
    obtain ⟨⟨message, index⟩, -, heq⟩ := List.mem_map.mp hfields
    obtain ⟨own, hown, hnames⟩ := message.toRecord_fields index
    obtain ⟨value, hvalue⟩ := Option.isSome_iff_exists.mp hid
    cases hown.symm.trans heq
    have hname : "id" ∈ ["message", "is_bot", "index", "date"] :=
      (hnames _ (Fields.mem_of_get? hvalue)).1
    exact absurd hname (by decide)

/-- What a node gives is lore, and if it is a root, it activates ids of lore. -/
def GivesLore (engine : Engine) (node : Nat) (outputs : Outputs) : Prop :=
  outputs.All engine.IsLore ∧
    ((engine.kind? node).any OperatorKind.isRoot = true → Operator.Activates engine.IsLore outputs)

/-- **Lore stays lore** on its way through a graph, whatever the graph. -/
theorem upholds_lore (engine : Engine) (context : Context) :
    (Scene.mk engine context).Upholds engine.IsLore engine.GivesLore where
  null := (Value.hereditary_everyRecord _).null
  property := property?_everyRecord fun _ _ _ h => nomatch h
  body {node kind} hkind := by
    have hG := Value.hereditary_everyRecord fun fields =>
      (Fields.get? fields "id").isSome → Value.record fields ∈ engine.entries
    have hall := Operator.body_all hG (engine.site_lore context node)
    have hgives : ∀ kind : OperatorKind,
        (kind.body ((Scene.mk engine context).site node)).Gives engine.IsLore fun outputs =>
          outputs.All engine.IsLore ∧
            (kind.isRoot = true → Operator.Activates engine.IsLore outputs) := by
      intro kind
      cases kind with
      | outputEntries =>
          exact (Operator.outputEntries_yields hG).mono fun _ h => ⟨h.1, fun _ => h.2⟩
      | outputContext =>
          exact (Operator.outputContext_yields hG).mono fun _ h => ⟨h.1, fun _ => h.2⟩
      | _ => exact (hall _).mono fun _ h => ⟨h, fun hroot => nomatch hroot⟩
    refine (hgives kind).mono fun outputs h => ⟨h.1, fun hroot => h.2 ?_⟩
    rwa [hkind, Option.any_some] at hroot
  missing _ := ⟨Outputs.all_empty, fun _ _ h => absurd h List.not_mem_nil⟩
  ports h := h.1

/-- **A run activates nothing but lore**, wherever its draws begin. What it adds to the activated
ids, and reports, are ids of entries, and none of them is empty. -/
theorem activates_only_lore (engine : Engine) (context : Context) :
    (∀ entropy, engine.run context entropy = engine.runFrom (engine.chance entropy) context) ∧
    ∀ chance,
      (engine.runFrom chance context).1.activatedIds =
        context.activatedIds ++ (engine.runFrom chance context).2.activatedIds ∧
      ∀ id ∈ (engine.runFrom chance context).2.activatedIds,
        id ≠ "" ∧ ∃ item ∈ engine.data.items, item.id = id := by
  refine ⟨fun _ => rfl, fun chance => ?_⟩
  have hadds := engine.runFrom_adds chance context
  refine ⟨hadds.activated.eq, fun id hid => ?_⟩
  have hafter : id ∈ (engine.runFrom chance context).1.activatedIds :=
    hadds.activated.eq ▸ List.mem_append_right _ hid
  obtain ⟨root, hroot, hfragment⟩ :=
    ((hadds.mem_activated id).mp hafter).resolve_left (hadds.activated.fresh id hid)
  unfold rootFragment at hfragment
  cases hkept : (engine.sessionFrom chance context).memo.lookup root with
  | none =>
      rw [hkept] at hfragment
      exact absurd hfragment List.not_mem_nil
  | some outputs =>
      rw [hkept] at hfragment
      rw [Scene.sessionFrom_eq_after] at hkept
      have hgives := Scene.after_holds (engine.upholds_lore context) _ _ root outputs hkept
      obtain ⟨hne, value, hlore, hvalue⟩ := hgives.2 (mem_roots.mp hroot).2 id hfragment
      exact ⟨hne, hlore.id hvalue⟩

end Engine

end StoryGraph
