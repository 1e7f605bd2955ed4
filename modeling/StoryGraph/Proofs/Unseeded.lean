import StoryGraph.Proofs.Deeds
import StoryGraph.Proofs.Turns

/-!
# Runs from any chance

A configuration without a seed leaves it open where the draws of a run begin. So what is said of
runs is said of a run from any chance, of which the run with a seed is one.

Main statement: `Engine.sessionFrom_withstands`.
-/

namespace StoryGraph

/-- Collecting roots keeps what evaluation keeps, if fragments do not matter to it. -/
theorem Scene.collectRoots_keeps {P : Session → Prop} {pull : Pull}
    (hcollect : ∀ {s : Session} (fragments : List Fragment), P s → P { s with fragments })
    (h : PullKeeps pull P) (roots : List Nat) :
    ∀ {s : Session}, P s → P (collectRootsWith pull roots s).2 := by
  induction roots with
  | nil => exact fun hs => hs
  | cons root rest ih =>
      intro s hs
      have hpull := h root "entries" s hs
      have hroot : P (collectRootWith pull root s).2 := by
        rw [collectRootWith_eq]
        cases (pull root "entries" s).2.memo.lookup root with
        | none => exact hpull
        | some outputs => exact hcollect _ hpull
      exact ih hroot

namespace Engine

variable {engine : Engine} {context : Context} {P : Session → Prop}

/-- **What a run cannot break holds in the end**: a statement that survives the steps of evaluation
and says nothing of fragments. -/
theorem sessionFrom_withstands {G : Value → Prop} {R : Nat → Outputs → Prop}
    (hup : (Scene.mk engine context).Upholds G R) (hG : Value.Hereditary G)
    (hsite : ∀ node, ((Scene.mk engine context).site node).Has G)
    (hP : (Scene.mk engine context).Withstands G P)
    (hcollect : ∀ {s : Session} (fragments : List Fragment), P s → P { s with fragments })
    {chance : Chance} (hstart : P { Session.start engine.config with chance }) :
    P (engine.sessionFrom chance context) := by
  have hkeep := Scene.evaluateWithin_withstands hup hG hsite hP (engine.nodeCount + 1)
  have hempty : Session.Holds R { Session.start engine.config with chance } :=
    fun _ _ hkept => nomatch hkept
  exact (Scene.collectRoots_keeps (fun fragments hs => ⟨hs.1, hcollect fragments hs.2⟩) hkeep
    engine.roots ⟨hempty, hstart⟩).2

/-- A run writes the highlights of the chat anew, from the marks of its session. -/
theorem conclude_highlights (session : Session) :
    (engine.conclude context session).1.chatHighlights =
      session.marks.slots context.messages.length := by
  have hadded := Tally.addFragments_added session.fragments { context }
  obtain ⟨character, activatedIds, hcontext⟩ := hadded.rest
  have hmessages : (session.fragments.foldl Tally.addFragment { context }).context.messages =
      context.messages := by rw [hcontext]
  rw [← hmessages]
  show (Context.addRecords _ session).chatHighlights = _
  unfold Context.addRecords
  rw [Context.foldl_warn]

end Engine

end StoryGraph
