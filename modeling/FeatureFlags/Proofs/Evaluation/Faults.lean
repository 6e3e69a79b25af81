/-
  THE FAULT OF EVALUATIONS — evaluations know one fault, that of malformed data.

  That a client has no data, that a flag does not exist and that a value is of the wrong type are
  the client's to find.  `FaultsOnly` goes through the steps of evaluations, so it holds of `check`.
-/
import FeatureFlags.Proofs.Evaluation.Agreement
import FeatureFlags.Proofs.Evaluation.Reason

namespace FeatureFlags

namespace Evaluation

/-- From every state, the fault of an evaluation, if it has one, is that of malformed data. -/
def FaultsOnly {α : Type} (x : Evaluation α) : Prop := ∀ s, FailsMalformed (x.runFrom s).1

theorem FaultsOnly.bind {α β : Type} {x : Evaluation α} {f : α → Evaluation β} (hx : FaultsOnly x)
    (hf : ∀ a, FaultsOnly (f a)) : FaultsOnly (x >>= f) := by
  intro s
  have hfirst := hx s
  rcases hrun : x.runFrom s with ⟨fault | a, t⟩
  · rw [hrun] at hfirst
    obtain rfl := hfirst fault rfl
    rw [runFrom_bind_of_error hrun]
    exact failsMalformed_error
  · rw [runFrom_bind_of_ok hrun]
    exact hf a t

/-- The single steps of an evaluation, of which only malformed data can fail. -/
theorem stepwise_faultsOnly : Stepwise fun _ x _ => FaultsOnly x where
  pure a _ := failsMalformed_ok a
  throw _ := failsMalformed_error
  note _ _ := failsMalformed_ok ()
  noteStatus _ _ := failsMalformed_ok ()
  bind hx hf := hx.bind hf

/-- A failure of the outside store is a status and not a fault. -/
theorem faultsOnly_membership (e : Evaluator) (b : BigSegments) (key : String) :
    FaultsOnly (e.membership b key) := by
  intro s
  cases hs : Entries.get? key s.memberships with
  | some membership =>
    rw [runFrom_membership_of_some hs]
    exact failsMalformed_ok _
  | none =>
    rw [runFrom_membership_of_none hs]
    exact failsMalformed_ok _

end Evaluation

namespace Evaluator

open Evaluation (FaultsOnly)

/-- Segments and flags at every level add no other fault of their own. -/
theorem alike_faultsOnly (e : Evaluator) : Alike (fun _ x _ => FaultsOnly x) .all e e where
  store := .all e.store
  bigSegments := rfl
  membership b _ key := Evaluation.faultsOnly_membership e b key

theorem faultsOnly_notePrerequisite (e : Evaluator) (context : Context) (f q : Flag)
    (d : Detail Json) : FaultsOnly (e.notePrerequisite context f q d) := by
  intro s
  obtain ⟨s', hrun, -⟩ := runFrom_notePrerequisite e context f q d s
  rw [hrun]
  exact failsMalformed_ok ()

/-- **Evaluations fail for malformed data only.** -/
theorem eq_malformedFlag_of_evaluate {e : Evaluator} {cache : BigSegments.Cache} {f : Flag}
    {context : Context} {fault : Fault}
    (h : (e.evaluate cache f context).detail.reason.cause = .error fault) :
    fault = .malformedFlag := by
  have hfaults : FaultsOnly (e.check context maxDepth [] f) :=
    Evaluation.stepwise_faultsOnly.check (alike_faultsOnly e) (.refl _ _ context)
      (faultsOnly_notePrerequisite e context) (.same maxDepth []) (.refl f context)
        fun _ _ _ => trivial
  have hfails := hfaults (.start cache)
  rcases hrun : (e.check context maxDepth [] f).runFrom (.start cache) with ⟨fault' | d, t⟩
  · rw [hrun] at hfails
    rw [detail_evaluate_of_error hrun] at h
    cases h
    exact hfails fault rfl
  · rw [detail_evaluate_of_ok hrun] at h
    exact absurd h ((reports_of_check hrun).cause_ne_error fault)

end Evaluator

end FeatureFlags
