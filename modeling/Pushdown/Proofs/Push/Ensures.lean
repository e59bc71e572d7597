import Pushdown.Sql.Push

/-!
# What pushing ensures

A contract for steps of pushing: from every state with a property, a step leaves a state with that
property, and if it does not decline, its result is as promised. Contracts compose along the steps,
so a proof about a pushed condition never opens the monad.
-/

namespace Pushdown.Push

variable {α β : Type} {I : PushState → Prop}

/-- What follows a step sees the state that the step leaves, unless the step declines. -/
theorem run_bind (step : Push α) (next : α → Push β) (s : PushState) :
    (step >>= next).run s =
      (step.run s).1.elim (none, (step.run s).2) fun a => (next a).run (step.run s).2 := by
  rw [OptionT.run_bind]
  change (step.run s).1.elim (pure none : StateM PushState _) (fun a => (next a).run)
    (step.run s).2 = _
  cases (step.run s).1 <;> rfl

/-- The step keeps `I` and returns only what satisfies `Q`. -/
def Ensures (I : PushState → Prop) (step : Push α) (Q : α → Prop) : Prop :=
  ∀ s, I s → I (step.run s).2 ∧ ∀ a, (step.run s).1 = some a → Q a

namespace Ensures

variable {Q : α → Prop} {R : β → Prop}

theorem pure {a : α} (h : Q a) : Ensures I (Pure.pure a) Q := by
  intro s hs
  refine ⟨hs, ?_⟩
  intro b hb
  cases hb
  exact h

theorem decline : Ensures I Push.decline Q := by
  intro s hs
  refine ⟨hs, ?_⟩
  intro a eq
  cases eq

theorem bind {step : Push α} {next : α → Push β} (first : Ensures I step Q)
    (second : ∀ a, Q a → Ensures I (next a) R) : Ensures I (step >>= next) R := by
  intro s hs
  obtain ⟨kept, good⟩ := first s hs
  rw [run_bind]
  cases result : (step.run s).1 with
  | none =>
      refine ⟨kept, ?_⟩
      intro b eq
      cases eq
  | some a => exact second a (good a result) _ kept

theorem imp {Q' : α → Prop} {step : Push α} (h : Ensures I step Q) (weaker : ∀ a, Q a → Q' a) :
    Ensures I step Q' := by
  intro s hs
  obtain ⟨kept, good⟩ := h s hs
  exact ⟨kept, fun a result => weaker a (good a result)⟩

theorem newScan (kept : ∀ s n, I s → I { s with scans := n }) :
    Ensures I Push.newScan fun _ => True := by
  intro s hs
  exact ⟨kept s _ hs, fun _ _ => trivial⟩

end Ensures

end Pushdown.Push
