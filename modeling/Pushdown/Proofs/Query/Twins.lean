import Pushdown.Proofs.Push.Twins
import Pushdown.Proofs.Query.Parallel

/-!
# What compilation builds

Conjuncts are pushed one after the other, each of them from the state that the one before has left.
So of two runs, for two layouts and with the number of scans raised in one of them, the same
conjuncts are declined, and the conditions of the others are built in the same steps.
-/

namespace Pushdown

variable {schema : Schema} {first second : Layout} {d : Nat}

namespace CompiledQuery

/-- Both runs divide conjuncts in the same way. -/
theorem divide_twins (conjuncts : List Selector) (state : PushState) :
    let here := (divide schema first conjuncts).run state
    let there := (divide schema second conjuncts).run (state.raise d)
    state.scans ≤ here.2.scans ∧ there.2 = here.2.raise d ∧
      Condition.Twins schema first second d none state.scans here.2.scans here.1.1 there.1.1 ∧
      there.1.2 = here.1.2 := by
  induction conjuncts generalizing state with
  | nil => exact ⟨Nat.le_refl _, rfl, .nil (Nat.le_refl _), rfl⟩
  | cons conjunct rest ih =>
      obtain ⟨more, left, results⟩ := @Selector.push_twins schema first second d .document
        conjunct state.scans state rfl
      rw [Scope.raise] at left results
      rw [divide_cons, divide_cons]
      dsimp only
      rw [left]
      obtain ⟨later, left, pushed, declined⟩ :=
        ih ((conjunct.push schema first .document).run state).2
      revert results
      generalize ((conjunct.push schema first .document).run state).1 = result
      generalize ((conjunct.push schema second .document).run (state.raise d)).1 = result'
      rintro (twins | _)
      · exact ⟨Nat.le_trans more later, left, .append twins pushed, declined⟩
      · exact ⟨Nat.le_trans more later, left, .append (.nil more) pushed,
          congrArg (conjunct :: ·) declined⟩

/-- The pushed condition of a selector is built in the same steps by both runs, and the same
conjuncts remain. -/
theorem ofSelector_twins (selector : Selector) (state : PushState) :
    let here := (ofSelector schema first selector).run state
    let there := (ofSelector schema second selector).run (state.raise d)
    Condition.Twins schema first second d none state.scans here.2.scans [here.1.pushed]
        [there.1.pushed] ∧
      there.1.declined = here.1.declined ∧
      (there.1.pushed.isFalse = here.1.pushed.isFalse → there.1.residual = here.1.residual) := by
  obtain ⟨-, -, pushed, declined⟩ := @divide_twins schema first second d
    selector.conjuncts state
  rw [ofSelector_run, ofSelector_run]
  refine ⟨.all pushed, congrArg List.length declined, ?_⟩
  intro alike
  dsimp only at alike ⊢
  unfold residualOf
  rw [alike, declined]

end CompiledQuery

/-- A selector is pushed by itself as it is pushed for an outcome. -/
theorem PushOutcome.ofSelector_run (schema : Schema) (layout : Layout) (selector : Selector)
    (state : PushState) :
    ((ofSelector schema layout selector).run state).1 = ofCondition layout.documentColumn
      ((selector.push schema layout .document).run state).1 := rfl

/-- The condition of a selector that is pushed by itself is its own twin. -/
theorem Selector.pushed_twins {layout : Layout} {selector : Selector} {state : PushState}
    {c : Condition Test} (pushed : ((selector.push schema layout .document).run state).1 = some c) :
    Condition.Twins schema layout layout 0 none state.scans
      ((selector.push schema layout .document).run state).2.scans [c] [c] := by
  obtain ⟨-, -, results⟩ := @Selector.push_twins schema layout layout 0 .document selector
    state.scans state rfl
  rw [Scope.raise, PushState.raise_zero, pushed] at results
  cases results with
  | some twins => exact twins

end Pushdown
