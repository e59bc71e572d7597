import Pushdown.Proofs.Query.Division

/-!
# Verdicts without a store

What is decided while a selector is compiled holds of every document that conforms to the schema. A
constant condition comes from the declared types, from malformed operands or from empty lists, and
conformance is carried along each path to where it was decided. The tests that remain do not matter
here, so neither does what they say of numbers, remainders and texts.
-/

namespace Pushdown

/-- A setting in which the truth of tests is left open. -/
def Setting.undecided (schema : Schema) (layout : Layout) (document : Json) : Setting where
  store := { numberText := fun _ => "", remainder := fun _ _ _ => none }
  schema := schema
  layout := layout
  document := document
  exact := False

/-- A constant outcome comes from a constant condition. -/
theorem PushOutcome.ofCondition_const {column : String} {condition? : Option (Condition Test)} :
    (PushOutcome.ofCondition column condition? = .alwaysTrue →
      condition? = some (.const true)) ∧
    (PushOutcome.ofCondition column condition? = .alwaysFalse →
      condition? = some (.const false)) := by
  constructor
  all_goals
    intro outcome
    cases condition? with
    | none => cases outcome
    | some condition =>
        cases condition with
        | const value => cases value <;> first | rfl | cases outcome
        | leaf | allOf | anyOf | negation => cases outcome

namespace Verdict

variable {schema : Schema} {layout : Layout} {document : Json}

/-- A selector that is pushed as a constant has that verdict on conforming documents. -/
theorem accepts_of_const (conforms : schema.conforms document = true) {selector : Selector}
    {state : PushState} {value : Bool}
    (result : ((selector.push schema layout .document).run state).1 = some (.const value)) :
    selector.accepts document = value := by
  have stored : (Setting.undecided schema layout document).Stored := False.elim
  have tells := (Selector.push_tells stored selector .document False.elim state False.elim).2
  exact (tells _ result).decided value rfl Rows.initial document ⟨rfl, conforms⟩

/-- Verdicts that are reached without a store are those of the matcher on conforming documents,
whatever has been cached: the constant outcomes of a selector; a query whose condition is always
false, which drops its residual; and a query that fetches every document and keeps no residual. -/
theorem static_verdicts_sound (schema : Schema) (layout : Layout) (selector : Selector)
    (document : Json) (conforms : schema.conforms document = true) (state : PushState) :
    let outcome := ((PushOutcome.ofSelector schema layout selector).run state).1
    let query := ((CompiledQuery.ofSelector schema layout selector).run state).1
    (outcome = .alwaysTrue → selector.accepts document = true) ∧
    (outcome = .alwaysFalse → selector.accepts document = false) ∧
    (query.pushed.isFalse = true → selector.accepts document = false) ∧
    (query.isMatchAll = true → query.hasResidual = false →
      selector.accepts document = true) := by
  intro outcome query
  have pushed : outcome = PushOutcome.ofCondition layout.documentColumn
      ((selector.push schema layout .document).run state).1 := rfl
  have stored : (Setting.undecided schema layout document).Stored := False.elim
  have uncached : (Setting.undecided schema layout document).Uncached state := False.elim
  obtain ⟨kept, declined, divides⟩ : ∃ kept declined, query.DividesSelector
      (Setting.undecided schema layout document) selector kept declined :=
    CompiledQuery.ofSelector_divides stored selector False.elim uncached
  have decided (value : Bool) (constant : query.pushed = .const value) :
      Selector.acceptAll kept document = value :=
    divides.tells.decided value constant Rows.initial document ⟨rfl, conforms⟩
  refine ⟨?_, ?_, ?_, ?_⟩
  · intro always
    exact accepts_of_const conforms (PushOutcome.ofCondition_const.1 (pushed ▸ always))
  · intro never
    exact accepts_of_const conforms (PushOutcome.ofCondition_const.2 (pushed ▸ never))
  · intro impossible
    rw [Condition.isFalse_iff] at impossible
    rw [divides.accepts, decided false impossible, Bool.false_and]
  · intro all none
    have constant : query.pushed = .const true := by
      rw [← Condition.isTrue_iff]
      by_contra other
      rw [Bool.not_eq_true] at other
      simp [CompiledQuery.isMatchAll, CompiledQuery.fragment?, other] at all
    have possible : query.pushed.isFalse = false := by rw [constant]; rfl
    have accepted : query.residualAccepts document = true := by
      cases residual : query.residual with
      | none => simp [CompiledQuery.residualAccepts, residual]
      | some _ => simp [CompiledQuery.hasResidual, residual] at none
    rw [divides.accepts, decided true constant, ← divides.residualAccepts possible, accepted]
    rfl

/-- A field that is declared required is present, and its absence selects nothing. -/
theorem static_verdicts_sound_required :
    let schema : Schema := { version := 1, fields := [("a", ⟨.string, true⟩)], indexes := [] }
    let document : Json := .object [("a", .string "x")]
    let present (expected : Bool) : Selector := .field ⟨["a"]⟩ [.present expected]
    schema.conforms document = true ∧
      (present true).accepts document = true ∧ (present false).accepts document = false := by
  intro schema document present
  have conforms : schema.conforms document = true := by decide
  refine ⟨conforms, ?_, ?_⟩
  · exact (static_verdicts_sound schema .standard (present true) document conforms {}).1 (by decide)
  · exact (static_verdicts_sound schema .standard (present false) document conforms {}).2.1
      (by decide)

end Verdict

end Pushdown
