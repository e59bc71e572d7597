import Pushdown.Proofs.Push.Selector
import Pushdown.Sql.CompiledQuery

/-!
# Dividing a selector

A selector accepts what all its conjuncts accept, and each conjunct goes to one side: its condition
is pushed, or it is declined. So the pushed part tells what the conjuncts that were pushed accept,
whatever the others are, and a document is accepted when both sides accept it.
-/

namespace Pushdown

/-! ## Conjuncts -/

theorem Selector.acceptAll_append (selectors others : List Selector) (document : Json) :
    Selector.acceptAll (selectors ++ others) document =
      (Selector.acceptAll selectors document && Selector.acceptAll others document) := by
  simp [Selector.acceptAll_eq]

theorem Selector.someUsesModulo_append (selectors others : List Selector) :
    Selector.someUsesModulo (selectors ++ others) =
      (Selector.someUsesModulo selectors || Selector.someUsesModulo others) := by
  induction selectors with
  | nil => rfl
  | cons first rest ih =>
      rw [List.cons_append, Selector.someUsesModulo, Selector.someUsesModulo, ih, Bool.or_assoc]

section

variable (path : FieldPath) (operators : List Operator)

/-- One condition for each operator of a field. -/
theorem Selector.acceptAll_field (document : Json) :
    Selector.acceptAll (operators.map fun operator => .field path [operator]) document =
      Selector.accepts (.field path operators) document := by
  rw [Selector.accepts]
  induction operators with
  | nil => rfl
  | cons first rest ih =>
      rw [List.map_cons, Selector.acceptAll, ih, Selector.accepts, Operator.holdAll,
        Operator.holdAll, Bool.and_true, Operator.holdAll]

theorem Selector.someUsesModulo_field :
    Selector.someUsesModulo (operators.map fun operator => .field path [operator]) =
      Operator.someUsesModulo operators := by
  induction operators with
  | nil => rfl
  | cons first rest ih =>
      rw [List.map_cons, Selector.someUsesModulo, ih, Selector.usesModulo, Operator.someUsesModulo,
        Operator.someUsesModulo, Bool.or_false, Operator.someUsesModulo]

end

mutual

theorem Selector.acceptAll_conjuncts (document : Json) : ∀ selector : Selector,
    Selector.acceptAll selector.conjuncts document = selector.accepts document
  | .allOf children => by
    rw [Selector.conjuncts, Selector.accepts]
    exact Selector.acceptAll_conjunctsAll document children
  | .field path operators => by
    rw [Selector.conjuncts]
    split
    · exact Selector.acceptAll_field path operators document
    · exact Bool.and_true _
  | .const _ | .anyOf _ | .noneOf _ => Bool.and_true _

theorem Selector.acceptAll_conjunctsAll (document : Json) : ∀ selectors : List Selector,
    Selector.acceptAll (Selector.conjunctsAll selectors) document =
      Selector.acceptAll selectors document
  | [] => rfl
  | child :: rest => by
    rw [Selector.conjunctsAll, Selector.acceptAll_append, Selector.acceptAll,
      Selector.acceptAll_conjuncts document child, Selector.acceptAll_conjunctsAll document rest]

end

mutual

theorem Selector.someUsesModulo_conjuncts : ∀ selector : Selector,
    Selector.someUsesModulo selector.conjuncts = selector.usesModulo
  | .allOf children => by
    rw [Selector.conjuncts, Selector.usesModulo]
    exact Selector.someUsesModulo_conjunctsAll children
  | .field path operators => by
    rw [Selector.conjuncts]
    split
    · exact Selector.someUsesModulo_field path operators
    · exact Bool.or_false _
  | .const _ | .anyOf _ | .noneOf _ => Bool.or_false _

theorem Selector.someUsesModulo_conjunctsAll : ∀ selectors : List Selector,
    Selector.someUsesModulo (Selector.conjunctsAll selectors) = Selector.someUsesModulo selectors
  | [] => rfl
  | child :: rest => by
    rw [Selector.conjunctsAll, Selector.someUsesModulo_append, Selector.someUsesModulo,
      Selector.someUsesModulo_conjuncts child, Selector.someUsesModulo_conjunctsAll rest]

end

/-! ## Joined selectors -/

theorem Selector.acceptAll_parts (selector : Selector) (document : Json) :
    Selector.acceptAll selector.parts document = selector.accepts document := by
  cases selector with
  | const value => cases value <;> rfl
  | allOf children => rfl
  | anyOf | noneOf | field => exact Bool.and_true _

/-- Joined selectors accept what all of them accept. -/
theorem Selector.accepts_conjoin (children : List Selector) (document : Json) :
    (Selector.conjoin children).accepts document = Selector.acceptAll children document := by
  have flat : Selector.acceptAll (children.flatMap Selector.parts) document =
      Selector.acceptAll children document := by
    induction children with
    | nil => rfl
    | cons first rest ih =>
        rw [List.flatMap_cons, Selector.acceptAll_append, Selector.acceptAll_parts, ih,
          Selector.acceptAll]
  rw [← flat, Selector.conjoin]
  cases children.flatMap Selector.parts with
  | nil => rfl
  | cons first rest =>
      cases rest with
      | nil => exact (Bool.and_true _).symm
      | cons => rfl

/-! ## The two sides -/

variable {setting : Setting}

/-- Conjuncts are divided into those whose conditions are pushed, each telling what its conjunct
accepts, and those that are declined. -/
def Divides (setting : Setting) (conjuncts : List Selector) (pushed : List (Condition Test))
    (declined : List Selector) : Prop :=
  ∃ kept : List Selector,
    List.Forall₂ (Tells setting (setting.In .document)) pushed (kept.map Selector.accepts) ∧
    ∀ document, Selector.acceptAll conjuncts document =
      (Selector.acceptAll kept document && Selector.acceptAll declined document)

/-- The first conjunct is pushed in the given state, and the others in the state that it leaves. -/
theorem CompiledQuery.divide_cons (schema : Schema) (layout : Layout) (conjunct : Selector)
    (rest : List Selector) (state : PushState) :
    (CompiledQuery.divide schema layout (conjunct :: rest)).run state =
      let step := (conjunct.push schema layout .document).run state
      let below := (CompiledQuery.divide schema layout rest).run step.2
      match step.1 with
      | some condition => ((condition :: below.1.1, below.1.2), below.2)
      | none => ((below.1.1, conjunct :: below.1.2), below.2) := by
  extract_lets step below
  change ((match step.1 with
    | some condition => _
    | none => _) : StateM PushState _).run below.2 = _
  cases step.1 <;> rfl

theorem CompiledQuery.divide_divides (stored : setting.Stored) (conjuncts : List Selector)
    (whole : setting.exact → Selector.someUsesModulo conjuncts = false) {state : PushState}
    (uncached : setting.Uncached state) :
    Divides setting conjuncts
      (((CompiledQuery.divide setting.schema setting.layout conjuncts).run state).1.1)
      (((CompiledQuery.divide setting.schema setting.layout conjuncts).run state).1.2) := by
  induction conjuncts generalizing state with
  | nil => exact ⟨[], .nil, fun _ => rfl⟩
  | cons conjunct rest ih =>
      simp only [Selector.someUsesModulo, Bool.or_eq_false_iff] at whole
      have first := Selector.push_tells stored conjunct .document fun exact => (whole exact).1
      obtain ⟨uncached, tells⟩ := first state uncached
      obtain ⟨kept, allTell, same⟩ := ih (fun exact => (whole exact).2) uncached
      simp only [CompiledQuery.divide_cons]
      cases result : ((conjunct.push setting.schema setting.layout .document).run state).1 with
      | some condition =>
          refine ⟨conjunct :: kept, .cons (tells condition result) allTell, ?_⟩
          intro document
          rw [Selector.acceptAll, Selector.acceptAll, same, Bool.and_assoc]
      | none =>
          refine ⟨kept, allTell, ?_⟩
          intro document
          rw [Selector.acceptAll, Selector.acceptAll, same, Bool.and_left_comm]

/-! ## Compiled queries -/

/-- A query divides a selector: its condition tells what some selectors accept, the others are its
residual unless the condition is always false, and the selector accepts what both sides accept. -/
structure CompiledQuery.DividesSelector (setting : Setting) (selector : Selector)
    (query : CompiledQuery) (kept declined : List Selector) : Prop where
  column : query.column = setting.column
  tells : Tells setting (setting.In .document) query.pushed (Selector.acceptAll kept)
  residual : query.residual = CompiledQuery.residualOf query.pushed declined
  accepts : ∀ document, selector.accepts document =
    (Selector.acceptAll kept document && Selector.acceptAll declined document)

theorem CompiledQuery.ofSelector_divides (stored : setting.Stored) (selector : Selector)
    (whole : setting.exact → selector.usesModulo = false) {state : PushState}
    (uncached : setting.Uncached state) :
    ∃ kept declined, CompiledQuery.DividesSelector setting selector
      ((CompiledQuery.ofSelector setting.schema setting.layout selector).run state).1
      kept declined := by
  rw [← Selector.someUsesModulo_conjuncts] at whole
  obtain ⟨kept, tells, same⟩ :=
    CompiledQuery.divide_divides stored selector.conjuncts whole uncached
  refine ⟨kept, _, rfl, .allOf tells, rfl, ?_⟩
  intro document
  exact (Selector.acceptAll_conjuncts document selector).symm.trans (same document)

namespace CompiledQuery.DividesSelector

variable {selector : Selector} {query : CompiledQuery} {kept declined : List Selector}

/-- Unless the condition is always false, the residual accepts what the declined conjuncts do. -/
theorem residualAccepts (divides : query.DividesSelector setting selector kept declined)
    (possible : query.pushed.isFalse = false) (document : Json) :
    query.residualAccepts document = Selector.acceptAll declined document := by
  rw [CompiledQuery.residualAccepts, divides.residual]
  cases declined with
  | nil => simp [CompiledQuery.residualOf, possible, Selector.acceptAll]
  | cons first rest =>
      simp [CompiledQuery.residualOf, possible, Selector.accepts_conjoin]

end CompiledQuery.DividesSelector

end Pushdown
