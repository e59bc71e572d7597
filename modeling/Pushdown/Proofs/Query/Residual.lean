import Pushdown.Proofs.Push.Pushable
import Pushdown.Proofs.Query.Parallel

/-!
# Residuals

The conjuncts of a selector are not divided any further, and whether one is declined does not depend
on the others. So the residual of a selector joins those of its conjuncts, in their order, that are
declined by themselves. Nothing is lost or merged when they are joined: the conjuncts of the
residual are the declined ones again, and dividing the residual pushes nothing.
-/

namespace Pushdown

/-! ## Conjuncts -/

namespace Selector

/-- The selector is neither a conjunction nor a field with several operators. -/
def isIndivisible : Selector → Bool
  | .allOf _ => false
  | .field _ operators => operators.length ≤ 1
  | _ => true

mutual

theorem isIndivisible_of_mem_conjuncts : ∀ {selector conjunct : Selector},
    conjunct ∈ selector.conjuncts → conjunct.isIndivisible = true
  | .allOf children, conjunct, member => by
    rw [conjuncts] at member
    exact isIndivisible_of_mem_conjunctsAll member
  | .field path operators, conjunct, member => by
    rw [conjuncts] at member
    split at member
    · obtain ⟨operator, -, rfl⟩ := List.mem_map.mp member
      rfl
    · next few =>
      rw [List.mem_singleton] at member
      rw [member, isIndivisible, decide_eq_true_eq]
      exact Nat.le_of_not_lt few
  | .const _, _, member | .anyOf _, _, member | .noneOf _, _, member => by
    rw [conjuncts.eq_def, List.mem_singleton] at member
    rw [member]
    rfl

theorem isIndivisible_of_mem_conjunctsAll : ∀ {selectors : List Selector} {conjunct : Selector},
    conjunct ∈ conjunctsAll selectors → conjunct.isIndivisible = true
  | [], _, member => by cases member
  | child :: rest, conjunct, member => by
    rw [conjunctsAll, List.mem_append] at member
    obtain first | later := member
    · exact isIndivisible_of_mem_conjuncts first
    · exact isIndivisible_of_mem_conjunctsAll later

end

/-- What is not divided is its only conjunct. -/
theorem conjuncts_of_isIndivisible {selector : Selector} (h : selector.isIndivisible = true) :
    selector.conjuncts = [selector] := by
  cases selector with
  | allOf => cases h
  | field path operators =>
      rw [isIndivisible, decide_eq_true_eq] at h
      rw [conjuncts, if_neg h.not_gt]
  | const | anyOf | noneOf => rw [conjuncts.eq_def]

theorem conjunctsAll_of_isIndivisible {selectors : List Selector}
    (h : ∀ selector ∈ selectors, selector.isIndivisible = true) :
    conjunctsAll selectors = selectors := by
  induction selectors with
  | nil => rfl
  | cons first rest ih =>
      obtain ⟨first, rest⟩ := List.forall_mem_cons.mp h
      rw [conjunctsAll, conjuncts_of_isIndivisible first, ih rest, List.singleton_append]

/-- Joined selectors that are not divided are the conjuncts of what joins them, unless one of them
is the constant true. -/
theorem conjuncts_conjoin {selectors : List Selector} (nonempty : selectors ≠ [])
    (h : ∀ selector ∈ selectors, selector.isIndivisible = true ∧ selector ≠ .const true) :
    (conjoin selectors).conjuncts = selectors := by
  have flat : selectors.flatMap parts = selectors := by
    refine (List.flatMap_congr fun selector member => ?_).trans (List.flatMap_singleton' _)
    obtain ⟨indivisible, notTrue⟩ := h selector member
    cases selector with
    | allOf => cases indivisible
    | const value =>
        cases value with
        | true => cases notTrue rfl
        | false => rfl
    | anyOf | noneOf | field => rfl
  unfold conjoin
  rw [flat]
  rcases selectors with _ | ⟨first, _ | ⟨second, rest⟩⟩
  · cases nonempty rfl
  · exact conjuncts_of_isIndivisible (h first (List.mem_singleton_self first)).1
  · rw [conjuncts]
    exact conjunctsAll_of_isIndivisible fun selector member => (h selector member).1

end Selector

/-! ## Declined conjuncts -/

namespace CompiledQuery

section

variable (schema : Schema) (layout : Layout)

/-- The conjuncts that are declined are those that cannot be pushed. -/
theorem divide_faithful (conjuncts : List Selector) {s : PushState} (faithful : s.Faithful) :
    let divided := ((divide schema layout conjuncts).run s).1
    divided.1.length = (conjuncts.filter (·.isPushable schema none)).length ∧
      divided.2 = conjuncts.filter (!·.isPushable schema none) := by
  induction conjuncts generalizing s with
  | nil => exact ⟨rfl, rfl⟩
  | cons conjunct rest ih =>
      -- The first conjunct leaves a faithful state, from which the others are decided.
      obtain ⟨decided, left⟩ := conjunct.push_document_decides schema layout s faithful
      obtain ⟨pushed, declined⟩ := ih left
      rw [divide_cons]
      dsimp only
      cases result : ((conjunct.push schema layout .document).run s).1 with
      | none =>
          rw [result] at decided
          simp [← decided, pushed, declined]
      | some condition =>
          rw [result] at decided
          simp [← decided, pushed, declined]

/-- What is declined is counted, and it is the residual unless the pushed condition is false. -/
theorem ofSelector_declined (selector : Selector) {s : PushState} (faithful : s.Faithful) :
    let declined := selector.conjuncts.filter (!·.isPushable schema none)
    let query := ((ofSelector schema layout selector).run s).1
    query.declined = declined.length ∧ query.residual = residualOf query.pushed declined := by
  obtain ⟨-, declined⟩ := divide_faithful schema layout selector.conjuncts faithful
  rw [ofSelector_run]
  dsimp only
  rw [declined]
  exact ⟨rfl, rfl⟩

/-- Something remains where a conjunct is declined and the pushed condition can be true. -/
theorem residualOf_eq_some_iff {pushed : Condition Test} {declined : List Selector}
    {residual : Selector} : residualOf pushed declined = some residual ↔
      pushed.isFalse = false ∧ declined ≠ [] ∧ residual = .conjoin declined := by
  unfold residualOf
  cases pushed.isFalse <;> cases declined <;> simp [eq_comm]

/-- Nothing is pushed of a selector whose conjuncts are all declined. -/
theorem ofSelector_matchAll {selector : Selector} {s : PushState} (faithful : s.Faithful)
    (declined : ∀ conjunct ∈ selector.conjuncts, conjunct.isPushable schema none = false) :
    ((ofSelector schema layout selector).run s).1.pushed = .const true := by
  obtain ⟨pushed, -⟩ := divide_faithful schema layout selector.conjuncts faithful
  have empty : selector.conjuncts.filter (·.isPushable schema none) = [] := by
    rw [List.filter_eq_nil_iff]
    intro conjunct member
    rw [declined conjunct member]
    exact Bool.false_ne_true
  rw [empty, List.length_nil, List.length_eq_zero_iff] at pushed
  rw [ofSelector_run]
  dsimp only
  rw [pushed]
  rfl

/-- Declined conjuncts that were joined are divided into themselves, and nothing is pushed. -/
theorem ofSelector_conjoin {declined : List Selector} (nonempty : declined ≠ [])
    (parts : ∀ part ∈ declined, part.isIndivisible = true ∧ part.isPushable schema none = false)
    {s : PushState} (faithful : s.Faithful) :
    let query := ((ofSelector schema layout (.conjoin declined)).run s).1
    (Selector.conjoin declined).conjuncts = declined ∧ query.pushed = .const true ∧
      query.residual = some (.conjoin declined) ∧ query.declined = declined.length := by
  have conjuncts : (Selector.conjoin declined).conjuncts = declined := by
    refine Selector.conjuncts_conjoin nonempty fun part member => ⟨(parts part member).1, ?_⟩
    rintro rfl
    cases (parts _ member).2
  have stay : declined.filter (!·.isPushable schema none) = declined := by
    rw [List.filter_eq_self]
    intro part member
    rw [(parts part member).2]
    rfl
  obtain ⟨count, remains⟩ := ofSelector_declined schema layout (.conjoin declined) faithful
  have pushed : ((ofSelector schema layout (.conjoin declined)).run s).1.pushed = .const true := by
    apply ofSelector_matchAll schema layout faithful
    rw [conjuncts]
    exact fun part member => (parts part member).2
  rw [conjuncts, stay] at count remains
  refine ⟨conjuncts, pushed, ?_, count⟩
  rw [remains, pushed]
  exact residualOf_eq_some_iff.mpr ⟨rfl, nonempty, rfl⟩

/-- A selector accepts what all its conjuncts accept, and these are not divided any further. Unless
the pushed condition is always false, the residual joins the conjuncts that are declined by
themselves, in their order, and their number is counted; a disjunction or its negation is declined
by itself if one of its parts is. Dividing the residual again pushes nothing and leaves it as it
is. -/
theorem residual_joins_declined (selector : Selector) {s t : PushState} (first : s.Faithful)
    (second : t.Faithful) :
    let declines (part : Selector) : Bool :=
      ((PushOutcome.ofSelector schema layout part).run t).1.isDeclined
    let declined := selector.conjuncts.filter declines
    let query := ((ofSelector schema layout selector).run s).1
    (∀ document, selector.accepts document = true ↔
      ∀ conjunct ∈ selector.conjuncts, conjunct.accepts document = true) ∧
    (∀ conjunct ∈ selector.conjuncts, conjunct.conjuncts = [conjunct]) ∧
    (∀ children, declines (.anyOf children) = children.any declines ∧
      declines (.noneOf children) = children.any declines) ∧
    query.declined = declined.length ∧
    (query.pushed.isFalse = false →
      query.residual = if declined.isEmpty then none else some (.conjoin declined)) ∧
    ∀ residual, query.residual = some residual →
      let again := ((ofSelector schema layout residual).run t).1
      residual.conjuncts = declined ∧ again.isMatchAll = true ∧
        again.residual = some residual ∧ again.declined = query.declined := by
  intro declines declined query
  have own : declines = fun part => !part.isPushable schema none :=
    funext fun part => PushOutcome.isDeclined_ofSelector schema layout part second
  obtain ⟨count, remains⟩ : query.declined = declined.length ∧
      query.residual = residualOf query.pushed declined := by
    have divided := ofSelector_declined schema layout selector first
    rwa [← own] at divided
  refine ⟨?accepts, ?indivisible, ?whole, count, ?joins, ?again⟩
  case accepts =>
    intro document
    rw [← Selector.acceptAll_conjuncts, Selector.acceptAll_eq, List.all_map, List.all_eq_true]
    rfl
  case indivisible =>
    intro conjunct member
    exact Selector.conjuncts_of_isIndivisible (Selector.isIndivisible_of_mem_conjuncts member)
  case whole =>
    intro children
    rw [own]
    simp [Selector.isPushable, Selector.arePushable_eq, List.not_all_eq_any_not]
  case joins =>
    intro possible
    rw [remains]
    unfold residualOf
    rw [possible]
    cases declined <;> rfl
  case again =>
    intro residual found
    obtain ⟨-, nonempty, rfl⟩ := residualOf_eq_some_iff.mp (remains.symm.trans found)
    have parts : ∀ part ∈ declined,
        part.isIndivisible = true ∧ part.isPushable schema none = false := by
      intro part member
      obtain ⟨member, declines⟩ := List.mem_filter.mp member
      rw [own, Bool.not_eq_true'] at declines
      exact ⟨Selector.isIndivisible_of_mem_conjuncts member, declines⟩
    obtain ⟨conjuncts, pushed, stays, length⟩ :=
      ofSelector_conjoin schema layout nonempty parts second
    refine ⟨conjuncts, ?_, stays, length.trans count.symm⟩
    rw [isMatchAll, fragment?, pushed]
    rfl

/-- One of two operators and a disjunction with a nested group remain, and they remain again. -/
theorem residual_joins_declined_nested :
    let schema : Schema :=
      { version := 1, fields := [("age", ⟨.number, false⟩)], indexes := [] }
    let age (operators : List Operator) : Selector := .field ⟨["age"]⟩ operators
    let either : Selector :=
      .anyOf [age [.equals (.ofNat 1)], .allOf [age [.present true, .equals (.array [])]]]
    let selector : Selector := .allOf [
      age [.compares .gt (.ofNat 1), .differs (.array [])],
      .allOf [either, .noneOf [age [.equals (.ofNat 3)]]]]
    let residual : Selector := .allOf [age [.differs (.array [])], either]
    let again := ((ofSelector schema .standard residual).run {}).1
    PushState.Faithful {} ∧
      ((ofSelector schema .standard selector).run {}).1.residual = some residual ∧
      residual.conjuncts = [age [.differs (.array [])], either] ∧
      again.isMatchAll = true ∧ again.residual = some residual ∧ again.declined = 2 := by
  intro schema age either selector residual again
  have faithful : PushState.Faithful {} := PushState.Alike.fresh.left
  have remains : ((ofSelector schema .standard selector).run {}).1.residual = some residual := rfl
  obtain ⟨-, -, -, -, -, divides⟩ :=
    residual_joins_declined schema .standard selector faithful faithful
  obtain ⟨conjuncts, matchAll, stays, count⟩ := divides residual remains
  exact ⟨faithful, remains, conjuncts, matchAll, stays, count⟩

end

end CompiledQuery

end Pushdown
