import Pushdown.Proofs.Condition.Combination
import Pushdown.Proofs.Query.Layouts
import Pushdown.Proofs.Query.Twins

/-!
# Normal form of compiled queries

Every condition that is built with the building functions is in normal form, in whatever order they
are called. For the condition of a selector this goes down into the bodies of scans, which are built
in the same way. So the text `1=0` is that of the constant false only, and neither a constant nor an
empty group is part of a larger text.
-/

namespace Pushdown

/-- Combinations of leaves are built in normal form. -/
theorem Combination.normal_condition {ι κ σ : Type} (combination : Combination ι κ σ)
    (writing : Writing ι κ σ) : (combination.condition writing).Normal fun _ => True := by
  -- The phrases of a combination are in normal form whatever their leaves mean.
  let nowhere : Assignment ι κ σ Unit := ⟨fun _ _ => none, fun _ _ => true, fun _ _ => []⟩
  have phrases : (combination.phrases writing).Normal (Faithful writing nowhere) :=
    normal_phrases combination
  rw [← map_phrases]
  exact (phrases.imp fun _ _ => trivial).map_leaves Phrase.clause

/-! ## Scans in normal form -/

/-- A test whose scans, at any depth, have no body or one in normal form that is not constant. -/
inductive Test.Deep : Test → Prop
  | value {test : Location → Test} (ofValue : OfValue test) (place : Location) : Deep (test place)
  | someItem (place : Location) (number : Nat) : Deep (.scan place number (.const true))
  | scan (place : Location) (number : Nat) {body : Condition Test} (proper : body.Proper Deep) :
      Deep (.scan place number body)

theorem Condition.Normal.scan {body : Condition Test} (h : body.Normal Test.Deep)
    (place : Location) (number : Nat) :
    (Condition.scan place number body).Normal Test.Deep := by
  rw [Condition.scan]
  cases h with
  | const value =>
      cases value
      · exact .const false
      · exact .leaf (.someItem place number)
  | proper proper =>
      split
      · exact .const false
      · exact .leaf (.scan place number proper)

/-- What pushing builds is in normal form at every depth. -/
theorem Condition.Twins.normal {schema : Schema} {first second : Layout} {d : Nat}
    {scope : Option Nat} {lo hi : Nat} {cs cs' : List (Condition Test)}
    (h : Twins schema first second d scope lo hi cs cs') : ∀ c ∈ cs, c.Normal Test.Deep := by
  induction h with
  | nil => exact List.forall_mem_nil _
  | append _ _ front back => exact List.forall_mem_append.mpr ⟨front, back⟩
  | const value => exact List.forall_mem_singleton.mpr (.const value)
  | leaf ofValue => exact List.forall_mem_singleton.mpr (.leaf (.value ofValue _))
  | all _ parts => exact List.forall_mem_singleton.mpr (.all parts)
  | any _ parts => exact List.forall_mem_singleton.mpr (.any parts)
  | negate _ inner =>
      rw [List.forall_mem_singleton] at inner ⊢
      exact inner.negate
  | scan _ _ _ body =>
      rw [List.forall_mem_singleton] at body ⊢
      exact body.scan _ _

/-! ## Compiled queries -/

section

variable {P : Test → Prop}

theorem Condition.Normal.proper_of_const? {c : Condition Test} (h : c.Normal P)
    (notConst : c.const? = none) : c.Proper P := by
  cases h with
  | const value => cases notConst
  | proper proper => exact proper

/-- A fragment of an outcome is written for a condition that is not constant. -/
theorem PushOutcome.eq_some_of_eq_sql {column : String} {condition? : Option (Condition Test)}
    {fragment : Fragment} (given : ofCondition column condition? = .sql fragment) :
    ∃ c : Condition Test, condition? = some c ∧ c.const? = none ∧
      fragment = (c.clauses column).fragment := by
  cases condition? with
  | none => cases given
  | some c =>
      rw [ofCondition] at given
      cases constant : c.const? with
      | some value =>
          rw [constant] at given
          cases value <;> cases given
      | none =>
          rw [constant] at given
          cases given
          exact ⟨c, rfl, constant, rfl⟩

/-- The fragment of a query is that of the constant false, or is written for a condition without
constants. -/
theorem CompiledQuery.proper_of_fragment? {query : CompiledQuery} (normal : query.pushed.Normal P)
    {fragment : Fragment} (given : query.fragment? = some fragment) :
    fragment = ⟨"1=0", []⟩ ∨
      query.pushed.Proper P ∧ fragment = (query.pushed.clauses query.column).fragment := by
  rw [fragment?, Option.ite_none_left_eq_some, Option.some.injEq] at given
  obtain ⟨notTrue, rfl⟩ := given
  cases constant : query.pushed.const? with
  | none => exact .inr ⟨normal.proper_of_const? constant, rfl⟩
  | some value =>
      left
      revert notTrue constant
      cases query.pushed <;> intro notTrue constant <;> cases constant
      cases value
      · rfl
      · exact absurd rfl notTrue

end

namespace CompiledQuery

/-- The pushed condition of a selector is in normal form at every depth. -/
theorem pushed_normal (schema : Schema) (layout : Layout) (selector : Selector)
    (state : PushState) :
    ((ofSelector schema layout selector).run state).1.pushed.Normal Test.Deep :=
  (@ofSelector_twins schema layout layout 0 selector state).1.normal _ (List.mem_singleton_self _)

/-- A compiled selector fetches nothing by its text exactly when its condition is the constant
false. -/
theorem matchesNothing_ofSelector (schema : Schema) (layout : Layout) (selector : Selector)
    (state : PushState) :
    let query := ((ofSelector schema layout selector).run state).1
    query.matchesNothing = query.pushed.isFalse :=
  matchesNothing_eq ((pushed_normal schema layout selector state).imp fun _ _ => trivial)

/-- Conditions are built in normal form. Built of leaves and constants in any way, a condition is a
constant, or it has none; every group has at least two parts and none of its own kind, and no
negation holds a negation. The pushed condition of a selector is so at every depth. It is the
constant false exactly when the query fetches nothing by its text, and the constant true exactly
when everything is fetched. So apart from the text of the constant false every fragment, of a query
or of a selector that is pushed by itself, is written for a condition that has no constant in it and
no group of fewer than two parts, in the bodies of its scans neither. -/
theorem constructed_normal :
    (∀ {ι κ σ : Type} (combination : Combination ι κ σ) (writing : Writing ι κ σ),
      (combination.condition writing).Normal fun _ => True) ∧
    ∀ (schema : Schema) (layout : Layout) (selector : Selector) (state : PushState),
      let query := ((ofSelector schema layout selector).run state).1
      let outcome := ((PushOutcome.ofSelector schema layout selector).run state).1
      let written (c : Condition Test) : Fragment := (c.clauses layout.documentColumn).fragment
      query.pushed.Normal Test.Deep ∧
      (query.matchesNothing = true ↔ query.pushed = .const false) ∧
      (query.isMatchAll = true ↔ query.pushed = .const true) ∧
      (∀ fragment ∈ query.fragment?, fragment = ⟨"1=0", []⟩ ∨
        query.pushed.Proper Test.Deep ∧ fragment = written query.pushed) ∧
      ∀ fragment, outcome = .sql fragment →
        ∃ c : Condition Test, c.Proper Test.Deep ∧ fragment = written c := by
  refine ⟨fun combination writing => combination.normal_condition writing, ?_⟩
  intro schema layout selector state query outcome written
  have normal : query.pushed.Normal Test.Deep := pushed_normal schema layout selector state
  refine ⟨normal, ?_, ?_, fun fragment => proper_of_fragment? normal, ?_⟩
  · rw [matchesNothing_ofSelector schema layout selector state, Condition.isFalse_iff]
  · rw [isMatchAll_eq, Condition.isTrue_iff]
  · intro fragment given
    obtain ⟨c, pushed, notConst, written⟩ := PushOutcome.eq_some_of_eq_sql
      ((PushOutcome.ofSelector_run schema layout selector state).symm.trans given)
    have normal := (Selector.pushed_twins pushed).normal c (List.mem_singleton_self c)
    exact ⟨c, normal.proper_of_const? notConst, written⟩

end CompiledQuery

end Pushdown
