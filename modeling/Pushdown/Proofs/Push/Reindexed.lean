import Pushdown.Proofs.Push.Parallel
import Pushdown.Proofs.Push.Selector

/-!
# Pushing under other indexes

Of the indexes of a schema only those in lower case are asked for, and only to choose the test for a
text pattern in the document: the items of arrays have no indexes. So under other indexes a selector
is pushed step by step as before, everything below a scan is the same, and the conditions differ in
tests for patterns only. These tests agree on the values that a conforming document has at their
places.
-/

namespace Pushdown

open Push (Parallel)

/-- A relation of conditions that is kept by the ways to join them. -/
structure Condition.Joinable (R : Condition Test → Condition Test → Prop) : Prop where
  refl : ∀ c, R c c
  all : ∀ {cs ds}, List.Forall₂ R cs ds → R (.all cs) (.all ds)
  any : ∀ {cs ds}, List.Forall₂ R cs ds → R (.any cs) (.any ds)
  negate : ∀ {c d}, R c d → R c.negate d.negate

theorem Condition.Joinable.eq : Joinable Eq where
  refl := Congruence.eq.refl
  all := Congruence.eq.all
  any := Congruence.eq.any
  negate := Congruence.eq.negate

variable {first second : Schema} {layout : Layout}

/-! ## Places and patterns -/

/-- Addresses do not depend on indexes. -/
theorem Location.resolve?_reindexed (fields : first.fields = second.fields) (scope : Scope)
    (segments : List String) :
    resolve? first layout scope segments = resolve? second layout scope segments := by
  have required (path : List String) : first.isRequired path = second.isRequired path := by
    unfold Schema.isRequired
    rw [fields]
  cases scope with
  | item => rfl
  | document =>
      cases segments with
      | nil => rfl
      | cons segment rest => rw [resolve?, resolve?, fields, required]

theorem Location.indexPath_item {scan : Nat} {type : FieldType} {segments : List String}
    {place : Location} (resolved : resolve? first layout (.item scan type) segments = some place) :
    place.indexPath = none := by
  rw [resolve?] at resolved
  obtain ⟨below, -, rest⟩ := Option.bind_eq_some_iff.mp resolved
  cases rest
  rfl

/-- The tests for the forms of regular expressions are related at a place. -/
def RelatesPatterns (R : Condition Test → Condition Test → Prop) (first second : Schema)
    (place : Location) : Prop :=
  ∀ expression : RegularExpression, TextPattern.ofRegex expression ≠ .irreducible →
    R (patternTest first (.ofRegex expression) expression.caseInsensitive place)
      (patternTest second (.ofRegex expression) expression.caseInsensitive place)

/-- They are related at all fields of a scope. -/
def RelatesFields (R : Condition Test → Condition Test → Prop) (first second : Schema)
    (layout : Layout) (scope : Scope) : Prop :=
  ∀ segments place, Location.resolve? first layout scope segments = some place →
    RelatesPatterns R first second place

/-- Where no index can be the tests are the same. -/
theorem RelatesPatterns.unindexed {place : Location} (unindexed : place.indexPath = none) :
    RelatesPatterns Eq first second place := by
  intro expression _
  rw [patternTest, patternTest, unindexed]
  rfl

/-! ## Selectors -/

variable {R : Condition Test → Condition Test → Prop}

theorem Condition.Joinable.pushRegex (joinable : Condition.Joinable R) {place : Location}
    (patterns : RelatesPatterns R first second place) (expression : RegularExpression) :
    Parallel R (pushRegex first place expression) (pushRegex second place expression) := by
  rw [Pushdown.pushRegex, Pushdown.pushRegex]
  refine (Parallel.classifyRegex first second).bind ?_
  rintro _ _ ⟨rfl, rfl⟩
  split
  · exact .decline
  · next reducible =>
    -- Items have no index, so the scan is the same.
    have items : someItem place
          (patternTest first (.ofRegex expression) expression.caseInsensitive) =
        someItem place (patternTest second (.ofRegex expression) expression.caseInsensitive) := rfl
    rw [valueOrItem, valueOrItem, items]
    refine (Condition.Congruence.eq.someItem place fun _ => rfl).map ?_
    rintro c _ rfl
    refine joinable.any (.cons ?_ (.cons (joinable.refl c) .nil))
    split
    · exact joinable.refl _
    · exact patterns expression reducible

/-- An operator that is pushed as before. -/
theorem Condition.Joinable.unchanged (joinable : Condition.Joinable R) {place : Location}
    {operator : Operator}
    (same : operator.push first layout place = operator.push second layout place) :
    Parallel R (operator.push first layout place) (operator.push second layout place) := by
  rw [same]
  apply ((Operator.Alike.refl .eq operator).push .eq place).imp
  rintro c _ rfl
  exact joinable.refl c

mutual

/-- Where the tests for patterns are related, so is what is pushed under other indexes. -/
theorem Selector.push_reindexed (fields : first.fields = second.fields) :
    ∀ (selector : Selector) {R : Condition Test → Condition Test → Prop} {scope : Scope},
      Condition.Joinable R → RelatesFields R first second layout scope →
      Parallel R (selector.push first layout scope) (selector.push second layout scope)
  | .const value, _, _, joinable, _ => .pure (joinable.refl _)
  | .allOf children, _, _, joinable, patterns => by
    rw [Selector.push, Selector.push]
    exact (Selector.pushAll_reindexed fields children joinable patterns).map
      fun _ _ related => joinable.all related
  | .anyOf children, _, _, joinable, patterns => by
    rw [Selector.push, Selector.push]
    exact (Selector.pushAll_reindexed fields children joinable patterns).map
      fun _ _ related => joinable.any related
  | .noneOf children, _, _, joinable, patterns => by
    rw [Selector.push, Selector.push]
    exact (Selector.pushAll_reindexed fields children joinable patterns).map
      fun _ _ related => joinable.negate (joinable.any related)
  | .field path operators, _, scope, joinable, patterns => by
    rw [Selector.push, Selector.push, ← Location.resolve?_reindexed fields]
    cases resolved : Location.resolve? first layout scope path.segments with
    | none => exact .decline
    | some place =>
        exact (Operator.pushAll_reindexed fields operators joinable
          (patterns _ _ resolved)).map fun _ _ related => joinable.all related

theorem Selector.pushAll_reindexed (fields : first.fields = second.fields) :
    ∀ (selectors : List Selector) {R : Condition Test → Condition Test → Prop} {scope : Scope},
      Condition.Joinable R → RelatesFields R first second layout scope →
      Parallel (List.Forall₂ R) (Selector.pushAll first layout scope selectors)
        (Selector.pushAll second layout scope selectors)
  | [], _, _, _, _ => .pure .nil
  | selector :: rest, _, _, joinable, patterns => by
    rw [Selector.pushAll, Selector.pushAll]
    exact (Selector.push_reindexed fields selector joinable patterns).bind fun _ _ related =>
      (Selector.pushAll_reindexed fields rest joinable patterns).map
        fun _ _ others => .cons related others

theorem Operator.push_reindexed (fields : first.fields = second.fields) :
    ∀ (operator : Operator) {R : Condition Test → Condition Test → Prop} {place : Location},
      Condition.Joinable R → RelatesPatterns R first second place →
      Parallel R (operator.push first layout place) (operator.push second layout place)
  | .equals _, _, _, joinable, _ | .differs _, _, _, joinable, _
  | .compares _ _, _, _, joinable, _ | .isIn _, _, _, joinable, _
  | .notIn _, _, _, joinable, _ | .present _, _, _, joinable, _
  | .hasKind _, _, _, joinable, _ | .hasSize _, _, _, joinable, _
  | .modulo _ _, _, _, joinable, _ | .elementOther _, _, _, joinable, _
  | .never, _, _, joinable, _ => joinable.unchanged rfl
  | .regex expression, _, _, joinable, patterns => joinable.pushRegex patterns expression
  | .element operators, _, place, joinable, _ => by
    rw [Operator.push, Operator.push]
    cases itemType? place.declared with
    | none => exact .pure (joinable.refl _)
    | some items =>
        refine Parallel.newScan.bind ?_
        rintro number _ rfl
        have patterns : RelatesPatterns Eq first second (.item number items) :=
          RelatesPatterns.unindexed rfl
        have same := Operator.pushAll_reindexed fields operators .eq patterns
        rw [List.forall₂_eq_eq_eq] at same
        refine same.map ?_
        rintro cs _ rfl
        exact joinable.refl _
  | .elementSelected selector, _, place, joinable, _ => by
    rw [Operator.push, Operator.push]
    cases itemType? place.declared with
    | none => exact .pure (joinable.refl _)
    | some items =>
        refine Parallel.newScan.bind ?_
        rintro number _ rfl
        have patterns : RelatesFields Eq first second layout (.item number items) :=
          fun _ _ resolved => .unindexed (Location.indexPath_item resolved)
        have same := Selector.push_reindexed fields selector .eq patterns
        refine same.map ?_
        rintro c _ rfl
        exact joinable.refl _
  | .negation operators, _, _, joinable, patterns => by
    rw [Operator.push, Operator.push]
    exact (Operator.pushAll_reindexed fields operators joinable patterns).map
      fun _ _ related => joinable.negate (joinable.all related)

theorem Operator.pushAll_reindexed (fields : first.fields = second.fields) :
    ∀ (operators : List Operator) {R : Condition Test → Condition Test → Prop} {place : Location},
      Condition.Joinable R → RelatesPatterns R first second place →
      Parallel (List.Forall₂ R) (Operator.pushAll first layout place operators)
        (Operator.pushAll second layout place operators)
  | [], _, _, _, _ => .pure .nil
  | operator :: rest, _, _, joinable, patterns => by
    rw [Operator.pushAll, Operator.pushAll]
    exact (Operator.push_reindexed fields operator joinable patterns).bind fun _ _ related =>
      (Operator.pushAll_reindexed fields rest joinable patterns).map
        fun _ _ others => .cons related others

end

end Pushdown
