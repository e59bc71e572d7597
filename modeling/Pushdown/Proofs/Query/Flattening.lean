import Pushdown.Proofs.Query.Parallel
import Pushdown.Proofs.Query.Verdict

/-!
# Pushing whole and in parts

A selector can be pushed as a whole, or be taken apart and its conjuncts be pushed one by one. The
whole gives a conjunction of conjunctions and addresses a field once for all its operators; the
parts give one flat conjunction and address the field again for each of them.

Both come to the same. A built conjunction merges what is nested in it, so it does not matter where
its parts are grouped, and the scans are met in the same order. When no part is declined, the
condition of the parts is the condition of the whole; and when one is, so is the whole.
-/

namespace Pushdown

/-! ## Conjunctions of conjunctions -/

namespace Condition

variable {α : Type} {P : α → Prop}

/-- A conjunction is made of what its parts add to it. -/
theorem all_congr {cs ds : List (Condition α)} (isFalse : cs.any isFalse = ds.any isFalse)
    (parts : cs.any Condition.isFalse = false → cs.flatMap conjuncts = ds.flatMap conjuncts) :
    all cs = all ds := by
  rw [all, all, ← isFalse]
  split
  · rfl
  · next possible => rw [parts (Bool.eq_false_iff.mpr possible)]

theorem Normal.isFalse_all {cs : List (Condition α)} (h : ∀ c ∈ cs, Normal P c) :
    (Condition.all cs).isFalse = cs.any Condition.isFalse := by
  rw [Bool.eq_iff_iff]
  constructor
  · intro constant
    rcases Normal.all_eq_const h (isFalse_iff.mp constant) with ⟨-, member⟩ | ⟨impossible, -⟩
    · exact List.any_eq_true.mpr ⟨_, member, rfl⟩
    · cases impossible
  · intro some
    rw [Condition.all, if_pos some]
    rfl

theorem Normal.conjuncts_all {cs : List (Condition α)} (h : ∀ c ∈ cs, Normal P c)
    (possible : cs.any Condition.isFalse = false) :
    (Condition.all cs).conjuncts = cs.flatMap Condition.conjuncts := by
  rw [Condition.all, if_neg (Bool.eq_false_iff.mp possible)]
  split
  · next none => rw [none, Condition.conjuncts]
  · next only single =>
    obtain ⟨c, member, part⟩ := List.mem_flatMap.mp (single ▸ List.mem_singleton_self only)
    have notFalse : c ≠ .const false := fun constant =>
      Bool.eq_false_iff.mp possible (List.any_eq_true.mpr ⟨c, member, isFalse_iff.mpr constant⟩)
    obtain ⟨proper, flat⟩ := (h c member).conjuncts notFalse only part
    rw [single]
    cases proper with
    | leaf | anyOf | negation => rfl
    | allOf => cases flat
  · rfl

/-- A condition is a conjunction of itself alone. -/
theorem Normal.all_singleton {c : Condition α} (h : Normal P c) : Condition.all [c] = c := by
  cases h with
  | const value => cases value <;> rfl
  | proper proper =>
    cases proper with
    | leaf | anyOf | negation => rfl
    | @allOf children many =>
      rcases children with _ | ⟨first, _ | ⟨second, rest⟩⟩
      · cases many
      · cases many.not_gt Nat.one_lt_two
      · simp [Condition.all, isFalse, Condition.conjuncts]

/-- The parts of a conjunction can be grouped. -/
theorem Normal.all_append {cs ds : List (Condition α)} (left : ∀ c ∈ cs, Normal P c)
    (right : ∀ d ∈ ds, Normal P d) :
    Condition.all (cs ++ ds) = Condition.all [Condition.all cs, Condition.all ds] := by
  apply all_congr
  · simp [Normal.isFalse_all left, Normal.isFalse_all right]
  · intro possible
    rw [List.any_append, Bool.or_eq_false_iff] at possible
    simp [Normal.conjuncts_all left possible.1, Normal.conjuncts_all right possible.2]

/-- Normal conditions with the same conjunction. -/
structure SameAll (P : α → Prop) (cs ds : List (Condition α)) : Prop where
  left : ∀ c ∈ cs, Normal P c
  right : ∀ d ∈ ds, Normal P d
  eq : all cs = all ds

namespace SameAll

variable {cs ds cs' ds' : List (Condition α)}

theorem refl (normal : ∀ c ∈ cs, Normal P c) : SameAll P cs cs := ⟨normal, normal, rfl⟩

theorem append (first : SameAll P cs ds) (second : SameAll P cs' ds') :
    SameAll P (cs ++ cs') (ds ++ ds') where
  left := List.forall_mem_append.mpr ⟨first.left, second.left⟩
  right := List.forall_mem_append.mpr ⟨first.right, second.right⟩
  eq := by
    rw [Normal.all_append first.left second.left, Normal.all_append first.right second.right,
      first.eq, second.eq]

/-- Conditions can be replaced by their conjunction. -/
theorem grouped (h : SameAll P cs ds) : SameAll P [all cs] ds where
  left := List.forall_mem_singleton.mpr (Normal.all h.left)
  right := h.right
  eq := (Normal.all h.left).all_singleton.trans h.eq

/-- The conjunction of conditions in the place of a single one is that condition. -/
theorem eq_all {c : Condition α} (h : SameAll P [c] ds) : c = all ds :=
  (h.left c (List.mem_singleton_self c)).all_singleton.symm.trans h.eq

end SameAll

end Condition

open Push (Parallel Ensures)
open Condition (SameAll)

/-! ## Steps side by side -/

/-- Steps that run in parallel return what the first of them ensures. -/
theorem Push.Parallel.ensured {α β : Type} {R : α → β → Prop} {first : Push α} {second : Push β}
    {Q : α → Prop} (h : Parallel R first second) (good : Ensures (fun _ => True) first Q) :
    Parallel (fun a b => R a b ∧ Q a) first second := by
  intro s t alike
  obtain ⟨results, left⟩ := h s t alike
  obtain ⟨-, good⟩ := good s trivial
  refine ⟨?_, left⟩
  revert results good
  generalize (first.run s).1 = result
  generalize (second.run t).1 = result'
  rintro (related | _) good
  · exact .some ⟨related, good _ rfl⟩
  · exact .none

section

variable (schema : Schema) (layout : Layout)

/-- The test can be read in the column of the documents. -/
def Layout.Reads (test : Test) : Prop := test.Readable layout.documentColumn

/-- Pushed again, a selector gives the same condition, which is normal. -/
theorem Selector.push_again (selector : Selector) (scope : Scope) :
    Parallel (fun c d => c = d ∧ c.Normal layout.Reads) (selector.push schema layout scope)
      (selector.push schema layout scope) := by
  apply ((Selector.Alike.refl .eq selector).push .eq scope).ensured
  intro s _
  have stored : (Setting.undecided schema layout .null).Stored := False.elim
  obtain ⟨-, tells⟩ := Selector.push_tells stored selector scope False.elim s False.elim
  exact ⟨trivial, fun c result => (tells c result).readable⟩

theorem Operator.push_again (operator : Operator) (place : Location) :
    Parallel (fun c d => c = d ∧ c.Normal layout.Reads) (operator.push schema layout place)
      (operator.push schema layout place) := by
  apply ((Operator.Alike.refl .eq operator).push .eq place).ensured
  intro s _
  have stored : (Setting.undecided schema layout .null).Stored := False.elim
  obtain ⟨-, tells⟩ := Operator.push_tells stored operator place False.elim s False.elim
  exact ⟨trivial, fun c result => (tells c result).readable⟩

/-! ## Conjuncts -/

theorem Selector.pushAll_append (scope : Scope) (selectors others : List Selector) :
    Selector.pushAll schema layout scope (selectors ++ others) = do
      let first ← Selector.pushAll schema layout scope selectors
      return first ++ (← Selector.pushAll schema layout scope others) := by
  induction selectors with
  | nil => simp [Selector.pushAll]
  | cons selector rest ih => simp [Selector.pushAll, ih]

variable {schema layout}

/-- A selector that is its own conjunct is pushed as such. -/
theorem Selector.push_alone (selector : Selector) (scope : Scope) :
    Parallel (fun c ds => SameAll layout.Reads [c] ds) (selector.push schema layout scope)
      (Selector.pushAll schema layout scope [selector]) := by
  have alone : Selector.pushAll schema layout scope [selector] =
      selector.push schema layout scope >>= fun c => pure [c] := by
    simp [Selector.pushAll]
  rw [alone]
  apply (selector.push_again schema layout scope).map_right
  rintro c _ ⟨rfl, normal⟩
  exact .refl (List.forall_mem_singleton.mpr normal)

/-- An operator on its own gives the condition that it adds to others. -/
theorem Operator.push_alone {scope : Scope} {path : FieldPath} {place : Location}
    (resolved : Location.resolve? schema layout scope path.segments = some place)
    (operator : Operator) :
    Parallel (fun c d => c = d ∧ c.Normal layout.Reads) (operator.push schema layout place)
      (Selector.push schema layout scope (.field path [operator])) := by
  have alone : Selector.push schema layout scope (.field path [operator]) =
      operator.push schema layout place >>= fun c => pure (.all [c]) := by
    simp [Selector.push, Operator.pushAll, resolved]
  rw [alone]
  apply (operator.push_again schema layout place).map_right
  rintro c _ ⟨rfl, normal⟩
  exact ⟨normal.all_singleton.symm, normal⟩

/-- A field that can be addressed is addressed in the same way for each operator. -/
theorem Operator.pushAll_fields {scope : Scope} {path : FieldPath} {place : Location}
    (resolved : Location.resolve? schema layout scope path.segments = some place)
    (operators : List Operator) :
    Parallel (SameAll layout.Reads) (Operator.pushAll schema layout place operators)
      (Selector.pushAll schema layout scope
        (operators.map fun operator => .field path [operator])) := by
  induction operators with
  | nil => exact .pure (.refl (List.forall_mem_nil _))
  | cons operator rest ih =>
      rw [Operator.pushAll, List.map_cons, Selector.pushAll]
      apply (Operator.push_alone resolved operator).bind
      rintro c _ ⟨rfl, normal⟩
      apply ih.map
      intro cs ds same
      exact (SameAll.refl (List.forall_mem_singleton.mpr normal)).append same

/-- A field that cannot be addressed is declined with the first of its operators. -/
theorem Operator.decline_fields {scope : Scope} {path : FieldPath} {α : Type}
    {R : α → List (Condition Test) → Prop}
    (unresolved : Location.resolve? schema layout scope path.segments = none)
    {operators : List Operator} (some : 0 < operators.length) :
    Parallel R Push.decline (Selector.pushAll schema layout scope
      (operators.map fun operator => .field path [operator])) := by
  cases operators with
  | nil => cases some
  | cons operator rest =>
      rw [List.map_cons, Selector.pushAll, Selector.push, unresolved]
      exact fun _ _ alike => ⟨.none, alike⟩

mutual

/-- The condition of a selector is the conjunction of those of its conjuncts. -/
theorem Selector.push_conjuncts (scope : Scope) : ∀ selector : Selector,
    Parallel (fun c ds => SameAll layout.Reads [c] ds) (selector.push schema layout scope)
      (Selector.pushAll schema layout scope selector.conjuncts)
  | .allOf children => by
    rw [Selector.push, Selector.conjuncts]
    exact (Selector.pushAll_conjuncts scope children).map_left fun _ _ same => same.grouped
  | .field path operators => by
    rw [Selector.conjuncts]
    split
    · next several =>
      rw [Selector.push]
      cases resolved : Location.resolve? schema layout scope path.segments with
      | none => exact Operator.decline_fields resolved (Nat.zero_lt_of_lt several)
      | some place =>
          exact (Operator.pushAll_fields resolved operators).map_left
            fun _ _ same => same.grouped
    · exact Selector.push_alone _ scope
  | .const value => Selector.push_alone (.const value) scope
  | .anyOf children => Selector.push_alone (.anyOf children) scope
  | .noneOf children => Selector.push_alone (.noneOf children) scope

theorem Selector.pushAll_conjuncts (scope : Scope) : ∀ selectors : List Selector,
    Parallel (SameAll layout.Reads) (Selector.pushAll schema layout scope selectors)
      (Selector.pushAll schema layout scope (Selector.conjunctsAll selectors))
  | [] => .pure (.refl (List.forall_mem_nil _))
  | child :: rest => by
    rw [Selector.pushAll, Selector.conjunctsAll, Selector.pushAll_append]
    exact (Selector.push_conjuncts scope child).bind fun _ _ first =>
      (Selector.pushAll_conjuncts scope rest).map fun _ _ others => first.append others

end

end

/-! ## Two ways to compile -/

/-- The SQL that an outcome leaves to the store; none when every document is selected. -/
def PushOutcome.fragment? : PushOutcome → Option Fragment
  | .alwaysTrue => none
  | .alwaysFalse => some ⟨"1=0", []⟩
  | .sql fragment => some fragment
  | .declined => none

theorem PushOutcome.ofCondition_some (column : String) (c : Condition Test) :
    ofCondition column (some c) ≠ .declined ∧
      (ofCondition column (some c)).fragment? =
        if c.isTrue then none else some (c.clauses column).fragment := by
  cases c with
  | const value => cases value <;> exact ⟨nofun, rfl⟩
  | leaf | allOf | anyOf | negation => exact ⟨nofun, rfl⟩

namespace CompiledQuery

/-- Where no conjunct is declined all of them are pushed. -/
theorem divide_pushAll (schema : Schema) (layout : Layout) (conjuncts : List Selector)
    (s : PushState) :
    let whole := ((Selector.pushAll schema layout .document conjuncts).run s).1
    let divided := ((divide schema layout conjuncts).run s).1
    (∀ cs, whole = some cs → divided = (cs, [])) ∧ (whole = none → 0 < divided.2.length) := by
  induction conjuncts generalizing s with
  | nil =>
      constructor
      · rintro _ ⟨⟩
        rfl
      · rintro ⟨⟩
  | cons conjunct rest ih =>
      simp only [divide_cons, Selector.pushAll, Push.run_bind]
      generalize (Selector.push schema layout .document conjunct).run s = step
      obtain ⟨result, left⟩ := step
      cases result with
      | none => exact ⟨nofun, fun _ => Nat.succ_pos _⟩
      | some c =>
          obtain ⟨pushed, declined⟩ := ih left
          dsimp only [Option.elim_some]
          revert pushed declined
          generalize (Selector.pushAll schema layout .document rest).run left = others
          obtain ⟨result, after⟩ := others
          intro pushed declined
          cases result with
          | none => exact ⟨nofun, fun _ => declined rfl⟩
          | some cs =>
              rw [pushed cs rfl]
              constructor
              · rintro _ ⟨⟩
                rfl
              · rintro ⟨⟩

/-- A selector is declined as a whole exactly when one of its conjuncts is. Otherwise nothing
remains for the matcher, and the store is given the same SQL with the same arguments. -/
theorem ofSelector_translation (schema : Schema) (layout : Layout) (selector : Selector)
    {s t : PushState} (alike : s.Alike t) :
    let outcome := ((PushOutcome.ofSelector schema layout selector).run s).1
    let query := ((ofSelector schema layout selector).run t).1
    (outcome = .declined ↔ 0 < query.declined) ∧
      (outcome ≠ .declined →
        query.residual = none ∧ query.fragment? = outcome.fragment?) := by
  have whole : ((PushOutcome.ofSelector schema layout selector).run s).1 =
      .ofCondition layout.documentColumn ((selector.push schema layout .document).run s).1 := rfl
  obtain ⟨results, -⟩ := Selector.push_conjuncts .document selector s t alike
  obtain ⟨pushed, declined⟩ := divide_pushAll schema layout selector.conjuncts t
  rw [whole, ofSelector_run]
  dsimp only
  revert results pushed declined
  generalize ((selector.push schema layout .document).run s).1 = result
  generalize ((Selector.pushAll schema layout .document selector.conjuncts).run t).1 = parts
  rintro (same | _) pushed declined
  · next c ds =>
    obtain ⟨translated, fragment⟩ := PushOutcome.ofCondition_some layout.documentColumn c
    rw [pushed _ rfl, fragment, same.eq_all]
    exact ⟨by simp [← same.eq_all, translated], fun _ => ⟨by simp [residualOf], rfl⟩⟩
  · exact ⟨⟨fun _ => declined rfl, fun _ => rfl⟩, fun translated => absurd rfl translated⟩

set_option maxRecDepth 2000 in
/-- A group inside a group, a field with two operators, and two scans. -/
theorem ofSelector_translation_nested :
    let schema : Schema :=
      { version := 1, fields := [("tags", ⟨.array .number, false⟩)], indexes := [] }
    let tags (operators : List Operator) : Selector := .field ⟨["tags"]⟩ operators
    let selector : Selector := .allOf [
      tags [.equals (.ofNat 1), .present true], .allOf [tags [.equals (.ofNat 2)], .const true]]
    let outcome := ((PushOutcome.ofSelector schema .standard selector).run {}).1
    let query := ((ofSelector schema .standard selector).run {}).1
    PushState.Alike {} {} ∧
      outcome = .sql ⟨
        "EXISTS(SELECT 1 FROM json_each(data, '$.tags') AS j1 WHERE j1.value = ?) AND " ++
        "json_type(data, '$.tags') IS NOT NULL AND " ++
        "EXISTS(SELECT 1 FROM json_each(data, '$.tags') AS j2 WHERE j2.value = ?)",
        [.integer 1, .integer 2]⟩ ∧
      query.residual = none ∧ query.fragment? = outcome.fragment? := by
  intro schema tags selector outcome query
  have translated : outcome ≠ .declined := by decide
  have agrees := (ofSelector_translation schema .standard selector .fresh).2 translated
  exact ⟨.fresh, by decide, agrees.1, agrees.2⟩

end CompiledQuery

end Pushdown
