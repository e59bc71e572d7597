import Pushdown.Proofs.Condition.Scans
import Pushdown.Proofs.Push.Numbering
import Pushdown.Proofs.Query.NormalForm

/-!
# Scans of compiled queries

The scans of the text that is compiled from a selector have names that no other scan of the text
has, and that no scan has that was numbered before. Each of the names is used in the body of its
scan only. Names are all that depends on how many scans have been numbered before: what is declined,
what is constant and the arguments do not.
-/

namespace Pushdown

open Sql (Account Embeds inScan occurrences aliases scanName_injective)

/-! ## Hygienic text -/

/-- The text introduces each name of a scan once at most and after those of the first `n` scans, and
uses it in the body of that scan only. -/
structure Sql.Hygienic (n : Nat) (text : String) : Prop where
  distinct : ∀ scan, (aliases text).count (scanName scan) ≤ 1
  fresh : ∀ scan, scanName scan ∈ aliases text → n < scan
  within : ∀ o ∈ occurrences text, ∀ scan, o.Uses scan → .body (scanName scan) ∈ o.scopes

variable {document text : String} {numbers : List Nat} {lo hi : Nat}

/-- What is met in a text by itself. -/
theorem Sql.Spans.account (embeds : Embeds document none text numbers) :
    Account document numbers (numbers ≠ []) (occurrences text) := by
  obtain ⟨list, lexes, account, -⟩ := embeds Sql.Cursor.start .start
  rw [occurrences, lexes.lexemes]
  exact account

theorem Sql.Account.hygienic {read : Prop}
    (account : Account document numbers read (occurrences text))
    (ascends : Ascends lo hi numbers) : Sql.Hygienic lo text where
  distinct scan := (account.introduced scan).trans_le
    (List.nodup_iff_count_le_one.mp ascends.nodup scan)
  fresh scan introduced := by
    have member : 0 < numbers.count scan := by
      rw [← account.introduced]
      exact List.count_pos_iff.mpr introduced
    exact (ascends.bounded scan (List.count_pos_iff.mp member)).1
  within o occurs := (account.sound o occurs).within

section

variable {schema : Schema} {first second : Layout} {d : Nat} {c c' : Condition Test}
  (h : Condition.Twins schema first second d none lo hi [c] [c'])
  (plain : Sql.isIdentifier document = true)

include h plain

/-- What is met in the text of what is pushed. -/
theorem Condition.Twins.account : Account document c.scanNumbers (c.scanNumbers ≠ [])
    (occurrences (c.clauses document).sql) :=
  (c.embeds plain (h.isScoped c (List.mem_singleton_self c))).account

theorem Condition.Twins.hygienic : Sql.Hygienic lo (c.clauses document).sql := by
  have ascends := h.ascends
  rw [List.flatMap_singleton] at ascends
  exact (h.account plain).hygienic ascends

end

/-! ## What does not depend on names -/

def PushOutcome.bare : PushOutcome → PushOutcome
  | .sql fragment => .sql ⟨"", fragment.args⟩
  | other => other

/-- Conditions with the same arguments, leaf by leaf, are constant together. -/
theorem Condition.const?_eq_of_args {column : String} {c c' : Condition Test}
    (h : c.map (fun test => (test.clause column).args) =
      c'.map fun test => (test.clause column).args) : c.const? = c'.const? := by
  have kept (c : Condition Test) :
      (c.map fun test => (test.clause column).args).const? = c.const? := by
    cases c <;> simp [const?]
  rw [← kept, h, kept]

theorem PushOutcome.bare_ofCondition {column : String} {c c' : Condition Test}
    (h : c.map (fun test => (test.clause column).args) =
      c'.map fun test => (test.clause column).args) :
    (ofCondition column (some c')).bare = (ofCondition column (some c)).bare := by
  rw [ofCondition, ofCondition, Condition.const?_eq_of_args h]
  cases c'.const? with
  | some value => cases value <;> rfl
  | none =>
      have args : (c'.clauses column).args = (c.clauses column).args := by
        rw [Condition.args_clauses, Condition.args_clauses, h]
      exact congrArg (fun args => PushOutcome.sql ⟨"", args⟩) args

section

variable (schema : Schema) (layout : Layout) (selector : Selector) (state : PushState) (d : Nat)

/-- A raised number of scans changes nothing but text. -/
theorem PushOutcome.ofSelector_raise :
    ((ofSelector schema layout selector).run (state.raise d)).1.bare =
      ((ofSelector schema layout selector).run state).1.bare := by
  obtain ⟨-, -, results⟩ := @Selector.push_twins schema layout layout d .document selector
    state.scans state rfl
  rw [Scope.raise] at results
  rw [ofSelector_run, ofSelector_run]
  revert results
  generalize ((selector.push schema layout .document).run state).1 = result
  generalize ((selector.push schema layout .document).run (state.raise d)).1 = raised
  rintro (twins | _)
  · have args := twins.args layout.documentColumn
    rw [List.map_singleton, List.map_singleton, List.singleton_inj] at args
    exact bare_ofCondition args
  · rfl

/-- A raised number of scans changes nothing but text. -/
theorem CompiledQuery.ofSelector_raise :
    let query := ((ofSelector schema layout selector).run state).1
    let raised := ((ofSelector schema layout selector).run (state.raise d)).1
    raised.declined = query.declined ∧ raised.residual = query.residual ∧
      raised.isMatchAll = query.isMatchAll ∧ raised.matchesNothing = query.matchesNothing ∧
        raised.args = query.args := by
  intro query raised
  obtain ⟨twins, declined, residual⟩ := @ofSelector_twins schema layout layout d selector state
  have args := twins.args layout.documentColumn
  rw [List.map_singleton, List.map_singleton, List.singleton_inj] at args
  have never : raised.pushed.isFalse = query.pushed.isFalse := by
    rw [← Condition.isFalse_map, ← args, Condition.isFalse_map]
  have always : raised.pushed.isTrue = query.pushed.isTrue := by
    rw [← Condition.isTrue_map, ← args, Condition.isTrue_map]
  refine ⟨declined, residual never, ?_, ?_, ?_⟩
  · rw [isMatchAll_eq, isMatchAll_eq, always]
  · rw [matchesNothing_ofSelector, matchesNothing_ofSelector, never]
  · rw [(whereSql_and_args raised).2, (whereSql_and_args query).2, Condition.args_clauses,
      Condition.args_clauses]
    exact congrArg (fun c => c.leaves.flatMap id) args.symm

end

namespace CompiledQuery

/-- Scans are named hygienically. In the text of a compiled selector, and in that of a selector that
is pushed by itself, each name of a scan is introduced once at most, with a higher number than the
compiler had reached before, and is used in the body of its scan only, provided that the column of
documents is a plain identifier. How far the compiler had counted changes neither what is declined
and remains, nor whether the condition is constant, nor the arguments, for any layout. -/
theorem scans_hygienic (schema : Schema) (layout : Layout) (selector : Selector)
    (state : PushState) :
    let query := ((ofSelector schema layout selector).run state).1
    let outcome := ((PushOutcome.ofSelector schema layout selector).run state).1
    (Sql.isIdentifier layout.documentColumn = true → Sql.Hygienic state.scans query.whereSql ∧
      ∀ fragment, outcome = .sql fragment → Sql.Hygienic state.scans fragment.sql) ∧
    ∀ n,
      let other := ((ofSelector schema layout selector).run { state with scans := n }).1
      let outcome' :=
        ((PushOutcome.ofSelector schema layout selector).run { state with scans := n }).1
      other.declined = query.declined ∧ other.residual = query.residual ∧
        other.isMatchAll = query.isMatchAll ∧ other.matchesNothing = query.matchesNothing ∧
        other.args = query.args ∧ outcome'.bare = outcome.bare := by
  intro query outcome
  refine ⟨fun plain => ⟨?_, ?_⟩, ?_⟩
  · rw [(whereSql_and_args query).1]
    exact (@ofSelector_twins schema layout layout 0 selector state).1.hygienic plain
  · intro fragment given
    obtain ⟨c, pushed, -, written⟩ := PushOutcome.eq_some_of_eq_sql
      ((PushOutcome.ofSelector_run schema layout selector state).symm.trans given)
    rw [written]
    exact (Selector.pushed_twins pushed).hygienic plain
  · -- Both states are raised from the one that no scan has been numbered in.
    have raised (n : Nat) : ({ state with scans := 0 } : PushState).raise n =
        { state with scans := n } := by
      rw [PushState.raise, Nat.zero_add]
    intro n other outcome'
    have here := ofSelector_raise schema layout selector { state with scans := 0 } state.scans
    have there := ofSelector_raise schema layout selector { state with scans := 0 } n
    have result := PushOutcome.ofSelector_raise schema layout selector { state with scans := 0 }
    rw [raised] at here there
    obtain ⟨declined, residual, always, never, args⟩ := here
    obtain ⟨declined', residual', always', never', args'⟩ := there
    refine ⟨declined'.trans declined.symm, residual'.trans residual.symm, always'.trans always.symm,
      never'.trans never.symm, args'.trans args.symm, ?_⟩
    exact (raised n ▸ result n).trans (raised state.scans ▸ result state.scans).symm

/-- The scan for an item of an item reads the item in the body of the outer scan. -/
theorem scans_hygienic_nested :
    let schema : Schema :=
      { version := 0, fields := [("a", ⟨.array (.array .number), false⟩)], indexes := [] }
    let layout : Layout := .jsonColumn "d"
    let query (n : Nat) :=
      ((ofSelector schema layout (.field ⟨["a"]⟩ [.element [.equals (.ofNat 1)]])).run
        { scans := n }).1
    let text :=
      "json_type(d, '$.a') = 'array' AND EXISTS(SELECT 1 FROM json_each(d, '$.a') AS j5 " ++
      "WHERE EXISTS(SELECT 1 FROM json_each(d, j5.fullkey) AS j6 WHERE j6.value = ?))"
    Sql.isIdentifier layout.documentColumn = true ∧ (query 4).whereSql = text ∧
      Sql.Hygienic 4 text ∧ (query 0).args = (query 4).args := by
  intro schema layout query text
  have plain : Sql.isIdentifier layout.documentColumn = true := by decide
  have written : (query 4).whereSql = text := by decide +kernel
  obtain ⟨hygienic, independent⟩ := scans_hygienic schema layout
    (.field ⟨["a"]⟩ [.element [.equals (.ofNat 1)]]) { scans := 4 }
  obtain ⟨-, -, -, -, args, -⟩ := independent 0
  exact ⟨plain, written, written ▸ (hygienic plain).1, args⟩

end CompiledQuery

end Pushdown
