import Pushdown.Proofs.Condition.Counting
import Pushdown.Proofs.Query.Agreement
import Pushdown.Proofs.Query.Execution

/-!
# Arguments and placeholders

Every piece of SQL that is written for a test closes the quotes that it opens, and it has a
placeholder for each argument that is bound with it. Keys, field names and tables are written
between quotes, so no character of theirs is taken for a placeholder. The pieces are joined by
operators and parentheses only, so a whole condition, and every statement of a plan around it, has
as many placeholders as arguments.
-/

namespace Pushdown

open Sql (Takes)

/-- The text ends outside quotes and has one placeholder for each argument. -/
def Fragment.IsBound (fragment : Fragment) : Prop := Takes fragment.sql fragment.args.length

/-- Columns of fields are written between quotes where they have to be. -/
theorem Condition.isBound {column : String} (closed : Takes column 0) (c : Condition Test) :
    Takes (c.clauses column).sql (c.clauses column).args.length :=
  Condition.counts Takes.tally closed c
    (Condition.everywhere_of_forall (fun _ field _ => Takes.quoteIdentifier field) c)

theorem CompiledQuery.isBound {query : CompiledQuery} (closed : Takes query.column 0) :
    Fragment.IsBound ⟨query.whereSql, query.args⟩ := by
  obtain ⟨sql, args⟩ := query.whereSql_and_args
  rw [Fragment.IsBound, sql, args]
  exact query.pushed.isBound closed

/-! ## Statements -/

theorem Window.isBound (window : Window) : window.fragment.IsBound := by
  rw [Window.fragment]
  split
  · show Takes " LIMIT ?" 1
    decide
  · show Takes " LIMIT ? OFFSET ?" 2
    decide

namespace Select

variable {select : Select}

theorem isBound_filtered (projection : Takes select.projection 0)
    (condition : ∀ fragment ∈ select.condition, fragment.IsBound) : select.filtered.IsBound := by
  have head : Takes ("SELECT " ++ select.projection ++ " FROM " ++
      Sql.quoteIdentifier select.table) 0 :=
    ((projection.preceded "SELECT " (by decide)).followed " FROM " 0 (by decide)).append
      (.quoteIdentifier _)
  rw [filtered]
  cases given : select.condition with
  | none => exact head
  | some fragment =>
      have filtering := head.followed " WHERE " 0 (by decide)
      exact (condition fragment given).preceded _ filtering

theorem takes_ordering (terms : ∀ term ∈ select.terms, Takes term 0) :
    Takes select.ordering 0 := by
  rw [ordering]
  split
  · decide
  · have listed : Takes (joinWith ", " select.terms) 0 :=
      Takes.tally.joinWith_closed (by decide) terms
    exact listed.preceded " ORDER BY " (by decide)

theorem isBound_windowed (select : Select) : select.windowed.IsBound := by
  rw [windowed]
  split
  · show Takes "" 0
    decide
  · exact Window.isBound _

/-- The arguments of the condition stand before those of the window, as their placeholders do. -/
theorem isBound (projection : Takes select.projection 0)
    (condition : ∀ fragment ∈ select.condition, fragment.IsBound)
    (terms : ∀ term ∈ select.terms, Takes term 0) : select.fragment.IsBound := by
  have ordered : Takes (select.filtered.sql ++ select.ordering) select.filtered.args.length :=
    (isBound_filtered projection condition).append (takes_ordering terms)
  rw [Fragment.IsBound, fragment, List.length_append]
  exact ordered.append select.isBound_windowed

end Select

namespace Plan

variable {schema : Schema} {layout : Layout}

theorem takes_orderTerm (closed : Takes layout.documentColumn 0) {spec : SortSpec} {term : String}
    (written : orderTerm? schema layout spec = some term) : Takes term 0 := by
  obtain ⟨place, -, rfl⟩ := Option.map_eq_some_iff.mp written
  have direction : Takes spec.direction.sql 0 := by cases spec.direction <;> decide
  have value : Takes (place.value layout.documentColumn) 0 :=
    Takes.tally.value closed place fun field _ => Takes.quoteIdentifier field
  exact (value.followed " " 0 (by decide)).append direction

theorem takes_orderTerms (closed : Takes layout.documentColumn 0) : ∀ {sort : List SortSpec}
    {terms : List String}, orderTerms? schema layout sort = some terms →
      ∀ term ∈ terms, Takes term 0
  | [], _, written => by
    cases written
    exact List.forall_mem_nil _
  | spec :: rest, terms, written => by
    rw [orderTerms?, List.mapM_cons] at written
    obtain ⟨term, first, others⟩ := Option.bind_eq_some_iff.mp written
    obtain ⟨following, later, ends⟩ := Option.bind_eq_some_iff.mp others
    cases ends
    exact List.forall_mem_cons.mpr ⟨takes_orderTerm closed first, takes_orderTerms closed later⟩

/-- The text of the filter and the statements of a plan end outside quotes, and have a placeholder
for each of their arguments: for every selector, order and page, and whatever characters the names
of fields and tables have. Only the column of the documents is written as it is. -/
theorem statements_bound (schema : Schema) (layout : Layout)
    (plain : Sql.isIdentifier layout.documentColumn = true) (selector : Selector)
    (state : PushState) (query : Query) (table : String) :
    let compiled := ((CompiledQuery.ofSelector schema layout selector).run state).1
    let plan := Plan.ofQuery schema layout query compiled
    Fragment.IsBound ⟨compiled.whereSql, compiled.args⟩ ∧
      (plan.selectStatement table).IsBound ∧ (plan.countStatement table).IsBound := by
  intro compiled plan
  have closed : Takes layout.documentColumn 0 := .identifier plain
  have condition : ∀ fragment ∈ compiled.fragment?, fragment.IsBound := by
    intro fragment given
    rw [CompiledQuery.fragment?, Option.mem_def, Option.ite_none_left_eq_some,
      Option.some.injEq] at given
    rw [← given.2]
    exact compiled.pushed.isBound closed
  have terms : ∀ term ∈ plan.orderBy.getD [], Takes term 0 := by
    cases written : plan.orderBy with
    | none => exact List.forall_mem_nil _
    | some terms => exact takes_orderTerms closed written
  refine ⟨CompiledQuery.isBound closed, ?_, ?_⟩
  · rw [← plan.select_fragment]
    exact Select.isBound closed condition terms
  · have projection : Takes (plan.counting table).projection 0 := by
      rw [counting]
      dsimp only
      split
      · decide
      · exact closed
    rw [← plan.counting_fragment]
    exact Select.isBound projection condition (List.forall_mem_nil _)

/-- Quotes and question marks in the names of fields and of a table. -/
theorem statements_bound_quoted :
    let schema : Schema := { version := 1, fields := [("it's?", ⟨.string, true⟩)], indexes := [] }
    let selector : Selector := .allOf
      [.field ⟨["it's?"]⟩ [.equals (.string "x")], .field ⟨["'?"]⟩ [.present true]]
    let query : Query := {
      collection := "users", selector := .null, sort := [⟨"it's?", .ascending⟩], skip := some 1,
      limit := none }
    let compiled := ((CompiledQuery.ofSelector schema (.columns "data") selector).run {}).1
    let plan := Plan.ofQuery schema (.columns "data") query compiled
    let statement := plan.selectStatement "\"?"
    statement.sql = "SELECT data FROM \"\"\"?\" WHERE \"it's?\" = ? AND " ++
        "json_type(data, '$.\"''?\"') IS NOT NULL ORDER BY \"it's?\" ASC LIMIT ? OFFSET ?" ∧
      statement.args = [.text "x", .integer (-1), .integer 1] ∧
      Sql.isIdentifier "data" = true ∧ statement.IsBound := by
  intro schema selector query compiled plan statement
  have plain : Sql.isIdentifier "data" = true := by decide
  refine ⟨by decide, by decide, plain, ?_⟩
  exact (statements_bound schema (.columns "data") plain selector {} query "\"?").2.1

end Plan

end Pushdown
