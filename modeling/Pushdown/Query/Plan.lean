import Pushdown.Query.Sort
import Pushdown.Sql.CompiledQuery

/-!
# Plans of queries

A plan says which part of a query runs in the store and which in memory. The pushed condition runs
in the store. Sorting does as well when SQL can address every key. Skipping and limiting run in the
store only when nothing is filtered or sorted afterwards, because they would count documents that
are dropped later, and counting does only when nothing is filtered afterwards.
-/

namespace Pushdown

/-- Where documents are skipped and limited. -/
structure Pagination where
  sqlLimit : Option Nat := none
  sqlOffset : Option Nat := none
  memorySkip : Nat := 0
  memoryLimit : Option Nat := none
deriving DecidableEq, Repr

namespace Pagination

def inSql (skip limit : Option Nat) : Pagination :=
  { sqlLimit := limit, sqlOffset := skip.filter (0 < ·) }

def inMemory (skip limit : Option Nat) : Pagination :=
  { memorySkip := skip.getD 0, memoryLimit := limit }

def placement (pagination : Pagination) : String :=
  if pagination.sqlLimit.isSome || pagination.sqlOffset.isSome then "sql"
  else if 0 < pagination.memorySkip || pagination.memoryLimit.isSome then "memory"
  else "none"

end Pagination

/-- How matching documents are counted. -/
inductive CountStrategy where
  /-- The store counts. -/
  | sql
  /-- The documents are fetched, and those that the residual accepts are counted. -/
  | materialize
deriving DecidableEq, Repr

def CountStrategy.name : CountStrategy → String
  | .sql => "SQL_COUNT"
  | .materialize => "MATERIALIZE"

/-- A plan for one query. -/
structure Plan where
  collection : String
  compiled : CompiledQuery
  sort : List SortSpec
  /-- The terms that the store sorts by; none when the documents are sorted in memory. -/
  orderBy : Option (List String)
  pagination : Pagination
  count : CountStrategy
  documentColumn : String

namespace Plan

/-- The term that the store sorts by for one key, if SQL can address it. -/
def orderTerm? (schema : Schema) (layout : Layout) (spec : SortSpec) : Option String :=
  (Location.resolve? schema layout .document spec.segments).map fun place =>
    place.value layout.documentColumn ++ " " ++ spec.direction.sql

/-- The terms that the store sorts by, if SQL can address all keys. -/
def orderTerms? (schema : Schema) (layout : Layout) (sort : List SortSpec) :
    Option (List String) :=
  sort.mapM (orderTerm? schema layout)

/-- Plans a query whose selector has been compiled. -/
def ofQuery (schema : Schema) (layout : Layout) (query : Query) (compiled : CompiledQuery) : Plan :=
  let orderBy := orderTerms? schema layout query.sort
  let filteredLater := compiled.hasResidual || orderBy.isNone
  {
    collection := query.collection
    compiled
    sort := query.sort
    orderBy
    pagination :=
      if filteredLater then .inMemory query.skip query.limit else .inSql query.skip query.limit
    count := if compiled.hasResidual then .materialize else .sql
    documentColumn := layout.documentColumn }

def sortsInMemory (plan : Plan) : Bool := !plan.sort.isEmpty && plan.orderBy.isNone

/-- The selection of something from the rows that satisfy the pushed condition. -/
def filteredSelect (plan : Plan) (table projection : String) : Fragment :=
  let select := "SELECT " ++ projection ++ " FROM " ++ Sql.quoteIdentifier table
  match plan.compiled.fragment? with
  | none => ⟨select, []⟩
  | some fragment => ⟨select ++ " WHERE " ++ fragment.sql, fragment.args⟩

/-- The order of a statement, empty when the store does not sort. -/
def orderClause (plan : Plan) : String :=
  match plan.orderBy with
  | none => ""
  | some [] => ""
  | some terms => " ORDER BY " ++ joinWith ", " terms

/-- The window of a statement, empty when the store does not paginate. A missing limit before an
offset is written as `-1`. -/
def windowClause (plan : Plan) : Fragment :=
  match plan.pagination.sqlLimit, plan.pagination.sqlOffset with
  | none, none => ⟨"", []⟩
  | limit, offset =>
    let limitArg := Argument.integer (match limit with
      | some n => min n greatestSigned
      | none => -1)
    match offset with
    | none => ⟨" LIMIT ?", [limitArg]⟩
    | some n => ⟨" LIMIT ? OFFSET ?", [limitArg, .integer (min n greatestSigned)]⟩

/-- The statement that fetches the documents. -/
def selectStatement (plan : Plan) (table : String) : Fragment :=
  let select := plan.filteredSelect table plan.documentColumn
  let window := plan.windowClause
  ⟨select.sql ++ plan.orderClause ++ window.sql, select.args ++ window.args⟩

/-- The statement for counting: the count itself, or the documents to be counted. Skipping and
limiting do not apply. -/
def countStatement (plan : Plan) (table : String) : Fragment :=
  match plan.count with
  | .sql => plan.filteredSelect table "COUNT(*)"
  | .materialize => plan.filteredSelect table plan.documentColumn

/-- What remains to be done with fetched documents: to filter, sort, skip and limit them. -/
def finish (plan : Plan) (rows : List Json) : List Json :=
  let accepted := rows.filter plan.compiled.residualAccepts
  let sorted := if plan.sortsInMemory then sortDocuments plan.sort accepted else accepted
  let rest := sorted.drop plan.pagination.memorySkip
  match plan.pagination.memoryLimit with
  | none => rest
  | some limit => rest.take limit

/-- The number of fetched documents that the residual accepts. -/
def countRows (plan : Plan) (rows : List Json) : Nat :=
  rows.countP plan.compiled.residualAccepts

end Plan

end Pushdown
