import Pushdown.Query.Plan

/-!
# Explanations of plans

An explanation shows people what a plan does: the filter with its arguments, what is left to the
matcher, and where documents are sorted, paginated and counted.
-/

namespace Pushdown

structure Explanation where
  collection : String
  sql : String
  args : List String
  residual : Option String
  declined : Nat
  sort : Option String
  sortPlacement : Option String
  pagination : String
  count : String
deriving DecidableEq, Repr

namespace Explanation

def ofPlan (plan : Plan) : Explanation where
  collection := plan.collection
  sql := plan.compiled.whereSql
  args := plan.compiled.args.map Argument.display
  residual := plan.compiled.residualJson.map Json.compact
  declined := plan.compiled.declined
  sort :=
    if plan.sort.isEmpty then none
    else some (joinWith ", " (plan.sort.map fun spec => spec.field ++ " " ++ spec.direction.name))
  sortPlacement :=
    if plan.sort.isEmpty then none
    else if plan.sortsInMemory then some "memory"
    else some "sql"
  pagination := plan.pagination.placement
  count := plan.count.name

def lines (explanation : Explanation) : List String :=
  ["=== EXPLAIN PLAN ===", "Collection: " ++ explanation.collection, "SQL: " ++ explanation.sql] ++
  (if explanation.args.isEmpty then []
    else ["Args: [" ++ joinWith ", " explanation.args ++ "]"]) ++
  (match explanation.residual with
    | some residual =>
      ["Residual: " ++ residual, "Declined Conjuncts: " ++ decimalText explanation.declined]
    | none => ["Residual: none"]) ++
  (match explanation.sort, explanation.sortPlacement with
    | some sort, some placement => ["Sort: " ++ sort ++ " (" ++ placement ++ ")"]
    | _, _ => []) ++
  ["Pagination: " ++ explanation.pagination, "Count: " ++ explanation.count]

/-- The text of an explanation, every line ended by a newline. -/
def text (explanation : Explanation) : String :=
  joinWith "" (explanation.lines.map (· ++ "\n"))

end Explanation

end Pushdown
