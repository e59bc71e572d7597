import Pushdown.Selector.Matching
import Pushdown.Selector.Printer
import Pushdown.Selector.Reader
import Pushdown.Sql.Push

/-!
# Compiled queries

A selector is taken apart into conjuncts. Those that SQL can say are pushed down to the store, and
those that it cannot say remain, in their order, as a residual for the matcher. A disjunction is one
conjunct and goes to one side as a whole. When the pushed part is always false no document can be
selected, and the residual is dropped.

The documents selected are those that the pushed part fetches and the residual accepts.
-/

namespace Pushdown

/-- A selector divided between the store and the matcher. -/
structure CompiledQuery where
  /-- The condition that the store checks. -/
  pushed : Condition Test
  /-- The column that the condition reads documents from. -/
  column : String
  /-- What remains for the matcher. -/
  residual : Option Selector
  /-- The number of conjuncts that were declined. -/
  declined : Nat
deriving Inhabited

mutual

/-- The conditions that a selector joins, a field with several operators being one condition for
each. -/
def Selector.conjuncts : Selector → List Selector
  | .allOf children => Selector.conjunctsAll children
  | .field path operators =>
    if 1 < operators.length then operators.map fun operator => .field path [operator]
    else [.field path operators]
  | other => [other]

def Selector.conjunctsAll : List Selector → List Selector
  | [] => []
  | child :: rest => Selector.conjuncts child ++ Selector.conjunctsAll rest

end

namespace CompiledQuery

/-- Pushes conjuncts one by one: the conditions of those that can be pushed, and the others. -/
def divide (schema : Schema) (layout : Layout) :
    List Selector → StateM PushState (List (Condition Test) × List Selector)
  | [] => return ([], [])
  | conjunct :: rest => do
    let condition ← (conjunct.push schema layout .document).run
    let (pushed, declined) ← divide schema layout rest
    match condition with
    | some condition => return (condition :: pushed, declined)
    | none => return (pushed, conjunct :: declined)

/-- What remains of declined conjuncts beside a pushed condition. -/
def residualOf (pushed : Condition Test) (declined : List Selector) : Option Selector :=
  if pushed.isFalse then none
  else match declined with
    | [] => none
    | declined => some (.conjoin declined)

/-- Divides a selector between the store and the matcher. -/
def ofSelector (schema : Schema) (layout : Layout) (selector : Selector) :
    StateM PushState CompiledQuery := do
  let (pushed, declined) ← divide schema layout selector.conjuncts
  let pushed := Condition.all pushed
  return {
    pushed
    column := layout.documentColumn
    residual := residualOf pushed declined
    declined := declined.length }

/-- Compiles the JSON of a selector by itself. -/
def compile (schema : Schema) (layout : Layout) (selector : Json) : CompiledQuery :=
  ((ofSelector schema layout (Selector.ofJson selector)).run {}).1

/-- The SQL of the pushed condition; none when it is true of every document. -/
def fragment? (query : CompiledQuery) : Option Fragment :=
  if query.pushed.isTrue then none else some (query.pushed.clauses query.column).fragment

/-- The text for a filter. -/
def whereSql (query : CompiledQuery) : String :=
  match query.fragment? with
  | none => "1=1"
  | some fragment => fragment.sql

def args (query : CompiledQuery) : List Argument :=
  match query.fragment? with
  | none => []
  | some fragment => fragment.args

/-- Every document is fetched. -/
def isMatchAll (query : CompiledQuery) : Bool := query.fragment?.isNone

/-- No document is fetched. -/
def matchesNothing (query : CompiledQuery) : Bool :=
  query.fragment?.any fun fragment => fragment.sql == "1=0"

def hasResidual (query : CompiledQuery) : Bool := query.residual.isSome

/-- Whether the residual accepts a fetched document. -/
def residualAccepts (query : CompiledQuery) (document : Json) : Bool :=
  query.residual.all fun residual => residual.accepts document

def residualJson (query : CompiledQuery) : Option Json := query.residual.map Selector.toJson

/-- The pushed part as JSON, its members in their declared order. -/
def predicateJson (query : CompiledQuery) : Json :=
  match query.fragment? with
  | none => .object [("kind", .string "match_all")]
  | some fragment => .object (("kind", .string "fragment") :: fragment.toJson.members)

end CompiledQuery

end Pushdown
