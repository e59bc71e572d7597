import Pushdown.Document.Path
import Pushdown.Sql.Fragment

/-!
# Conditions

A condition is built from leaves by conjunction, disjunction and negation. The building functions
`all`, `any` and `negate` keep it simple: constants are absorbed, nested groups of one kind are
merged, and two negations cancel. A constant is therefore a whole condition or is not there.

SQL evaluates a comparison with a missing value to NULL. A filter takes NULL for false, but the
negation of NULL is NULL again, so negation replaces NULL by false wherever its operand can be NULL.
-/

namespace Pushdown

/-- A condition over leaves. -/
inductive Condition (α : Type) where
  | const (value : Bool)
  | leaf (test : α)
  | allOf (children : List (Condition α))
  | anyOf (children : List (Condition α))
  | negation (child : Condition α)
deriving Inhabited

namespace Condition

variable {α : Type}

def isFalse : Condition α → Bool
  | .const value => !value
  | _ => false

def isTrue : Condition α → Bool
  | .const value => value
  | _ => false

def const? : Condition α → Option Bool
  | .const value => some value
  | _ => none

/-- What a condition adds to a conjunction: the parts of a conjunction, nothing for the constant
true. -/
def conjuncts : Condition α → List (Condition α)
  | .const true => []
  | .allOf children => children
  | other => [other]

/-- What a condition adds to a disjunction: the parts of a disjunction, nothing for the constant
false. -/
def disjuncts : Condition α → List (Condition α)
  | .const false => []
  | .anyOf children => children
  | other => [other]

/-- The conjunction of conditions. -/
def all (children : List (Condition α)) : Condition α :=
  if children.any isFalse then .const false
  else match children.flatMap conjuncts with
    | [] => .const true
    | [only] => only
    | parts => .allOf parts

/-- The disjunction of conditions. -/
def any (children : List (Condition α)) : Condition α :=
  if children.any isTrue then .const true
  else match children.flatMap disjuncts with
    | [] => .const false
    | [only] => only
    | parts => .anyOf parts

def negate : Condition α → Condition α
  | .const value => .const !value
  | .negation child => child
  | other => .negation other

end Condition

/-- A leaf as SQL. A nullable leaf can evaluate to NULL; any other one to true or false only. -/
structure Clause where
  sql : String
  args : List Argument
  nullable : Bool
deriving DecidableEq, Repr

namespace Condition

mutual

/-- Whether SQL can evaluate a condition to NULL. -/
def nullable : Condition Clause → Bool
  | .const _ => false
  | .negation _ => false
  | .leaf clause => clause.nullable
  | .allOf children => anyNullable children
  | .anyOf children => anyNullable children

def anyNullable : List (Condition Clause) → Bool
  | [] => false
  | child :: rest => nullable child || anyNullable rest

end

mutual

/-- The SQL text of a condition. Conjunctions stand without parentheses, so disjunctions carry
their own, around each part and around the whole. -/
def sql : Condition Clause → String
  | .const true => "1=1"
  | .const false => "1=0"
  | .leaf clause => clause.sql
  | .allOf children => joinWith " AND " (sqlAll children)
  | .anyOf children =>
    "(" ++ joinWith " OR " ((sqlAll children).map fun part => "(" ++ part ++ ")") ++ ")"
  | .negation child =>
    if nullable child then "NOT COALESCE(" ++ sql child ++ ", 0)" else "NOT (" ++ sql child ++ ")"

def sqlAll : List (Condition Clause) → List String
  | [] => []
  | child :: rest => sql child :: sqlAll rest

end

mutual

/-- The arguments of a condition in the order of its text. -/
def args : Condition Clause → List Argument
  | .const _ => []
  | .leaf clause => clause.args
  | .allOf children => argsAll children
  | .anyOf children => argsAll children
  | .negation child => args child

def argsAll : List (Condition Clause) → List Argument
  | [] => []
  | child :: rest => args child ++ argsAll rest

end

def fragment (condition : Condition Clause) : Fragment := ⟨condition.sql, condition.args⟩

/-- The clause that a row of a source exists, for which the body holds if there is one. It is never
NULL. -/
def existsClause (source rowName : String) (body : Option Fragment) : Clause :=
  match body with
  | none => ⟨"EXISTS(SELECT 1 FROM " ++ source ++ " AS " ++ rowName ++ ")", [], false⟩
  | some fragment =>
    ⟨"EXISTS(SELECT 1 FROM " ++ source ++ " AS " ++ rowName ++ " WHERE " ++ fragment.sql ++ ")",
      fragment.args, false⟩

/-- The condition that a row of a source exists for which another condition holds. -/
def someRow (source rowName : String) : Condition Clause → Condition Clause
  | .const false => .const false
  | .const true => .leaf (existsClause source rowName none)
  | inner => .leaf (existsClause source rowName (some inner.fragment))

end Condition

end Pushdown
