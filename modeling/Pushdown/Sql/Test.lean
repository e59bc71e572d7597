import Pushdown.Selector.Basic
import Pushdown.Sql.Condition
import Pushdown.Sql.Location

/-!
# Tests of stored values

The leaves of a compiled selector are tests of one stored value. A test names the place of the value
and what is asked of it; its SQL text follows from both and from the column that holds the document.
A scan asks for a row, among the items of a value, that satisfies a condition of its own.

Tests of values and types are NULL when the value is missing. The tests for NULL itself and the
scans are never NULL.
-/

namespace Pushdown

/-- How a text is compared with an operand. -/
inductive TextTest where
  | equal
  /-- The text in lower case equals the operand. -/
  | lowerEqual
  /-- Equality up to the case of ASCII letters. -/
  | equalIgnoringCase
  | like
  /-- The text in lower case is like the operand. -/
  | lowerLike
  /-- The text and the operand in lower case are alike. -/
  | lowerLikeLower
deriving DecidableEq, Repr

/-- A test of a stored value. -/
inductive Test where
  /-- The value is missing or null. -/
  | isNull (place : Location)
  /-- The value is there, null included, or it is not. -/
  | present (place : Location) (expected : Bool)
  | hasType (place : Location) (names : List TypeName)
  | equals (place : Location) (operand : Argument)
  | compares (place : Location) (comparison : Comparison) (operand : Argument)
  | memberOf (place : Location) (values : List Json)
  | hasLength (place : Location) (length : Argument)
  | leavesRemainder (place : Location) (divisor remainder : Int)
  | text (place : Location) (test : TextTest) (operand : String)
  /-- Some item satisfies the body. -/
  | scan (place : Location) (number : Nat) (body : Condition Test)

def escapeClause : String := " ESCAPE " ++ Sql.literal "\\"

/-- The SQL text of a comparison of a text with a placeholder. -/
def TextTest.sql (value : String) : TextTest → String
  | .equal => value ++ " = ?"
  | .lowerEqual => "lower(" ++ value ++ ") = ?"
  | .equalIgnoringCase => value ++ " = ? COLLATE NOCASE"
  | .like => value ++ " LIKE ?" ++ escapeClause
  | .lowerLike => "lower(" ++ value ++ ") LIKE ?" ++ escapeClause
  | .lowerLikeLower => "lower(" ++ value ++ ") LIKE lower(?)" ++ escapeClause

def typeTestSql (typeName : String) : List TypeName → String
  | [name] => typeName ++ " = " ++ Sql.literal name.spelling
  | names =>
    typeName ++ " IN (" ++ joinWith ", " (names.map fun name => Sql.literal name.spelling) ++ ")"

def remainderSql (value : String) : String :=
  "(" ++ value ++ " - (CAST(" ++ value ++ " / ? AS INTEGER) * ?)) = ?"

mutual

/-- The SQL of a test, for documents in the given column. -/
def Test.clause (column : String) : Test → Clause
  | .isNull place => ⟨place.value column ++ " IS NULL", [], false⟩
  | .present place expected =>
    ⟨place.typeName column ++ (if expected then " IS NOT NULL" else " IS NULL"), [], false⟩
  | .hasType place names => ⟨typeTestSql (place.typeName column) names, [], true⟩
  | .equals place operand => ⟨place.value column ++ " = ?", [operand], true⟩
  | .compares place comparison operand =>
    ⟨place.value column ++ " " ++ comparison.sign ++ " ?", [operand], true⟩
  | .memberOf place values =>
    ⟨place.value column ++ " IN (SELECT value FROM json_each(?))",
      [.text (Json.array values).compact], true⟩
  | .hasLength place length => ⟨place.length column ++ " = ?", [length], true⟩
  | .leavesRemainder place divisor remainder =>
    ⟨remainderSql (place.value column),
      [.integer divisor, .integer divisor, .integer remainder], true⟩
  | .text place test operand => ⟨test.sql (place.value column), [.text operand], true⟩
  | .scan place number body =>
    let rows := place.rows column
    match Condition.clauses column body with
    | .const true => Condition.existsClause rows (scanName number) none
    | body => Condition.existsClause rows (scanName number) (some body.fragment)

def Condition.clauses (column : String) : Condition Test → Condition Clause
  | .const value => .const value
  | .leaf test => .leaf (Test.clause column test)
  | .allOf children => .allOf (Condition.clausesAll column children)
  | .anyOf children => .anyOf (Condition.clausesAll column children)
  | .negation child => .negation (Condition.clauses column child)

def Condition.clausesAll (column : String) : List (Condition Test) → List (Condition Clause)
  | [] => []
  | child :: rest => Condition.clauses column child :: Condition.clausesAll column rest

end

/-- The condition that some item of a value satisfies a body. A scan for nothing is false, and a
scan for anything is kept, since there may be no item. -/
def Condition.scan (place : Location) (number : Nat) (body : Condition Test) : Condition Test :=
  if body.isFalse then .const false else .leaf (.scan place number body)

end Pushdown
