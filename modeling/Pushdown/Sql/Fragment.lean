import Pushdown.Json.Printer
import Pushdown.Sql.Identifier

/-!
# Fragments of SQL

A fragment is SQL text with the arguments for its placeholders, in the order of the placeholders. A
placeholder is a question mark outside string literals.
-/

namespace Pushdown

/-- The value of a placeholder. -/
inductive Argument where
  | null
  | integer (value : Int)
  | real (value : Binary64)
  | text (value : String)
deriving DecidableEq, Repr

namespace Argument

/-- A number as an argument: an integer where it fits the signed 64-bit range, otherwise a real. -/
def ofNumber (n : Number) : Argument :=
  match n.signed? with
  | some i => .integer i
  | none => .real n.toReal

/-- The argument as it is shown to people, text as a string literal. -/
def display : Argument → String
  | .null => "NULL"
  | .integer i => String.ofList (integerDigits i)
  | .real x => String.ofList (x.numeral .plain)
  | .text content => Sql.literal content

def toJson : Argument → Json
  | .null => .null
  | .integer i => .ofInt i
  | .real x => .number (.real x)
  | .text content => .string content

end Argument

/-- SQL text with its arguments. -/
structure Fragment where
  sql : String
  args : List Argument
deriving DecidableEq, Repr

/-- The question marks outside string literals, counted from inside a literal or outside one. -/
def countPlaceholders : Bool → List Char → Nat
  | _, [] => 0
  | quoted, c :: rest =>
    if c = '\'' then countPlaceholders (!quoted) rest
    else if c = '?' ∧ !quoted then countPlaceholders quoted rest + 1
    else countPlaceholders quoted rest

def placeholderCount (sql : String) : Nat := countPlaceholders false sql.toList

namespace Fragment

def placeholders (fragment : Fragment) : Nat := placeholderCount fragment.sql

def toJson (fragment : Fragment) : Json :=
  .object [
    ("sql", .string fragment.sql), ("args", .array (fragment.args.map Argument.toJson))]

end Fragment

end Pushdown
