import Pushdown.Json.Basic

/-!
# Kinds of values

The kinds that a `$type` operand can ask for. An operand names kinds by an alias or by a numeric
code, and one alias may stand for two kinds. In SQL the kind of a stored value is read as a type
name, of which truth values have two.
-/

namespace Pushdown

/-- The kind of a JSON value. Integers and reals are different kinds. -/
inductive Kind where
  | string
  | integer
  | real
  | boolean
  | array
  | object
  | null
deriving DecidableEq, Repr

/-- A type name that the store reports for a JSON value. -/
inductive TypeName where
  | null
  | trueValue
  | falseValue
  | integer
  | real
  | text
  | array
  | object
deriving DecidableEq, Repr

def TypeName.spelling : TypeName → String
  | .null => "null"
  | .trueValue => "true"
  | .falseValue => "false"
  | .integer => "integer"
  | .real => "real"
  | .text => "text"
  | .array => "array"
  | .object => "object"

def TypeName.ofJson : Json → TypeName
  | .null => .null
  | .bool true => .trueValue
  | .bool false => .falseValue
  | .number n => if n.isReal then .real else .integer
  | .string _ => .text
  | .array _ => .array
  | .object _ => .object

namespace Kind

def all : List Kind := [.string, .integer, .real, .boolean, .array, .object, .null]

def ofJson : Json → Kind
  | .null => .null
  | .bool _ => .boolean
  | .number n => if n.isReal then .real else .integer
  | .string _ => .string
  | .array _ => .array
  | .object _ => .object

/-- The name of a kind in a selector. -/
def name : Kind → String
  | .string => "string"
  | .integer => "int"
  | .real => "double"
  | .boolean => "bool"
  | .array => "array"
  | .object => "object"
  | .null => "null"

/-- The type names that the store reports for values of a kind. -/
def typeNames : Kind → List TypeName
  | .string => [.text]
  | .integer => [.integer]
  | .real => [.real]
  | .boolean => [.trueValue, .falseValue]
  | .array => [.array]
  | .object => [.object]
  | .null => [.null]

def ofAlias? (word : String) : Option (List Kind) :=
  if word = "string" then some [.string]
  else if word = "number" ∨ word = "decimal" then some [.integer, .real]
  else if word = "int" ∨ word = "long" then some [.integer]
  else if word = "double" then some [.real]
  else if word = "bool" ∨ word = "boolean" then some [.boolean]
  else if word = "array" then some [.array]
  else if word = "object" then some [.object]
  else if word = "null" then some [.null]
  else none

def ofCode? (code : Int) : Option (List Kind) :=
  if code = 1 then some [.real]
  else if code = 2 then some [.string]
  else if code = 3 then some [.object]
  else if code = 4 then some [.array]
  else if code = 8 then some [.boolean]
  else if code = 10 then some [.null]
  else if code = 16 ∨ code = 18 then some [.integer]
  else if code = 19 then some [.integer, .real]
  else none

/-- The kinds named by one entry of an operand, which is an alias or a code. -/
def resolve? : Json → Option (List Kind)
  | .string word => ofAlias? word
  | .number code => code.signed?.bind ofCode?
  | _ => none

end Kind

end Pushdown
