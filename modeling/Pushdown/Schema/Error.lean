import Pushdown.Schema.Basic

/-!
# What is wrong with a schema

Loading and registering schemas can fail; compiling with a schema cannot. Each cause has a code that
does not change and a message for people.

A schema is valid when every index covers a declared field, and every lower-case index a string.
-/

namespace Pushdown

/-- A fault in the structure of a schema. -/
inductive SchemaFault where
  | undeclaredIndex (field : String)
  | nonStringIndex (field typeName : String)
  /-- A fault given by its description. -/
  | described (reason : String)
deriving DecidableEq, Repr

def SchemaFault.reason : SchemaFault → String
  | .undeclaredIndex field => "Index on undeclared field '" ++ field ++ "'"
  | .nonStringIndex field typeName =>
    "Lowercase index on non-string field '" ++ field ++ "' (" ++ typeName ++ ")"
  | .described reason => reason

/-- A failure to load or register a schema. -/
inductive SchemaError where
  | unreadable (path reason : String)
  | malformed (location reason : String)
  | invalid (fault : SchemaFault)
  /-- The collection already has a schema of this or a later version. -/
  | immutable (collection : String) (version : Nat)
deriving DecidableEq, Repr

namespace SchemaError

def code : SchemaError → String
  | .unreadable .. => "DOCSQL_SCHEMA_IO"
  | .malformed .. => "DOCSQL_SCHEMA_MALFORMED"
  | .invalid _ => "DOCSQL_SCHEMA_INVALID"
  | .immutable .. => "DOCSQL_SCHEMA_IMMUTABLE"

def message : SchemaError → String
  | .unreadable path reason => "Failed to read schema at " ++ path ++ ": " ++ reason
  | .malformed location reason => "Malformed schema at " ++ location ++ ": " ++ reason
  | .invalid fault => "Invalid schema: " ++ fault.reason
  | .immutable collection version =>
    "Schema for '" ++ collection ++ "' is already registered at version " ++ decimalText version

/-- The error for text at a location that is no schema. -/
def notASchema (location : String) : SchemaError := .malformed location "Invalid JSON:"

end SchemaError

namespace Schema

/-- The fault of an index, if it has one. -/
def indexFault? (schema : Schema) (index : Index) : Option SchemaFault :=
  match schema.typeAt? (FieldPath.ofDotted index.field).segments with
  | none => some (.undeclaredIndex index.field)
  | some type =>
    if index.kind = .lowercase ∧ !type.same .string then
      some (.nonStringIndex index.field type.name)
    else none

/-- Checks the structure of a schema. The first fault is reported. -/
def validate (schema : Schema) : Except SchemaError Unit :=
  match schema.indexes.findSome? schema.indexFault? with
  | some fault => .error (.invalid fault)
  | none => .ok ()

end Schema

end Pushdown
