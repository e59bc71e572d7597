import Pushdown.Schema.Basic
import Pushdown.Json.Printer

/-!
# Schemas as JSON

Every member is written, also where it has its default. Members stand in the order in which they
are declared: version, fields, indexes; the type before its parts, and requiredness last. The
fields of an object stand in the order of their names.
-/

namespace Pushdown

mutual

/-- The members that describe a type. -/
def FieldType.toMembers : FieldType → List (String × Json)
  | .object fields =>
    [("type", .string "object"), ("fields", .object (FieldType.toFieldMembers fields))]
  | .array items =>
    [("type", .string "array"), ("items", .object (FieldType.toMembers items))]
  | .string => [("type", .string "string")]
  | .number => [("type", .string "number")]
  | .boolean => [("type", .string "boolean")]
  | .null => [("type", .string "null")]
  | .unknown => [("type", .string "unknown")]

def FieldType.toFieldMembers : List (String × Declaration FieldType) → List (String × Json)
  | [] => []
  | (name, ⟨type, required⟩) :: rest =>
    (name, .object (FieldType.toMembers type ++ [("required", .bool required)])) ::
      FieldType.toFieldMembers rest

end

/-- The JSON of a type, its members in their declared order. -/
def FieldType.toJson (type : FieldType) : Json := .object type.toMembers

def IndexKind.name : IndexKind → String
  | .plain => "plain"
  | .lowercase => "lowercase"

def Index.toJson (index : Index) : Json :=
  .object [("field", .string index.field), ("kind", .string index.kind.name)]

/-- The JSON of a schema, its members in their declared order. -/
def Schema.toJson (schema : Schema) : Json :=
  .object [
    ("version", .ofNat schema.version),
    ("fields", .object (FieldType.toFieldMembers schema.fields)),
    ("indexes", .array (schema.indexes.map Index.toJson))]

/-- The text that a schema is saved as. -/
def Schema.text (schema : Schema) : String := schema.toJson.indented

end Pushdown
