import Pushdown.Json.Members
import Pushdown.Schema.Error

/-!
# Reading schemas

A schema is read from the syntax tree of its text. Members that are not known are passed over,
whatever they hold. A known member must not be repeated, but of repeated names of fields the last
counts. A missing member has its default; null is not a missing value.

Two spellings exist beside the usual one. An object with fixed members may be given as the list of
their values in order, the last of which may be left out. Where a declaration has been gathered
before its type is looked at, the type may be given by its number.

Gathered parts are read as values first, so their strings, numerals and depth are checked even where
they mean nothing.
-/

namespace Pushdown

namespace FieldType

/-- The names of the types in the order of their numbers. -/
def names : List String :=
  ["string", "number", "boolean", "null", "unknown", "object", "array"]

/-- The name of a type: a string or, where the declaration has been gathered, a number. -/
def tag? (gathered : Bool) : Syntax → Option String
  | .string text => text
  | .number (some n) => if gathered then n.unsigned?.bind (names[·]?) else none
  | _ => none

/-- The member that holds the part of a type with a given name, if the type has one. -/
def partKey? (name : String) : Option String :=
  if name = "object" then some "fields"
  else if name = "array" then some "items"
  else none

/-- The name of a type and its part, from an object or from a list. -/
def nameAndPart? (gathered : Bool) : Syntax → Option (String × Option Syntax)
  | .object members => do
    let members ← Syntax.keyed? members
    let name ← Syntax.required? "type" (tag? gathered) members
    match partKey? name with
    | none => some (name, none)
    | some key => some (name, ← Syntax.optional? key none (fun part => some (some part)) members)
  | .array [tag] => (tag? gathered tag).map fun name => (name, none)
  | .array [tag, part] => do
    let name ← tag? gathered tag
    if (partKey? name).isSome then some (name, some part) else none
  | _ => none

/-- Reads a field declaration: a type, and beside it whether the field is required. -/
def declaration? (type? : Syntax → Option FieldType) : Syntax → Option FieldDef
  | .object members => do
    let keyed ← Syntax.keyed? members
    let required ← Syntax.optional? "required" false Syntax.bool? keyed
    some ⟨← type? (.object members), required⟩
  | _ => none

def fields? (declaration? : Syntax → Option FieldDef) : Syntax → Option Fields
  | .object members => do
    let keyed ← Syntax.keyed? members
    let declarations ← keyed.mapM fun (name, tree) =>
      (declaration? tree).map fun declaration => (name, declaration)
    some (.ofList declarations)
  | _ => none

/-- Reads a type that is nested less deeply than the given number. -/
def ofTree? : Nat → Bool → Syntax → Option FieldType
  | 0, _, _ => none
  | fuel + 1, gathered, tree => do
    match ← nameAndPart? gathered tree with
    | ("string", _) => some .string
    | ("number", _) => some .number
    | ("boolean", _) => some .boolean
    | ("null", _) => some .null
    | ("unknown", _) => some .unknown
    | ("object", none) => some (.object [])
    | ("object", some part) => (fields? (declaration? (ofTree? fuel true)) part).map .object
    | ("array", none) => some (.array .unknown)
    | ("array", some part) => (ofTree? fuel true part).map .array
    | _ => none

/-- Reads a type that stands by itself. -/
def ofSyntax? (tree : Syntax) : Option FieldType :=
  if tree.isGathered Syntax.maxDepth then ofTree? (tree.depth + 1) false tree else none

end FieldType

def FieldType.parse? (text : String) : Option FieldType :=
  (Syntax.parse? text).bind FieldType.ofSyntax?

namespace Index

def kind? (tree : Syntax) : Option IndexKind := do
  let name ← tree.name?
  if name = "plain" then some .plain
  else if name = "lowercase" then some .lowercase
  else none

/-- Reads an index, which is plain unless its kind is given. -/
def ofSyntax? : Syntax → Option Index
  | .object members => do
    let members ← Syntax.keyed? members
    let field ← Syntax.required? "field" Syntax.text? members
    let kind ← Syntax.optional? "kind" .plain kind? members
    some ⟨field, kind⟩
  | .array [field] => do some ⟨← field.text?, .plain⟩
  | .array [field, kind] => do some ⟨← field.text?, ← kind? kind⟩
  | _ => none

def listOfSyntax? : Syntax → Option (List Index)
  | .array items => items.mapM ofSyntax?
  | _ => none

end Index

namespace Schema

/-- Reads a declaration at its depth inside a schema. -/
def declaration? (tree : Syntax) : Option FieldDef :=
  if tree.isGathered (Syntax.maxDepth - 2) then
    FieldType.declaration? (FieldType.ofTree? (tree.depth + 1) true) tree
  else none

def ofSyntax? : Syntax → Option Schema
  | .object members => do
    let members ← Syntax.keyed? members
    let version ← Syntax.optional? "version" 0 Syntax.natural? members
    let fields ← Syntax.optional? "fields" [] (FieldType.fields? declaration?) members
    let indexes ← Syntax.optional? "indexes" [] Index.listOfSyntax? members
    some ⟨version, fields, indexes⟩
  | .array [] => some (.empty 0)
  | .array [version] => do some ⟨← version.natural?, [], []⟩
  | .array [version, fields] => do
    some ⟨← version.natural?, ← FieldType.fields? declaration? fields, []⟩
  | .array [version, fields, indexes] => do
    some ⟨← version.natural?, ← FieldType.fields? declaration? fields,
      ← Index.listOfSyntax? indexes⟩
  | _ => none

/-- The schema in a text, whether its structure is valid or not. -/
def parse? (text : String) : Option Schema := (Syntax.parse? text).bind ofSyntax?

/-- The schema in the text at a location, if its structure is valid. -/
def ofText (location text : String) : Except SchemaError Schema := do
  match parse? text with
  | none => .error (.notASchema location)
  | some schema =>
    schema.validate
    .ok schema

end Schema

end Pushdown
