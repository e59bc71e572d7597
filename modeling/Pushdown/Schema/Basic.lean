import Pushdown.Document.Path

/-!
# Schemas

A schema declares the types of the fields of a collection and the indexes of its store. Whatever it
does not declare may be present with any value. A schema never changes under one version: a changed
schema has a new version, and everything derived from a schema is kept under its version.
-/

namespace Pushdown

/-- A declared type, and whether a value must be present. -/
structure Declaration (τ : Type) where
  type : τ
  required : Bool

/-- The type of a field. Fields of objects are kept in ascending order of their names. -/
inductive FieldType where
  | string
  | number
  | boolean
  | null
  | unknown
  | object (fields : List (String × Declaration FieldType))
  | array (items : FieldType)
deriving Inhabited

abbrev FieldDef := Declaration FieldType

def FieldType.required (type : FieldType) : FieldDef := ⟨type, true⟩

def FieldType.optional (type : FieldType) : FieldDef := ⟨type, false⟩

/-- Named field declarations, in ascending order of their names. -/
abbrev Fields := List (String × FieldDef)

namespace Fields

def find? (name : String) : Fields → Option FieldDef
  | [] => none
  | (key, declaration) :: rest => if key = name then some declaration else find? name rest

/-- Puts a declaration into its place in ascending order, replacing one of the same name. -/
def insert (name : String) (declaration : FieldDef) : Fields → Fields
  | [] => [(name, declaration)]
  | (key, old) :: rest =>
    if name < key then (name, declaration) :: (key, old) :: rest
    else if name = key then (name, declaration) :: rest
    else (key, old) :: insert name declaration rest

/-- The given declarations in order; of declarations of one name the last counts. -/
def ofList (declarations : List (String × FieldDef)) : Fields :=
  declarations.foldl (fun fields (name, declaration) => insert name declaration fields) []

end Fields

namespace FieldType

def name : FieldType → String
  | .string => "string"
  | .number => "number"
  | .boolean => "boolean"
  | .null => "null"
  | .unknown => "unknown"
  | .object _ => "object"
  | .array _ => "array"

def isArray : FieldType → Bool
  | .array _ => true
  | _ => false

def items? : FieldType → Option FieldType
  | .array items => some items
  | _ => none

/-- The type admits null among the items of an array. -/
def admitsNullItems : FieldType → Bool
  | .null => true
  | .unknown => true
  | _ => false

mutual

/-- Whether a value conforms to a type. Null conforms to every type, but is an item of an array only
where the items are declared null or unknown. -/
def accepts : FieldType → Json → Bool
  | _, .null => true
  | .unknown, _ => true
  | .string, .string _ => true
  | .number, .number _ => true
  | .boolean, .bool _ => true
  | .object fields, .object members => acceptsMembers fields members
  | .array items, .array values =>
    values.all fun value => (!value.isNull || items.admitsNullItems) && accepts items value
  | _, _ => false

/-- Whether the members of an object conform to field declarations: each declared field that is
present has its type, and each required one is present. -/
def acceptsMembers : List (String × Declaration FieldType) → List (String × Json) → Bool
  | [], _ => true
  | (name, ⟨type, required⟩) :: rest, members =>
    (match Json.member? name members with
      | some value => accepts type value
      | none => !required) && acceptsMembers rest members

end

mutual

def same : FieldType → FieldType → Bool
  | .string, .string => true
  | .number, .number => true
  | .boolean, .boolean => true
  | .null, .null => true
  | .unknown, .unknown => true
  | .object as, .object bs => sameFields as bs
  | .array a, .array b => same a b
  | _, _ => false

def sameFields :
    List (String × Declaration FieldType) → List (String × Declaration FieldType) → Bool
  | [], [] => true
  | (k, ⟨a, r⟩) :: as, (l, ⟨b, s⟩) :: bs => k == l && r == s && same a b && sameFields as bs
  | _, _ => false

end

end FieldType

/-- The kinds of index. A lower-case index holds the values in lower case. -/
inductive IndexKind where
  | plain
  | lowercase
deriving DecidableEq, Repr

/-- An index over the values at a dotted path. -/
structure Index where
  field : String
  kind : IndexKind
deriving DecidableEq, Repr

/-- The schema of a collection. -/
structure Schema where
  version : Nat
  fields : Fields
  indexes : List Index
deriving Inhabited

namespace Schema

def empty (version : Nat) : Schema := ⟨version, [], []⟩

/-- The schema with a field declared, in place of an earlier declaration of its name. -/
def withField (schema : Schema) (name : String) (declaration : FieldDef) : Schema :=
  { schema with fields := schema.fields.insert name declaration }

def withIndex (schema : Schema) (index : Index) : Schema :=
  { schema with indexes := schema.indexes ++ [index] }

/-- The same schema under the next version. -/
def migrated (schema : Schema) : Schema := { schema with version := schema.version + 1 }

/-- The same version, fields and indexes. -/
def same (a b : Schema) : Bool :=
  a.version == b.version && FieldType.sameFields a.fields b.fields && a.indexes == b.indexes

/-- The declared type below a type. Object types are entered by a field name and array types by a
position. -/
def typeBelow? : List String → FieldType → Option FieldType
  | [], type => some type
  | segment :: rest, .object fields =>
    (Fields.find? segment fields).bind fun declaration => typeBelow? rest declaration.type
  | segment :: rest, .array items =>
    if FieldPath.isIndex segment then typeBelow? rest items else none
  | _ :: _, _ => none

def typeAt? (schema : Schema) : List String → Option FieldType
  | [] => none
  | segment :: rest =>
    (schema.fields.find? segment).bind fun declaration => typeBelow? rest declaration.type

/-- Whether a path is a single field that is declared required. -/
def isRequired (schema : Schema) : List String → Bool
  | [name] => (schema.fields.find? name).any (·.required)
  | _ => false

def hasIndex (schema : Schema) (field : String) (kind : IndexKind) : Bool :=
  schema.indexes.any fun index => index.kind == kind && index.field == field

/-- Whether a document is an object that conforms to the declarations. -/
def conforms (schema : Schema) : Json → Bool
  | .object members => FieldType.acceptsMembers schema.fields members
  | _ => false

end Schema

end Pushdown
