import Pushdown.Schema.Basic
import Pushdown.Sql.Identifier
import Pushdown.Sql.Layout
import Pushdown.Unicode.Control

/-!
# Where a value is read in SQL

A location is a field path that has been resolved against a schema: the steps by which SQL reaches
the value, and the type that is declared for it. Paths begin at the document or at an item of a scan
over an array. The steps below an item are appended to the item's own path, so that an inner scan
reads the same document as the outer one.

Not every path can be addressed. A key with a quote, a backslash or a control character has no
written form, and a segment of digits below a value of unknown type could be a key or a position.
-/

namespace Pushdown

/-- A step of a JSON path. -/
inductive PathStep where
  | key (name : String)
  | position (digits : String)
deriving DecidableEq, Repr

namespace PathStep

/-- Whether a key has a written form. -/
def isAddressable (key : String) : Bool :=
  !key.isEmpty && key.toList.all fun c => c ≠ '"' && c ≠ '\\' && !isControl c

/-- The step to a member, if its key has a written form. -/
def key? (name : String) : Option PathStep := if isAddressable name then some (.key name) else none

/-- The text of a step. A key that is no plain identifier stands between double quotes. -/
def text : PathStep → String
  | .key name => if Sql.isIdentifier name then "." ++ name else ".\"" ++ name ++ "\""
  | .position digits => "[" ++ digits ++ "]"

/-- The step from a value of a declared type by a segment, and the type declared below. -/
def below? (parent : FieldType) (segment : String) : Option (PathStep × FieldType) :=
  match parent with
  | .object fields => do
    let step ← key? segment
    some (step, ((Fields.find? segment fields).map (·.type)).getD .unknown)
  | .array items =>
    if FieldPath.isIndex segment then some (.position segment, items)
    else (key? segment).map fun step => (step, .unknown)
  | .unknown =>
    if FieldPath.isIndex segment then none
    else (key? segment).map fun step => (step, .unknown)
  | _ => (key? segment).map fun step => (step, .unknown)

end PathStep

/-- The steps along segments from a value of a declared type, and the type declared at the end. -/
def stepsBelow? : FieldType → List String → Option (List PathStep × FieldType)
  | type, [] => some ([], type)
  | type, segment :: rest => do
    let (step, below) ← PathStep.below? type segment
    let (steps, last) ← stepsBelow? below rest
    some (step :: steps, last)

/-- Where paths begin. -/
inductive Scope where
  | document
  /-- An item of the scan with a number, and the type declared for items. -/
  | item (scan : Nat) (type : FieldType)

/-- The beginning of the steps of a location. -/
inductive Origin where
  | document
  | item (scan : Nat)
deriving DecidableEq, Repr

/-- A resolved field path. -/
structure Location where
  origin : Origin
  steps : List PathStep
  /-- The field whose own column holds the value. -/
  ownColumn : Option String
  declared : FieldType
  /-- The field is at the top and declared required. -/
  required : Bool
  /-- The dotted path that an index would be declared for. -/
  indexPath : Option String

def scanName (scan : Nat) : String := "j" ++ decimalText scan

namespace Location

/-- The type of a field that has a column of its own in a layout with such columns. -/
def fitsColumn : FieldType → Bool
  | .string => true
  | .number => true
  | _ => false

/-- Resolves the segments of a path, `none` when the path cannot be addressed. -/
def resolve? (schema : Schema) (layout : Layout) : Scope → List String → Option Location
  | .document, [] => none
  | .document, first :: rest => do
    let step ← PathStep.key? first
    let top := ((schema.fields.find? first).map (·.type)).getD .unknown
    let (steps, declared) ← stepsBelow? top rest
    some {
      origin := .document
      steps := step :: steps
      ownColumn :=
        if layout.hasFieldColumns && rest.isEmpty && fitsColumn declared then some first else none
      declared
      required := rest.isEmpty && schema.isRequired [first]
      indexPath := some (joinWith "." (first :: rest)) }
  | .item scan type, segments => do
    let (steps, declared) ← stepsBelow? type segments
    some {
      origin := .item scan
      steps
      ownColumn := none
      declared
      required := false
      indexPath := none }

/-- The item of a scan itself. -/
def item (scan : Nat) (type : FieldType) : Location where
  origin := .item scan
  steps := []
  ownColumn := none
  declared := type
  required := false
  indexPath := none

def stepsText (steps : List PathStep) : String := joinWith "" (steps.map PathStep.text)

/-- The path as an SQL expression: a literal at the document, and below an item the steps appended
to the path of the item. -/
def pathExpression (place : Location) : String :=
  match place.origin, place.steps with
  | .document, steps => Sql.literal ("$" ++ stepsText steps)
  | .item scan, [] => scanName scan ++ ".fullkey"
  | .item scan, steps => scanName scan ++ ".fullkey || " ++ Sql.literal (stepsText steps)

/-- A function of JSON applied to the document column and the path. -/
def call (function column : String) (place : Location) : String :=
  function ++ "(" ++ column ++ ", " ++ place.pathExpression ++ ")"

/-- The SQL expression for the value. -/
def value (column : String) (place : Location) : String :=
  match place.ownColumn with
  | some field => Sql.quoteIdentifier field
  | none =>
    match place.origin, place.steps with
    | .item scan, [] => scanName scan ++ ".value"
    | _, _ => place.call "json_extract" column

def typeName (column : String) (place : Location) : String :=
  match place.origin, place.steps with
  | .item scan, [] => scanName scan ++ ".type"
  | _, _ => place.call "json_type" column

/-- The SQL expression for the rows of a scan over the items of the value. -/
def rows (column : String) (place : Location) : String := place.call "json_each" column

def length (column : String) (place : Location) : String := place.call "json_array_length" column

end Location

end Pushdown
