import Pushdown.Document.Path

/-!
# Queries

A query asks for the documents of a collection that a selector accepts, in an order, without some
first ones and up to a number of them.
-/

namespace Pushdown

inductive Direction where
  | ascending
  | descending
deriving DecidableEq, Repr

namespace Direction

/-- The name of a direction in a query. -/
def name : Direction → String
  | .ascending => "asc"
  | .descending => "desc"

def sql : Direction → String
  | .ascending => "ASC"
  | .descending => "DESC"

/-- An order seen in a direction. -/
def apply : Direction → Ordering → Ordering
  | .ascending, order => order
  | .descending, order => order.swap

end Direction

/-- A key to sort by: the value at a dotted path. -/
structure SortSpec where
  field : String
  direction : Direction
deriving DecidableEq, Repr

def SortSpec.segments (spec : SortSpec) : List String := (FieldPath.ofDotted spec.field).segments

/-- A request for documents of a collection. -/
structure Query where
  collection : String
  selector : Json
  /-- Sort keys, the most significant first. -/
  sort : List SortSpec
  skip : Option Nat
  limit : Option Nat

def Query.isPaginated (query : Query) : Bool := query.skip.isSome || query.limit.isSome

end Pushdown
