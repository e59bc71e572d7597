import Pushdown.Cache.Lru
import Pushdown.Number.Numeral
import Pushdown.Sql.Layout

/-!
# Compiled queries that are kept

A compiled query depends on the schema, the layout and the selector. It is kept under the version of
the schema, the collection, the layout and the canonical text of the selector, so a query compiled
under one version is never taken for another, and compilers with different layouts can share a
cache.
-/

namespace Pushdown

/-- What a compiled query is kept under. -/
structure QueryKey where
  version : Nat
  collection : String
  layout : Layout := .standard
  /-- The canonical text of the selector. -/
  selector : String
deriving DecidableEq, Repr

abbrev QueryCache (ν : Type) := Lru QueryKey ν

namespace QueryCache

/-- The number of queries kept unless a configuration says otherwise. -/
def standardCapacity : Nat := 1000

def description {ν : Type} (cache : QueryCache ν) : String :=
  "QueryCache \x7b capacity: " ++ decimalText cache.capacity ++ ", len: " ++
    decimalText cache.size ++ " \x7d"

end QueryCache

end Pushdown
