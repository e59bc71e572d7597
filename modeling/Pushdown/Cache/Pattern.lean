import Pushdown.Cache.Lru
import Pushdown.Sql.TextPattern

/-!
# Classified patterns

The form of a regular expression is kept under the field it is used for, the pattern, its meaningful
options and the version of the schema.
-/

namespace Pushdown

/-- What the form of a pattern is kept under. -/
structure PatternKey where
  field : String
  pattern : String
  flags : String
  version : Nat
deriving DecidableEq, Repr

abbrev PatternCache := Lru PatternKey TextPattern

namespace PatternCache

/-- The number of patterns kept unless a configuration says otherwise. -/
def standardCapacity : Nat := 500

def keyOf (field : String) (expression : RegularExpression) (version : Nat) : PatternKey :=
  ⟨field, expression.pattern, expression.flags, version⟩

/-- The form of a regular expression, whether it was kept, and the cache after its use. -/
def classify (field : String) (expression : RegularExpression) (version : Nat)
    (cache : PatternCache) : TextPattern × Bool × PatternCache :=
  cache.getOrInsert (keyOf field expression version) (.ofRegex expression)

end PatternCache

end Pushdown
