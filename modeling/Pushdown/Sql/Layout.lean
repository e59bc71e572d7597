/-!
# Layouts of the store

Every document is kept as JSON in one column. A store may also keep the declared top-level strings
and numbers in columns of their own, named like the fields.
-/

namespace Pushdown

/-- How a store keeps documents. -/
inductive Layout where
  | jsonColumn (column : String)
  | columns (documentColumn : String)
deriving DecidableEq, Repr

namespace Layout

def standard : Layout := .jsonColumn "data"

instance : Inhabited Layout := ⟨standard⟩

def documentColumn : Layout → String
  | .jsonColumn column => column
  | .columns column => column

/-- Whether declared strings and numbers have columns of their own. -/
def hasFieldColumns : Layout → Bool
  | .jsonColumn _ => false
  | .columns _ => true

end Layout

end Pushdown
