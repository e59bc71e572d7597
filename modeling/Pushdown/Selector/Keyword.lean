import Pushdown.Selector.Basic

/-!
# Keywords of selectors

Keys that begin with a dollar sign are keywords; all other keys are field paths. The keywords of a
selector combine selectors, and the keywords below a field name operators. The letters that modify
a regular expression stand under a key of their own beside it.
-/

namespace Pushdown

/-- Whether a key is a keyword, known or not. -/
def isKeyword (key : String) : Bool := key.toList.head? == some '$'

/-- The keywords that combine selectors. -/
inductive Connective where
  | allOf
  | anyOf
  | noneOf
  | negation
deriving DecidableEq, Repr

namespace Connective

def key : Connective → String
  | .allOf => "$and"
  | .anyOf => "$or"
  | .noneOf => "$nor"
  | .negation => "$not"

def ofKey? (key : String) : Option Connective :=
  [Connective.allOf, .anyOf, .noneOf, .negation].find? (·.key == key)

end Connective

/-- The keywords of operators. -/
inductive OperatorKey where
  | equals
  | differs
  | compares (comparison : Comparison)
  | isIn
  | notIn
  | present
  | hasKind
  | hasSize
  | modulo
  | regex
  | element
  | negation
deriving DecidableEq, Repr

namespace OperatorKey

def key : OperatorKey → String
  | .equals => "$eq"
  | .differs => "$ne"
  | .compares .gt => "$gt"
  | .compares .gte => "$gte"
  | .compares .lt => "$lt"
  | .compares .lte => "$lte"
  | .isIn => "$in"
  | .notIn => "$nin"
  | .present => "$exists"
  | .hasKind => "$type"
  | .hasSize => "$size"
  | .modulo => "$mod"
  | .regex => "$regex"
  | .element => "$elemMatch"
  | .negation => "$not"

def all : List OperatorKey :=
  [.equals, .differs, .compares .gt, .compares .gte, .compares .lt, .compares .lte, .isIn, .notIn,
    .present, .hasKind, .hasSize, .modulo, .regex, .element, .negation]

def ofKey? (key : String) : Option OperatorKey := all.find? (·.key == key)

end OperatorKey

/-- The key of the options of a regular expression. -/
def optionsKey : String := "$options"

end Pushdown
