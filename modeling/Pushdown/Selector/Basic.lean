import Pushdown.Document.Path
import Pushdown.Document.Kind
import Pushdown.Regex.Basic

/-!
# Selectors

A selector says which documents are wanted. It combines conditions on fields, and a condition is a
list of operators that must all hold for the value found at the path of the field. Whatever was
malformed in the JSON of a selector has become a constant or the operator `never`, so that every
reader of a selector sees well-formed operators only.
-/

namespace Pushdown

/-- The ordered comparisons. -/
inductive Comparison where
  | gt
  | gte
  | lt
  | lte
deriving DecidableEq, Repr

namespace Comparison

def sign : Comparison → String
  | .gt => ">"
  | .gte => ">="
  | .lt => "<"
  | .lte => "<="

/-- Whether the comparison holds of a value that stands in the given order to the bound. -/
def holds : Comparison → Ordering → Bool
  | .gt, o => o == .gt
  | .gte, o => o != .lt
  | .lt, o => o == .lt
  | .lte, o => o != .gt

end Comparison

mutual

/-- A condition on documents. -/
inductive Selector where
  | const (value : Bool)
  | allOf (children : List Selector)
  | anyOf (children : List Selector)
  | noneOf (children : List Selector)
  | field (path : FieldPath) (operators : List Operator)

/-- A condition on the value of a field. -/
inductive Operator where
  | equals (value : Json)
  | differs (value : Json)
  | compares (comparison : Comparison) (bound : Json)
  | isIn (values : List Json)
  | notIn (values : List Json)
  | present (expected : Bool)
  | hasKind (kinds : List Kind)
  | hasSize (size : Number)
  | modulo (divisor remainder : Int)
  | regex (expression : RegularExpression)
  /-- Some item of an array satisfies all operators. -/
  | element (operators : List Operator)
  /-- Some item of an array, taken as a document, is selected. -/
  | elementSelected (selector : Selector)
  /-- Criteria for items that are neither; no value satisfies them. -/
  | elementOther (criteria : Json)
  | negation (operators : List Operator)
  /-- Holds of no value. -/
  | never

end

instance : Inhabited Selector := ⟨.const true⟩

def Operator.isNever : Operator → Bool
  | .never => true
  | _ => false

namespace Selector

/-- The parts of a conjunction; any other selector is its only part, and the constant true has
none. -/
def parts : Selector → List Selector
  | .allOf children => children
  | .const true => []
  | other => [other]

/-- The conjunction of selectors, in which conjunctions are merged and constants true are left
out. A conjunction of one selector is that selector. -/
def conjoin (children : List Selector) : Selector :=
  match children.flatMap parts with
  | [] => .const true
  | [only] => only
  | flat => .allOf flat

end Selector

/-! ## Sameness

Two selectors are the same when they have the same shape and operands. JSON operands are compared
in kind and value, and regular expressions by pattern and meaningful options. -/

mutual

def Selector.same : Selector → Selector → Bool
  | .const a, .const b => a == b
  | .allOf as, .allOf bs => Selector.sameAll as bs
  | .anyOf as, .anyOf bs => Selector.sameAll as bs
  | .noneOf as, .noneOf bs => Selector.sameAll as bs
  | .field p as, .field q bs => p == q && Operator.sameAll as bs
  | _, _ => false
termination_by structural s => s

def Selector.sameAll : List Selector → List Selector → Bool
  | [], [] => true
  | a :: as, b :: bs => Selector.same a b && Selector.sameAll as bs
  | _, _ => false
termination_by structural s => s

def Operator.same : Operator → Operator → Bool
  | .equals a, .equals b => a.same b
  | .differs a, .differs b => a.same b
  | .compares c a, .compares d b => c == d && a.same b
  | .isIn as, .isIn bs => Json.sameItems as bs
  | .notIn as, .notIn bs => Json.sameItems as bs
  | .present a, .present b => a == b
  | .hasKind as, .hasKind bs => as == bs
  | .hasSize a, .hasSize b => a.same b
  | .modulo d r, .modulo e s => d == e && r == s
  | .regex a, .regex b => a.same b
  | .element as, .element bs => Operator.sameAll as bs
  | .elementSelected a, .elementSelected b => Selector.same a b
  | .elementOther a, .elementOther b => a.same b
  | .negation as, .negation bs => Operator.sameAll as bs
  | .never, .never => true
  | _, _ => false
termination_by structural s => s

def Operator.sameAll : List Operator → List Operator → Bool
  | [], [] => true
  | a :: as, b :: bs => Operator.same a b && Operator.sameAll as bs
  | _, _ => false
termination_by structural s => s

end

end Pushdown
