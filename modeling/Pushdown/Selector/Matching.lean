import Pushdown.Selector.Basic
import Pushdown.Document.Order

/-!
# Which documents a selector accepts

An operator holds for a field when it holds for one of its candidates: the value itself and, when
the value is an array, each of its items. Presence, size and the criteria for items look at the
value only. A field that is missing has no candidates, but it counts as null for equality.
-/

namespace Pushdown

/-- Whether a condition holds of the value or of one of its items. -/
def anyCandidate (value : Option Json) (condition : Json → Bool) : Bool :=
  match value with
  | none => false
  | some (.array items) => condition (.array items) || items.any condition
  | some value => condition value

/-- Equality with an operand. Null also equals a missing value and an array that holds null. -/
def equalsOperand (value : Option Json) (operand : Json) : Bool :=
  match operand with
  | .null =>
    match value with
    | none | some .null => true
    | some (.array items) => items.any Json.isNull
    | some _ => false
  | operand => anyCandidate value fun candidate => candidate.equal operand

def equalsAny (value : Option Json) (operands : List Json) : Bool :=
  operands.any (equalsOperand value)

/-- An ordered comparison with a bound of the same class. -/
def comparesTo (comparison : Comparison) (bound candidate : Json) : Bool :=
  match candidate.compare? bound with
  | some order => comparison.holds order
  | none => false

/-- Whether an array has a number of items. The count is rounded to meet a size that is no natural
number. -/
def hasLength (value : Option Json) (size : Number) : Bool :=
  match value with
  | some (.array items) =>
    match size.unsigned? with
    | some n => items.length == n
    | none =>
      match Binary64.ofInt? items.length with
      | some count => count.compare size.toReal == .eq
      | none => false
  | _ => false

/-- The remainder of a real, with every step rounded; `none` when a step leaves the finite
range. -/
def realRemainder? (value : Binary64) (divisor : Int) : Option Binary64 := do
  let divisor ← Binary64.ofInt? divisor
  let quotient ← value.div? divisor
  let whole ← Binary64.ofInt? quotient.truncate
  let multiple ← whole.mul? divisor
  value.sub? multiple

/-- Whether a number leaves a remainder, which has the sign of the number. The least signed integer
is not divided by minus one. -/
def leavesRemainder (divisor remainder : Int) : Json → Bool
  | .number n =>
    match n.signed? with
    | some i => !(i == leastSigned && divisor == -1) && i.tmod divisor == remainder
    | none =>
      match realRemainder? n.toReal divisor, Binary64.ofInt? remainder with
      | some found, some expected => found.compare expected == .eq
      | _, _ => false
  | _ => false

def matchesRegex (expression : RegularExpression) : Json → Bool
  | .string text => expression.matchesIn text
  | _ => false

mutual

/-- Whether a document is selected. -/
def Selector.accepts : Selector → Json → Bool
  | .const value, _ => value
  | .allOf children, document => Selector.acceptAll children document
  | .anyOf children, document => Selector.acceptAny children document
  | .noneOf children, document => !Selector.acceptAny children document
  | .field path operators, document =>
    Operator.holdAll operators (document.lookup? path.segments)

def Selector.acceptAll : List Selector → Json → Bool
  | [], _ => true
  | child :: rest, document => Selector.accepts child document && Selector.acceptAll rest document

def Selector.acceptAny : List Selector → Json → Bool
  | [], _ => false
  | child :: rest, document => Selector.accepts child document || Selector.acceptAny rest document

/-- Whether an operator holds for a value, which is `none` when the field is missing. -/
def Operator.holds : Operator → Option Json → Bool
  | .equals operand, value => equalsOperand value operand
  | .differs operand, value => !equalsOperand value operand
  | .compares comparison bound, value => anyCandidate value (comparesTo comparison bound)
  | .isIn operands, value => equalsAny value operands
  | .notIn operands, value => !equalsAny value operands
  | .present expected, value => value.isSome == expected
  | .hasKind kinds, value =>
    anyCandidate value fun candidate => kinds.contains (Kind.ofJson candidate)
  | .hasSize size, value => hasLength value size
  | .modulo divisor remainder, value => anyCandidate value (leavesRemainder divisor remainder)
  | .regex expression, value => anyCandidate value (matchesRegex expression)
  | .element operators, value =>
    match value with
    | some (.array items) => items.any fun item => Operator.holdAll operators (some item)
    | _ => false
  | .elementSelected selector, value =>
    match value with
    | some (.array items) => items.any fun item => Selector.accepts selector item
    | _ => false
  | .elementOther _, _ => false
  | .negation operators, value => !Operator.holdAll operators value
  | .never, _ => false

def Operator.holdAll : List Operator → Option Json → Bool
  | [], _ => true
  | operator :: rest, value => Operator.holds operator value && Operator.holdAll rest value

end

end Pushdown
