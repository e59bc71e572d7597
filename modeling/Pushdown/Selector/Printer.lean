import Pushdown.Selector.Keyword

/-!
# Selectors as JSON

The JSON of a selector, read again, selects the same documents. A constant is written as a
selector that has its effect, and the operator that never holds as membership in an empty list.
Operators that were read from one object are merged back into one.
-/

namespace Pushdown

/-- JSON that is read as an operator that never holds. -/
def Operator.neverJson : Json := .single OperatorKey.isIn.key (.array [])

/-- A regular expression with its options, if there are any. -/
def RegularExpression.toJson (expression : RegularExpression) : Json :=
  let pattern := (OperatorKey.regex.key, Json.string expression.pattern)
  if expression.options.isEmpty then .object [pattern]
  else .ofMembers [(optionsKey, .string expression.options), pattern]

def Json.members : Json → List (String × Json)
  | .object members => members
  | _ => []

mutual

def Operator.toJson : Operator → Json
  | .equals value => .single OperatorKey.equals.key value
  | .differs value => .single OperatorKey.differs.key value
  | .compares comparison bound => .single (OperatorKey.compares comparison).key bound
  | .isIn values => .single OperatorKey.isIn.key (.array values)
  | .notIn values => .single OperatorKey.notIn.key (.array values)
  | .present expected => .single OperatorKey.present.key (.bool expected)
  | .hasKind kinds =>
    .single OperatorKey.hasKind.key (.array (kinds.map fun kind => .string kind.name))
  | .hasSize size => .single OperatorKey.hasSize.key (.number size)
  | .modulo divisor remainder =>
    .single OperatorKey.modulo.key (.array [.ofInt divisor, .ofInt remainder])
  | .regex expression => expression.toJson
  | .element operators =>
    .single OperatorKey.element.key
      (if operators.any Operator.isNever then Operator.neverJson
        else .ofMembers (Operator.mergedMembers operators))
  | .elementSelected selector => .single OperatorKey.element.key (Selector.toJson selector)
  | .elementOther criteria => .single OperatorKey.element.key criteria
  | .negation operators =>
    .single OperatorKey.negation.key
      (if operators.any Operator.isNever then Operator.neverJson
        else .ofMembers (Operator.mergedMembers operators))
  | .never => Operator.neverJson

/-- The members of the JSON of several operators. -/
def Operator.mergedMembers : List Operator → List (String × Json)
  | [] => []
  | operator :: rest => (Operator.toJson operator).members ++ Operator.mergedMembers rest

/-- The JSON of each operator as a condition on a field. -/
def Operator.conditions (path : FieldPath) : List Operator → List Json
  | [] => []
  | operator :: rest =>
    .single path.dotted (Operator.toJson operator) :: Operator.conditions path rest

def Selector.toJson : Selector → Json
  | .const true => .object []
  | .const false => .single Connective.anyOf.key (.array [])
  | .allOf children => .single Connective.allOf.key (.array (Selector.toJsonAll children))
  | .anyOf children => .single Connective.anyOf.key (.array (Selector.toJsonAll children))
  | .noneOf children => .single Connective.noneOf.key (.array (Selector.toJsonAll children))
  | .field path operators =>
    match Operator.conditions path operators with
    | [condition] => condition
    | conditions => .single Connective.allOf.key (.array conditions)

def Selector.toJsonAll : List Selector → List Json
  | [] => []
  | child :: rest => Selector.toJson child :: Selector.toJsonAll rest

end

end Pushdown
