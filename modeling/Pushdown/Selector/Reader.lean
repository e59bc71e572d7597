import Pushdown.Selector.Keyword
import Pushdown.Json.Printer

/-!
# Reading selectors

Every JSON value is read as a selector. What is malformed selects nothing: a selector that is no
object, a connective without a list, an unknown keyword, an operand that its operator cannot use.
So there is no error to report, and all readers of a selector agree on its malformed parts.

The members of an object are conditions that must all hold. A member under a field path is a list of
operators when its keys include a keyword, and otherwise the value that the field must equal.
-/

namespace Pushdown

/-- Whether the keys of an object include a keyword, so that it holds operators. -/
def isOperatorMap (members : List (String × Json)) : Bool :=
  members.any fun (key, _) => isKeyword key

/-- The option letters given beside the operators. -/
def optionsOf (members : List (String × Json)) : String :=
  ((Json.member? optionsKey members).bind Json.string?).getD ""

namespace Operator

/-- Whether an operand of `$exists` asks for a value. -/
def isTruthy : Json → Bool
  | .null => false
  | .bool b => b
  | .number n => !n.toReal.isZero
  | .string text => !text.isEmpty
  | .array _ => true
  | .object _ => true

/-- The operator for the kinds named by an operand, which is one entry or a list of entries. The
kinds are taken in their order and once each; entries that name none are passed over. -/
def ofKinds (operand : Json) : Operator :=
  let entries := operand.items?.getD [operand]
  let named := (entries.filterMap Kind.resolve?).flatten
  match Kind.all.filter named.contains with
  | [] => .never
  | kinds => .hasKind kinds

/-- A number cut to a whole number and brought into the signed 64-bit range. -/
def wholeOf (n : Number) : Int := n.toReal.toSigned

def ofModulo : Json → Operator
  | .array [.number divisor, .number remainder] =>
    if wholeOf divisor = 0 then .never else .modulo (wholeOf divisor) (wholeOf remainder)
  | _ => .never

def ofRegex (options : String) : Json → Operator
  | .string pattern =>
    match RegularExpression.ofPattern? pattern options with
    | some expression => .regex expression
    | none => .never
  | _ => .never

/-- Operators of which there is at least one. -/
def orNever : List Operator → List Operator
  | [] => [.never]
  | operators => operators

/-- The operator for an operand that holds neither a list nor further operators. -/
def ofScalarOperand (key : OperatorKey) (options : String) (operand : Json) : Operator :=
  match key with
  | .equals => .equals operand
  | .differs => .differs operand
  | .compares comparison => .compares comparison operand
  | .isIn => match operand with
    | .array values => .isIn values
    | _ => .never
  | .notIn => match operand with
    | .array values => .notIn values
    | _ => .never
  | .present => .present (isTruthy operand)
  | .hasKind => ofKinds operand
  | .hasSize => match operand with
    | .number size => .hasSize size
    | _ => .never
  | .modulo => ofModulo operand
  | .regex => ofRegex options operand
  | .element => .elementOther operand
  | .negation => .never

/-- Whether the criteria for the items of an array are operators: all keys are keywords, and none
of them combines selectors. -/
def isElementOperators (members : List (String × Json)) : Bool :=
  members.all (fun (key, _) => isKeyword key) &&
    !members.any (fun (key, _) => key == "$and" || key == "$or" || key == "$nor")

end Operator

mutual

def Selector.ofJson : Json → Selector
  | .object members => .conjoin (Selector.ofMembers members)
  | _ => .const false

def Selector.ofItems : List Json → List Selector
  | [] => []
  | item :: rest => Selector.ofJson item :: Selector.ofItems rest

def Selector.ofMembers : List (String × Json) → List Selector
  | [] => []
  | (key, operand) :: rest => Selector.ofMember key operand :: Selector.ofMembers rest

def Selector.ofMember (key : String) : Json → Selector
  | .array items =>
    if isKeyword key then
      match Connective.ofKey? key with
      | some .allOf => .conjoin (Selector.ofItems items)
      | some .anyOf => if items.isEmpty then .const false else .anyOf (Selector.ofItems items)
      | some .noneOf => if items.isEmpty then .const true else .noneOf (Selector.ofItems items)
      | _ => .const false
    else .field (.ofDotted key) [.equals (.array items)]
  | .object members =>
    if isKeyword key then
      match Connective.ofKey? key with
      | some .negation =>
        if members.isEmpty then .const false
        else .noneOf [.conjoin (Selector.ofMembers members)]
      | _ => .const false
    else if members.isEmpty then .field (.ofDotted key) [.never]
    else if isOperatorMap members then
      .field (.ofDotted key) (Operator.orNever (Operator.ofMembers (optionsOf members) members))
    else .field (.ofDotted key) [.equals (.object members)]
  | operand =>
    if isKeyword key then .const false else .field (.ofDotted key) [.equals operand]

/-- The operators of the members of an object, the options left out. -/
def Operator.ofMembers (options : String) : List (String × Json) → List Operator
  | [] => []
  | (key, operand) :: rest =>
    if key = optionsKey then Operator.ofMembers options rest
    else Operator.ofMember options key operand :: Operator.ofMembers options rest

def Operator.ofMember (options key : String) : Json → Operator
  | .object members =>
    match OperatorKey.ofKey? key with
    | some .element =>
      if members.isEmpty then .never
      else if Operator.isElementOperators members then
        .element (Operator.orNever (Operator.ofMembers (optionsOf members) members))
      else .elementSelected (.conjoin (Selector.ofMembers members))
    | some .negation =>
      if !members.isEmpty && members.all (fun (key, _) => isKeyword key) then
        .negation (Operator.orNever (Operator.ofMembers (optionsOf members) members))
      else .never
    | some key => .ofScalarOperand key options (.object members)
    | none => .never
  | operand =>
    match OperatorKey.ofKey? key with
    | some key => .ofScalarOperand key options operand
    | none => .never

end

/-- The operators given for a field: those of an operator map, or equality with a value. There is
always at least one. -/
def Operator.ofOperand : Json → List Operator
  | .object members =>
    if members.isEmpty then [.never]
    else if isOperatorMap members then
      Operator.orNever (Operator.ofMembers (optionsOf members) members)
    else [.equals (.object members)]
  | operand => [.equals operand]

/-- A text that stands for a selector in keys: its JSON without blanks and with sorted keys. -/
def Selector.canonicalText (selector : Json) : String := selector.compact

end Pushdown
