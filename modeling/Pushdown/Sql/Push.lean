import Pushdown.Cache.Pattern
import Pushdown.Metrics
import Pushdown.Sql.Test

/-!
# Pushing selectors down to SQL

A selector is pushed down as a condition over stored values, or declined where SQL could not say
the same. An operator holds for the value of a field or, when that is an array, for one of its
items. What is pushed depends on the declared type:

* for an array, a scan over the items;
* for any other declared type, a test of the value alone;
* for an unknown type, both, the scan guarded by a test that the value is an array.

Values are compared within their class only. The test for the class is left out where the declared
type already says it. Truth values are compared by their type names, because the store reads them as
numbers.

Scans are numbered as they are met, also in parts that are declined later.
-/

namespace Pushdown

/-- What pushing a selector changes: the number of scans so far, and the pattern cache and the
counters it uses, if any. -/
structure PushState where
  scans : Nat := 0
  patterns : Option PatternCache := none
  metrics : Option Metrics := none
deriving Inhabited

/-- A step of pushing. It can decline, and keeps its changes also then. -/
abbrev Push (α : Type) := OptionT (StateM PushState) α

namespace Push

def decline {α : Type} : Push α := OptionT.fail

def newScan : Push Nat :=
  OptionT.lift (modifyGet fun state => (state.scans + 1, { state with scans := state.scans + 1 }))

end Push

/-! ## Tests of one value -/

/-- The value is a text, unless that is declared. -/
def textGuard (place : Location) : Condition Test :=
  match place.declared with
  | .string => .const true
  | _ => .leaf (.hasType place [.text])

/-- The value is a number, unless that is declared. -/
def numberGuard (place : Location) : Condition Test :=
  match place.declared with
  | .number => .const true
  | _ => .leaf (.hasType place [.integer, .real])

def isArray (place : Location) : Condition Test := .leaf (.hasType place [.array])

/-- The value equals a text, a number or a truth value. -/
def equalsScalar (operand : Json) (place : Location) : Condition Test :=
  match operand with
  | .string text => .all [textGuard place, .leaf (.equals place (.text text))]
  | .number n => .all [numberGuard place, .leaf (.equals place (.ofNumber n))]
  | .bool true => .leaf (.hasType place [.trueValue])
  | .bool false => .leaf (.hasType place [.falseValue])
  | _ => .const false

/-- The value is null among the items of an array. -/
def isNullItem (place : Location) : Condition Test := .leaf (.hasType place [.null])

/-- The value stands in an order to a bound, after a test for its class. -/
def comparesTest (guard : Location → Condition Test) (comparison : Comparison) (bound : Argument)
    (place : Location) : Condition Test :=
  .all [guard place, .leaf (.compares place comparison bound)]

/-- The values of a list by class, each class in the order of the list. -/
structure ClassifiedValues where
  strings : List Json
  numbers : List Json
  /-- The type names of the truth values, each once: that of false before that of true. -/
  booleans : List TypeName
  hasNull : Bool

/-- A value that is an array or an object. -/
def isContainer : Json → Bool
  | .array _ => true
  | .object _ => true
  | _ => false

def isString : Json → Bool
  | .string _ => true
  | _ => false

def isNumber : Json → Bool
  | .number _ => true
  | _ => false

def isBoolean (expected : Bool) : Json → Bool
  | .bool value => value == expected
  | _ => false

/-- The values of a list by class, unless an array or an object is among them. -/
def ClassifiedValues.ofList? (values : List Json) : Option ClassifiedValues :=
  if values.any isContainer then none
  else some {
    strings := values.filter isString
    numbers := values.filter isNumber
    booleans :=
      (if values.any (isBoolean false) then [.falseValue] else []) ++
        (if values.any (isBoolean true) then [.trueValue] else [])
    hasNull := values.any Json.isNull }

def memberTest (values : ClassifiedValues) (place : Location) : Condition Test :=
  .any (
    (if values.strings.isEmpty then []
      else [.all [textGuard place, .leaf (.memberOf place values.strings)]]) ++
    (if values.numbers.isEmpty then []
      else [.all [numberGuard place, .leaf (.memberOf place values.numbers)]]) ++
    (if values.booleans.isEmpty then [] else [.leaf (.hasType place values.booleans)]))

def remainderTest (divisor remainder : Int) (place : Location) : Condition Test :=
  .all [numberGuard place, .leaf (.leavesRemainder place divisor remainder)]

/-- The test and operand for a text pattern. Case is ignored by folding the stored text, and the
operand is folded here when an index holds the folded texts. -/
def textTest (pattern : TextPattern) (ignoreCase lowerIndex : Bool) : TextTest × String :=
  match pattern, ignoreCase, lowerIndex with
  | .exact text, false, _ => (.equal, text)
  | .exact text, true, true => (.lowerEqual, TextPattern.lowered text)
  | .exact text, true, false => (.equalIgnoringCase, text)
  | pattern, false, _ => (.like, pattern.like?.getD "")
  | pattern, true, true => (.lowerLike, TextPattern.lowered (pattern.like?.getD ""))
  | pattern, true, false => (.lowerLikeLower, pattern.like?.getD "")

def patternTest (schema : Schema) (pattern : TextPattern) (ignoreCase : Bool) (place : Location) :
    Condition Test :=
  let lowerIndex := place.indexPath.any fun path => schema.hasIndex path .lowercase
  let (test, operand) := textTest pattern ignoreCase lowerIndex
  .all [textGuard place, .leaf (.text place test operand)]

/-- The value is present or not; a required field always is. -/
def presentTest (place : Location) (expected : Bool) : Condition Test :=
  if place.required then .const expected else .leaf (.present place expected)

/-- The value is an array with a number of items, which no other declared type can be. -/
def lengthTest (place : Location) (size : Number) : Condition Test :=
  match place.declared with
  | .array _ | .unknown => .all [isArray place, .leaf (.hasLength place (.ofNumber size))]
  | _ => .const false

/-! ## Tests of values and their items -/

def someItem (place : Location) (test : Location → Condition Test) :
    Push (Condition Test) := do
  match place.declared with
  | .array items =>
    let number ← Push.newScan
    return .scan place number (test (.item number items))
  | .unknown =>
    let number ← Push.newScan
    return .all [isArray place, .scan place number (test (.item number .unknown))]
  | _ => return .const false

/-- The value or some item satisfies a test. A declared array is not tested itself. -/
def valueOrItem (place : Location) (test : Location → Condition Test) :
    Push (Condition Test) := do
  let direct := if place.declared.isArray then .const false else test place
  return .any [direct, ← someItem place test]

/-- The value is missing or null, or some item is null. -/
def pushNull (place : Location) : Push (Condition Test) := do
  return .any [.leaf (.isNull place), ← someItem place isNullItem]

/-- Equality with an operand. Arrays and objects are left to the matcher. -/
def pushEquals (place : Location) (operand : Json) : Push (Condition Test) :=
  match operand with
  | .null => pushNull place
  | .array _ => .decline
  | .object _ => .decline
  | operand => valueOrItem place (equalsScalar operand)

/-- Comparison with a bound, which must be a text or a number. -/
def pushCompares (place : Location) (comparison : Comparison) (bound : Json) :
    Push (Condition Test) :=
  match bound with
  | .string text => valueOrItem place (comparesTest textGuard comparison (.text text))
  | .number n => valueOrItem place (comparesTest numberGuard comparison (.ofNumber n))
  | _ => .decline

/-- Membership in a list. Each class of values is bound as one argument, so that the SQL text does
not depend on the length of the list. -/
def pushMember (place : Location) (values : List Json) : Push (Condition Test) := do
  match ClassifiedValues.ofList? values with
  | none => Push.decline
  | some classes =>
    let nulls ← if classes.hasNull then do pure [← pushNull place] else pure []
    let others ←
      if classes.strings.isEmpty && classes.numbers.isEmpty && classes.booleans.isEmpty then
        pure []
      else do pure [← valueOrItem place (memberTest classes)]
    return .any (nulls ++ others)

/-- The value or some item is of one of several kinds. -/
def pushKinds (place : Location) (kinds : List Kind) : Push (Condition Test) := do
  let names := kinds.flatMap Kind.typeNames
  let test (place : Location) : Condition Test := .leaf (.hasType place names)
  return .any [test place, ← someItem place test]

/-- The form of a regular expression, taken from the pattern cache if there is one. -/
def classifyRegex (schema : Schema) (place : Location) (expression : RegularExpression) :
    Push TextPattern :=
  OptionT.lift (modifyGet fun state =>
    match state.patterns with
    | none => (.ofRegex expression, state)
    | some cache =>
      let field := place.indexPath.getD ""
      let (pattern, hit, cache) := PatternCache.classify field expression schema.version cache
      (pattern,
        { state with patterns := some cache, metrics := state.metrics.map (·.countPattern hit) }))

/-- A match with a regular expression, unless it is irreducible. -/
def pushRegex (schema : Schema) (place : Location) (expression : RegularExpression) :
    Push (Condition Test) := do
  let pattern ← classifyRegex schema place expression
  if pattern = .irreducible then Push.decline
  else valueOrItem place (patternTest schema pattern expression.caseInsensitive)

/-- The declared type of the items of a value that may be an array. -/
def itemType? : FieldType → Option FieldType
  | .array items => some items
  | .unknown => some .unknown
  | _ => none

/-! ## Selectors -/

mutual

/-- The condition of a selector on values in a scope. -/
def Selector.push (schema : Schema) (layout : Layout) (scope : Scope) :
    Selector → Push (Condition Test)
  | .const value => return .const value
  | .allOf children => return .all (← Selector.pushAll schema layout scope children)
  | .anyOf children => return .any (← Selector.pushAll schema layout scope children)
  | .noneOf children =>
    return .negate (.any (← Selector.pushAll schema layout scope children))
  | .field path operators => do
    match Location.resolve? schema layout scope path.segments with
    | none => Push.decline
    | some place => return .all (← Operator.pushAll schema layout place operators)

/-- The conditions of selectors in order; one that declines declines them all. -/
def Selector.pushAll (schema : Schema) (layout : Layout) (scope : Scope) :
    List Selector → Push (List (Condition Test))
  | [] => return []
  | child :: rest => do
    let first ← Selector.push schema layout scope child
    return first :: (← Selector.pushAll schema layout scope rest)

/-- The condition of an operator on the value at a place. -/
def Operator.push (schema : Schema) (layout : Layout) (place : Location) :
    Operator → Push (Condition Test)
  | .equals operand => pushEquals place operand
  | .differs operand => return .negate (← pushEquals place operand)
  | .compares comparison bound => pushCompares place comparison bound
  | .isIn values => pushMember place values
  | .notIn values => return .negate (← pushMember place values)
  | .present expected => return presentTest place expected
  | .hasKind kinds => pushKinds place kinds
  | .hasSize size => return lengthTest place size
  | .modulo divisor remainder => valueOrItem place (remainderTest divisor remainder)
  | .regex expression => pushRegex schema place expression
  | .element operators => do
    match itemType? place.declared with
    | none => return .const false
    | some items =>
      let number ← Push.newScan
      let body ← Operator.pushAll schema layout (.item number items) operators
      return .all [isArray place, .scan place number (.all body)]
  | .elementSelected selector => do
    match itemType? place.declared with
    | none => return .const false
    | some items =>
      let number ← Push.newScan
      let body ← Selector.push schema layout (.item number items) selector
      return .all [isArray place, .scan place number body]
  | .elementOther _ => do
    match itemType? place.declared with
    | none => return .const false
    | some _ =>
      let _ ← Push.newScan
      Push.decline
  | .negation operators =>
    return .negate (.all (← Operator.pushAll schema layout place operators))
  | .never => return .const false

def Operator.pushAll (schema : Schema) (layout : Layout) (place : Location) :
    List Operator → Push (List (Condition Test))
  | [] => return []
  | operator :: rest => do
    let first ← Operator.push schema layout place operator
    return first :: (← Operator.pushAll schema layout place rest)

end

/-! ## Outcomes -/

/-- What became of a selector that was to be pushed. -/
inductive PushOutcome where
  | sql (fragment : Fragment)
  | alwaysTrue
  | alwaysFalse
  /-- SQL cannot say it, so it is left to the matcher. -/
  | declined
deriving DecidableEq, Repr

namespace PushOutcome

def ofCondition (column : String) : Option (Condition Test) → PushOutcome
  | none => .declined
  | some condition =>
    match condition.const? with
    | some true => .alwaysTrue
    | some false => .alwaysFalse
    | none => .sql (condition.clauses column).fragment

def isDeclined : PushOutcome → Bool
  | .declined => true
  | _ => false

def ofSelector (schema : Schema) (layout : Layout) (selector : Selector) :
    StateM PushState PushOutcome := do
  let condition ← (selector.push schema layout .document).run
  return ofCondition layout.documentColumn condition

/-- Pushes one operator on the field at a dotted path. -/
def ofOperator (schema : Schema) (layout : Layout) (path : String) (operator : Operator) :
    StateM PushState PushOutcome := do
  match Location.resolve? schema layout .document (FieldPath.ofDotted path).segments with
  | none => return .declined
  | some place =>
    let condition ← (operator.push schema layout place).run
    return ofCondition layout.documentColumn condition

end PushOutcome

end Pushdown
