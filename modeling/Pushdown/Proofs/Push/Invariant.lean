import Pushdown.Proofs.Push.Ensures

/-!
# What pushing keeps

Pushing changes its state in two ways only: it meets a new scan, or it takes the form of a regular
expression from the pattern cache and counts that. A property of states that both keep is kept by
everything that is pushed, also where a part is declined.
-/

namespace Pushdown

namespace Push

/-- A property of states that is kept when a scan is met and when the pattern cache is used. -/
structure Invariant (I : PushState → Prop) : Prop where
  scans : ∀ s n, I s → I { s with scans := n }
  patterns : ∀ s cache hit, I s →
    I { s with patterns := some cache, metrics := s.metrics.map (·.countPattern hit) }

variable {α β : Type}

/-- The step keeps a property of states, whether it returns or declines. -/
def Keeps (I : PushState → Prop) (step : Push α) : Prop := Ensures I step fun _ => True

namespace Keeps

variable {I : PushState → Prop} {step : Push α} {next : α → Push β}

theorem pure {a : α} : Keeps I (Pure.pure a) := Ensures.pure trivial

theorem decline : Keeps I (Push.decline : Push α) := Ensures.decline

theorem bind (first : Keeps I step) (second : ∀ a, Keeps I (next a)) : Keeps I (step >>= next) :=
  Ensures.bind first fun a _ => second a

/-- What is done with the result does not matter. -/
theorem map (h : Keeps I step) (f : α → β) : Keeps I (step >>= fun a => Pure.pure (f a)) :=
  h.bind fun _ => .pure

end Keeps

namespace Invariant

variable {I : PushState → Prop} (inv : Invariant I)

include inv

theorem newScan : Keeps I Push.newScan := Ensures.newScan inv.scans

theorem classifyRegex (schema : Schema) (place : Location) (expression : RegularExpression) :
    Keeps I (Pushdown.classifyRegex schema place expression) := by
  rintro ⟨scans, patterns, metrics⟩ hs
  refine ⟨?_, fun _ _ => trivial⟩
  cases patterns with
  | none => exact hs
  | some cache => exact inv.patterns _ _ _ hs

/-! ### Conditions on one field -/

theorem someItem (place : Location) (test : Location → Condition Test) :
    Keeps I (someItem place test) := by
  unfold Pushdown.someItem
  split
  · exact inv.newScan.map _
  · exact inv.newScan.map _
  · exact .pure

theorem valueOrItem (place : Location) (test : Location → Condition Test) :
    Keeps I (valueOrItem place test) :=
  (inv.someItem place test).map _

theorem pushNull (place : Location) : Keeps I (pushNull place) :=
  (inv.someItem place isNullItem).map _

theorem pushKinds (place : Location) (kinds : List Kind) : Keeps I (pushKinds place kinds) :=
  (inv.someItem place _).map _

theorem pushEquals (place : Location) (operand : Json) : Keeps I (pushEquals place operand) := by
  cases operand with
  | null => exact inv.pushNull place
  | array | object => exact .decline
  | bool | number | string => exact inv.valueOrItem place _

theorem pushCompares (place : Location) (comparison : Comparison) (bound : Json) :
    Keeps I (pushCompares place comparison bound) := by
  cases bound with
  | string | number => exact inv.valueOrItem place _
  | null | bool | array | object => exact .decline

theorem pushMember (place : Location) (values : List Json) :
    Keeps I (pushMember place values) := by
  unfold Pushdown.pushMember
  split
  · exact .decline
  · next classes _ =>
    -- Either part may be missing, so there are four sequences of steps.
    have others (nulls : List (Condition Test)) :
        Keeps I
          (if classes.strings.isEmpty && classes.numbers.isEmpty && classes.booleans.isEmpty then
            Pure.pure (Condition.any (nulls ++ []))
          else do
            let other ← Pushdown.valueOrItem place (memberTest classes)
            Pure.pure (Condition.any (nulls ++ [other]))) := by
      split
      · exact .pure
      · exact (inv.valueOrItem place _).map _
    simp only [pure_bind]
    split
    · exact (inv.pushNull place).bind fun null => others [null]
    · exact others []

theorem pushRegex (schema : Schema) (place : Location) (expression : RegularExpression) :
    Keeps I (pushRegex schema place expression) := by
  apply (inv.classifyRegex schema place expression).bind
  intro pattern
  split
  · exact .decline
  · exact inv.valueOrItem place _

end Invariant

end Push

/-! ## Selectors -/

variable {I : PushState → Prop} {schema : Schema} {layout : Layout}

mutual

/-- Whatever is pushed, an invariant is kept. -/
theorem Selector.push_keeps (inv : Push.Invariant I) (scope : Scope) : ∀ selector : Selector,
    Push.Keeps I (selector.push schema layout scope)
  | .const value => .pure
  | .allOf children => (Selector.pushAll_keeps inv scope children).map _
  | .anyOf children => (Selector.pushAll_keeps inv scope children).map _
  | .noneOf children => (Selector.pushAll_keeps inv scope children).map _
  | .field path operators => by
    rw [Selector.push]
    cases Location.resolve? schema layout scope path.segments with
    | none => exact .decline
    | some place => exact (Operator.pushAll_keeps inv place operators).map _

theorem Selector.pushAll_keeps (inv : Push.Invariant I) (scope : Scope) :
    ∀ selectors : List Selector,
    Push.Keeps I (Selector.pushAll schema layout scope selectors)
  | [] => .pure
  | child :: rest =>
    (Selector.push_keeps inv scope child).bind fun _ =>
      (Selector.pushAll_keeps inv scope rest).map _

theorem Operator.push_keeps (inv : Push.Invariant I) (place : Location) : ∀ operator : Operator,
    Push.Keeps I (operator.push schema layout place)
  | .equals operand => inv.pushEquals place operand
  | .differs operand => (inv.pushEquals place operand).map _
  | .compares comparison bound => inv.pushCompares place comparison bound
  | .isIn values => inv.pushMember place values
  | .notIn values => (inv.pushMember place values).map _
  | .present expected => .pure
  | .hasKind kinds => inv.pushKinds place kinds
  | .hasSize size => .pure
  | .modulo divisor remainder => inv.valueOrItem place _
  | .regex expression => inv.pushRegex schema place expression
  | .element operators => by
    rw [Operator.push]
    cases itemType? place.declared with
    | none => exact .pure
    | some items =>
        exact inv.newScan.bind fun number =>
          (Operator.pushAll_keeps inv (.item number items) operators).map _
  | .elementSelected selector => by
    rw [Operator.push]
    cases itemType? place.declared with
    | none => exact .pure
    | some items =>
        exact inv.newScan.bind fun number =>
          (Selector.push_keeps inv (.item number items) selector).map _
  | .elementOther criteria => by
    rw [Operator.push]
    cases itemType? place.declared with
    | none => exact .pure
    | some items => exact inv.newScan.bind fun _ => .decline
  | .negation operators => (Operator.pushAll_keeps inv place operators).map _
  | .never => .pure

theorem Operator.pushAll_keeps (inv : Push.Invariant I) (place : Location) :
    ∀ operators : List Operator,
    Push.Keeps I (Operator.pushAll schema layout place operators)
  | [] => .pure
  | operator :: rest =>
    (Operator.push_keeps inv place operator).bind fun _ =>
      (Operator.pushAll_keeps inv place rest).map _

end

end Pushdown
