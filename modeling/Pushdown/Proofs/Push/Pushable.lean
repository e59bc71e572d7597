import Pushdown.Proofs.Push.Parallel

/-!
# What can be pushed

Whether a selector is declined does not depend on the scans that were met before it, nor on what a
faithful pattern cache holds, nor on the layout of the store. It is decided by the form of the
selector and the types that are declared where its paths lead: a part is declined when SQL could not
say it, and what holds a declined part is declined as a whole.
-/

namespace Pushdown

/-! ## Steps that decide -/

namespace Push

variable {α β : Type}

/-- From every faithful state the step returns or declines as foretold, and it leaves a faithful
state. -/
def Decides (step : Push α) (returns : Bool) : Prop :=
  ∀ s : PushState, s.Faithful → (step.run s).1.isSome = returns ∧ (step.run s).2.Faithful

namespace Decides

theorem pure {a : α} : Decides (Pure.pure a) true := fun _ faithful => ⟨rfl, faithful⟩

theorem decline : Decides (Push.decline : Push α) false := fun _ faithful => ⟨rfl, faithful⟩

theorem bind {step : Push α} {next : α → Push β} {returns after : Bool}
    (first : Decides step returns) (second : ∀ a, Decides (next a) after) :
    Decides (step >>= next) (returns && after) := by
  intro s faithful
  obtain ⟨decided, left⟩ := first s faithful
  rw [run_bind]
  cases result : (step.run s).1 with
  | none =>
      rw [result] at decided
      rw [← decided]
      exact ⟨rfl, left⟩
  | some a =>
      rw [result] at decided
      rw [← decided]
      exact second a _ left

/-- What is done with the result does not decide. -/
theorem map {step : Push α} {returns : Bool} (h : Decides step returns) (f : α → β) :
    Decides (step >>= fun a => Pure.pure (f a)) returns := by
  have mapped := h.bind fun a => Decides.pure (a := f a)
  rwa [Bool.and_true] at mapped

/-- After a step that always returns the next one decides. -/
theorem after {step : Push α} {next : α → Push β} {returns : Bool} (first : Decides step true)
    (second : ∀ a, Decides (next a) returns) : Decides (step >>= next) returns :=
  first.bind second

theorem newScan : Decides Push.newScan true := fun _ faithful => ⟨rfl, faithful⟩

end Decides

end Push

open Push (Decides)

/-! ## Conditions on one field -/

theorem someItem_decides (place : Location) (test : Location → Condition Test) :
    Decides (someItem place test) true := by
  unfold someItem
  split
  · exact Decides.newScan.map _
  · exact Decides.newScan.map _
  · exact .pure

theorem valueOrItem_decides (place : Location) (test : Location → Condition Test) :
    Decides (valueOrItem place test) true :=
  (someItem_decides place test).map _

theorem pushNull_decides (place : Location) : Decides (pushNull place) true :=
  (someItem_decides place isNullItem).map _

theorem pushKinds_decides (place : Location) (kinds : List Kind) :
    Decides (pushKinds place kinds) true :=
  (someItem_decides place _).map _

/-- Arrays and objects are left to the matcher. -/
theorem pushEquals_decides (place : Location) (operand : Json) :
    Decides (pushEquals place operand) (!isContainer operand) := by
  cases operand with
  | null => exact pushNull_decides place
  | array | object => exact .decline
  | bool | number | string => exact valueOrItem_decides place _

/-- Only texts and numbers bound a range. -/
theorem pushCompares_decides (place : Location) (comparison : Comparison) (bound : Json) :
    Decides (pushCompares place comparison bound) (isString bound || isNumber bound) := by
  cases bound with
  | string | number => exact valueOrItem_decides place _
  | null | bool | array | object => exact .decline

/-- A list is declined when an array or an object is in it. -/
theorem pushMember_decides (place : Location) (values : List Json) :
    Decides (pushMember place values) (!values.any isContainer) := by
  have classified : (ClassifiedValues.ofList? values).isSome = !values.any isContainer := by
    unfold ClassifiedValues.ofList?
    cases values.any isContainer <;> rfl
  rw [← classified, pushMember]
  cases ClassifiedValues.ofList? values with
  | none => exact .decline
  | some classes =>
      have others (nulls : List (Condition Test)) :
          Decides
            (if classes.strings.isEmpty && classes.numbers.isEmpty && classes.booleans.isEmpty then
              pure (Condition.any (nulls ++ []))
            else do
              let other ← valueOrItem place (memberTest classes)
              pure (Condition.any (nulls ++ [other]))) true := by
        split
        · exact .pure
        · exact (valueOrItem_decides place _).map _
      simp only [pure_bind]
      split
      · exact (pushNull_decides place).after fun null => others [null]
      · exact others []

/-- A regular expression without a form in SQL is declined. -/
theorem pushRegex_decides (schema : Schema) (place : Location) (expression : RegularExpression) :
    Decides (pushRegex schema place expression)
      (TextPattern.ofRegex expression != .irreducible) := by
  intro s faithful
  obtain ⟨form, left, -⟩ := Push.run_classifyRegex schema place expression faithful
  unfold pushRegex
  rw [Push.run_bind, form, Option.elim_some]
  by_cases irreducible : TextPattern.ofRegex expression = .irreducible
  · rw [if_pos irreducible, bne_eq_false_iff_eq.mpr irreducible]
    exact Decides.decline _ left
  · rw [if_neg irreducible, bne_iff_ne.mpr irreducible]
    exact valueOrItem_decides place _ _ left

/-! ## Paths -/

/-- The beginning of paths that stands for every one with a declared type: the document, or an item
of that type. -/
def Scope.ofType? : Option FieldType → Scope
  | none => .document
  | some type => .item 0 type

/-- The type declared for the values that paths in a scope begin at; none at the document. -/
def Scope.type? : Scope → Option FieldType
  | .document => none
  | .item _ type => some type

/-- The type declared where a path leads, if the path can be addressed. -/
def Location.declared? (schema : Schema) (root : Option FieldType) (segments : List String) :
    Option FieldType :=
  (resolve? schema .standard (.ofType? root) segments).map declared

/-- Neither the layout nor the number of a scan matters to the type that a path leads to. -/
theorem Location.declared?_eq (schema : Schema) (layout : Layout) (scope : Scope)
    (segments : List String) :
    (resolve? schema layout scope segments).map declared =
      declared? schema scope.type? segments := by
  cases scope with
  | item scan type =>
      rw [declared?, Scope.type?, Scope.ofType?, resolve?, resolve?]
      cases stepsBelow? type segments <;> rfl
  | document =>
      cases segments with
      | nil => rfl
      | cons first rest =>
          rw [declared?, Scope.type?, Scope.ofType?, resolve?, resolve?]
          cases PathStep.key? first with
          | none => rfl
          | some step =>
              simp only [Option.bind_eq_bind, Option.bind_some]
              cases stepsBelow? (((schema.fields.find? first).map (·.type)).getD .unknown) rest <;>
                rfl

/-! ## Selectors -/

mutual

/-- Whether a selector can be pushed on values at the beginning of paths. -/
def Selector.isPushable (schema : Schema) (root : Option FieldType) : Selector → Bool
  | .const _ => true
  | .allOf children | .anyOf children | .noneOf children =>
    Selector.arePushable schema root children
  | .field path operators =>
    match Location.declared? schema root path.segments with
    | none => false
    | some declared => Operator.arePushable schema declared operators

def Selector.arePushable (schema : Schema) (root : Option FieldType) : List Selector → Bool
  | [] => true
  | child :: rest =>
    Selector.isPushable schema root child && Selector.arePushable schema root rest

/-- Whether an operator can be pushed on a value of a declared type. -/
def Operator.isPushable (schema : Schema) (declared : FieldType) : Operator → Bool
  | .equals operand | .differs operand => !isContainer operand
  | .compares _ bound => isString bound || isNumber bound
  | .isIn values | .notIn values => !values.any isContainer
  | .regex expression => TextPattern.ofRegex expression != .irreducible
  | .element operators =>
    match itemType? declared with
    | none => true
    | some items => Operator.arePushable schema items operators
  | .elementSelected selector =>
    match itemType? declared with
    | none => true
    | some items => Selector.isPushable schema (some items) selector
  | .elementOther _ => (itemType? declared).isNone
  | .negation operators => Operator.arePushable schema declared operators
  | .present _ | .hasKind _ | .hasSize _ | .modulo _ _ | .never => true

def Operator.arePushable (schema : Schema) (declared : FieldType) : List Operator → Bool
  | [] => true
  | operator :: rest =>
    Operator.isPushable schema declared operator && Operator.arePushable schema declared rest

end

variable {schema : Schema} {layout : Layout}

mutual

/-- A selector is declined exactly if it cannot be pushed. -/
theorem Selector.push_decides (scope : Scope) : ∀ selector : Selector,
    Decides (selector.push schema layout scope) (selector.isPushable schema scope.type?)
  | .const value => .pure
  | .allOf children => (Selector.pushAll_decides scope children).map _
  | .anyOf children => (Selector.pushAll_decides scope children).map _
  | .noneOf children => (Selector.pushAll_decides scope children).map _
  | .field path operators => by
    rw [Selector.push, Selector.isPushable, ← Location.declared?_eq schema layout]
    cases Location.resolve? schema layout scope path.segments with
    | none => exact .decline
    | some place => exact (Operator.pushAll_decides place operators).map _

theorem Selector.pushAll_decides (scope : Scope) : ∀ selectors : List Selector,
    Decides (Selector.pushAll schema layout scope selectors)
      (Selector.arePushable schema scope.type? selectors)
  | [] => .pure
  | child :: rest =>
    (Selector.push_decides scope child).bind fun _ =>
      (Selector.pushAll_decides scope rest).map _

theorem Operator.push_decides (place : Location) : ∀ operator : Operator,
    Decides (operator.push schema layout place) (operator.isPushable schema place.declared)
  | .equals operand => pushEquals_decides place operand
  | .differs operand => (pushEquals_decides place operand).map _
  | .compares comparison bound => pushCompares_decides place comparison bound
  | .isIn values => pushMember_decides place values
  | .notIn values => (pushMember_decides place values).map _
  | .present expected => .pure
  | .hasKind kinds => pushKinds_decides place kinds
  | .hasSize size => .pure
  | .modulo divisor remainder => valueOrItem_decides place _
  | .regex expression => pushRegex_decides schema place expression
  | .element operators => by
    rw [Operator.push, Operator.isPushable]
    cases itemType? place.declared with
    | none => exact .pure
    | some items =>
        exact Decides.newScan.after fun number =>
          (Operator.pushAll_decides (.item number items) operators).map _
  | .elementSelected selector => by
    rw [Operator.push, Operator.isPushable]
    cases itemType? place.declared with
    | none => exact .pure
    | some items =>
        exact Decides.newScan.after fun number =>
          (Selector.push_decides (.item number items) selector).map _
  | .elementOther criteria => by
    rw [Operator.push, Operator.isPushable]
    cases itemType? place.declared with
    | none => exact .pure
    | some items => exact Decides.newScan.after fun _ => .decline
  | .negation operators => (Operator.pushAll_decides place operators).map _
  | .never => .pure

theorem Operator.pushAll_decides (place : Location) : ∀ operators : List Operator,
    Decides (Operator.pushAll schema layout place operators)
      (Operator.arePushable schema place.declared operators)
  | [] => .pure
  | operator :: rest =>
    (Operator.push_decides place operator).bind fun _ =>
      (Operator.pushAll_decides place rest).map _

end

/-- A selector on documents. -/
theorem Selector.push_document_decides (schema : Schema) (layout : Layout) (selector : Selector) :
    Decides (selector.push schema layout .document) (selector.isPushable schema none) :=
  Selector.push_decides .document selector

theorem Selector.arePushable_eq (schema : Schema) (root : Option FieldType)
    (selectors : List Selector) :
    Selector.arePushable schema root selectors = selectors.all (·.isPushable schema root) := by
  induction selectors with
  | nil => rfl
  | cons first rest ih => rw [Selector.arePushable, ih, List.all_cons]

/-! ## Outcomes -/

namespace PushOutcome

theorem isDeclined_ofCondition (column : String) (condition? : Option (Condition Test)) :
    (ofCondition column condition?).isDeclined = !condition?.isSome := by
  cases condition? with
  | none => rfl
  | some condition =>
      rw [ofCondition]
      cases condition.const? with
      | none => rfl
      | some value => cases value <;> rfl

/-- By itself a selector is declined exactly if it cannot be pushed, in whatever state. -/
theorem isDeclined_ofSelector (schema : Schema) (layout : Layout) (selector : Selector)
    {s : PushState} (faithful : s.Faithful) :
    ((ofSelector schema layout selector).run s).1.isDeclined =
      !selector.isPushable schema none := by
  have outcome : ((ofSelector schema layout selector).run s).1 =
      ofCondition layout.documentColumn ((selector.push schema layout .document).run s).1 := rfl
  obtain ⟨decided, -⟩ := selector.push_document_decides schema layout s faithful
  rw [outcome, isDeclined_ofCondition, decided]

end PushOutcome

end Pushdown
