import Pushdown.Proofs.Push.Items

/-!
# Pushed selectors

Every selector that is not declined is pushed as a condition that tells which documents it accepts.
The proof follows the selector, with one case for each constructor: below a field its path denotes
the value that the matcher looks up, and below a scan the scope begins at an item.

The text of `$mod` says something else than the matcher for numbers beyond the whole ones, so an
exact setting asks that there is none.
-/

namespace Pushdown

open Push (Ensures)

mutual

/-- A remainder is asked for somewhere in a selector. -/
def Selector.usesModulo : Selector → Bool
  | .const _ => false
  | .allOf children | .anyOf children | .noneOf children => Selector.someUsesModulo children
  | .field _ operators => Operator.someUsesModulo operators

def Selector.someUsesModulo : List Selector → Bool
  | [] => false
  | child :: rest => Selector.usesModulo child || Selector.someUsesModulo rest

def Operator.usesModulo : Operator → Bool
  | .modulo _ _ => true
  | .element operators | .negation operators => Operator.someUsesModulo operators
  | .elementSelected selector => Selector.usesModulo selector
  | _ => false

def Operator.someUsesModulo : List Operator → Bool
  | [] => false
  | operator :: rest => Operator.usesModulo operator || Operator.someUsesModulo rest

end

/-! ## Lists of selectors and operators -/

theorem Selector.acceptAll_eq (selectors : List Selector) (document : Json) :
    Selector.acceptAll selectors document =
      (selectors.map Selector.accepts).all (· document) := by
  induction selectors with
  | nil => rfl
  | cons first rest ih => rw [Selector.acceptAll, ih, List.map_cons, List.all_cons]

theorem Selector.acceptAny_eq (selectors : List Selector) (document : Json) :
    Selector.acceptAny selectors document =
      (selectors.map Selector.accepts).any (· document) := by
  induction selectors with
  | nil => rfl
  | cons first rest ih => rw [Selector.acceptAny, ih, List.map_cons, List.any_cons]

theorem Operator.holdAll_eq (operators : List Operator) (value : Option Json) :
    Operator.holdAll operators value = (operators.map Operator.holds).all (· value) := by
  induction operators with
  | nil => rfl
  | cons first rest ih => rw [Operator.holdAll, ih, List.map_cons, List.all_cons]

variable {setting : Setting}

theorem Tells.allOf {domain : Rows → Json → Prop} {cs : List (Condition Test)}
    {selectors : List Selector}
    (h : List.Forall₂ (Tells setting domain) cs (selectors.map Selector.accepts)) :
    Tells setting domain (.all cs) (Selector.acceptAll selectors) :=
  (Tells.all h).congr fun _ _ _ => (Selector.acceptAll_eq _ _).symm

theorem Tells.anyOf {domain : Rows → Json → Prop} {cs : List (Condition Test)}
    {selectors : List Selector}
    (h : List.Forall₂ (Tells setting domain) cs (selectors.map Selector.accepts)) :
    Tells setting domain (.any cs) (Selector.acceptAny selectors) :=
  (Tells.any h).congr fun _ _ _ => (Selector.acceptAny_eq _ _).symm

theorem Tells.operators {domain : Rows → Option Json → Prop} {cs : List (Condition Test)}
    {operators : List Operator}
    (h : List.Forall₂ (Tells setting domain) cs (operators.map Operator.holds)) :
    Tells setting domain (.all cs) (Operator.holdAll operators) :=
  (Tells.all h).congr fun _ _ _ => (Operator.holdAll_eq _ _).symm

/-! ## Operators on items -/

variable {place : Location}

/-- What is pushed for a value that has no items tells nothing of any. -/
theorem Setting.At.arrayVerdict_eq {rows : Rows} {v? : Option Json} (h : setting.At place rows v?)
    (noItems : itemType? place.declared = none) (verdict : Json → Bool) :
    arrayVerdict verdict v? = false := by
  have noArray := h.noArray noItems
  cases v? with
  | none => rfl
  | some v =>
      cases v with
      | array => cases noArray
      | null | bool | number | string | object => rfl

theorem Operator.holds_element (operators : List Operator) (v? : Option Json) :
    Operator.holds (.element operators) v? =
      arrayVerdict (fun item => Operator.holdAll operators (some item)) v? := by
  cases v? with
  | none => rfl
  | some v => cases v <;> rfl

theorem Operator.holds_elementSelected (selector : Selector) (v? : Option Json) :
    Operator.holds (.elementSelected selector) v? = arrayVerdict selector.accepts v? := by
  cases v? with
  | none => rfl
  | some v => cases v <;> rfl

/-! ## Selectors and operators -/

/-- In an exact setting the document fits in memory. -/
def Setting.Stored (setting : Setting) : Prop :=
  setting.exact → setting.document.fitsMemory = true

mutual

theorem Selector.push_tells (stored : setting.Stored) : ∀ (selector : Selector) (scope : Scope),
    (setting.exact → selector.usesModulo = false) →
    Ensures setting.Uncached (selector.push setting.schema setting.layout scope) fun c =>
      Tells setting (setting.In scope) c selector.accepts
  | .const value, _, _ => .pure (.const fun _ _ _ => rfl)
  | .allOf children, scope, whole => by
    rw [Selector.push]
    exact (Selector.pushAll_tells stored children scope whole).bind fun _ tells =>
      .pure (.allOf tells)
  | .anyOf children, scope, whole => by
    rw [Selector.push]
    exact (Selector.pushAll_tells stored children scope whole).bind fun _ tells =>
      .pure (.anyOf tells)
  | .noneOf children, scope, whole => by
    rw [Selector.push]
    exact (Selector.pushAll_tells stored children scope whole).bind fun _ tells =>
      .pure (Tells.anyOf tells).negate
  | .field path operators, scope, whole => by
    rw [Selector.push]
    cases resolved : Location.resolve? setting.schema setting.layout scope path.segments with
    | none => exact .decline
    | some place =>
        refine (Operator.pushAll_tells stored operators place whole).bind fun _ tells => .pure ?_
        exact (Tells.operators tells).along (fun v : Json => v.lookup? path.segments)
          fun _ _ inside => Location.resolve?_denotes resolved inside

theorem Selector.pushAll_tells (stored : setting.Stored) :
    ∀ (selectors : List Selector) (scope : Scope),
    (setting.exact → Selector.someUsesModulo selectors = false) →
    Ensures setting.Uncached (Selector.pushAll setting.schema setting.layout scope selectors)
      fun cs => List.Forall₂ (Tells setting (setting.In scope)) cs
        (selectors.map Selector.accepts)
  | [], _, _ => .pure .nil
  | child :: rest, scope, whole => by
    simp only [Selector.someUsesModulo, Bool.or_eq_false_iff] at whole
    rw [Selector.pushAll]
    have first := Selector.push_tells stored child scope fun exact => (whole exact).1
    have others := Selector.pushAll_tells stored rest scope fun exact => (whole exact).2
    exact first.bind fun _ tells => others.bind fun _ all => .pure (.cons tells all)

theorem Operator.push_tells (stored : setting.Stored) : ∀ (operator : Operator) (place : Location),
    (setting.exact → operator.usesModulo = false) →
    Ensures setting.Uncached (operator.push setting.schema setting.layout place) fun c =>
      Tells setting (setting.At place) c operator.holds
  | .equals operand, _, _ => pushEquals_tells operand
  | .differs operand, _, _ => (pushEquals_tells operand).bind fun _ tells => .pure tells.negate
  | .compares comparison bound, _, _ => pushCompares_tells comparison bound
  | .isIn values, _, _ => pushMember_tells values
  | .notIn values, _, _ => (pushMember_tells values).bind fun _ tells => .pure tells.negate
  | .present expected, _, _ => .pure (presentTest_tells expected)
  | .hasKind kinds, _, _ => pushKinds_tells kinds
  | .hasSize size, _, _ => .pure (lengthTest_tells size stored)
  | .modulo divisor remainder, _, whole => by
    have inexact : ¬ setting.exact := by
      intro exact
      cases whole exact
    exact valueOrItem_tells (fun _ => remainderTest_tells inexact divisor remainder) rfl
      fun _ => rfl
  | .regex expression, _, _ => pushRegex_tells expression
  | .element operators, place, whole => by
    rw [Operator.push]
    cases itemType : itemType? place.declared with
    | none =>
        refine .pure (.const ?_)
        intro _ v? hx
        rw [Operator.holds_element, hx.arrayVerdict_eq itemType]
    | some type =>
        apply newScan_uncached.bind
        intro number _
        have body := Operator.pushAll_tells stored operators (.item number type) whole
        refine body.bind fun _ tells => .pure ?_
        refine (arrayScan_tells itemType (fun _ _ inside => ?_) (.operators tells)).congr
          fun _ v? _ => (Operator.holds_element operators v?).symm
        exact Location.item_denotes inside
  | .elementSelected selector, place, whole => by
    rw [Operator.push]
    cases itemType : itemType? place.declared with
    | none =>
        refine .pure (.const ?_)
        intro _ v? hx
        rw [Operator.holds_elementSelected, hx.arrayVerdict_eq itemType]
    | some type =>
        apply newScan_uncached.bind
        intro number _
        have body := Selector.push_tells stored selector (.item number type) whole
        refine body.bind fun _ tells => .pure ?_
        exact (arrayScan_tells itemType (fun _ _ inside => inside) tells).congr
          fun _ v? _ => (Operator.holds_elementSelected selector v?).symm
  | .elementOther _, place, _ => by
    rw [Operator.push]
    cases itemType : itemType? place.declared with
    | none => exact .pure (.const fun _ _ _ => rfl)
    | some _ => exact newScan_uncached.bind fun _ _ => .decline
  | .negation operators, place, whole => by
    rw [Operator.push]
    exact (Operator.pushAll_tells stored operators place whole).bind fun _ tells =>
      .pure (Tells.operators tells).negate
  | .never, _, _ => .pure (.const fun _ _ _ => rfl)

theorem Operator.pushAll_tells (stored : setting.Stored) :
    ∀ (operators : List Operator) (place : Location),
    (setting.exact → Operator.someUsesModulo operators = false) →
    Ensures setting.Uncached (Operator.pushAll setting.schema setting.layout place operators)
      fun cs => List.Forall₂ (Tells setting (setting.At place)) cs
        (operators.map Operator.holds)
  | [], _, _ => .pure .nil
  | operator :: rest, place, whole => by
    simp only [Operator.someUsesModulo, Bool.or_eq_false_iff] at whole
    rw [Operator.pushAll]
    have first := Operator.push_tells stored operator place fun exact => (whole exact).1
    have others := Operator.pushAll_tells stored rest place fun exact => (whole exact).2
    exact first.bind fun _ tells => others.bind fun _ all => .pure (.cons tells all)

end

end Pushdown
