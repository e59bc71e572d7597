import Pushdown.Proofs.Push.Operands
import Pushdown.Proofs.Selector.Printable

/-!
# Selectors with other operands

A selector is rebound to other operands when only values change that are to be bound as arguments:
texts become texts, numbers become numbers, lists keep the classes of their values, and patterns
keep their form. Keywords, paths and the nesting of a selector stay. The relation is one of JSON
values, before a selector is read, and has a case for each place where an operand may stand. What is
read from two such values is pushed with the same outline.
-/

namespace Pushdown

open Condition (SameOutline)
open Push (Parallel)

mutual

/-- The second selector is the first with other operands. -/
inductive Selector.Rebound : Json → Json → Prop
  | same (v : Json) : Selector.Rebound v v
  | object {ms ns : List (String × Json)} (h : Selector.ReboundMembers ms ns) :
      Selector.Rebound (.object ms) (.object ns)

inductive Selector.ReboundItems : List Json → List Json → Prop
  | nil : Selector.ReboundItems [] []
  | cons {v w : Json} {vs ws : List Json} (first : Selector.Rebound v w)
      (rest : Selector.ReboundItems vs ws) : Selector.ReboundItems (v :: vs) (w :: ws)

inductive Selector.ReboundMembers : List (String × Json) → List (String × Json) → Prop
  | nil : Selector.ReboundMembers [] []
  | cons {key : String} {v w : Json} {ms ns : List (String × Json)}
      (first : Selector.ReboundMember key v w) (rest : Selector.ReboundMembers ms ns) :
      Selector.ReboundMembers ((key, v) :: ms) ((key, w) :: ns)

/-- What stands under a key of a selector. -/
inductive Selector.ReboundMember : String → Json → Json → Prop
  | same (key : String) (v : Json) : Selector.ReboundMember key v v
  | connective {connective : Connective} (ofList : connective ≠ .negation) {vs ws : List Json}
      (h : Selector.ReboundItems vs ws) :
      Selector.ReboundMember connective.key (.array vs) (.array ws)
  | negation {ms ns : List (String × Json)} (h : Selector.ReboundMembers ms ns) :
      Selector.ReboundMember Connective.negation.key (.object ms) (.object ns)
  /-- Equality with the value of a field. -/
  | equals {key : String} (field : isKeyword key = false) {v w : Json} (h : v.SameClass w) :
      Selector.ReboundMember key v w
  | operators {key : String} (field : isKeyword key = false) {ms ns : List (String × Json)}
      (isMap : isOperatorMap ms = true)
      (h : Operator.Rebound (optionsOf ms) (optionsOf ns) ms ns) :
      Selector.ReboundMember key (.object ms) (.object ns)

/-- Operators of a field or an item with the same keys, beside the given options. -/
inductive Operator.Rebound : String → String → List (String × Json) → List (String × Json) → Prop
  | nil (o o' : String) : Operator.Rebound o o' [] []
  /-- Options bear on the patterns beside them only. -/
  | options {o o' : String} (v w : Json) {ms ns : List (String × Json)}
      (rest : Operator.Rebound o o' ms ns) :
      Operator.Rebound o o' ((optionsKey, v) :: ms) ((optionsKey, w) :: ns)
  | cons {o o' key : String} {v w : Json} {ms ns : List (String × Json)}
      (first : Operator.ReboundOperand o o' key v w) (rest : Operator.Rebound o o' ms ns) :
      Operator.Rebound o o' ((key, v) :: ms) ((key, w) :: ns)

/-- What stands under the key of an operator. -/
inductive Operator.ReboundOperand : String → String → String → Json → Json → Prop
  | same {o o' key : String} (v : Json) (options : key = OperatorKey.regex.key → o = o') :
      Operator.ReboundOperand o o' key v v
  | equals {o o' : String} {v w : Json} (h : v.SameClass w) :
      Operator.ReboundOperand o o' OperatorKey.equals.key v w
  | differs {o o' : String} {v w : Json} (h : v.SameClass w) :
      Operator.ReboundOperand o o' OperatorKey.differs.key v w
  | compares {o o' : String} (comparison : Comparison) {v w : Json} (h : v.SameClass w) :
      Operator.ReboundOperand o o' (OperatorKey.compares comparison).key v w
  | isIn {o o' : String} {vs ws : List Json} (h : Json.SameClasses vs ws) :
      Operator.ReboundOperand o o' OperatorKey.isIn.key (.array vs) (.array ws)
  | notIn {o o' : String} {vs ws : List Json} (h : Json.SameClasses vs ws) :
      Operator.ReboundOperand o o' OperatorKey.notIn.key (.array vs) (.array ws)
  | hasSize {o o' : String} (m n : Number) :
      Operator.ReboundOperand o o' OperatorKey.hasSize.key (.number m) (.number n)
  /-- A divisor and a remainder, both times read as such. -/
  | modulo {o o' : String} {v w : Json} {d r e s : Int}
      (first : Operator.ofModulo v = .modulo d r) (second : Operator.ofModulo w = .modulo e s) :
      Operator.ReboundOperand o o' OperatorKey.modulo.key v w
  /-- Patterns of one form that both ignore case or both do not. -/
  | regex {o o' p q : String} {a b : RegularExpression}
      (first : RegularExpression.ofPattern? p o = some a)
      (second : RegularExpression.ofPattern? q o' = some b)
      (form : (TextPattern.ofRegex a).form = (TextPattern.ofRegex b).form)
      (ignoreCase : a.caseInsensitive = b.caseInsensitive) :
      Operator.ReboundOperand o o' OperatorKey.regex.key (.string p) (.string q)
  | element {o o' : String} {ms ns : List (String × Json)}
      (isMap : Operator.isElementOperators ms = true)
      (h : Operator.Rebound (optionsOf ms) (optionsOf ns) ms ns) :
      Operator.ReboundOperand o o' OperatorKey.element.key (.object ms) (.object ns)
  | elementSelected {o o' : String} {ms ns : List (String × Json)}
      (notMap : Operator.isElementOperators ms = false) (h : Selector.ReboundMembers ms ns) :
      Operator.ReboundOperand o o' OperatorKey.element.key (.object ms) (.object ns)
  | negation {o o' : String} {ms ns : List (String × Json)}
      (h : Operator.Rebound (optionsOf ms) (optionsOf ns) ms ns) :
      Operator.ReboundOperand o o' OperatorKey.negation.key (.object ms) (.object ns)

end

/-! ## Keys -/

theorem Selector.ReboundMembers.keys {ms ns : List (String × Json)}
    (h : Selector.ReboundMembers ms ns) : ms.map (·.1) = ns.map (·.1) := by
  induction ms generalizing ns with
  | nil =>
      cases h
      rfl
  | cons m ms ih =>
      cases h with
      | cons first rest => rw [List.map_cons, List.map_cons, ih rest]

theorem Operator.Rebound.keys {o o' : String} {ms ns : List (String × Json)}
    (h : Operator.Rebound o o' ms ns) : ms.map (·.1) = ns.map (·.1) := by
  induction ms generalizing ns with
  | nil =>
      cases h
      rfl
  | cons m ms ih =>
      cases h with
      | options v w rest => rw [List.map_cons, List.map_cons, ih rest]
      | cons first rest => rw [List.map_cons, List.map_cons, ih rest]

/-- What is asked of the keys of an object does not depend on its values. -/
theorem keys_congr {ms ns : List (String × Json)} (h : ms.map (·.1) = ns.map (·.1)) :
    ms.isEmpty = ns.isEmpty ∧ isOperatorMap ms = isOperatorMap ns ∧
      Operator.isElementOperators ms = Operator.isElementOperators ns ∧
      (ms.all fun member => isKeyword member.1) = ns.all fun member => isKeyword member.1 := by
  have all (p : String → Bool) : (ms.all fun member => p member.1) =
      ns.all fun member => p member.1 := by
    have same := congrArg (List.all · p) h
    rwa [List.all_map, List.all_map] at same
  have any (p : String → Bool) : (ms.any fun member => p member.1) =
      ns.any fun member => p member.1 := by
    have same := congrArg (List.any · p) h
    rwa [List.any_map, List.any_map] at same
  refine ⟨?_, any isKeyword, ?_, all isKeyword⟩
  · have same := congrArg List.isEmpty h
    rwa [List.isEmpty_map, List.isEmpty_map] at same
  · exact congrArg₂ (fun a b => a && !b) (all isKeyword)
      (any fun key => key == "$and" || key == "$or" || key == "$nor")

/-! ## Reading -/

variable {schema : Schema} {layout : Layout}

section

variable {R : Condition Test → Condition Test → Prop}

theorem Selector.AlikeAll.append {as bs cs ds : List Selector}
    (first : Selector.AlikeAll R schema layout as bs)
    (second : Selector.AlikeAll R schema layout cs ds) :
    Selector.AlikeAll R schema layout (as ++ cs) (bs ++ ds) := by
  induction as generalizing bs with
  | nil =>
      cases first
      exact second
  | cons a as ih =>
      cases first with
      | cons head tail => exact .cons head (ih tail)

theorem Selector.Alike.parts {a b : Selector} (h : Selector.Alike R schema layout a b) :
    Selector.AlikeAll R schema layout a.parts b.parts := by
  cases h with
  | const value =>
      cases value
      · exact .cons (.const false) .nil
      · exact .nil
  | allOf h => exact h
  | anyOf h => exact .cons (.anyOf h) .nil
  | noneOf h => exact .cons (.noneOf h) .nil
  | field path h => exact .cons (.field path h) .nil

theorem Selector.AlikeAll.conjoin {as bs : List Selector}
    (h : Selector.AlikeAll R schema layout as bs) :
    Selector.Alike R schema layout (.conjoin as) (.conjoin bs) := by
  have flat : Selector.AlikeAll R schema layout (as.flatMap Selector.parts)
      (bs.flatMap Selector.parts) := by
    induction as generalizing bs with
    | nil =>
        cases h
        exact .nil
    | cons a as ih =>
        cases h with
        | cons head tail => exact head.parts.append (ih tail)
  unfold Selector.conjoin
  revert flat
  generalize as.flatMap Selector.parts = cs
  generalize bs.flatMap Selector.parts = ds
  rintro (_ | ⟨first, _ | ⟨second, rest⟩⟩)
  · exact .const true
  · exact first
  · exact .allOf (.cons first (.cons second rest))

theorem Operator.AlikeAll.orNever {as bs : List Operator} (closed : Condition.Congruence R)
    (h : Operator.AlikeAll R schema layout as bs) :
    Operator.AlikeAll R schema layout (Operator.orNever as) (Operator.orNever bs) := by
  cases h with
  | nil => exact .cons (.refl closed .never) .nil
  | cons first rest => exact .cons first rest

end

/-! ### Members of selectors -/

section

variable {key : String}

theorem Selector.alike_connective {connective : Connective} (ofList : connective ≠ .negation)
    {vs ws : List Json} (isEmpty : vs.isEmpty = ws.isEmpty)
    (h : Selector.AlikeAll SameOutline schema layout (Selector.ofItems vs)
      (Selector.ofItems ws)) :
    Selector.Alike SameOutline schema layout (.ofMember connective.key (.array vs))
      (.ofMember connective.key (.array ws)) := by
  have isKeyword : isKeyword connective.key = true := by cases connective <;> rfl
  have known : Connective.ofKey? connective.key = some connective := by
    cases connective <;> decide
  rw [Selector.ofMember, Selector.ofMember, if_pos isKeyword, if_pos isKeyword, known, isEmpty]
  cases connective with
  | allOf => exact h.conjoin
  | anyOf =>
      dsimp only
      split
      · exact .const false
      · exact .anyOf h
  | noneOf =>
      dsimp only
      split
      · exact .const true
      · exact .noneOf h
  | negation => contradiction

theorem Selector.alike_negation {ms ns : List (String × Json)} (isEmpty : ms.isEmpty = ns.isEmpty)
    (h : Selector.AlikeAll SameOutline schema layout (Selector.ofMembers ms)
      (Selector.ofMembers ns)) :
    Selector.Alike SameOutline schema layout (.ofMember Connective.negation.key (.object ms))
      (.ofMember Connective.negation.key (.object ns)) := by
  have isKeyword : isKeyword Connective.negation.key = true := rfl
  have known : Connective.ofKey? Connective.negation.key = some .negation := by decide
  rw [Selector.ofMember, Selector.ofMember, if_pos isKeyword, if_pos isKeyword, known, isEmpty]
  dsimp only
  split
  · exact .const false
  · exact .noneOf (.cons h.conjoin .nil)

theorem Operator.alike_equals {v w : Json} (h : v.SameClass w) :
    Operator.Alike SameOutline schema layout (.equals v) (.equals w) := by
  apply Operator.Alike.leaf
  intro place
  rw [Operator.push, Operator.push]
  exact h.pushEquals place

theorem Selector.alike_equals (field : isKeyword key = false) {v w : Json} (h : v.SameClass w) :
    Selector.Alike SameOutline schema layout (.ofMember key v) (.ofMember key w) := by
  have notKeyword : ¬ isKeyword key = true := by simp [field]
  have fields : Selector.ofMember key v = .field (.ofDotted key) [.equals v] ∧
      Selector.ofMember key w = .field (.ofDotted key) [.equals w] := by
    cases h <;> exact ⟨if_neg notKeyword, if_neg notKeyword⟩
  rw [fields.1, fields.2]
  exact .field _ (.cons (Operator.alike_equals h) .nil)

theorem Selector.alike_operators (field : isKeyword key = false) {ms ns : List (String × Json)}
    (isMap : isOperatorMap ms = true) (keys : ms.map (·.1) = ns.map (·.1))
    (h : Operator.AlikeAll SameOutline schema layout (Operator.ofMembers (optionsOf ms) ms)
      (Operator.ofMembers (optionsOf ns) ns)) :
    Selector.Alike SameOutline schema layout (.ofMember key (.object ms))
      (.ofMember key (.object ns)) := by
  have notKeyword : ¬ isKeyword key = true := by simp [field]
  obtain ⟨isEmpty, sameMap, -⟩ := keys_congr keys
  rw [Selector.ofMember, Selector.ofMember, if_neg notKeyword, if_neg notKeyword, isEmpty,
    ← sameMap, isMap]
  split
  · exact .refl Condition.SameOutline.congruence _
  · exact .field _ (h.orNever Condition.SameOutline.congruence)

end

/-! ### Members of operators -/

section

variable {o o' : String}

/-- Operands that are no objects, or whose keyword takes no criteria, are read by the keyword. -/
theorem Operator.alike_scalar {keyword : OperatorKey} {v w : Json}
    (scalarV : v.isObject = false ∨ (keyword ≠ .element ∧ keyword ≠ .negation))
    (scalarW : w.isObject = false ∨ (keyword ≠ .element ∧ keyword ≠ .negation))
    (h : ∀ place, Parallel SameOutline
      ((Operator.ofScalarOperand keyword o v).push schema layout place)
      ((Operator.ofScalarOperand keyword o' w).push schema layout place)) :
    Operator.Alike SameOutline schema layout (.ofMember o keyword.key v)
      (.ofMember o' keyword.key w) := by
  rw [Operator.ofMember_scalar (OperatorKey.ofKey?_key keyword) scalarV,
    Operator.ofMember_scalar (OperatorKey.ofKey?_key keyword) scalarW]
  exact .leaf h

theorem Operator.alike_differs {v w : Json} (h : v.SameClass w) :
    Operator.Alike SameOutline schema layout (.ofMember o OperatorKey.differs.key v)
      (.ofMember o' OperatorKey.differs.key w) := by
  apply Operator.alike_scalar (.inr (by decide)) (.inr (by decide))
  intro place
  rw [Operator.ofScalarOperand, Operator.ofScalarOperand, Operator.push, Operator.push]
  exact (h.pushEquals place).map fun _ _ related => Condition.SameOutline.congruence.negate related

theorem Operator.alike_compares (comparison : Comparison) {v w : Json} (h : v.SameClass w) :
    Operator.Alike SameOutline schema layout (.ofMember o (OperatorKey.compares comparison).key v)
      (.ofMember o' (OperatorKey.compares comparison).key w) := by
  have noObject : v.isObject = false ∧ w.isObject = false := by cases h <;> exact ⟨rfl, rfl⟩
  apply Operator.alike_scalar (.inl noObject.1) (.inl noObject.2)
  intro place
  rw [Operator.ofScalarOperand, Operator.ofScalarOperand, Operator.push, Operator.push]
  exact h.pushCompares place comparison

theorem Operator.alike_isIn {vs ws : List Json} (h : Json.SameClasses vs ws) :
    Operator.Alike SameOutline schema layout (.ofMember o OperatorKey.isIn.key (.array vs))
      (.ofMember o' OperatorKey.isIn.key (.array ws)) := by
  apply Operator.alike_scalar (.inl rfl) (.inl rfl)
  intro place
  rw [Operator.ofScalarOperand, Operator.ofScalarOperand, Operator.push, Operator.push]
  exact h.pushMember place

theorem Operator.alike_notIn {vs ws : List Json} (h : Json.SameClasses vs ws) :
    Operator.Alike SameOutline schema layout (.ofMember o OperatorKey.notIn.key (.array vs))
      (.ofMember o' OperatorKey.notIn.key (.array ws)) := by
  apply Operator.alike_scalar (.inl rfl) (.inl rfl)
  intro place
  rw [Operator.ofScalarOperand, Operator.ofScalarOperand, Operator.push, Operator.push]
  exact (h.pushMember place).map fun _ _ related => Condition.SameOutline.congruence.negate related

theorem Operator.alike_hasSize (m n : Number) :
    Operator.Alike SameOutline schema layout (.ofMember o OperatorKey.hasSize.key (.number m))
      (.ofMember o' OperatorKey.hasSize.key (.number n)) := by
  apply Operator.alike_scalar (.inl rfl) (.inl rfl)
  intro place
  rw [Operator.ofScalarOperand, Operator.ofScalarOperand, Operator.push, Operator.push]
  exact .pure (lengthTest_outline place m n)

theorem Operator.alike_modulo {v w : Json} {d r e s : Int}
    (first : Operator.ofModulo v = .modulo d r) (second : Operator.ofModulo w = .modulo e s) :
    Operator.Alike SameOutline schema layout (.ofMember o OperatorKey.modulo.key v)
      (.ofMember o' OperatorKey.modulo.key w) := by
  apply Operator.alike_scalar (.inr (by decide)) (.inr (by decide))
  intro place
  rw [Operator.ofScalarOperand, Operator.ofScalarOperand, first, second, Operator.push,
    Operator.push]
  apply Condition.SameOutline.congruence.valueOrItem
  intro place
  exact SameOutline.guarded _ fun _ => rfl

theorem Operator.alike_regex {p q : String} {a b : RegularExpression}
    (first : RegularExpression.ofPattern? p o = some a)
    (second : RegularExpression.ofPattern? q o' = some b)
    (form : (TextPattern.ofRegex a).form = (TextPattern.ofRegex b).form)
    (ignoreCase : a.caseInsensitive = b.caseInsensitive) :
    Operator.Alike SameOutline schema layout (.ofMember o OperatorKey.regex.key (.string p))
      (.ofMember o' OperatorKey.regex.key (.string q)) := by
  apply Operator.alike_scalar (.inl rfl) (.inl rfl)
  intro place
  rw [Operator.ofScalarOperand, Operator.ofScalarOperand, Operator.ofRegex, Operator.ofRegex, first,
    second]
  dsimp only
  rw [Operator.push, Operator.push]
  exact pushRegex_outline schema place form ignoreCase

theorem Operator.alike_element {ms ns : List (String × Json)}
    (isMap : Operator.isElementOperators ms = true) (keys : ms.map (·.1) = ns.map (·.1))
    (h : Operator.AlikeAll SameOutline schema layout (Operator.ofMembers (optionsOf ms) ms)
      (Operator.ofMembers (optionsOf ns) ns)) :
    Operator.Alike SameOutline schema layout (.ofMember o OperatorKey.element.key (.object ms))
      (.ofMember o' OperatorKey.element.key (.object ns)) := by
  obtain ⟨isEmpty, -, sameMap, -⟩ := keys_congr keys
  rw [Operator.ofMember_element (OperatorKey.ofKey?_key .element),
    Operator.ofMember_element (OperatorKey.ofKey?_key .element), isEmpty, ← sameMap, isMap]
  split
  · exact .refl Condition.SameOutline.congruence _
  · exact .element (h.orNever Condition.SameOutline.congruence)

theorem Operator.alike_elementSelected {ms ns : List (String × Json)}
    (notMap : Operator.isElementOperators ms = false) (keys : ms.map (·.1) = ns.map (·.1))
    (h : Selector.AlikeAll SameOutline schema layout (Selector.ofMembers ms)
      (Selector.ofMembers ns)) :
    Operator.Alike SameOutline schema layout (.ofMember o OperatorKey.element.key (.object ms))
      (.ofMember o' OperatorKey.element.key (.object ns)) := by
  obtain ⟨isEmpty, -, sameMap, -⟩ := keys_congr keys
  rw [Operator.ofMember_element (OperatorKey.ofKey?_key .element),
    Operator.ofMember_element (OperatorKey.ofKey?_key .element), isEmpty, ← sameMap, notMap]
  split
  · exact .refl Condition.SameOutline.congruence _
  · exact .elementSelected h.conjoin

theorem Operator.alike_negation {ms ns : List (String × Json)}
    (keys : ms.map (·.1) = ns.map (·.1))
    (h : Operator.AlikeAll SameOutline schema layout (Operator.ofMembers (optionsOf ms) ms)
      (Operator.ofMembers (optionsOf ns) ns)) :
    Operator.Alike SameOutline schema layout (.ofMember o OperatorKey.negation.key (.object ms))
      (.ofMember o' OperatorKey.negation.key (.object ns)) := by
  obtain ⟨isEmpty, -, -, allKeywords⟩ := keys_congr keys
  rw [Operator.ofMember_negation (OperatorKey.ofKey?_key .negation),
    Operator.ofMember_negation (OperatorKey.ofKey?_key .negation), isEmpty, allKeywords]
  split
  · exact .negation (h.orNever Condition.SameOutline.congruence)
  · exact .refl Condition.SameOutline.congruence _

/-- Options bear on patterns only. -/
theorem Operator.ofMember_options {key : String}
    (options : key = OperatorKey.regex.key → o = o') (v : Json) :
    Operator.ofMember o key v = Operator.ofMember o' key v := by
  by_cases regex : key = OperatorKey.regex.key
  · rw [options regex]
  · cases known : OperatorKey.ofKey? key with
    | none => rw [Operator.ofMember_unknown known, Operator.ofMember_unknown known]
    | some keyword =>
        have notRegex : keyword ≠ .regex := by
          rintro rfl
          exact regex (OperatorKey.key_of_ofKey? known).symm
        cases v <;> rw [Operator.ofMember.eq_def, Operator.ofMember.eq_def, known] <;>
          cases keyword <;> first | rfl | contradiction

end

theorem Selector.ReboundItems.isEmpty {vs ws : List Json} (h : Selector.ReboundItems vs ws) :
    vs.isEmpty = ws.isEmpty := by
  cases h <;> rfl

/-! ### Whole selectors -/

section

variable (schema layout)

mutual

/-- What is read from a selector and from a rebound one is alike. -/
theorem Selector.Rebound.alike : ∀ {v w : Json}, Selector.Rebound v w →
    Selector.Alike SameOutline schema layout (.ofJson v) (.ofJson w)
  | _, _, .same v => .refl Condition.SameOutline.congruence (.ofJson v)
  | _, _, .object h => by
    rw [Selector.ofJson, Selector.ofJson]
    exact h.alike.conjoin

theorem Selector.ReboundItems.alike : ∀ {vs ws : List Json}, Selector.ReboundItems vs ws →
    Selector.AlikeAll SameOutline schema layout (Selector.ofItems vs) (Selector.ofItems ws)
  | _, _, .nil => .nil
  | _, _, .cons first rest => by
    rw [Selector.ofItems, Selector.ofItems]
    exact .cons first.alike rest.alike

theorem Selector.ReboundMembers.alike : ∀ {ms ns : List (String × Json)},
    Selector.ReboundMembers ms ns →
    Selector.AlikeAll SameOutline schema layout (Selector.ofMembers ms) (Selector.ofMembers ns)
  | _, _, .nil => .nil
  | _, _, .cons first rest => by
    rw [Selector.ofMembers, Selector.ofMembers]
    exact .cons first.alike rest.alike

theorem Selector.ReboundMember.alike : ∀ {key : String} {v w : Json},
    Selector.ReboundMember key v w →
    Selector.Alike SameOutline schema layout (.ofMember key v) (.ofMember key w)
  | _, _, _, .same key v => .refl Condition.SameOutline.congruence (.ofMember key v)
  | _, _, _, .connective ofList h => Selector.alike_connective ofList h.isEmpty h.alike
  | _, _, _, .negation h => Selector.alike_negation (keys_congr h.keys).1 h.alike
  | _, _, _, .equals field h => Selector.alike_equals field h
  | _, _, _, .operators field isMap h => Selector.alike_operators field isMap h.keys h.alike

theorem Operator.Rebound.alike : ∀ {o o' : String} {ms ns : List (String × Json)},
    Operator.Rebound o o' ms ns →
    Operator.AlikeAll SameOutline schema layout (Operator.ofMembers o ms) (Operator.ofMembers o' ns)
  | _, _, _, _, .nil _ _ => .nil
  | _, _, _, _, .options v w rest => by
    rw [Operator.ofMembers, Operator.ofMembers, if_pos rfl, if_pos rfl]
    exact rest.alike
  | _, _, _, _, .cons first rest => by
    rw [Operator.ofMembers, Operator.ofMembers]
    split
    · exact rest.alike
    · exact .cons first.alike rest.alike

theorem Operator.ReboundOperand.alike : ∀ {o o' key : String} {v w : Json},
    Operator.ReboundOperand o o' key v w →
    Operator.Alike SameOutline schema layout (.ofMember o key v) (.ofMember o' key w)
  | _, _, _, _, _, .same v options => by
    rw [Operator.ofMember_options options v]
    exact .refl Condition.SameOutline.congruence _
  | _, _, _, _, _, .equals h => by
    apply Operator.alike_scalar (.inr (by decide)) (.inr (by decide))
    intro place
    rw [Operator.ofScalarOperand, Operator.ofScalarOperand, Operator.push, Operator.push]
    exact h.pushEquals place
  | _, _, _, _, _, .differs h => Operator.alike_differs h
  | _, _, _, _, _, .compares comparison h => Operator.alike_compares comparison h
  | _, _, _, _, _, .isIn h => Operator.alike_isIn h
  | _, _, _, _, _, .notIn h => Operator.alike_notIn h
  | _, _, _, _, _, .hasSize m n => Operator.alike_hasSize m n
  | _, _, _, _, _, .modulo first second => Operator.alike_modulo first second
  | _, _, _, _, _, .regex first second form ignoreCase =>
    Operator.alike_regex first second form ignoreCase
  | _, _, _, _, _, .element isMap h => Operator.alike_element isMap h.keys h.alike
  | _, _, _, _, _, .elementSelected notMap h =>
    Operator.alike_elementSelected notMap h.keys h.alike
  | _, _, _, _, _, .negation h => Operator.alike_negation h.keys h.alike

end

end

end Pushdown
