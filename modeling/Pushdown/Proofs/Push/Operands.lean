import Pushdown.Proofs.Condition.Outline

/-!
# Operands in outlines

The value of an operand reaches the outline of a condition only through its class. Two texts, or two
numbers, are pushed with the same outline; so are two lists in which the same classes occur, however
long they are, and two regular expressions whose forms differ in their literals only.
-/

namespace Pushdown

open Condition (SameOutline)
open Push (Parallel)

/-! ## Classes of values -/

/-- Two texts or two numbers. -/
inductive Json.SameClass : Json → Json → Prop
  | string (a b : String) : SameClass (.string a) (.string b)
  | number (m n : Number) : SameClass (.number m) (.number n)

/-- The classes into which the values of a list are divided. -/
inductive ValueClass where
  | null
  | string
  | number
  | truth (value : Bool)
  | container
deriving DecidableEq

def ValueClass.ofJson : Json → ValueClass
  | .null => .null
  | .string _ => .string
  | .number _ => .number
  | .bool value => .truth value
  | .array _ | .object _ => .container

/-- The same classes occur in both lists. -/
def Json.SameClasses (values others : List Json) : Prop :=
  ∀ c, c ∈ values.map ValueClass.ofJson ↔ c ∈ others.map ValueClass.ofJson

namespace Json.SameClasses

variable {values others : List Json} (h : SameClasses values others)

include h

/-- A test for a class finds a value in both lists or in neither. -/
theorem any_eq {test : Json → Bool} (c : ValueClass)
    (tests : ∀ v, test v = true ↔ ValueClass.ofJson v = c) :
    values.any test = others.any test := by
  have occurs (list : List Json) :
      list.any test = true ↔ c ∈ list.map ValueClass.ofJson := by
    simp only [List.any_eq_true, tests, List.mem_map]
  rw [Bool.eq_iff_iff, occurs values, occurs others]
  exact h c

theorem isEmpty_filter {test : Json → Bool} (c : ValueClass)
    (tests : ∀ v, test v = true ↔ ValueClass.ofJson v = c) :
    (values.filter test).isEmpty = (others.filter test).isEmpty := by
  have empty (list : List Json) : (list.filter test).isEmpty = !list.any test := by
    rw [Bool.eq_iff_iff]
    simp
  rw [empty values, empty others, h.any_eq c tests]

end Json.SameClasses

section

variable (v : Json)

theorem isContainer_iff : isContainer v = true ↔ ValueClass.ofJson v = .container := by
  cases v <;> simp [isContainer, ValueClass.ofJson]

theorem isString_iff : isString v = true ↔ ValueClass.ofJson v = .string := by
  cases v <;> simp [isString, ValueClass.ofJson]

theorem isNumber_iff : isNumber v = true ↔ ValueClass.ofJson v = .number := by
  cases v <;> simp [isNumber, ValueClass.ofJson]

theorem isNull_iff : v.isNull = true ↔ ValueClass.ofJson v = .null := by
  cases v <;> simp [Json.isNull, ValueClass.ofJson]

theorem isBoolean_iff (expected : Bool) :
    isBoolean expected v = true ↔ ValueClass.ofJson v = .truth expected := by
  cases v <;> simp [isBoolean, ValueClass.ofJson]

end

/-! ## Tests -/

/-- Behind the same guard leaves with the same outline have the same outline. -/
theorem SameOutline.guarded (guard : Condition Test) {a b : Test}
    (h : ∀ column, (a.clause column).outline = (b.clause column).outline) :
    SameOutline (.all [guard, .leaf a]) (.all [guard, .leaf b]) :=
  Condition.SameOutline.congruence.all (.cons (.refl guard) (.cons (.leaf h) .nil))

theorem memberTest_outline {a b : ClassifiedValues}
    (strings : a.strings.isEmpty = b.strings.isEmpty)
    (numbers : a.numbers.isEmpty = b.numbers.isEmpty) (booleans : a.booleans = b.booleans)
    (place : Location) : SameOutline (memberTest a place) (memberTest b place) := by
  have optional {absent : Bool} {c d : Condition Test} (h : SameOutline c d) :
      List.Forall₂ SameOutline (if absent then [] else [c]) (if absent then [] else [d]) := by
    cases absent
    · exact .cons h .nil
    · exact .nil
  unfold memberTest
  rw [strings, numbers, booleans]
  apply Condition.SameOutline.congruence.any
  apply List.rel_append (List.rel_append _ _) (optional (.refl _))
  · exact optional (SameOutline.guarded _ fun _ => rfl)
  · exact optional (SameOutline.guarded _ fun _ => rfl)

/-- Lists with the same classes are classified alike, and their tests have the same outline. -/
theorem Json.SameClasses.classified {values others : List Json} (h : SameClasses values others) :
    Option.Rel (fun a b => a.hasNull = b.hasNull ∧
        (a.strings.isEmpty && a.numbers.isEmpty && a.booleans.isEmpty) =
          (b.strings.isEmpty && b.numbers.isEmpty && b.booleans.isEmpty) ∧
        ∀ place, SameOutline (memberTest a place) (memberTest b place))
      (ClassifiedValues.ofList? values) (ClassifiedValues.ofList? others) := by
  have strings := h.isEmpty_filter .string isString_iff
  have numbers := h.isEmpty_filter .number isNumber_iff
  have hasNull := h.any_eq .null isNull_iff
  have someFalse := h.any_eq (.truth false) fun v => isBoolean_iff v false
  have someTrue := h.any_eq (.truth true) fun v => isBoolean_iff v true
  unfold ClassifiedValues.ofList?
  rw [h.any_eq .container isContainer_iff]
  split
  · exact .none
  · refine .some ⟨hasNull, ?_, ?_⟩
    · dsimp only
      rw [strings, numbers, someFalse, someTrue]
    · apply memberTest_outline strings numbers
      dsimp only
      rw [someFalse, someTrue]

/-- Forms of one name differ in their literals only. -/
theorem TextPattern.eq_of_form {p q : TextPattern} (h : p.form = q.form) :
    (p = .irreducible ↔ q = .irreducible) ∧
      ∀ ignoreCase lowerIndex,
        (textTest p ignoreCase lowerIndex).1 = (textTest q ignoreCase lowerIndex).1 := by
  revert h
  cases p <;> cases q <;> intro h <;> first
    | exact absurd h (by simp only [form]; decide)
    | refine ⟨by simp, ?_⟩
      intro ignoreCase lowerIndex
      cases ignoreCase <;> cases lowerIndex <;> rfl

theorem text_outline (column : String) (place : Location) {a b : TextTest × String}
    (h : a.1 = b.1) : (Test.clause column (.text place a.1 a.2)).outline =
      (Test.clause column (.text place b.1 b.2)).outline := by
  rw [Test.clause, Test.clause, h]
  rfl

theorem patternTest_outline (schema : Schema) {p q : TextPattern} (form : p.form = q.form)
    (ignoreCase : Bool) (place : Location) :
    SameOutline (patternTest schema p ignoreCase place)
      (patternTest schema q ignoreCase place) := by
  have test := (TextPattern.eq_of_form form).2 ignoreCase
    (place.indexPath.any fun path => schema.hasIndex path .lowercase)
  exact SameOutline.guarded _ fun column => text_outline column place test

/-! ## Operators -/

section

variable {v w : Json} (h : Json.SameClass v w) (place : Location)

include h

theorem Json.SameClass.pushEquals :
    Parallel SameOutline (pushEquals place v) (pushEquals place w) := by
  have test (place : Location) : SameOutline (equalsScalar v place) (equalsScalar w place) := by
    cases h <;> exact SameOutline.guarded _ fun _ => rfl
  cases h <;> exact Condition.SameOutline.congruence.valueOrItem place test

theorem Json.SameClass.pushCompares (comparison : Comparison) :
    Parallel SameOutline (pushCompares place comparison v) (pushCompares place comparison w) := by
  have test (guard : Location → Condition Test) (a b : Argument) (place : Location) :
      SameOutline (comparesTest guard comparison a place) (comparesTest guard comparison b place) :=
    SameOutline.guarded _ fun _ => rfl
  cases h <;> exact Condition.SameOutline.congruence.valueOrItem place (test _ _ _)

end

theorem Json.SameClasses.pushMember {values others : List Json} (h : SameClasses values others)
    (place : Location) : Parallel SameOutline (pushMember place values) (pushMember place others) :=
  Condition.SameOutline.congruence.pushMember place h.classified

theorem lengthTest_outline (place : Location) (m n : Number) :
    SameOutline (lengthTest place m) (lengthTest place n) := by
  unfold lengthTest
  split
  · exact SameOutline.guarded _ fun _ => rfl
  · exact SameOutline.guarded _ fun _ => rfl
  · exact .refl _

theorem pushRegex_outline (schema : Schema) (place : Location) {a b : RegularExpression}
    (form : (TextPattern.ofRegex a).form = (TextPattern.ofRegex b).form)
    (ignoreCase : a.caseInsensitive = b.caseInsensitive) :
    Parallel SameOutline (pushRegex schema place a) (pushRegex schema place b) := by
  apply Condition.SameOutline.congruence.pushRegex schema place (TextPattern.eq_of_form form).1
  intro place
  rw [ignoreCase]
  exact patternTest_outline schema form b.caseInsensitive place

end Pushdown
