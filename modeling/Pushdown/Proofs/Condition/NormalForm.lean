import Pushdown.Sql.Condition
import Mathlib.Logic.Basic

/-!
# Normal form and meaning of conditions

The building functions `all`, `any` and `negate` return conditions in normal form: a constant stands
alone, groups have at least two parts and none of their own kind, and a negation holds neither a
constant nor a negation. `Normal` says this, and each building function keeps it.

`holds` reads a condition over two truth values. Simplification does not change this reading, so the
meaning of a built condition is the meaning of the Boolean combination that was asked for.
-/

namespace Pushdown.Condition

variable {α β : Type}

/-! ## Normal form -/

def isAllOf : Condition α → Bool
  | .allOf _ => true
  | _ => false

def isAnyOf : Condition α → Bool
  | .anyOf _ => true
  | _ => false

def isNegation : Condition α → Bool
  | .negation _ => true
  | _ => false

/-- A condition without constants in which no group is small or nested in its own kind, no negation
is doubled, and every leaf has a property. -/
inductive Proper (P : α → Prop) : Condition α → Prop
  | leaf {test : α} (good : P test) : Proper P (.leaf test)
  | allOf {children : List (Condition α)} (many : 2 ≤ children.length)
      (proper : ∀ c ∈ children, Proper P c) (flat : ∀ c ∈ children, c.isAllOf = false) :
      Proper P (.allOf children)
  | anyOf {children : List (Condition α)} (many : 2 ≤ children.length)
      (proper : ∀ c ∈ children, Proper P c) (flat : ∀ c ∈ children, c.isAnyOf = false) :
      Proper P (.anyOf children)
  | negation {child : Condition α} (proper : Proper P child) (single : child.isNegation = false) :
      Proper P (.negation child)

/-- A constant, or a condition in normal form without constants whose leaves have a property. -/
inductive Normal (P : α → Prop) : Condition α → Prop
  | const (value : Bool) : Normal P (.const value)
  | proper {c : Condition α} (proper : Proper P c) : Normal P c

variable {P : α → Prop}

theorem Proper.ne_const {c : Condition α} (h : Proper P c) (value : Bool) : c ≠ .const value := by
  cases h <;> simp

theorem Normal.leaf {test : α} (good : P test) : Normal P (.leaf test) := .proper (.leaf good)

theorem Proper.imp {Q : α → Prop} (imp : ∀ test, P test → Q test) {c : Condition α}
    (h : Proper P c) : Proper Q c := by
  induction h with
  | leaf good => exact .leaf (imp _ good)
  | allOf many _ flat ih => exact .allOf many ih flat
  | anyOf many _ flat ih => exact .anyOf many ih flat
  | negation _ single ih => exact .negation ih single

theorem Normal.imp {Q : α → Prop} (imp : ∀ test, P test → Q test) {c : Condition α}
    (h : Normal P c) : Normal Q c := by
  cases h with
  | const value => exact .const value
  | proper proper => exact .proper (proper.imp imp)

theorem isFalse_iff {c : Condition α} : c.isFalse = true ↔ c = .const false := by
  cases c <;> simp [isFalse]

theorem isTrue_iff {c : Condition α} : c.isTrue = true ↔ c = .const true := by
  cases c <;> simp [isTrue]

/-- The parts that a condition other than false adds to a conjunction can stand in one. -/
theorem Normal.conjuncts {c : Condition α} (h : Normal P c) (notFalse : c ≠ .const false) :
    ∀ part ∈ c.conjuncts, Proper P part ∧ part.isAllOf = false := by
  cases h with
  | const value =>
      cases value
      · exact absurd rfl notFalse
      · simp [Condition.conjuncts]
  | proper proper =>
      cases proper with
      | leaf good => simp [Condition.conjuncts, isAllOf, Proper.leaf good]
      | allOf many proper flat =>
          intro part member
          exact ⟨proper part member, flat part member⟩
      | anyOf many proper flat =>
          simp [Condition.conjuncts, isAllOf, Proper.anyOf many proper flat]
      | negation proper single =>
          simp [Condition.conjuncts, isAllOf, Proper.negation proper single]

/-- The parts that a condition other than true adds to a disjunction can stand in one. -/
theorem Normal.disjuncts {c : Condition α} (h : Normal P c) (notTrue : c ≠ .const true) :
    ∀ part ∈ c.disjuncts, Proper P part ∧ part.isAnyOf = false := by
  cases h with
  | const value =>
      cases value
      · simp [Condition.disjuncts]
      · exact absurd rfl notTrue
  | proper proper =>
      cases proper with
      | leaf good => simp [Condition.disjuncts, isAnyOf, Proper.leaf good]
      | allOf many proper flat =>
          simp [Condition.disjuncts, isAnyOf, Proper.allOf many proper flat]
      | anyOf many proper flat =>
          intro part member
          exact ⟨proper part member, flat part member⟩
      | negation proper single =>
          simp [Condition.disjuncts, isAnyOf, Proper.negation proper single]

theorem two_le_length {parts : List (Condition α)} (notNil : parts ≠ [])
    (notOne : ∀ only, parts ≠ [only]) : 2 ≤ parts.length := by
  cases parts with
  | nil => exact absurd rfl notNil
  | cons first rest =>
      cases rest with
      | nil => exact absurd rfl (notOne first)
      | cons => simp

theorem Normal.all {children : List (Condition α)} (h : ∀ c ∈ children, Normal P c) :
    Normal P (Condition.all children) := by
  unfold Condition.all
  split
  · exact .const false
  · next noFalse =>
    have parts : ∀ part ∈ children.flatMap Condition.conjuncts,
        Proper P part ∧ part.isAllOf = false := by
      intro part member
      obtain ⟨c, hc, hpart⟩ := List.mem_flatMap.mp member
      have notFalse : c ≠ .const false := fun eq =>
        noFalse (List.any_eq_true.mpr ⟨c, hc, isFalse_iff.mpr eq⟩)
      exact (h c hc).conjuncts notFalse part hpart
    split
    · exact .const true
    · next only eq => exact .proper (parts only (by simp [eq])).1
    · next flat notNil notOne =>
      refine .proper (.allOf ?_ (fun c hc => (parts c hc).1) (fun c hc => (parts c hc).2))
      exact two_le_length notNil notOne

theorem Normal.any {children : List (Condition α)} (h : ∀ c ∈ children, Normal P c) :
    Normal P (Condition.any children) := by
  unfold Condition.any
  split
  · exact .const true
  · next noTrue =>
    have parts : ∀ part ∈ children.flatMap Condition.disjuncts,
        Proper P part ∧ part.isAnyOf = false := by
      intro part member
      obtain ⟨c, hc, hpart⟩ := List.mem_flatMap.mp member
      have notTrue : c ≠ .const true := fun eq =>
        noTrue (List.any_eq_true.mpr ⟨c, hc, isTrue_iff.mpr eq⟩)
      exact (h c hc).disjuncts notTrue part hpart
    split
    · exact .const false
    · next only eq => exact .proper (parts only (by simp [eq])).1
    · next flat notNil notOne =>
      refine .proper (.anyOf ?_ (fun c hc => (parts c hc).1) (fun c hc => (parts c hc).2))
      exact two_le_length notNil notOne

theorem Normal.negate {c : Condition α} (h : Normal P c) : Normal P (Condition.negate c) := by
  cases h with
  | const value => exact .const (!value)
  | proper proper =>
      cases proper with
      | leaf good => exact .proper (.negation (.leaf good) rfl)
      | allOf many proper flat => exact .proper (.negation (.allOf many proper flat) rfl)
      | anyOf many proper flat => exact .proper (.negation (.anyOf many proper flat) rfl)
      | negation proper single => exact .proper proper

/-- A built conjunction is constant only through its parts. -/
theorem Normal.all_eq_const {children : List (Condition α)} (h : ∀ c ∈ children, Normal P c)
    {b : Bool} (eq : Condition.all children = .const b) :
    (b = false ∧ .const false ∈ children) ∨ (b = true ∧ ∀ c ∈ children, c = .const true) := by
  unfold Condition.all at eq
  split at eq
  · next someFalse =>
    obtain ⟨c, hc, isFalse⟩ := List.any_eq_true.mp someFalse
    cases eq
    exact .inl ⟨rfl, isFalse_iff.mp isFalse ▸ hc⟩
  · next noFalse =>
    have parts (c : Condition α) (hc : c ∈ children) :
        ∀ part ∈ c.conjuncts, Proper P part ∧ part.isAllOf = false :=
      (h c hc).conjuncts fun eq => noFalse (List.any_eq_true.mpr ⟨c, hc, isFalse_iff.mpr eq⟩)
    split at eq
    · next noParts =>
      cases eq
      refine .inr ⟨rfl, ?_⟩
      intro c hc
      have none : c.conjuncts = [] := List.flatMap_eq_nil_iff.mp noParts c hc
      cases h c hc with
      | const value =>
          cases value
          · cases none
          · rfl
      | proper proper =>
          cases proper with
          | leaf | anyOf | negation => cases none
          | allOf many =>
              rw [Condition.conjuncts] at none
              simp [none] at many
    · next only single =>
      obtain ⟨c, hc, hpart⟩ := List.mem_flatMap.mp (single ▸ List.mem_singleton_self only)
      exact absurd eq ((parts c hc only hpart).1.ne_const b)
    · cases eq

/-- A built disjunction is constant only through its parts. -/
theorem Normal.any_eq_const {children : List (Condition α)} (h : ∀ c ∈ children, Normal P c)
    {b : Bool} (eq : Condition.any children = .const b) :
    (b = true ∧ .const true ∈ children) ∨ (b = false ∧ ∀ c ∈ children, c = .const false) := by
  unfold Condition.any at eq
  split at eq
  · next someTrue =>
    obtain ⟨c, hc, isTrue⟩ := List.any_eq_true.mp someTrue
    cases eq
    exact .inl ⟨rfl, isTrue_iff.mp isTrue ▸ hc⟩
  · next noTrue =>
    have parts (c : Condition α) (hc : c ∈ children) :
        ∀ part ∈ c.disjuncts, Proper P part ∧ part.isAnyOf = false :=
      (h c hc).disjuncts fun eq => noTrue (List.any_eq_true.mpr ⟨c, hc, isTrue_iff.mpr eq⟩)
    split at eq
    · next noParts =>
      cases eq
      refine .inr ⟨rfl, ?_⟩
      intro c hc
      have none : c.disjuncts = [] := List.flatMap_eq_nil_iff.mp noParts c hc
      cases h c hc with
      | const value =>
          cases value
          · rfl
          · cases none
      | proper proper =>
          cases proper with
          | leaf | allOf | negation => cases none
          | anyOf many =>
              rw [Condition.disjuncts] at none
              simp [none] at many
    · next only single =>
      obtain ⟨c, hc, hpart⟩ := List.mem_flatMap.mp (single ▸ List.mem_singleton_self only)
      exact absurd eq ((parts c hc only hpart).1.ne_const b)
    · cases eq

theorem Normal.negate_eq_const {c : Condition α} (h : Normal P c) {b : Bool}
    (eq : Condition.negate c = .const b) : c = .const !b := by
  cases h with
  | const value =>
      cases eq
      simp
  | proper proper =>
      cases proper with
      | leaf | allOf | anyOf => cases eq
      | negation proper =>
          rw [Condition.negate] at eq
          exact absurd eq (proper.ne_const b)

/-! ## Meaning over two truth values -/

mutual

/-- Whether a condition holds when its leaves are true or false as given. -/
def holds (value : α → Bool) : Condition α → Bool
  | .const b => b
  | .leaf test => value test
  | .allOf children => holdAll value children
  | .anyOf children => holdAny value children
  | .negation child => !holds value child

def holdAll (value : α → Bool) : List (Condition α) → Bool
  | [] => true
  | child :: rest => holds value child && holdAll value rest

def holdAny (value : α → Bool) : List (Condition α) → Bool
  | [] => false
  | child :: rest => holds value child || holdAny value rest

end

variable (value : α → Bool)

theorem holdAll_eq (children : List (Condition α)) :
    holdAll value children = children.all (holds value) := by
  induction children with
  | nil => rfl
  | cons child rest ih => simp [holdAll, ih]

theorem holdAny_eq (children : List (Condition α)) :
    holdAny value children = children.any (holds value) := by
  induction children with
  | nil => rfl
  | cons child rest ih => simp [holdAny, ih]

@[simp] theorem holds_const (b : Bool) : (Condition.const b).holds value = b := rfl

@[simp] theorem holds_leaf (test : α) : (Condition.leaf test).holds value = value test := rfl

@[simp] theorem holds_allOf (children : List (Condition α)) :
    (Condition.allOf children).holds value = children.all (holds value) :=
  holdAll_eq value children

@[simp] theorem holds_anyOf (children : List (Condition α)) :
    (Condition.anyOf children).holds value = children.any (holds value) :=
  holdAny_eq value children

@[simp] theorem holds_negation (child : Condition α) :
    (Condition.negation child).holds value = !child.holds value := rfl

theorem all_conjuncts (c : Condition α) (notFalse : c.isFalse = false) :
    c.conjuncts.all (holds value) = c.holds value := by
  cases c with
  | const b => cases b <;> simp_all [conjuncts, isFalse]
  | allOf children => simp [conjuncts]
  | leaf | anyOf | negation => simp [conjuncts]

theorem any_disjuncts (c : Condition α) (notTrue : c.isTrue = false) :
    c.disjuncts.any (holds value) = c.holds value := by
  cases c with
  | const b => cases b <;> simp_all [disjuncts, isTrue]
  | anyOf children => simp [disjuncts]
  | leaf | allOf | negation => simp [disjuncts]

/-- A built conjunction means the conjunction of its parts. -/
@[simp] theorem holds_all (children : List (Condition α)) :
    (all children).holds value = children.all (holds value) := by
  unfold all
  split
  · next someFalse =>
    obtain ⟨c, hc, isFalse⟩ := List.any_eq_true.mp someFalse
    rw [isFalse_iff.mp isFalse] at hc
    simp only [holds_const, Bool.false_eq, List.all_eq_false]
    exact ⟨_, hc, by simp⟩
  · next noFalse =>
    have flatten : (children.flatMap conjuncts).all (holds value) =
        children.all (holds value) := by
      rw [List.all_flatMap, Bool.eq_iff_iff, List.all_eq_true, List.all_eq_true]
      apply forall₂_congr
      intro c hc
      have notFalse : c.isFalse = false := by
        simpa using fun isFalse => noFalse (List.any_eq_true.mpr ⟨c, hc, isFalse⟩)
      rw [all_conjuncts value c notFalse]
    rw [← flatten]
    split
    · next eq => simp [eq]
    · next only eq => simp [eq]
    · simp

/-- A built disjunction means the disjunction of its parts. -/
@[simp] theorem holds_any (children : List (Condition α)) :
    (any children).holds value = children.any (holds value) := by
  unfold any
  split
  · next someTrue =>
    obtain ⟨c, hc, isTrue⟩ := List.any_eq_true.mp someTrue
    rw [isTrue_iff.mp isTrue] at hc
    simp only [holds_const, Bool.true_eq, List.any_eq_true]
    exact ⟨_, hc, by simp⟩
  · next noTrue =>
    have flatten : (children.flatMap disjuncts).any (holds value) =
        children.any (holds value) := by
      rw [List.any_flatMap, Bool.eq_iff_iff, List.any_eq_true, List.any_eq_true]
      refine exists_congr fun c => and_congr_right fun hc => ?_
      have notTrue : c.isTrue = false := by
        simpa using fun isTrue => noTrue (List.any_eq_true.mpr ⟨c, hc, isTrue⟩)
      rw [any_disjuncts value c notTrue]
    rw [← flatten]
    split
    · next eq => simp [eq]
    · next only eq => simp [eq]
    · simp

/-- A built negation means the negation. -/
@[simp] theorem holds_negate (c : Condition α) : (negate c).holds value = !c.holds value := by
  cases c <;> simp [negate]

/-! ## Renaming leaves -/

mutual

def map (f : α → β) : Condition α → Condition β
  | .const b => .const b
  | .leaf test => .leaf (f test)
  | .allOf children => .allOf (mapAll f children)
  | .anyOf children => .anyOf (mapAll f children)
  | .negation child => .negation (map f child)

def mapAll (f : α → β) : List (Condition α) → List (Condition β)
  | [] => []
  | child :: rest => map f child :: mapAll f rest

end

section

variable (f : α → β)

theorem mapAll_eq (children : List (Condition α)) : mapAll f children = children.map (map f) := by
  induction children with
  | nil => rfl
  | cons child rest ih => simp [mapAll, ih]

@[simp] theorem map_const (b : Bool) : (Condition.const b).map f = .const b := rfl

@[simp] theorem map_leaf (test : α) : (Condition.leaf test).map f = .leaf (f test) := rfl

@[simp] theorem map_allOf (children : List (Condition α)) :
    (Condition.allOf children).map f = .allOf (children.map (map f)) := by
  rw [map, mapAll_eq]

@[simp] theorem map_anyOf (children : List (Condition α)) :
    (Condition.anyOf children).map f = .anyOf (children.map (map f)) := by
  rw [map, mapAll_eq]

@[simp] theorem map_negation (child : Condition α) :
    (Condition.negation child).map f = .negation (child.map f) := rfl

theorem Proper.map_leaves {P : β → Prop} {c : Condition α} (h : Proper (fun test => P (f test)) c) :
    Proper P (c.map f) := by
  induction h with
  | leaf good => exact .leaf good
  | allOf many _ flat ih =>
      rw [map_allOf]
      refine .allOf (by simpa using many) (List.forall_mem_map.mpr ih) ?_
      refine List.forall_mem_map.mpr ?_
      intro c hc
      have notGroup := flat c hc
      cases c with
      | allOf => cases notGroup
      | const | leaf | anyOf | negation => simp [isAllOf]
  | anyOf many _ flat ih =>
      rw [map_anyOf]
      refine .anyOf (by simpa using many) (List.forall_mem_map.mpr ih) ?_
      refine List.forall_mem_map.mpr ?_
      intro c hc
      have notGroup := flat c hc
      cases c with
      | anyOf => cases notGroup
      | const | leaf | allOf | negation => simp [isAnyOf]
  | @negation child _ single ih =>
      refine .negation ih ?_
      cases child with
      | negation => cases single
      | const | leaf | allOf | anyOf => simp [isNegation]

theorem Normal.map_leaves {P : β → Prop} {c : Condition α} (h : Normal (fun test => P (f test)) c) :
    Normal P (c.map f) := by
  cases h with
  | const value => exact .const value
  | proper proper => exact .proper (proper.map_leaves f)

mutual

theorem holds_map (value : β → Bool) : ∀ c : Condition α,
    (c.map f).holds value = c.holds fun test => value (f test)
  | .const _ => rfl
  | .leaf _ => rfl
  | .allOf children => holdAll_mapAll value children
  | .anyOf children => holdAny_mapAll value children
  | .negation child => congrArg Bool.not (holds_map value child)

theorem holdAll_mapAll (value : β → Bool) : ∀ children : List (Condition α),
    holdAll value (mapAll f children) = holdAll (fun test => value (f test)) children
  | [] => rfl
  | child :: rest => by
    rw [mapAll, holdAll, holdAll, holds_map value child, holdAll_mapAll value rest]

theorem holdAny_mapAll (value : β → Bool) : ∀ children : List (Condition α),
    holdAny value (mapAll f children) = holdAny (fun test => value (f test)) children
  | [] => rfl
  | child :: rest => by
    rw [mapAll, holdAny, holdAny, holds_map value child, holdAny_mapAll value rest]

end

@[simp] theorem isFalse_map (c : Condition α) : (c.map f).isFalse = c.isFalse := by
  cases c <;> simp [isFalse]

@[simp] theorem isTrue_map (c : Condition α) : (c.map f).isTrue = c.isTrue := by
  cases c <;> simp [isTrue]

theorem conjuncts_map (c : Condition α) : (c.map f).conjuncts = c.conjuncts.map (map f) := by
  cases c with
  | const b => cases b <;> simp [conjuncts]
  | leaf | allOf | anyOf | negation => simp [conjuncts]

theorem disjuncts_map (c : Condition α) : (c.map f).disjuncts = c.disjuncts.map (map f) := by
  cases c with
  | const b => cases b <;> simp [disjuncts]
  | leaf | allOf | anyOf | negation => simp [disjuncts]

@[simp] theorem map_all (children : List (Condition α)) :
    (all children).map f = all (children.map (map f)) := by
  have parts : (children.map (map f)).flatMap conjuncts =
      (children.flatMap conjuncts).map (map f) := by
    simp only [List.flatMap_map, List.map_flatMap, conjuncts_map]
  have constant : (children.map (map f)).any isFalse = children.any isFalse := by
    simp [List.any_map, Function.comp_def]
  unfold all
  rw [parts, constant]
  split
  · rfl
  · cases children.flatMap conjuncts with
    | nil => rfl
    | cons first rest =>
        cases rest with
        | nil => rfl
        | cons => simp

@[simp] theorem map_any (children : List (Condition α)) :
    (any children).map f = any (children.map (map f)) := by
  have parts : (children.map (map f)).flatMap disjuncts =
      (children.flatMap disjuncts).map (map f) := by
    simp only [List.flatMap_map, List.map_flatMap, disjuncts_map]
  have constant : (children.map (map f)).any isTrue = children.any isTrue := by
    simp [List.any_map, Function.comp_def]
  unfold any
  rw [parts, constant]
  split
  · rfl
  · cases children.flatMap disjuncts with
    | nil => rfl
    | cons first rest =>
        cases rest with
        | nil => rfl
        | cons => simp

@[simp] theorem map_negate (c : Condition α) : (negate c).map f = negate (c.map f) := by
  cases c with
  | const b => simp [negate]
  | leaf | allOf | anyOf | negation => simp [negate]

end

end Pushdown.Condition
