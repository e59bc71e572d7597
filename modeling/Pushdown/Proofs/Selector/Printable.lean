import Pushdown.Proofs.Json.Members
import Pushdown.Proofs.Number.Whole
import Pushdown.Selector.Printer

/-!
# What selectors that are read look like

A selector that is read from JSON has more structure than its type says: field paths are spelled by
their texts and are no keywords, kinds stand in their order and once each, the numbers of a
remainder are whole, and the operators of one object have distinct keys unless one of them can never
hold. Printing relies on this, so it is stated as `Printable` and proved of everything that is read.
-/

namespace Pushdown

/-! ## Keys -/

namespace OperatorKey

theorem ofKey?_key (keyword : OperatorKey) : ofKey? keyword.key = some keyword := by
  cases keyword with
  | compares comparison => cases comparison <;> decide
  | equals | differs | isIn | notIn | present | hasKind | hasSize | modulo | regex | element
  | negation => decide

theorem key_of_ofKey? {key : String} {keyword : OperatorKey} (h : ofKey? key = some keyword) :
    keyword.key = key := by
  simpa using List.find?_some h

/-- The keys of operators are keywords that combine no selectors and give no options. -/
theorem key_apart (keyword : OperatorKey) :
    isKeyword keyword.key = true ∧ keyword.key ≠ optionsKey ∧
      ¬ (keyword.key = "$and" ∨ keyword.key = "$or" ∨ keyword.key = "$nor") := by
  cases keyword with
  | compares comparison => cases comparison <;> decide
  | equals | differs | isIn | notIn | present | hasKind | hasSize | modulo | regex | element
  | negation => decide

end OperatorKey

namespace Operator

def keyword : Operator → OperatorKey
  | .equals _ => .equals
  | .differs _ => .differs
  | .compares comparison _ => .compares comparison
  | .isIn _ | .never => .isIn
  | .notIn _ => .notIn
  | .present _ => .present
  | .hasKind _ => .hasKind
  | .hasSize _ => .hasSize
  | .modulo _ _ => .modulo
  | .regex _ => .regex
  | .element _ | .elementSelected _ | .elementOther _ => .element
  | .negation _ => .negation

def key (operator : Operator) : String := operator.keyword.key

/-- Operators that can stand in one object: no two have the same key, or there is one that never
holds. -/
def Mergeable (operators : List Operator) : Prop :=
  operators.any isNever = true ∨ (operators.map key).Nodup

/-- No two operators have the same key, apart from those that never hold. -/
def KeysApart (operators : List Operator) : Prop :=
  ((operators.filter fun operator => !operator.isNever).map key).Nodup

theorem KeysApart.mergeable {operators : List Operator} (apart : KeysApart operators) :
    Mergeable operators := by
  by_cases someNever : operators.any isNever = true
  · exact .inl someNever
  · have whole : (operators.filter fun operator => !operator.isNever) = operators := by
      rw [List.filter_eq_self]
      intro operator inside
      rw [List.any_eq_true, not_exists] at someNever
      simpa using fun never => someNever operator ⟨inside, never⟩
    rw [KeysApart, whole] at apart
    exact .inr apart

end Operator

/-! ## Printable selectors -/

mutual

/-- The selector is spelled as one that is read. -/
def Selector.Printable : Selector → Prop
  | .const _ => True
  | .allOf children | .anyOf children | .noneOf children => Selector.AllPrintable children
  | .field path operators =>
    isKeyword path.dotted = false ∧ FieldPath.ofDotted path.dotted = path ∧
      Operator.AllPrintable operators

def Selector.AllPrintable : List Selector → Prop
  | [] => True
  | child :: rest => Selector.Printable child ∧ Selector.AllPrintable rest

def Operator.Printable : Operator → Prop
  | .hasKind kinds => kinds ≠ [] ∧ Kind.all.filter kinds.contains = kinds
  | .modulo divisor remainder =>
    divisor ≠ 0 ∧ Operator.wholeOf (.ofInt divisor) = divisor ∧
      Operator.wholeOf (.ofInt remainder) = remainder
  | .element operators | .negation operators =>
    operators ≠ [] ∧ Operator.Mergeable operators ∧ Operator.AllPrintable operators
  | .elementSelected selector => Selector.Printable selector
  | .elementOther criteria => criteria.isObject = false
  | _ => True

def Operator.AllPrintable : List Operator → Prop
  | [] => True
  | operator :: rest => Operator.Printable operator ∧ Operator.AllPrintable rest

end

theorem Selector.allPrintable_iff {selectors : List Selector} :
    Selector.AllPrintable selectors ↔ ∀ selector ∈ selectors, selector.Printable := by
  induction selectors with
  | nil => simp [Selector.AllPrintable]
  | cons first rest ih => rw [Selector.AllPrintable, ih, List.forall_mem_cons]

theorem Operator.allPrintable_iff {operators : List Operator} :
    Operator.AllPrintable operators ↔ ∀ operator ∈ operators, operator.Printable := by
  induction operators with
  | nil => simp [Operator.AllPrintable]
  | cons first rest ih => rw [Operator.AllPrintable, ih, List.forall_mem_cons]

/-! ## Field paths -/

theorem splitOn_ne_nil (separator : Char) (text : List Char) : splitOn separator text ≠ [] := by
  induction text with
  | nil => exact List.cons_ne_nil _ _
  | cons c rest ih =>
      rw [splitOn]
      split
      · exact List.cons_ne_nil _ _
      · split <;> exact List.cons_ne_nil _ _

theorem joinWith_cons {separator first : String} {rest : List String} (more : rest ≠ []) :
    joinWith separator (first :: rest) = first ++ separator ++ joinWith separator rest := by
  cases rest with
  | nil => exact absurd rfl more
  | cons => rfl

theorem joinWith_splitOn (text : List Char) :
    joinWith "." ((splitOn '.' text).map String.ofList) = String.ofList text := by
  induction text with
  | nil => rfl
  | cons c rest ih =>
      have front (piece : List Char) :
          String.ofList (c :: piece) = String.ofList [c] ++ String.ofList piece := by
        rw [← String.toList_inj]
        simp
      rw [splitOn]
      split
      · next dot =>
        rw [List.map_cons, joinWith_cons (by simp [splitOn_ne_nil]), ih, front rest, dot]
        rfl
      · cases pieces : splitOn '.' rest with
        | nil => exact absurd pieces (splitOn_ne_nil '.' rest)
        | cons piece others =>
            rw [pieces, List.map_cons] at ih
            rw [front rest, ← ih]
            cases others with
            | nil => exact front piece
            | cons next others =>
                change String.ofList (c :: piece) ++ "." ++ _ = _ ++ (_ ++ "." ++ _)
                rw [front piece, String.append_assoc, String.append_assoc, String.append_assoc]

/-- A path that was read from a text is spelled by that text. -/
theorem FieldPath.dotted_ofDotted (text : String) : (FieldPath.ofDotted text).dotted = text := by
  rw [FieldPath.dotted, FieldPath.ofDotted, joinWith_splitOn, String.ofList_toList]

/-! ## Operators that are read -/

namespace Operator

theorem ofScalarOperand_never_or (keyword : OperatorKey) (options : String) (operand : Json) :
    ofScalarOperand keyword options operand = .never ∨
      (ofScalarOperand keyword options operand).keyword = keyword := by
  cases keyword with
  | equals | differs | compares | present | element => exact .inr rfl
  | negation => exact .inl rfl
  | isIn | notIn | hasSize => cases operand <;> first | exact .inl rfl | exact .inr rfl
  | hasKind =>
      simp only [ofScalarOperand, ofKinds]
      split
      · exact .inl rfl
      · exact .inr rfl
  | modulo =>
      simp only [ofScalarOperand, ofModulo.eq_def]
      split
      · split
        · exact .inl rfl
        · exact .inr rfl
      · exact .inl rfl
  | regex =>
      simp only [ofScalarOperand, ofRegex.eq_def]
      split
      · split
        · exact .inr rfl
        · exact .inl rfl
      · exact .inl rfl

theorem ofMember_unknown {options key : String} (unknown : OperatorKey.ofKey? key = none)
    (operand : Json) : ofMember options key operand = .never := by
  cases operand <;> rw [ofMember.eq_def, unknown]

theorem ofMember_scalar {options key : String} {keyword : OperatorKey}
    (known : OperatorKey.ofKey? key = some keyword) {operand : Json}
    (scalar : operand.isObject = false ∨ (keyword ≠ .element ∧ keyword ≠ .negation)) :
    ofMember options key operand = ofScalarOperand keyword options operand := by
  cases operand with
  | object members =>
      obtain noObject | ⟨noElement, noNegation⟩ := scalar
      · cases noObject
      · rw [ofMember, known]
        cases keyword <;> first | rfl | contradiction
  | null | bool | number | string | array => rw [ofMember.eq_def, known]

theorem ofMember_element {options key : String}
    (known : OperatorKey.ofKey? key = some .element) (members : List (String × Json)) :
    ofMember options key (.object members) =
      if members.isEmpty then .never
      else if isElementOperators members then
        .element (orNever (ofMembers (optionsOf members) members))
      else .elementSelected (.conjoin (Selector.ofMembers members)) := by
  rw [ofMember, known]

theorem ofMember_negation {options key : String}
    (known : OperatorKey.ofKey? key = some .negation) (members : List (String × Json)) :
    ofMember options key (.object members) =
      if !members.isEmpty && members.all (fun member => isKeyword member.1) then
        .negation (orNever (ofMembers (optionsOf members) members))
      else .never := by
  rw [ofMember, known]

/-- An operator that was read under a key is printed under it, unless it never holds. -/
theorem ofMember_never_or (options key : String) (operand : Json) :
    ofMember options key operand = .never ∨ (ofMember options key operand).key = key := by
  cases known : OperatorKey.ofKey? key with
  | none => exact .inl (ofMember_unknown known operand)
  | some keyword =>
      have same := OperatorKey.key_of_ofKey? known
      by_cases scalar : operand.isObject = false ∨ (keyword ≠ .element ∧ keyword ≠ .negation)
      · rw [ofMember_scalar known scalar]
        apply (ofScalarOperand_never_or keyword options operand).imp_right
        intro printed
        rw [Operator.key, printed, same]
      · cases operand with
        | object members =>
            by_cases element : keyword = .element
            · subst element
              rw [ofMember_element known]
              split
              · exact .inl rfl
              · split <;> exact .inr same
            · by_cases negation : keyword = .negation
              · subst negation
                rw [ofMember_negation known]
                split
                · exact .inr same
                · exact .inl rfl
              · exact absurd (.inr ⟨element, negation⟩) scalar
        | null | bool | number | string | array => exact absurd (.inl rfl) scalar

theorem keys_ofMembers (options : String) (members : List (String × Json)) :
    (((ofMembers options members).filter fun operator => !operator.isNever).map key).Sublist
      (Json.keys members) := by
  induction members with
  | nil => exact .refl _
  | cons member rest ih =>
      rw [ofMembers]
      split
      · exact ih.cons member.1
      · rw [List.filter_cons]
        obtain never | printed := ofMember_never_or options member.1 member.2
        · rw [never]
          exact ih.cons member.1
        · split
          · rw [List.map_cons, printed]
            exact ih.cons_cons member.1
          · exact ih.cons member.1

/-- Operators that were read from one object have distinct keys, as the members of the object
have. -/
theorem keysApart_orNever {options : String} {members : List (String × Json)}
    (distinct : (Json.keys members).Nodup) :
    KeysApart (orNever (ofMembers options members)) := by
  have apart : KeysApart (ofMembers options members) :=
    (keys_ofMembers options members).nodup distinct
  cases operators : ofMembers options members with
  | nil => exact List.nodup_nil
  | cons first rest =>
      rw [operators] at apart
      exact apart

theorem orNever_ne_nil (operators : List Operator) : orNever operators ≠ [] := by
  cases operators <;> exact List.cons_ne_nil _ _

end Operator

/-! ## Joined selectors -/

namespace Selector

/-- Neither a conjunction nor the constant true, so that it stays as it is when selectors are
joined. -/
def isPart : Selector → Bool
  | .allOf _ | .const true => false
  | _ => true

theorem mem_parts {selector part : Selector} (member : part ∈ selector.parts) :
    (∃ children, selector = .allOf children ∧ part ∈ children) ∨
      (part = selector ∧ selector.isPart = true) := by
  cases selector with
  | const value =>
      cases value
      · exact .inr ⟨List.mem_singleton.mp member, rfl⟩
      · cases member
  | allOf children => exact .inl ⟨children, rfl, member⟩
  | anyOf | noneOf | field => exact .inr ⟨List.mem_singleton.mp member, rfl⟩

/-- Joined selectors are constantly true, or one part of them, or the conjunction of at least two
parts. -/
theorem conjoin_of {P : Selector → Prop} {children : List Selector} (always : P (.const true))
    (only : ∀ part ∈ children.flatMap parts, P part)
    (several : 2 ≤ (children.flatMap parts).length → P (.allOf (children.flatMap parts))) :
    P (conjoin children) := by
  rw [conjoin]
  cases flat : children.flatMap parts with
  | nil => exact always
  | cons first rest =>
      rw [flat] at only several
      cases rest with
      | nil => exact only first List.mem_cons_self
      | cons => exact several (Nat.le_add_left 2 _)

end Selector

/-! ## What is passed on to selectors that are read -/

/-- The operators of one object: there is one, their keys are distinct, and each has a property. -/
structure Operator.Group (Q : Operator → Prop) (operators : List Operator) : Prop where
  some : operators ≠ []
  apart : Operator.KeysApart operators
  each : ∀ operator ∈ operators, Q operator

/-- The property of each operator that is read is the property of a group of them. -/
theorem Operator.Group.orNever {Q : Operator → Prop} (never : Q .never) (options : String)
    (members : List (String × Json)) (distinct : (Json.keys members).Nodup)
    (each : ∀ operator ∈ Operator.ofMembers options members, Q operator) :
    Operator.Group Q (Operator.orNever (Operator.ofMembers options members)) := by
  refine ⟨Operator.orNever_ne_nil _, Operator.keysApart_orNever distinct, ?_⟩
  cases operators : Operator.ofMembers options members with
  | nil => exact List.forall_mem_singleton.mpr never
  | cons first rest =>
      rw [operators] at each
      exact each

/-- Properties of selectors and operators that are kept by every way in which reading builds
them. -/
structure Selector.Inherited (P : Selector → Prop) (Q : Operator → Prop) : Prop where
  const : ∀ value, P (.const value)
  conjoin : ∀ {children}, (∀ child ∈ children, P child) → P (.conjoin children)
  anyOf : ∀ {children}, children ≠ [] → (∀ child ∈ children, P child) → P (.anyOf children)
  noneOf : ∀ {children}, children ≠ [] → (∀ child ∈ children, P child) → P (.noneOf children)
  field : ∀ {key operators}, isKeyword key = false → Operator.Group Q operators →
    P (.field (.ofDotted key) operators)
  scalar : ∀ keyword options operand, (keyword = .element → operand.isObject = false) →
    Q (.ofScalarOperand keyword options operand)
  element : ∀ {operators}, Operator.Group Q operators → Q (.element operators)
  elementSelected : ∀ {selector}, P selector → Q (.elementSelected selector)
  negation : ∀ {operators}, Operator.Group Q operators → Q (.negation operators)

namespace Selector.Inherited

variable {P : Selector → Prop} {Q : Operator → Prop}

theorem never (inherited : Inherited P Q) : Q .never :=
  inherited.scalar .negation "" .null fun other => OperatorKey.noConfusion other

theorem equals (inherited : Inherited P Q) {key : String} (noKeyword : isKeyword key = false)
    (operand : Json) : P (.field (.ofDotted key) [.equals operand]) := by
  have equals : Q (.equals operand) :=
    inherited.scalar .equals "" operand fun other => OperatorKey.noConfusion other
  exact inherited.field noKeyword
    ⟨List.cons_ne_nil _ _, List.nodup_singleton _, List.forall_mem_singleton.mpr equals⟩

mutual

/-- Whatever is inherited holds of every selector that is read. -/
theorem ofJson (inherited : Inherited P Q) : ∀ v : Json, v.WellFormed → P (Selector.ofJson v)
  | .object members, h => inherited.conjoin (inherited.ofMembers members h.2)
  | .null, _ | .bool _, _ | .number _, _ | .string _, _ | .array _, _ => inherited.const false

theorem ofItems (inherited : Inherited P Q) : ∀ items : List Json,
    Json.WellFormedItems items →
    ∀ selector ∈ Selector.ofItems items, P selector
  | [], _ => List.forall_mem_nil _
  | item :: rest, h =>
    List.forall_mem_cons.mpr ⟨inherited.ofJson item h.1, inherited.ofItems rest h.2⟩

theorem ofMembers (inherited : Inherited P Q) : ∀ members : List (String × Json),
    Json.WellFormedMembers members →
    ∀ selector ∈ Selector.ofMembers members, P selector
  | [], _ => List.forall_mem_nil _
  | (key, operand) :: rest, h =>
    List.forall_mem_cons.mpr ⟨inherited.ofMember key operand h.1, inherited.ofMembers rest h.2⟩

theorem ofMember (inherited : Inherited P Q) (key : String) : ∀ v : Json, v.WellFormed →
    P (Selector.ofMember key v)
  | .array items, h => by
    have children := inherited.ofItems items h
    have some (notEmpty : ¬ items.isEmpty = true) : Selector.ofItems items ≠ [] := by
      cases items with
      | nil => exact absurd rfl notEmpty
      | cons => exact List.cons_ne_nil _ _
    rw [Selector.ofMember]
    split
    · split
      · exact inherited.conjoin children
      · split
        · exact inherited.const false
        · next notEmpty => exact inherited.anyOf (some notEmpty) children
      · split
        · exact inherited.const true
        · next notEmpty => exact inherited.noneOf (some notEmpty) children
      · exact inherited.const false
    · next noKeyword => exact inherited.equals (Bool.eq_false_iff.mpr noKeyword) (.array items)
  | .object members, h => by
    have children := inherited.ofMembers members h.2
    have operators := Operator.Group.orNever inherited.never _ members h.1.nodup
      (inherited.operators (optionsOf members) members h.2)
    rw [Selector.ofMember]
    split
    · split
      · split
        · exact inherited.const false
        · exact inherited.noneOf (List.cons_ne_nil _ _)
            (List.forall_mem_singleton.mpr (inherited.conjoin children))
      · exact inherited.const false
    · next noKeyword =>
      rw [Bool.not_eq_true] at noKeyword
      split
      · exact inherited.field noKeyword
          (Operator.Group.orNever inherited.never "" [] List.nodup_nil (List.forall_mem_nil _))
      · split
        · exact inherited.field noKeyword operators
        · exact inherited.equals noKeyword (.object members)
  | .null, _ | .bool _, _ | .number _, _ | .string _, _ => by
    change P (if isKeyword key = true then .const false else .field (.ofDotted key) [.equals _])
    split
    · exact inherited.const false
    · next noKeyword => exact inherited.equals (Bool.eq_false_iff.mpr noKeyword) _

theorem operators (inherited : Inherited P Q) (options : String) :
    ∀ members : List (String × Json), Json.WellFormedMembers members →
      ∀ operator ∈ Operator.ofMembers options members, Q operator
  | [], _ => List.forall_mem_nil _
  | (key, operand) :: rest, h => by
    rw [Operator.ofMembers]
    split
    · exact inherited.operators options rest h.2
    · exact List.forall_mem_cons.mpr
        ⟨inherited.operator options key operand h.1, inherited.operators options rest h.2⟩

theorem operator (inherited : Inherited P Q) (options key : String) :
    ∀ v : Json, v.WellFormed → Q (Operator.ofMember options key v)
  | .object members, h => by
    have children := inherited.ofMembers members h.2
    have operators := Operator.Group.orNever inherited.never _ members h.1.nodup
      (inherited.operators (optionsOf members) members h.2)
    rw [Operator.ofMember]
    split
    · split
      · exact inherited.never
      · split
        · exact inherited.element operators
        · exact inherited.elementSelected (inherited.conjoin children)
    · split
      · exact inherited.negation operators
      · exact inherited.never
    · next keyword noElement noNegation known =>
      exact inherited.scalar keyword options (.object members)
        fun element => absurd element noElement
    · exact inherited.never
  | .null, _ | .bool _, _ | .number _, _ | .string _, _ | .array _, _ => by
    cases known : OperatorKey.ofKey? key with
    | none =>
        rw [Operator.ofMember_unknown known]
        exact inherited.never
    | some keyword =>
        rw [Operator.ofMember_scalar known (.inl rfl)]
        exact inherited.scalar keyword options _ fun _ => rfl

end

end Selector.Inherited

/-! ## What is read is printable -/

namespace Operator

theorem printable_ofKinds (operand : Json) : (ofKinds operand).Printable := by
  simp only [ofKinds]
  generalize ((operand.items?.getD [operand]).filterMap Kind.resolve?).flatten = named
  have settled : Kind.all.filter (Kind.all.filter named.contains).contains =
      Kind.all.filter named.contains := by
    apply List.filter_congr
    intro kind member
    simp [member]
  cases kinds : Kind.all.filter named.contains with
  | nil => trivial
  | cons first rest => exact ⟨List.cons_ne_nil _ _, kinds ▸ settled⟩

theorem printable_ofScalarOperand (keyword : OperatorKey) (options : String) {operand : Json}
    (scalar : keyword = .element → operand.isObject = false) :
    (ofScalarOperand keyword options operand).Printable := by
  cases keyword with
  | equals | differs | compares | present | negation => trivial
  | element => exact scalar rfl
  | isIn | notIn | hasSize => cases operand <;> trivial
  | hasKind => exact printable_ofKinds operand
  | modulo =>
      simp only [ofScalarOperand, ofModulo.eq_def]
      split
      · split
        · trivial
        · next nonzero => exact ⟨nonzero, wholeOf_ofInt _, wholeOf_ofInt _⟩
      · trivial
  | regex =>
      simp only [ofScalarOperand, ofRegex.eq_def]
      split
      · split <;> trivial
      · trivial

end Operator

theorem Selector.printable_conjoin {children : List Selector}
    (h : Selector.AllPrintable children) : (Selector.conjoin children).Printable := by
  rw [Selector.allPrintable_iff] at h
  have parts : ∀ part ∈ children.flatMap Selector.parts, part.Printable := by
    intro part member
    obtain ⟨child, inside, member⟩ := List.mem_flatMap.mp member
    obtain ⟨inner, rfl, member⟩ | ⟨rfl, -⟩ := Selector.mem_parts member
    · exact Selector.allPrintable_iff.mp (h _ inside) part member
    · exact h part inside
  exact Selector.conjoin_of trivial parts fun _ => Selector.allPrintable_iff.mpr parts

/-- A field path that is read is spelled by its key. -/
theorem Selector.printable_field {key : String} (noKeyword : isKeyword key = false)
    {operators : List Operator} (h : Operator.AllPrintable operators) :
    (Selector.field (.ofDotted key) operators).Printable := by
  have spelled := FieldPath.dotted_ofDotted key
  exact ⟨by rw [spelled, noKeyword], by rw [spelled], h⟩

/-- Being printable is inherited. -/
theorem Selector.printable_inherited :
    Selector.Inherited Selector.Printable Operator.Printable where
  const _ := trivial
  conjoin h := Selector.printable_conjoin (Selector.allPrintable_iff.mpr h)
  anyOf _ h := Selector.allPrintable_iff.mpr h
  noneOf _ h := Selector.allPrintable_iff.mpr h
  field noKeyword group :=
    Selector.printable_field noKeyword (Operator.allPrintable_iff.mpr group.each)
  scalar keyword options _ scalar := Operator.printable_ofScalarOperand keyword options scalar
  element group :=
    ⟨group.some, group.apart.mergeable, Operator.allPrintable_iff.mpr group.each⟩
  elementSelected h := h
  negation group :=
    ⟨group.some, group.apart.mergeable, Operator.allPrintable_iff.mpr group.each⟩

/-- A selector that is read from well-formed JSON is printable. -/
theorem Selector.printable_ofJson (v : Json) (h : v.WellFormed) : (Selector.ofJson v).Printable :=
  Selector.printable_inherited.ofJson v h

end Pushdown
