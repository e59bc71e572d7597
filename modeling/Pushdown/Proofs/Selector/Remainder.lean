import Pushdown.Proofs.Query.Division
import Pushdown.Proofs.Selector.Printable

/-!
# Selectors that ask for no remainder

An operator for remainders is read from its keyword only, so a selector in whose JSON the keyword
stands nowhere asks for no remainder.
-/

namespace Pushdown

mutual

/-- The word is a key of an object inside the value. -/
def Json.mentions (word : String) : Json → Bool
  | .array items => Json.someMention word items
  | .object members => Json.membersMention word members
  | _ => false

def Json.someMention (word : String) : List Json → Bool
  | [] => false
  | item :: rest => Json.mentions word item || Json.someMention word rest

def Json.membersMention (word : String) : List (String × Json) → Bool
  | [] => false
  | (key, v) :: rest => key == word || Json.mentions word v || Json.membersMention word rest

end

theorem Selector.usesModulo_conjoin (children : List Selector) :
    (Selector.conjoin children).usesModulo = Selector.someUsesModulo children := by
  have parts (child : Selector) : Selector.someUsesModulo child.parts = child.usesModulo := by
    cases child with
    | const value => cases value <;> rfl
    | allOf => rfl
    | anyOf | noneOf | field => exact Bool.or_false _
  have flat : Selector.someUsesModulo (children.flatMap Selector.parts) =
      Selector.someUsesModulo children := by
    induction children with
    | nil => rfl
    | cons first rest ih =>
        rw [List.flatMap_cons, Selector.someUsesModulo_append, parts, ih, Selector.someUsesModulo]
  rw [← flat, Selector.conjoin]
  cases children.flatMap Selector.parts with
  | nil => rfl
  | cons first rest =>
      cases rest with
      | nil => exact (Bool.or_false _).symm
      | cons => rfl

namespace Operator

theorem someUsesModulo_orNever (operators : List Operator) :
    someUsesModulo (orNever operators) = someUsesModulo operators := by
  cases operators <;> rfl

theorem usesModulo_ofScalarOperand {keyword : OperatorKey} (other : keyword ≠ .modulo)
    (options : String) (operand : Json) :
    (ofScalarOperand keyword options operand).usesModulo = false := by
  cases keyword with
  | modulo => exact absurd rfl other
  | equals | differs | compares | present | element | negation => rfl
  | isIn | notIn | hasSize => cases operand <;> rfl
  | hasKind =>
      simp only [ofScalarOperand, ofKinds]
      split <;> rfl
  | regex =>
      simp only [ofScalarOperand, ofRegex.eq_def]
      split
      · split <;> rfl
      · rfl

/-- Under another key an operator is for remainders only if criteria inside it are. -/
theorem usesModulo_ofMember {key : String} (other : key ≠ OperatorKey.modulo.key)
    (options : String) {operand : Json}
    (inside : ∀ members, operand = .object members →
      Selector.someUsesModulo (Selector.ofMembers members) = false ∧
        someUsesModulo (ofMembers (optionsOf members) members) = false) :
    (ofMember options key operand).usesModulo = false := by
  cases known : OperatorKey.ofKey? key with
  | none =>
      rw [ofMember_unknown known]
      rfl
  | some keyword =>
      have noModulo : keyword ≠ .modulo := by
        rintro rfl
        exact other (OperatorKey.key_of_ofKey? known).symm
      by_cases scalar : operand.isObject = false ∨ (keyword ≠ .element ∧ keyword ≠ .negation)
      · rw [ofMember_scalar known scalar]
        exact usesModulo_ofScalarOperand noModulo options operand
      · obtain ⟨someObject, criteria⟩ := not_or.mp scalar
        obtain ⟨members, object⟩ := operand.exists_members (by simpa using someObject)
        obtain ⟨selectors, operators⟩ := inside members object
        subst object
        by_cases element : keyword = .element
        · subst element
          rw [ofMember_element known]
          split
          · rfl
          · split
            · rw [usesModulo, someUsesModulo_orNever, operators]
            · rw [usesModulo, Selector.usesModulo_conjoin, selectors]
        · obtain rfl : keyword = .negation := by
            by_contra negation
            exact criteria ⟨element, negation⟩
          rw [ofMember_negation known]
          split
          · rw [usesModulo, someUsesModulo_orNever, operators]
          · rfl

end Operator

mutual

/-- A selector asks for no remainder if its JSON does not mention the keyword. -/
theorem Selector.usesModulo_ofJson : ∀ {v : Json},
    v.mentions OperatorKey.modulo.key = false → (Selector.ofJson v).usesModulo = false
  | .object _, h => by
    rw [Selector.ofJson, Selector.usesModulo_conjoin]
    exact (Selector.usesModulo_ofMembers h).1
  | .null, _ | .bool _, _ | .number _, _ | .string _, _ | .array _, _ => rfl

theorem Selector.usesModulo_ofItems : ∀ {items : List Json},
    Json.someMention OperatorKey.modulo.key items = false →
      Selector.someUsesModulo (Selector.ofItems items) = false
  | [], _ => rfl
  | _ :: _, h => by
    rw [Json.someMention, Bool.or_eq_false_iff] at h
    rw [Selector.ofItems, Selector.someUsesModulo, Selector.usesModulo_ofJson h.1,
      Selector.usesModulo_ofItems h.2, Bool.or_false]

/-- The same of members, read as selectors and as operators. -/
theorem Selector.usesModulo_ofMembers : ∀ {members : List (String × Json)},
    Json.membersMention OperatorKey.modulo.key members = false →
      Selector.someUsesModulo (Selector.ofMembers members) = false ∧
        ∀ options, Operator.someUsesModulo (Operator.ofMembers options members) = false
  | [], _ => ⟨rfl, fun _ => rfl⟩
  | (key, v) :: rest, h => by
    rw [Json.membersMention, Bool.or_eq_false_iff, Bool.or_eq_false_iff] at h
    obtain ⟨⟨other, value⟩, members⟩ := h
    have other : key ≠ OperatorKey.modulo.key := by simpa using other
    obtain ⟨selectors, operators⟩ := Selector.usesModulo_ofMembers members
    constructor
    · rw [Selector.ofMembers, Selector.someUsesModulo, selectors, Bool.or_false]
      exact Selector.usesModulo_ofMember key value
    · intro options
      rw [Operator.ofMembers]
      split
      · exact operators options
      · rw [Operator.someUsesModulo, operators options, Bool.or_false]
        apply Operator.usesModulo_ofMember other options
        intro inner object
        subst object
        exact ⟨(Selector.usesModulo_ofMembers value).1, (Selector.usesModulo_ofMembers value).2 _⟩

theorem Selector.usesModulo_ofMember (key : String) : ∀ {v : Json},
    v.mentions OperatorKey.modulo.key = false → (Selector.ofMember key v).usesModulo = false
  | .array items, h => by
    have children := Selector.usesModulo_ofItems h
    rw [Selector.ofMember]
    split
    · split
      · rw [Selector.usesModulo_conjoin, children]
      · split
        · rfl
        · exact children
      · split
        · rfl
        · exact children
      · rfl
    · rfl
  | .object members, h => by
    obtain ⟨children, operators⟩ := Selector.usesModulo_ofMembers h
    rw [Selector.ofMember]
    split
    · split
      · split
        · rfl
        · rw [Selector.usesModulo, Selector.someUsesModulo, Selector.usesModulo_conjoin, children]
          rfl
      · rfl
    · split
      · rfl
      · split
        · rw [Selector.usesModulo, Operator.someUsesModulo_orNever, operators]
        · rfl
  | .null, _ | .bool _, _ | .number _, _ | .string _, _ => by
    change Selector.usesModulo (if isKeyword key = true then .const false
      else .field (.ofDotted key) [.equals _]) = false
    split <;> rfl

end

end Pushdown
