import Pushdown.Proofs.Query.Residual
import Pushdown.Proofs.Selector.Merging

/-!
# Trees of selectors

The matcher, the printer and the division of a selector rely on the shape of the trees that reading
builds: conjunctions are flat and join at least two selectors, no list of selectors or operators is
empty, no path is a keyword, kinds are in order, no divisor is zero, and operators that stand
together have keys of their own. `WellBuilt` says this of a tree at every depth. Reading any value
builds such a tree, and what remains when such a tree is divided is such a tree again.
-/

namespace Pushdown

/-- The kinds ascend in the order of all kinds, so that none occurs twice. -/
def Kind.Ascending (kinds : List Kind) : Prop :=
  kinds.Pairwise fun kind later => Kind.all.idxOf kind < Kind.all.idxOf later

mutual

/-- The tree has the shape that reading builds. -/
def Selector.WellBuilt : Selector → Prop
  | .const _ => True
  | .allOf children =>
    2 ≤ children.length ∧ (∀ child ∈ children, child.isPart = true) ∧
      Selector.AllWellBuilt children
  | .anyOf children | .noneOf children => children ≠ [] ∧ Selector.AllWellBuilt children
  | .field path operators =>
    isKeyword path.dotted = false ∧ operators ≠ [] ∧ Operator.KeysApart operators ∧
      Operator.AllWellBuilt operators

def Selector.AllWellBuilt : List Selector → Prop
  | [] => True
  | child :: rest => Selector.WellBuilt child ∧ Selector.AllWellBuilt rest

def Operator.WellBuilt : Operator → Prop
  | .hasKind kinds => kinds ≠ [] ∧ Kind.Ascending kinds
  | .modulo divisor _ => divisor ≠ 0
  | .element operators | .negation operators =>
    operators ≠ [] ∧ Operator.KeysApart operators ∧ Operator.AllWellBuilt operators
  | .elementSelected selector => Selector.WellBuilt selector
  | _ => True

def Operator.AllWellBuilt : List Operator → Prop
  | [] => True
  | operator :: rest => Operator.WellBuilt operator ∧ Operator.AllWellBuilt rest

end

theorem Selector.allWellBuilt_iff {selectors : List Selector} :
    Selector.AllWellBuilt selectors ↔ ∀ selector ∈ selectors, selector.WellBuilt := by
  induction selectors with
  | nil => simp [Selector.AllWellBuilt]
  | cons first rest ih => rw [Selector.AllWellBuilt, ih, List.forall_mem_cons]

theorem Operator.allWellBuilt_iff {operators : List Operator} :
    Operator.AllWellBuilt operators ↔ ∀ operator ∈ operators, operator.WellBuilt := by
  induction operators with
  | nil => simp [Operator.AllWellBuilt]
  | cons first rest ih => rw [Operator.AllWellBuilt, ih, List.forall_mem_cons]

/-! ## Reading -/

theorem Operator.Group.wellBuilt {operators : List Operator}
    (group : Operator.Group Operator.WellBuilt operators) :
    operators ≠ [] ∧ Operator.KeysApart operators ∧ Operator.AllWellBuilt operators :=
  ⟨group.some, group.apart, Operator.allWellBuilt_iff.mpr group.each⟩

theorem Operator.keysApart_singleton (operator : Operator) : Operator.KeysApart [operator] := by
  have part : ([operator].filter fun operator => !operator.isNever).Sublist [operator] :=
    List.filter_sublist
  exact (part.map Operator.key).nodup (List.nodup_singleton _)

theorem Kind.ascending_filter (p : Kind → Bool) : Kind.Ascending (Kind.all.filter p) := by
  have all : Kind.Ascending Kind.all := by
    unfold Kind.Ascending
    decide
  exact all.sublist List.filter_sublist

theorem Operator.wellBuilt_ofKinds (operand : Json) : (ofKinds operand).WellBuilt := by
  simp only [ofKinds]
  generalize ((operand.items?.getD [operand]).filterMap Kind.resolve?).flatten = named
  have ascending := Kind.ascending_filter named.contains
  cases kinds : Kind.all.filter named.contains with
  | nil => trivial
  | cons first rest => exact ⟨List.cons_ne_nil _ _, kinds ▸ ascending⟩

theorem Operator.wellBuilt_ofScalarOperand (keyword : OperatorKey) (options : String)
    (operand : Json) : (ofScalarOperand keyword options operand).WellBuilt := by
  cases keyword with
  | equals | differs | compares | present | negation | element => trivial
  | isIn | notIn | hasSize => cases operand <;> trivial
  | hasKind => exact wellBuilt_ofKinds operand
  | modulo =>
      simp only [ofScalarOperand, ofModulo.eq_def]
      split
      · split
        · trivial
        · next nonzero => exact nonzero
      · trivial
  | regex =>
      simp only [ofScalarOperand, ofRegex.eq_def]
      split
      · split <;> trivial
      · trivial

/-- Joining flattens: the parts of trees are joined to a tree. -/
theorem Selector.wellBuilt_conjoin {children : List Selector}
    (h : ∀ child ∈ children, child.WellBuilt) : (Selector.conjoin children).WellBuilt := by
  have parts : ∀ part ∈ children.flatMap Selector.parts,
      part.isPart = true ∧ part.WellBuilt := by
    intro part member
    obtain ⟨child, inside, member⟩ := List.mem_flatMap.mp member
    obtain ⟨inner, rfl, member⟩ | ⟨rfl, stays⟩ := Selector.mem_parts member
    · obtain ⟨-, flat, inner⟩ := h _ inside
      exact ⟨flat part member, Selector.allWellBuilt_iff.mp inner part member⟩
    · exact ⟨stays, h part inside⟩
  refine Selector.conjoin_of trivial (fun part member => (parts part member).2) fun several => ?_
  exact ⟨several, fun part member => (parts part member).1,
    Selector.allWellBuilt_iff.mpr fun part member => (parts part member).2⟩

/-- The shape is inherited. -/
theorem Selector.wellBuilt_inherited :
    Selector.Inherited Selector.WellBuilt Operator.WellBuilt where
  const _ := trivial
  conjoin h := Selector.wellBuilt_conjoin h
  anyOf some h := ⟨some, Selector.allWellBuilt_iff.mpr h⟩
  noneOf some h := ⟨some, Selector.allWellBuilt_iff.mpr h⟩
  field {key} _ noKeyword group := by
    refine ⟨?_, group.wellBuilt⟩
    rw [FieldPath.dotted_ofDotted key, noKeyword]
  scalar keyword options operand _ :=
    Operator.wellBuilt_ofScalarOperand keyword options operand
  element group := group.wellBuilt
  elementSelected h := h
  negation group := group.wellBuilt

/-! ## Dividing -/

mutual

/-- The conjuncts of a tree are trees: a field with several operators is taken apart into fields
with one. -/
theorem Selector.wellBuilt_of_mem_conjuncts : ∀ {selector conjunct : Selector},
    selector.WellBuilt → conjunct ∈ selector.conjuncts → conjunct.WellBuilt
  | .allOf children, conjunct, built, member => by
    rw [Selector.conjuncts] at member
    exact Selector.wellBuilt_of_mem_conjunctsAll built.2.2 member
  | .field path operators, conjunct, built, member => by
    rw [Selector.conjuncts] at member
    split at member
    · obtain ⟨operator, inside, rfl⟩ := List.mem_map.mp member
      have each := Operator.allWellBuilt_iff.mp built.2.2.2
      exact ⟨built.1, List.cons_ne_nil _ _, Operator.keysApart_singleton operator,
        each operator inside, trivial⟩
    · rw [List.mem_singleton.mp member]
      exact built
  | .const _, _, built, member | .anyOf _, _, built, member | .noneOf _, _, built, member => by
    rw [Selector.conjuncts.eq_def, List.mem_singleton] at member
    rw [member]
    exact built

theorem Selector.wellBuilt_of_mem_conjunctsAll : ∀ {selectors : List Selector}
    {conjunct : Selector}, Selector.AllWellBuilt selectors →
      conjunct ∈ Selector.conjunctsAll selectors → conjunct.WellBuilt
  | [], _, _, member => by cases member
  | child :: rest, conjunct, built, member => by
    rw [Selector.conjunctsAll, List.mem_append] at member
    obtain first | later := member
    · exact Selector.wellBuilt_of_mem_conjuncts built.1 first
    · exact Selector.wellBuilt_of_mem_conjunctsAll built.2 later

end

namespace CompiledQuery

variable (schema : Schema) (layout : Layout)

/-- Whatever the state is, the declined selectors are some of those that are divided, in their
order. -/
theorem divide_declined_sublist (conjuncts : List Selector) (state : PushState) :
    ((divide schema layout conjuncts).run state).1.2.Sublist conjuncts := by
  induction conjuncts generalizing state with
  | nil => exact .refl _
  | cons conjunct rest ih =>
      rw [divide_cons]
      dsimp only
      cases ((conjunct.push schema layout .document).run state).1 with
      | some condition => exact (ih _).cons conjunct
      | none => exact (ih _).cons_cons conjunct

/-- What remains of a tree is a tree. -/
theorem wellBuilt_residual {selector : Selector} (built : selector.WellBuilt) {state : PushState}
    {residual : Selector}
    (remains : ((ofSelector schema layout selector).run state).1.residual = some residual) :
    residual.WellBuilt := by
  obtain ⟨-, -, rfl⟩ := residualOf_eq_some_iff.mp remains
  apply Selector.wellBuilt_conjoin
  intro conjunct declined
  exact Selector.wellBuilt_of_mem_conjuncts built
    ((divide_declined_sublist schema layout selector.conjuncts state).subset declined)

end CompiledQuery

/-! ## Trees that are read, and what remains of them -/

/-- Every value is read as a tree with the shape that `WellBuilt` states, and dividing such a tree
leaves one as its residual. In these trees the operators that stand together have distinct keys, so
that merging them into one object only changes the order of their members. -/
theorem Selector.trees_wellBuilt (schema : Schema) (layout : Layout) :
    (∀ v : Json, v.WellFormed → (Selector.ofJson v).WellBuilt) ∧
    (∀ (selector residual : Selector) (state : PushState), selector.WellBuilt →
      ((CompiledQuery.ofSelector schema layout selector).run state).1.residual = some residual →
      residual.WellBuilt) ∧
    (∀ operators : List Operator, Operator.KeysApart operators →
      operators.any Operator.isNever = false →
      ∃ merged, Json.ofMembers (Operator.mergedMembers operators) = .object merged ∧
        merged.Perm (Operator.mergedMembers operators)) := by
  refine ⟨?reads, ?remains, ?merges⟩
  case reads => exact Selector.wellBuilt_inherited.ofJson
  case remains =>
    intro selector residual state built remains
    exact CompiledQuery.wellBuilt_residual schema layout built remains
  case merges =>
    intro operators apart noNever
    have distinct := apart.mergeable.resolve_left (Bool.eq_false_iff.mp noNever)
    exact Json.ofMembers_perm (Operator.nodup_mergedMembers distinct)

/-- A nested conjunction is flattened, an operator with an unusable operand never holds, and the
operator that remains is below a field of its own. -/
theorem Selector.trees_wellBuilt_nested :
    let schema : Schema :=
      { version := 1, fields := [("age", ⟨.number, false⟩)], indexes := [] }
    let age : Json := .object [("$gt", .ofNat 1), ("$ne", .array [])]
    let tags : Json := .object [("$elemMatch", .object [("$ne", .array []), ("$nin", .null)])]
    let v : Json := .object [
      ("$and", .array [.object [], .object [("age", age), ("tags", tags)]])]
    let differs : Selector := .field ⟨["age"]⟩ [.differs (.array [])]
    let element : Selector := .field ⟨["tags"]⟩ [.element [.differs (.array []), .never]]
    let residual : Selector := .allOf [differs, element]
    let operators : List Operator := [.compares .gt (.ofNat 1), .differs (.array [])]
    v.WellFormed ∧ (Selector.ofJson v).WellBuilt ∧
      ((CompiledQuery.ofSelector schema .standard (Selector.ofJson v)).run {}).1.residual =
        some residual ∧
      residual.WellBuilt ∧ Operator.KeysApart operators ∧
      operators.any Operator.isNever = false ∧
      ∃ merged, Json.ofMembers (Operator.mergedMembers operators) = .object merged ∧
        merged.Perm (Operator.mergedMembers operators) := by
  intro schema age tags v differs element residual operators
  have wellFormed : v.WellFormed := by decide
  have read : Selector.ofJson v = .allOf [.field ⟨["age"]⟩ operators, element] := by rfl
  have remains :
      ((CompiledQuery.ofSelector schema .standard (Selector.ofJson v)).run {}).1.residual =
        some residual := by
    rw [read]
    rfl
  have apart : Operator.KeysApart operators := by
    unfold Operator.KeysApart
    decide
  obtain ⟨reads, divides, merges⟩ := Selector.trees_wellBuilt schema .standard
  have built := reads v wellFormed
  exact ⟨wellFormed, built, remains, divides _ residual {} built remains, apart, rfl,
    merges operators apart rfl⟩

end Pushdown
