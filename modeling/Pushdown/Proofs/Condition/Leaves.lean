import Mathlib.Data.List.Flatten
import Pushdown.Proofs.Condition.NormalForm
import Pushdown.Sql.Test

/-!
# The leaves of a condition

The building functions drop constants and merge groups, but they keep the order of leaves and add
none. So what is said of every leaf of a condition holds of what is built from it, numbers that
increase along the leaves still do, and the arguments of a condition are those of its leaves.

The scans of a condition are leaves of it and of the bodies of its scans. Their numbers are listed
in the order of the text. A condition is scoped if it reads items in the bodies of their scans only,
and columns of their own in no body.
-/

namespace Pushdown

namespace Condition

variable {α : Type}

mutual

def leaves : Condition α → List α
  | .const _ => []
  | .leaf test => [test]
  | .allOf children | .anyOf children => leavesAll children
  | .negation child => leaves child

def leavesAll : List (Condition α) → List α
  | [] => []
  | child :: rest => leaves child ++ leavesAll rest

end

theorem leavesAll_eq (children : List (Condition α)) :
    leavesAll children = children.flatMap leaves := by
  induction children with
  | nil => rfl
  | cons child rest ih => rw [leavesAll, ih, List.flatMap_cons]

theorem leaves_conjuncts (c : Condition α) : c.conjuncts.flatMap leaves = c.leaves := by
  cases c with
  | const value => cases value <;> simp [conjuncts, leaves]
  | allOf children => rw [conjuncts, leaves, leavesAll_eq]
  | leaf | anyOf | negation => simp [conjuncts]

theorem leaves_disjuncts (c : Condition α) : c.disjuncts.flatMap leaves = c.leaves := by
  cases c with
  | const value => cases value <;> simp [disjuncts, leaves]
  | anyOf children => rw [disjuncts, leaves, leavesAll_eq]
  | leaf | allOf | negation => simp [disjuncts]

/-- A conjunction has the leaves of its parts, or none. -/
theorem leaves_all (children : List (Condition α)) :
    (all children).leaves.Sublist (children.flatMap leaves) := by
  have parts : (children.flatMap conjuncts).flatMap leaves = children.flatMap leaves := by
    rw [List.flatMap_assoc]
    exact congrArg (children.flatMap ·) (funext leaves_conjuncts)
  rw [← parts, all]
  split
  · exact List.nil_sublist _
  · split
    · exact List.nil_sublist _
    · next only single =>
      simp only [single, List.flatMap_singleton, List.Sublist.refl]
    · simp only [leaves, leavesAll_eq, List.Sublist.refl]

/-- A disjunction has the leaves of its parts, or none. -/
theorem leaves_any (children : List (Condition α)) :
    (any children).leaves.Sublist (children.flatMap leaves) := by
  have parts : (children.flatMap disjuncts).flatMap leaves = children.flatMap leaves := by
    rw [List.flatMap_assoc]
    exact congrArg (children.flatMap ·) (funext leaves_disjuncts)
  rw [← parts, any]
  split
  · exact List.nil_sublist _
  · split
    · exact List.nil_sublist _
    · next only single =>
      simp only [single, List.flatMap_singleton, List.Sublist.refl]
    · simp only [leaves, leavesAll_eq, List.Sublist.refl]

theorem leaves_negate (c : Condition α) : c.negate.leaves = c.leaves := by
  cases c <;> rfl

variable {β : Type} {f : α → β}

mutual

theorem leaves_map : ∀ c : Condition α, (c.map f).leaves = c.leaves.map f
  | .const _ | .leaf _ => rfl
  | .allOf children | .anyOf children => by rw [map, leaves, leaves, leavesAll_map children]
  | .negation child => by rw [map, leaves, leaves, leaves_map child]

theorem leavesAll_map : ∀ children : List (Condition α),
    leavesAll (mapAll f children) = (leavesAll children).map f
  | [] => rfl
  | child :: rest => by
    rw [mapAll, leavesAll, leavesAll, leaves_map child, leavesAll_map rest, List.map_append]

end

mutual

/-- The arguments of a condition are those of its leaves. -/
theorem args_eq_leaves : ∀ c : Condition Clause, c.args = c.leaves.flatMap Clause.args
  | .const _ => rfl
  | .leaf _ => (List.flatMap_singleton _ _).symm
  | .allOf children | .anyOf children => by rw [args, leaves, argsAll_eq_leaves children]
  | .negation child => by rw [args, leaves, args_eq_leaves child]

theorem argsAll_eq_leaves : ∀ children : List (Condition Clause),
    argsAll children = (leavesAll children).flatMap Clause.args
  | [] => rfl
  | child :: rest => by
    rw [argsAll, leavesAll, List.flatMap_append, args_eq_leaves child, argsAll_eq_leaves rest]

end

end Condition

/-! ## Scans -/

mutual

def Test.scanNumbers : Test → List Nat
  | .scan _ number body => number :: Condition.scanNumbers body
  | .isNull _ | .present _ _ | .hasType _ _ | .equals _ _ | .compares _ _ _ | .memberOf _ _
  | .hasLength _ _ | .leavesRemainder _ _ _ | .text _ _ _ => []

/-- The numbers of the scans of a condition, those in the body of a scan behind its own. -/
def Condition.scanNumbers : Condition Test → List Nat
  | .const _ => []
  | .leaf test => Test.scanNumbers test
  | .allOf children | .anyOf children => Condition.scanNumbersAll children
  | .negation child => Condition.scanNumbers child

def Condition.scanNumbersAll : List (Condition Test) → List Nat
  | [] => []
  | child :: rest => Condition.scanNumbers child ++ Condition.scanNumbersAll rest

end

/-- The place of a value that is read in the body of a scan, or outside of all scans. -/
def Location.In : Option Nat → Location → Prop
  | none, place => place.origin = .document
  | some scan, place => place.origin = .item scan ∧ place.ownColumn = none

mutual

/-- The values that a test asks for are read where the innermost scan, if any, has a number. -/
def Test.Scoped (scope : Option Nat) : Test → Prop
  | .isNull place | .present place _ | .hasType place _ | .equals place _ | .compares place _ _
  | .memberOf place _ | .hasLength place _ | .leavesRemainder place _ _ | .text place _ _ =>
    place.In scope
  | .scan place number body => place.In scope ∧ Condition.Scoped (some number) body

def Condition.Scoped (scope : Option Nat) : Condition Test → Prop
  | .const _ => True
  | .leaf test => Test.Scoped scope test
  | .allOf children | .anyOf children => Condition.AllScoped scope children
  | .negation child => Condition.Scoped scope child

def Condition.AllScoped (scope : Option Nat) : List (Condition Test) → Prop
  | [] => True
  | child :: rest => Condition.Scoped scope child ∧ Condition.AllScoped scope rest

end

namespace Condition

mutual

theorem scanNumbers_eq_leaves : ∀ c : Condition Test,
    c.scanNumbers = c.leaves.flatMap Test.scanNumbers
  | .const _ => rfl
  | .leaf _ => (List.flatMap_singleton _ _).symm
  | .allOf children | .anyOf children => by
    rw [scanNumbers, leaves, scanNumbersAll_eq_leaves children]
  | .negation child => by
    rw [scanNumbers, leaves, scanNumbers_eq_leaves child]

theorem scanNumbersAll_eq_leaves : ∀ children : List (Condition Test),
    scanNumbersAll children = (leavesAll children).flatMap Test.scanNumbers
  | [] => rfl
  | child :: rest => by
    rw [scanNumbersAll, leavesAll, List.flatMap_append, scanNumbers_eq_leaves child,
      scanNumbersAll_eq_leaves rest]

end

theorem scanNumbersAll_eq (children : List (Condition Test)) :
    scanNumbersAll children = (children.map scanNumbers).flatten := by
  induction children with
  | nil => rfl
  | cons child rest ih => rw [scanNumbersAll, ih, List.map_cons, List.flatten_cons]

variable {scope : Option Nat}

mutual

theorem scoped_iff : ∀ c : Condition Test, c.Scoped scope ↔ ∀ test ∈ c.leaves, test.Scoped scope
  | .const _ => iff_of_true trivial (List.forall_mem_nil _)
  | .leaf test => by
    rw [Scoped, leaves, List.forall_mem_singleton]
  | .allOf children | .anyOf children => by
    rw [Scoped, leaves, allScoped_iff children]
  | .negation child => by
    rw [Scoped, leaves, scoped_iff child]

theorem allScoped_iff : ∀ children : List (Condition Test),
    AllScoped scope children ↔ ∀ test ∈ leavesAll children, test.Scoped scope
  | [] => iff_of_true trivial (List.forall_mem_nil _)
  | child :: rest => by
    rw [AllScoped, leavesAll, List.forall_mem_append, scoped_iff child, allScoped_iff rest]

end

/-- What has no other leaves than some conditions is scoped if they are. -/
theorem scoped_of_sublist {c : Condition Test} {parts : List (Condition Test)}
    (leaves : c.leaves.Sublist (parts.flatMap leaves)) (h : ∀ part ∈ parts, part.Scoped scope) :
    c.Scoped scope := by
  rw [scoped_iff]
  intro test member
  obtain ⟨part, inside, member⟩ := List.mem_flatMap.mp (leaves.subset member)
  exact (scoped_iff part).mp (h part inside) test member

/-- What has no other leaves than some conditions has no other scans. -/
theorem scanNumbers_of_sublist {c : Condition Test} {parts : List (Condition Test)}
    (leaves : c.leaves.Sublist (parts.flatMap leaves)) :
    c.scanNumbers.Sublist (parts.flatMap scanNumbers) := by
  rw [scanNumbers_eq_leaves, funext scanNumbers_eq_leaves, ← List.flatMap_assoc]
  exact leaves.flatMap _

end Condition

end Pushdown
