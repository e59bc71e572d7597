import Pushdown.Proofs.Condition.NormalForm
import Pushdown.Sql.Test

/-!
# The places of a condition

A condition over tests names the places of its tests, and those in the bodies of its scans.
`Everywhere` says something of all these places, and `relocate` puts other places in their stead.
Both go along with the ways to build conditions.
-/

namespace Pushdown

/-! ## Every place -/

mutual

/-- Every place that a test names has a property. -/
def Test.Everywhere (P : Location → Prop) : Test → Prop
  | .isNull place | .present place _ | .hasType place _ | .equals place _ | .compares place _ _
  | .memberOf place _ | .hasLength place _ | .leavesRemainder place _ _ | .text place _ _ => P place
  | .scan place _ body => P place ∧ Condition.Everywhere P body

def Condition.Everywhere (P : Location → Prop) : Condition Test → Prop
  | .const _ => True
  | .leaf test => Test.Everywhere P test
  | .allOf children | .anyOf children => Condition.AllEverywhere P children
  | .negation child => Condition.Everywhere P child

def Condition.AllEverywhere (P : Location → Prop) : List (Condition Test) → Prop
  | [] => True
  | child :: rest => Condition.Everywhere P child ∧ Condition.AllEverywhere P rest

end

namespace Condition

variable {P Q : Location → Prop}

theorem allEverywhere_iff {children : List (Condition Test)} :
    AllEverywhere P children ↔ ∀ c ∈ children, c.Everywhere P := by
  induction children with
  | nil => simp [AllEverywhere]
  | cons first rest ih => rw [AllEverywhere, ih, List.forall_mem_cons]

namespace Everywhere

theorem conjuncts {c : Condition Test} (h : c.Everywhere P) :
    ∀ part ∈ c.conjuncts, part.Everywhere P := by
  cases c with
  | allOf children => exact allEverywhere_iff.mp h
  | const value =>
      cases value
      · exact List.forall_mem_singleton.mpr h
      · exact List.forall_mem_nil _
  | leaf | anyOf | negation => exact List.forall_mem_singleton.mpr h

theorem disjuncts {c : Condition Test} (h : c.Everywhere P) :
    ∀ part ∈ c.disjuncts, part.Everywhere P := by
  cases c with
  | anyOf children => exact allEverywhere_iff.mp h
  | const value =>
      cases value
      · exact List.forall_mem_nil _
      · exact List.forall_mem_singleton.mpr h
  | leaf | allOf | negation => exact List.forall_mem_singleton.mpr h

theorem all {children : List (Condition Test)} (h : ∀ c ∈ children, c.Everywhere P) :
    (Condition.all children).Everywhere P := by
  have parts : ∀ part ∈ children.flatMap Condition.conjuncts, part.Everywhere P := by
    intro part member
    obtain ⟨c, inside, member⟩ := List.mem_flatMap.mp member
    exact (h c inside).conjuncts part member
  unfold Condition.all
  split
  · trivial
  · revert parts
    cases children.flatMap Condition.conjuncts with
    | nil => exact fun _ => trivial
    | cons first rest =>
        intro parts
        cases rest with
        | nil => exact parts first List.mem_cons_self
        | cons => exact allEverywhere_iff.mpr parts

theorem any {children : List (Condition Test)} (h : ∀ c ∈ children, c.Everywhere P) :
    (Condition.any children).Everywhere P := by
  have parts : ∀ part ∈ children.flatMap Condition.disjuncts, part.Everywhere P := by
    intro part member
    obtain ⟨c, inside, member⟩ := List.mem_flatMap.mp member
    exact (h c inside).disjuncts part member
  unfold Condition.any
  split
  · trivial
  · revert parts
    cases children.flatMap Condition.disjuncts with
    | nil => exact fun _ => trivial
    | cons first rest =>
        intro parts
        cases rest with
        | nil => exact parts first List.mem_cons_self
        | cons => exact allEverywhere_iff.mpr parts

theorem negate {c : Condition Test} (h : c.Everywhere P) : c.negate.Everywhere P := by
  cases c <;> exact h

theorem scan {place : Location} {body : Condition Test} (number : Nat) (good : P place)
    (h : body.Everywhere P) : (Condition.scan place number body).Everywhere P := by
  unfold Condition.scan
  split
  · trivial
  · exact ⟨good, h⟩

end Everywhere

end Condition

mutual

theorem Test.Everywhere.imp {P Q : Location → Prop} (weaker : ∀ place, P place → Q place) :
    ∀ test : Test, test.Everywhere P → test.Everywhere Q
  | .isNull place, h | .present place _, h | .hasType place _, h | .equals place _, h
  | .compares place _ _, h | .memberOf place _, h | .hasLength place _, h
  | .leavesRemainder place _ _, h | .text place _ _, h => weaker place h
  | .scan place _ _, h => ⟨weaker place h.1, Condition.Everywhere.imp weaker _ h.2⟩

theorem Condition.Everywhere.imp {P Q : Location → Prop} (weaker : ∀ place, P place → Q place) :
    ∀ c : Condition Test, c.Everywhere P → c.Everywhere Q
  | .const _, _ => trivial
  | .leaf test, h => Test.Everywhere.imp weaker test h
  | .allOf children, h => Condition.AllEverywhere.imp weaker children h
  | .anyOf children, h => Condition.AllEverywhere.imp weaker children h
  | .negation child, h => Condition.Everywhere.imp weaker child h

theorem Condition.AllEverywhere.imp {P Q : Location → Prop}
    (weaker : ∀ place, P place → Q place) : ∀ children : List (Condition Test),
      Condition.AllEverywhere P children → Condition.AllEverywhere Q children
  | [], _ => trivial
  | child :: rest, h =>
    ⟨Condition.Everywhere.imp weaker child h.1, Condition.AllEverywhere.imp weaker rest h.2⟩

end

mutual

theorem Test.everywhere_of_forall {P : Location → Prop} (each : ∀ place, P place) :
    ∀ test : Test, test.Everywhere P
  | .isNull place | .present place _ | .hasType place _ | .equals place _ | .compares place _ _
  | .memberOf place _ | .hasLength place _ | .leavesRemainder place _ _ | .text place _ _ =>
    each place
  | .scan place _ body => ⟨each place, Condition.everywhere_of_forall each body⟩

theorem Condition.everywhere_of_forall {P : Location → Prop} (each : ∀ place, P place) :
    ∀ c : Condition Test, c.Everywhere P
  | .const _ => trivial
  | .leaf test => Test.everywhere_of_forall each test
  | .allOf children => Condition.allEverywhere_of_forall each children
  | .anyOf children => Condition.allEverywhere_of_forall each children
  | .negation child => Condition.everywhere_of_forall each child

theorem Condition.allEverywhere_of_forall {P : Location → Prop} (each : ∀ place, P place) :
    ∀ children : List (Condition Test), Condition.AllEverywhere P children
  | [] => trivial
  | child :: rest =>
    ⟨Condition.everywhere_of_forall each child, Condition.allEverywhere_of_forall each rest⟩

end

/-! ## Other places -/

mutual

/-- The test of other places. -/
def Test.relocate (move : Location → Location) : Test → Test
  | .isNull place => .isNull (move place)
  | .present place expected => .present (move place) expected
  | .hasType place names => .hasType (move place) names
  | .equals place operand => .equals (move place) operand
  | .compares place comparison operand => .compares (move place) comparison operand
  | .memberOf place values => .memberOf (move place) values
  | .hasLength place length => .hasLength (move place) length
  | .leavesRemainder place divisor remainder => .leavesRemainder (move place) divisor remainder
  | .text place test operand => .text (move place) test operand
  | .scan place number body => .scan (move place) number (Condition.relocate move body)

def Condition.relocate (move : Location → Location) : Condition Test → Condition Test
  | .const value => .const value
  | .leaf test => .leaf (Test.relocate move test)
  | .allOf children => .allOf (Condition.relocateAll move children)
  | .anyOf children => .anyOf (Condition.relocateAll move children)
  | .negation child => .negation (Condition.relocate move child)

def Condition.relocateAll (move : Location → Location) :
    List (Condition Test) → List (Condition Test)
  | [] => []
  | child :: rest => Condition.relocate move child :: Condition.relocateAll move rest

end

namespace Condition

variable (move : Location → Location)

mutual

/-- The parts of a condition stay as they are. -/
theorem relocate_eq_map : ∀ c : Condition Test, c.relocate move = c.map (Test.relocate move)
  | .const _ | .leaf _ => by rw [relocate, map]
  | .allOf children | .anyOf children => by rw [relocate, map, relocateAll_eq_mapAll children]
  | .negation child => by rw [relocate, map, relocate_eq_map child]

theorem relocateAll_eq_mapAll : ∀ children : List (Condition Test),
    relocateAll move children = mapAll (Test.relocate move) children
  | [] => by rw [relocateAll, mapAll]
  | child :: rest => by
    rw [relocateAll, mapAll, relocate_eq_map child, relocateAll_eq_mapAll rest]

end

theorem relocate_funext : relocate move = map (Test.relocate move) :=
  funext (relocate_eq_map move)

theorem relocate_all (children : List (Condition Test)) :
    (all children).relocate move = all (children.map (relocate move)) := by
  rw [relocate_funext, map_all]

theorem relocate_any (children : List (Condition Test)) :
    (any children).relocate move = any (children.map (relocate move)) := by
  rw [relocate_funext, map_any]

theorem relocate_negate (c : Condition Test) :
    (negate c).relocate move = negate (c.relocate move) := by
  rw [relocate_eq_map, map_negate, relocate_eq_map]

theorem isFalse_relocate (c : Condition Test) : (c.relocate move).isFalse = c.isFalse := by
  rw [relocate_eq_map, isFalse_map]

theorem isTrue_relocate (c : Condition Test) : (c.relocate move).isTrue = c.isTrue := by
  rw [relocate_eq_map, isTrue_map]

theorem relocate_scan (place : Location) (number : Nat) (body : Condition Test) :
    (Condition.scan place number body).relocate move =
      Condition.scan (move place) number (body.relocate move) := by
  unfold Condition.scan
  rw [isFalse_relocate]
  split <;> rfl

end Condition

end Pushdown
