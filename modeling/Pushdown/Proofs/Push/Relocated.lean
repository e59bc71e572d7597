import Mathlib.Data.List.Forall2
import Pushdown.Proofs.Condition.Places
import Pushdown.Proofs.Push.Twins

/-!
# Pushing to other places

Pushing asks a place for its declared type, for whether it is required and for the path of its
indexes, and otherwise only names it in tests. So where a layout resolves paths to other places that
agree in these three, a selector is pushed step by step as before: from the same state it leaves the
same state, it is declined in the same cases, and its condition has the same tests of the other
places. This holds whatever the state is, since the pattern cache is asked in the same order.

The steps are those of `Condition.Twins` with scans that keep their numbers. What is left to show is
that a twin is the first condition on moved places.
-/

namespace Pushdown

namespace Push

variable {α β : Type}

/-- From the same state both steps leave the same state, and both decline or both return related
results. -/
def Lockstep (R : α → β → Prop) (first : Push α) (second : Push β) : Prop :=
  ∀ s : PushState, Option.Rel R (first.run s).1 (second.run s).1 ∧
    (first.run s).2 = (second.run s).2

/-- Steps that go abreast from every number of scans are in lockstep if none of the numbers is
raised. -/
theorem Abreast.lockstep {R : Nat → Nat → α → β → Prop} {S : α → β → Prop} {first : Push α}
    {second : Push β} (h : ∀ lo, Abreast 0 lo (R lo) first second)
    (related : ∀ lo hi a b, R lo hi a b → S a b) : Lockstep S first second := by
  intro s
  obtain ⟨-, left, results⟩ := h s.scans s rfl
  rw [PushState.raise_zero] at left results
  refine ⟨?_, left.symm⟩
  revert results
  cases (first.run s).1 <;> cases (second.run s).1 <;> intro results <;> cases results
  · exact .none
  · next result => exact .some (related _ _ _ _ result)

/-- What holds of the first result is ensured in every state. -/
theorem Lockstep.ensures {R : α → β → Prop} {Q : α → Prop} {first : Push α} {second : Push β}
    (h : Lockstep R first second) (good : ∀ a b, R a b → Q a) :
    Ensures (fun _ => True) first Q := by
  intro s _
  refine ⟨trivial, ?_⟩
  intro a result
  obtain ⟨results, -⟩ := h s
  rw [result] at results
  revert results
  cases (second.run s).1 <;> intro results <;> cases results
  next related => exact good _ _ related

end Push

open Push (Lockstep)

/-! ## Conditions on other places -/

/-- Places are moved without a change in what pushing asks of them. `P` is what is known of the
places that are moved. -/
structure Relocation (schema : Schema) (first second : Layout) (move : Location → Location)
    (P : Location → Prop) : Prop where
  declared : ∀ place, (move place).declared = place.declared
  required : ∀ place, (move place).required = place.required
  indexPath : ∀ place, (move place).indexPath = place.indexPath
  item : ∀ scan type, move (.item scan type) = .item scan type
  item_good : ∀ scan type, P (.item scan type)
  resolve : ∀ scope segments, Location.resolve? schema second scope segments =
    (Location.resolve? schema first scope segments).map move
  resolve_good : ∀ scope segments place,
    Location.resolve? schema first scope segments = some place → P place

/-- The second condition is the first one on other places, and something is known of all places of
the first one. -/
structure Condition.Relocated (move : Location → Location) (P : Location → Prop)
    (c d : Condition Test) : Prop where
  moved : d = c.relocate move
  good : c.Everywhere P

namespace Condition.Relocated

variable {move : Location → Location} {P : Location → Prop} {c d : Condition Test}
  {cs ds : List (Condition Test)}

theorem const (value : Bool) : Relocated move P (.const value) (.const value) := ⟨rfl, trivial⟩

theorem leaf (test : Test) (good : test.Everywhere P) :
    Relocated move P (.leaf test) (.leaf (test.relocate move)) := ⟨rfl, good⟩

theorem of_singleton (h : List.Forall₂ (Relocated move P) [c] [d]) : Relocated move P c d :=
  (List.forall₂_cons.mp h).1

theorem moved_each (h : List.Forall₂ (Relocated move P) cs ds) :
    ds = cs.map (Condition.relocate move) := by
  induction h with
  | nil => rfl
  | cons first _ ih => rw [List.map_cons, ← first.moved, ← ih]

theorem good_each (h : List.Forall₂ (Relocated move P) cs ds) : ∀ c ∈ cs, c.Everywhere P := by
  induction h with
  | nil => exact List.forall_mem_nil _
  | cons first _ ih => exact List.forall_mem_cons.mpr ⟨first.good, ih⟩

theorem all (h : List.Forall₂ (Relocated move P) cs ds) : Relocated move P (.all cs) (.all ds) where
  moved := by rw [relocate_all, moved_each h]
  good := .all (good_each h)

theorem any (h : List.Forall₂ (Relocated move P) cs ds) : Relocated move P (.any cs) (.any ds) where
  moved := by rw [relocate_any, moved_each h]
  good := .any (good_each h)

theorem negate (h : Relocated move P c d) : Relocated move P c.negate d.negate where
  moved := by rw [relocate_negate, h.moved]
  good := h.good.negate

theorem scan {place : Location} (number : Nat) (good : P place) (h : Relocated move P c d) :
    Relocated move P (.scan place number c) (.scan (move place) number d) where
  moved := by rw [relocate_scan, h.moved]
  good := .scan number good h.good

end Condition.Relocated

/-! ## Twins on moved places -/

namespace Test.OfValue

variable {test : Location → Test} (ofValue : OfValue test)

include ofValue

theorem relocate (move : Location → Location) (place : Location) :
    (test place).relocate move = test (move place) := by
  cases ofValue <;> rfl

theorem everywhere {P : Location → Prop} {place : Location} (good : P place) :
    (test place).Everywhere P := by
  cases ofValue <;> exact good

end Test.OfValue

variable {schema : Schema} {first second : Layout} {move : Location → Location}
  {P : Location → Prop}

namespace Relocation

variable (relocation : Relocation schema first second move P)

include relocation

/-- The twin of a place is the moved place. -/
theorem twin {scope : Option Nat} {place place' : Location}
    (twins : Location.Twins schema first second 0 scope place place') :
    place' = move place ∧ P place := by
  cases twins with
  | item scan type => exact ⟨(relocation.item scan type).symm, relocation.item_good scan type⟩
  | @resolved scope segments _ _ here there =>
      rw [Scope.raise_zero, relocation.resolve, here] at there
      exact ⟨(Option.some.inj there).symm, relocation.resolve_good scope segments place here⟩

/-- The twins of conditions are the conditions on moved places. -/
theorem each {scope : Option Nat} {lo hi : Nat} {cs cs' : List (Condition Test)}
    (twins : Condition.Twins schema first second 0 scope lo hi cs cs') :
    List.Forall₂ (Condition.Relocated move P) cs cs' := by
  induction twins with
  | nil => exact .nil
  | append _ _ front back => exact List.rel_append front back
  | const value => exact .cons (.const value) .nil
  | @leaf _ _ _ test place _ ofValue places =>
      obtain ⟨rfl, good⟩ := relocation.twin places
      have moved : (Condition.leaf (test place)).Relocated move P
          (.leaf ((test place).relocate move)) := .leaf (test place) (ofValue.everywhere good)
      rw [ofValue.relocate] at moved
      exact .cons moved .nil
  | all _ parts => exact .cons (.all parts) .nil
  | any _ parts => exact .cons (.any parts) .nil
  | negate _ inner => exact .cons (.negate (.of_singleton inner)) .nil
  | scan places _ _ inner =>
      obtain ⟨rfl, good⟩ := relocation.twin places
      exact .cons (.scan _ good (.of_singleton inner)) .nil

end Relocation

/-- A selector is pushed to other places. -/
theorem Selector.push_relocated (relocation : Relocation schema first second move P)
    (scope : Scope) (selector : Selector) : Lockstep (Condition.Relocated move P)
      (selector.push schema first scope) (selector.push schema second scope) := by
  have abreast : ∀ lo, Push.Abreast 0 lo
      (fun hi c d => Condition.Twins schema first second 0 scope.number? lo hi [c] [d])
      (selector.push schema first scope) (selector.push schema second scope) := by
    intro lo
    have twins := @Selector.push_twins schema first second 0 scope selector lo
    rwa [Scope.raise_zero] at twins
  exact Push.Abreast.lockstep abreast fun _ _ _ _ twins => .of_singleton (relocation.each twins)

end Pushdown
