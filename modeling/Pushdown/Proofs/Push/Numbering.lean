import Pushdown.Proofs.Condition.Leaves
import Pushdown.Proofs.Condition.Outline
import Pushdown.Proofs.Push.Twins

/-!
# Scans of pushed conditions

Every scan has a number of its own. Pushing numbers scans as they are met, from one above the number
of the state it begins in, so along a condition the numbers increase. Values are read where the
innermost scan is, and an own column is read outside of all scans only.

Where a run starts with another number of scans, the numbers of its scans are all that changes in
the conditions. They have the same arguments, and are constant together.
-/

namespace Pushdown

variable {schema : Schema} {first second : Layout} {d : Nat} {scope : Option Nat} {lo hi : Nat}

namespace Location

/-- A path leads to values where it begins. -/
theorem in_of_resolve? {layout : Layout} {scope : Scope} {segments : List String} {place : Location}
    (resolved : resolve? schema layout scope segments = some place) : place.In scope.number? := by
  cases scope with
  | document =>
      cases segments with
      | nil => cases resolved
      | cons segment rest =>
          rw [resolve?] at resolved
          simp only [Option.bind_eq_bind, Option.bind_eq_some_iff, Option.some.injEq] at resolved
          obtain ⟨step, -, below, -, rfl⟩ := resolved
          rfl
  | item scan type =>
      rw [resolve?] at resolved
      simp only [Option.bind_eq_bind, Option.bind_eq_some_iff, Option.some.injEq] at resolved
      obtain ⟨below, -, rfl⟩ := resolved
      exact ⟨rfl, rfl⟩

theorem Twins.within {place place' : Location}
    (twins : Twins schema first second d scope place place') : place.In scope := by
  cases twins with
  | item => exact ⟨rfl, rfl⟩
  | resolved here => exact in_of_resolve? here

end Location

/-! ## Numbers of scans -/

/-- Numbers that increase, all of them above one bound and none above another. -/
structure Ascends (lo hi : Nat) (numbers : List Nat) : Prop where
  increasing : numbers.Pairwise (· < ·)
  bounded : ∀ number ∈ numbers, lo < number ∧ number ≤ hi

namespace Ascends

variable {mid : Nat} {m n : List Nat}

theorem nil : Ascends lo hi [] := ⟨.nil, List.forall_mem_nil _⟩

theorem sublist (h : Ascends lo hi n) (sub : m.Sublist n) : Ascends lo hi m :=
  ⟨h.increasing.sublist sub, fun number member => h.bounded number (sub.subset member)⟩

theorem append (front : Ascends lo mid m) (back : Ascends mid hi n) (begins : lo ≤ mid)
    (ends : mid ≤ hi) : Ascends lo hi (m ++ n) where
  increasing := List.pairwise_append.mpr ⟨front.increasing, back.increasing, fun a here b there =>
    Nat.lt_of_le_of_lt (front.bounded a here).2 (back.bounded b there).1⟩
  bounded := List.forall_mem_append.mpr
    ⟨fun a here => ⟨(front.bounded a here).1, Nat.le_trans (front.bounded a here).2 ends⟩,
      fun b there => ⟨Nat.lt_of_le_of_lt begins (back.bounded b there).1, (back.bounded b there).2⟩⟩

theorem cons {number : Nat} (h : Ascends number hi n) (begins : lo < number) (ends : number ≤ hi) :
    Ascends lo hi (number :: n) where
  increasing := .cons (fun other member => (h.bounded other member).1) h.increasing
  bounded := List.forall_mem_cons.mpr ⟨⟨begins, ends⟩, fun other member =>
    ⟨Nat.lt_trans begins (h.bounded other member).1, (h.bounded other member).2⟩⟩

theorem nodup (h : Ascends lo hi n) : n.Nodup := h.increasing.imp Nat.ne_of_lt

end Ascends

/-! ## Tests of one value -/

namespace Test.OfValue

variable {test : Location → Test} (ofValue : OfValue test)

include ofValue

theorem isScoped {place : Location} (within : place.In scope) : (test place).Scoped scope := by
  cases ofValue <;> exact within

theorem scanNumbers_eq_nil (place : Location) : (test place).scanNumbers = [] := by
  cases ofValue <;> rfl

/-- What is asked of a value has the same arguments wherever the value is. -/
theorem args_clause (column : String) (place place' : Location) :
    ((test place).clause column).args = ((test place').clause column).args := by
  cases ofValue <;> rfl

end Test.OfValue

/-! ## Conditions -/

namespace Condition

theorem scoped_scan {place : Location} {number : Nat} {body : Condition Test}
    (within : place.In scope) (inner : body.Scoped (some number)) :
    (Condition.scan place number body).Scoped scope := by
  rw [Condition.scan]
  split
  · trivial
  · exact ⟨within, inner⟩

theorem scanNumbers_scan (place : Location) (number : Nat) (body : Condition Test) :
    (Condition.scan place number body).scanNumbers.Sublist (number :: body.scanNumbers) := by
  rw [Condition.scan]
  split
  · exact List.nil_sublist _
  · exact .refl _

/-- The arguments of a condition, from those of each leaf. -/
theorem args_clauses (column : String) (c : Condition Test) : (c.clauses column).args =
    (c.map fun test => (test.clause column).args).leaves.flatMap id := by
  rw [args_eq_leaves, clauses_eq_map, leaves_map, leaves_map, List.flatMap_map, List.flatMap_map]
  rfl

/-- Scans have the arguments of their bodies. -/
theorem map_scan {column : String} {place place' : Location} {body body' : Condition Test}
    (inner : body.map (fun test => (test.clause column).args) =
      body'.map fun test => (test.clause column).args) (number number' : Nat) :
    (Condition.scan place number body).map (fun test => (test.clause column).args) =
      (Condition.scan place' number' body').map fun test => (test.clause column).args := by
  have never : body.isFalse = body'.isFalse := by
    rw [← isFalse_map fun test => (test.clause column).args, inner, isFalse_map]
  have always : body.isTrue = body'.isTrue := by
    rw [← isTrue_map fun test => (test.clause column).args, inner, isTrue_map]
  have args : (body.clauses column).args = (body'.clauses column).args := by
    rw [args_clauses, args_clauses, inner]
  rw [Condition.scan, Condition.scan, never]
  split
  · rfl
  · rw [map, map, clause_scan, clause_scan, always]
    split
    · rfl
    · exact congrArg Condition.leaf args

namespace Twins

variable {cs cs' : List (Condition Test)}
  (h : Twins schema first second d scope lo hi cs cs')

include h

theorem le : lo ≤ hi := by
  induction h with
  | nil le | const _ le | leaf _ _ le => exact le
  | append _ _ front back => exact Nat.le_trans front back
  | all _ parts | any _ parts => exact parts
  | negate _ inner => exact inner
  | scan _ lt _ inner => exact Nat.le_of_lt (Nat.lt_of_lt_of_le lt inner)

/-- What is pushed reads items in the bodies of their scans only. -/
theorem isScoped : ∀ c ∈ cs, c.Scoped scope := by
  induction h with
  | nil => exact List.forall_mem_nil _
  | append _ _ front back => exact List.forall_mem_append.mpr ⟨front, back⟩
  | const => exact List.forall_mem_singleton.mpr trivial
  | leaf ofValue places => exact List.forall_mem_singleton.mpr (ofValue.isScoped places.within)
  | all _ parts => exact List.forall_mem_singleton.mpr (scoped_of_sublist (leaves_all _) parts)
  | any _ parts => exact List.forall_mem_singleton.mpr (scoped_of_sublist (leaves_any _) parts)
  | negate _ inner =>
      rw [List.forall_mem_singleton] at inner ⊢
      rwa [scoped_iff, leaves_negate, ← scoped_iff]
  | scan places _ _ inner =>
      exact List.forall_mem_singleton.mpr
        (scoped_scan places.within (List.forall_mem_singleton.mp inner))

/-- The numbers of scans increase along a row, and lie in its bounds. -/
theorem ascends : Ascends lo hi (cs.flatMap scanNumbers) := by
  induction h with
  | nil => exact .nil
  | append front back ahead behind =>
      rw [List.flatMap_append]
      exact ahead.append behind front.le back.le
  | const => exact .nil
  | leaf ofValue _ _ =>
      rw [List.flatMap_singleton, scanNumbers, ofValue.scanNumbers_eq_nil]
      exact .nil
  | all _ parts =>
      rw [List.flatMap_singleton]
      exact parts.sublist (scanNumbers_of_sublist (leaves_all _))
  | any _ parts =>
      rw [List.flatMap_singleton]
      exact parts.sublist (scanNumbers_of_sublist (leaves_any _))
  | negate _ inner =>
      rw [List.flatMap_singleton] at inner ⊢
      rwa [scanNumbers_eq_leaves, leaves_negate, ← scanNumbers_eq_leaves]
  | scan _ lt inside inner =>
      rw [List.flatMap_singleton] at inner ⊢
      exact (inner.cons lt inside.le).sublist (scanNumbers_scan _ _ _)

/-- Both runs build conditions with the same arguments, leaf by leaf. -/
theorem args (column : String) : cs.map (map fun test => (test.clause column).args) =
    cs'.map (map fun test => (test.clause column).args) := by
  induction h with
  | nil => rfl
  | append _ _ front back => rw [List.map_append, List.map_append, front, back]
  | const => rfl
  | @leaf _ _ _ _ place place' ofValue =>
      rw [List.map_singleton, List.map_singleton, map, map, ofValue.args_clause column place place']
  | all _ parts => rw [List.map_singleton, List.map_singleton, map_all, map_all, parts]
  | any _ parts => rw [List.map_singleton, List.map_singleton, map_any, map_any, parts]
  | negate _ inner =>
      rw [List.map_singleton, List.map_singleton, List.singleton_inj] at inner ⊢
      rw [map_negate, map_negate, inner]
  | @scan _ _ number _ place place' body body' _ _ _ inner =>
      rw [List.map_singleton, List.map_singleton, List.singleton_inj] at inner ⊢
      exact map_scan inner number (number + d)

end Twins

end Condition

end Pushdown
