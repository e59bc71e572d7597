import Mathlib.Data.List.Sort
import Mathlib.Data.List.Perm.Subperm
import Mathlib.Data.Rat.Floor
import Mathlib.Order.Compare
import Pushdown.Proofs.Json.Bytes
import Pushdown.Proofs.Json.Members
import Pushdown.Proofs.Number.Order

/-!
# The order of values

Numbers compare as rational numbers: an integer in the signed 64-bit range as itself, and any other
number as the exact value of the binary64 number nearest to it. Texts compare by their bytes, and
nothing else compares. So the comparison is a total order, up to equality of value, within either
class.

Equality of values is equality of trees in which every number is replaced by its exact value. The
keys of well-formed objects ascend, so looking up each key of one object in another object of the
same length compares the two lists of members place by place.
-/

namespace Pushdown

open Std (TransOrd OrientedOrd)

/-! ## Exact values of numbers -/

def Binary64.value (x : Binary64) : ℚ := x.units / one

namespace Number

/-- The exact value that a number is compared as. -/
def value (n : Number) : ℚ :=
  match n.signed? with
  | some i => i
  | none => n.toReal.value

theorem value_eq_units (n : Number) : n.value = n.units / Binary64.one := by
  have positive : (0 : ℚ) < Binary64.one := by exact_mod_cast Binary64.one_pos
  unfold value units
  cases n.signed? with
  | none => rfl
  | some i =>
      dsimp only
      rw [Int.cast_mul, Int.cast_natCast, mul_div_cancel_right₀ _ positive.ne']

/-- Numbers compare as their exact values. -/
theorem compare?_eq_value (a b : Number) :
    a.compare? b = some (Ord.compare a.value b.value) := by
  have positive : (0 : ℚ) < Binary64.one := by exact_mod_cast Binary64.one_pos
  have scaled : StrictMono fun i : Int => (i : ℚ) / Binary64.one := by
    intro i j less
    exact div_lt_div_of_pos_right (by exact_mod_cast less) positive
  rw [compare?_eq, value_eq_units, value_eq_units, ← cmp_eq_compare, ← cmp_eq_compare,
    scaled.cmp_map_eq]

end Number

namespace Json

/-! ## Comparison -/

/-- Two values of one class that is ordered. -/
inductive Comparable : Json → Json → Prop where
  | numbers (m n : Number) : Comparable (.number m) (.number n)
  | texts (s t : String) : Comparable (.string s) (.string t)

/-- The first value compares with the second and is not the greater one. -/
def AtMost (a b : Json) : Prop := ∃ order, a.compare? b = some order ∧ order.isLE = true

theorem compare?_numbers (m n : Number) :
    compare? (.number m) (.number n) = some (Ord.compare m.value n.value) := by
  rw [compare?, Number.compare?_eq_value]

theorem compare?_texts (s t : String) :
    compare? (.string s) (.string t) = some (Ord.compare (bytes s) (bytes t)) := by
  rw [compare?, compareText_eq_bytes]

theorem compare?_eq_none_iff (a b : Json) : a.compare? b = none ↔ ¬Comparable a b := by
  constructor
  · intro apart same
    cases same with
    | numbers m n =>
        rw [compare?_numbers] at apart
        cases apart
    | texts s t => cases apart
  · intro apart
    cases a <;> cases b <;> try rfl
    · exact absurd (.numbers _ _) apart
    · exact absurd (.texts _ _) apart

theorem compare?_swap (a b : Json) : b.compare? a = (a.compare? b).map Ordering.swap := by
  by_cases same : Comparable a b
  · cases same with
    | numbers m n =>
        rw [compare?_numbers, compare?_numbers, Option.map_some, ← OrientedOrd.eq_swap]
    | texts s t =>
        rw [compare?_texts, compare?_texts, Option.map_some, ← OrientedOrd.eq_swap]
  · have other : ¬Comparable b a := by
      intro turned
      cases turned with
      | numbers m n => exact same (.numbers n m)
      | texts s t => exact same (.texts t s)
    rw [(compare?_eq_none_iff a b).mpr same, (compare?_eq_none_iff b a).mpr other, Option.map_none]

section

variable {a b c : Json}

theorem AtMost.comparable (h : AtMost a b) : Comparable a b := by
  obtain ⟨order, compared, -⟩ := h
  by_contra apart
  rw [(compare?_eq_none_iff a b).mpr apart] at compared
  cases compared

theorem atMost_numbers {m n : Number} :
    AtMost (.number m) (.number n) ↔ (Ord.compare m.value n.value).isLE = true := by
  simp [AtMost, compare?_numbers]

theorem atMost_texts {s t : String} :
    AtMost (.string s) (.string t) ↔ (Ord.compare (bytes s) (bytes t)).isLE = true := by
  simp [AtMost, compare?_texts]

theorem AtMost.trans (first : AtMost a b) (second : AtMost b c) : AtMost a c := by
  cases first.comparable with
  | numbers m n =>
      cases second.comparable with
      | numbers _ o =>
          rw [atMost_numbers] at *
          exact TransOrd.isLE_trans first second
  | texts s t =>
      cases second.comparable with
      | texts _ u =>
          rw [atMost_texts] at *
          exact TransOrd.isLE_trans first second

theorem Comparable.total (h : Comparable a b) : AtMost a b ∨ AtMost b a := by
  cases compared : a.compare? b with
  | none => exact absurd h ((compare?_eq_none_iff a b).mp compared)
  | some order =>
      have turned : b.compare? a = some order.swap := by rw [compare?_swap, compared]; rfl
      cases order with
      | lt | eq => exact .inl ⟨_, compared, rfl⟩
      | gt => exact .inr ⟨_, turned, rfl⟩

end

/-! ## Equality -/

/-- A value with its numbers replaced by what they are compared as. -/
inductive Exact where
  | null
  | bool (value : Bool)
  | number (value : ℚ)
  | string (value : String)
  | array (items : List Exact)
  | object (members : List (String × Exact))

mutual

def exact : Json → Exact
  | .null => .null
  | .bool b => .bool b
  | .number n => .number n.value
  | .string text => .string text
  | .array items => .array (exactItems items)
  | .object members => .object (exactMembers members)

def exactItems : List Json → List Exact
  | [] => []
  | item :: rest => exact item :: exactItems rest

def exactMembers : List (String × Json) → List (String × Exact)
  | [] => []
  | (key, value) :: rest => (key, exact value) :: exactMembers rest

end

theorem keys_exactMembers (members : List (String × Json)) :
    (exactMembers members).map Prod.fst = keys members := by
  induction members with
  | nil => rfl
  | cons member rest ih => rw [exactMembers, List.map_cons, ih, keys, keys, List.map_cons]

section

variable {xs ys : List (String × Json)}

/-- Of two objects of one length, the one has the keys of the other if it has all of them. -/
theorem keys_eq_of_subset (first : Ascending xs) (second : Ascending ys)
    (length : xs.length = ys.length) (subset : keys xs ⊆ keys ys) : keys xs = keys ys := by
  -- No key is repeated, and there are equally many, so none is left over.
  have perm : (keys xs).Perm (keys ys) := by
    refine (List.subperm_of_subset first.nodup subset).perm_of_length_le ?_
    rw [keys, keys, List.length_map, List.length_map, length]
  refine perm.eq_of_pairwise ?_ first.pairwise second.pairwise
  intro a b _ _ less greater
  exact absurd (String.lt_trans less greater) (String.lt_irrefl a)

/-- Every member has one with the same tree under its key. -/
def Covers (xs ys : List (String × Json)) : Prop :=
  ∀ key v, (key, v) ∈ xs → ∃ w, member? key ys = some w ∧ exact v = exact w

theorem covers_cons {key : String} {v : Json} : Covers ((key, v) :: xs) ys ↔
    (∃ w, member? key ys = some w ∧ exact v = exact w) ∧ Covers xs ys := by
  constructor
  · intro covers
    exact ⟨covers key v List.mem_cons_self, fun k u member =>
      covers k u (List.mem_cons_of_mem _ member)⟩
  · rintro ⟨head, rest⟩ k u member
    obtain first | later := List.mem_cons.mp member
    · cases first
      exact head
    · exact rest k u later

/-- A member with a key of its own does not matter to the others. -/
theorem covers_of_fresh {key : String} {w : Json} (fresh : key ∉ keys xs) :
    Covers xs ((key, w) :: ys) ↔ Covers xs ys := by
  refine forall₃_congr fun k u member => ?_
  have differ : key ≠ k := by
    rintro rfl
    exact fresh (List.mem_map.mpr ⟨_, member, rfl⟩)
  rw [member?, if_neg differ]

theorem Covers.subset (covers : Covers xs ys) : keys xs ⊆ keys ys := by
  intro key present
  obtain ⟨⟨_, v⟩, member, rfl⟩ := List.mem_map.mp present
  obtain ⟨w, found, -⟩ := covers _ v member
  exact List.mem_map.mpr ⟨_, mem_of_member?_eq_some found, rfl⟩

/-- Under the same keys, looking up and comparing place by place come to the same. -/
theorem covers_iff (distinct : (keys xs).Nodup) (same : keys xs = keys ys) :
    Covers xs ys ↔ exactMembers xs = exactMembers ys := by
  induction xs generalizing ys with
  | nil =>
      obtain rfl : ys = [] := List.map_eq_nil_iff.mp same.symm
      exact iff_of_true (fun _ _ member => by cases member) rfl
  | cons first xs ih =>
      obtain ⟨key, v⟩ := first
      cases ys with
      | nil => cases same
      | cons second ys =>
          obtain ⟨other, w⟩ := second
          rw [keys, keys, List.map_cons, List.map_cons, List.cons.injEq] at same
          obtain ⟨rfl, same⟩ := same
          -- No later member has the first key, so the later ones are looked up in the rest.
          obtain ⟨fresh, distinct⟩ := List.nodup_cons.mp distinct
          rw [covers_cons, covers_of_fresh fresh, ih distinct same, exactMembers, exactMembers,
            List.cons.injEq, Prod.mk.injEq, member?, if_pos rfl]
          simp

/-- Two objects of one length are the same tree if every member of the first has its equal in the
second. -/
theorem exactMembers_eq_iff (first : Ascending xs) (second : Ascending ys) :
    exactMembers xs = exactMembers ys ↔ xs.length = ys.length ∧ Covers xs ys := by
  constructor
  · intro equal
    have same : keys xs = keys ys := by
      rw [← keys_exactMembers, equal, keys_exactMembers]
    refine ⟨?_, (covers_iff first.nodup same).mpr equal⟩
    have length := congrArg List.length same
    rwa [keys, keys, List.length_map, List.length_map] at length
  · rintro ⟨length, covers⟩
    have same := keys_eq_of_subset first second length covers.subset
    exact (covers_iff first.nodup same).mp covers

end

mutual

/-- Equality of values is equality of the trees that they stand for. -/
theorem equal_iff_exact : ∀ {a b : Json}, a.WellFormed → b.WellFormed →
    (a.equal b = true ↔ a.exact = b.exact)
  | .null, b, _, _ => by cases b <;> simp [equal, exact]
  | .bool x, b, _, _ => by cases b <;> simp [equal, exact]
  | .number m, b, _, _ => by
    cases b <;> simp [equal, exact, Number.compare?_eq_value]
  | .string text, b, _, _ => by cases b <;> simp [equal, exact]
  | .array items, b, first, second => by
    cases b with
    | array others =>
        simpa [equal, exact] using equalItems_iff_exact first second
    | null | bool | number | string | object => simp [equal, exact]
  | .object members, b, first, second => by
    cases b with
    | object others =>
        rw [equal, Bool.and_eq_true, beq_iff_eq, equalMembers_iff_covers first.2 second.2,
          ← exactMembers_eq_iff first.1 second.1, exact, exact, Exact.object.injEq]
    | null | bool | number | string | array => simp [equal, exact]

/-- Equality of items is equality of the lists of trees. -/
theorem equalItems_iff_exact : ∀ {xs ys : List Json}, WellFormedItems xs → WellFormedItems ys →
    (equalItems xs ys = true ↔ exactItems xs = exactItems ys)
  | [], ys, _, _ => by cases ys <;> simp [equalItems, exactItems]
  | x :: xs, ys, first, second => by
    cases ys with
    | nil => simp [equalItems, exactItems]
    | cons y ys =>
        rw [equalItems, Bool.and_eq_true, exactItems, exactItems, List.cons.injEq,
          equal_iff_exact first.1 second.1, equalItems_iff_exact first.2 second.2]

/-- Members are equal to others if every one has its equal under the same key. -/
theorem equalMembers_iff_covers : ∀ {xs ys : List (String × Json)},
    WellFormedMembers xs → WellFormedMembers ys → (equalMembers xs ys = true ↔ Covers xs ys)
  | [], ys, _, _ => by simp [equalMembers, Covers]
  | (key, v) :: xs, ys, first, second => by
    rw [equalMembers, Bool.and_eq_true, covers_cons, equalMembers_iff_covers first.2 second]
    refine and_congr_left' ?_
    cases found : member? key ys with
    | none => simp
    | some w =>
        have same := equal_iff_exact first.1 (second.value (mem_of_member?_eq_some found))
        simp [same]

end

/-- Where values compare, the equal ones are those that neither precedes. -/
theorem equal_of_compare? {a b : Json} {order : Ordering} (compared : a.compare? b = some order) :
    a.equal b = (order == .eq) := by
  by_cases same : Comparable a b
  · cases same with
    | numbers m n =>
        rw [compare?] at compared
        rw [equal, compared]
        rfl
    | texts s t =>
        rw [compare?_texts, Option.some.injEq] at compared
        rw [equal, ← compared, Bool.eq_iff_iff, beq_iff_eq, beq_iff_eq, Std.compare_eq_iff_eq,
          bytes_injective.eq_iff]
  · rw [(compare?_eq_none_iff a b).mpr same] at compared
    cases compared

/-- Numbers compare as their exact values and texts by their bytes, and no other values do. The
comparison turns with its arguments and is transitive and total on either class. Values are equal if
they stand for the same tree of exact values, which is an equivalence at any nesting, and where they
compare it is the same as comparing equal. -/
theorem comparison_by_value {a b c : Json} (ha : a.WellFormed) (hb : b.WellFormed)
    (hc : c.WellFormed) :
    (∀ m n, a = .number m → b = .number n →
      a.compare? b = some (Ord.compare m.value n.value)) ∧
    (∀ s t, a = .string s → b = .string t →
      a.compare? b = some (Ord.compare (bytes s) (bytes t))) ∧
    (a.compare? b = none ↔ ¬Comparable a b) ∧
    b.compare? a = (a.compare? b).map Ordering.swap ∧
    (AtMost a b → AtMost b c → AtMost a c) ∧
    (Comparable a b → AtMost a b ∨ AtMost b a) ∧
    (a.equal b = true ↔ a.exact = b.exact) ∧
    a.equal a = true ∧
    (a.equal b = true → b.equal a = true) ∧
    (a.equal b = true → b.equal c = true → a.equal c = true) ∧
    (∀ order, a.compare? b = some order → (a.equal b = true ↔ order = .eq)) := by
  refine ⟨?numbers, ?texts, compare?_eq_none_iff a b, compare?_swap a b, AtMost.trans,
    Comparable.total, equal_iff_exact ha hb, ?refl, ?symm, ?trans, ?agree⟩
  case numbers =>
    rintro m n rfl rfl
    exact compare?_numbers m n
  case texts =>
    rintro s t rfl rfl
    exact compare?_texts s t
  case refl => exact (equal_iff_exact ha ha).mpr rfl
  case symm =>
    rw [equal_iff_exact ha hb, equal_iff_exact hb ha]
    exact Eq.symm
  case trans =>
    rw [equal_iff_exact ha hb, equal_iff_exact hb hc, equal_iff_exact ha hc]
    exact Eq.trans
  case agree =>
    intro order compared
    rw [equal_of_compare? compared, beq_iff_eq]

/-- The two zeros of a real and the integer are equal, also inside an array in an object. -/
theorem comparison_by_value_nested :
    let nested (n : Number) : Json := .object [("k", .array [.number n, .single "m" .null])]
    let a := nested (.real (.zero true))
    let b := nested (.ofInt 0)
    let c := nested (.real (.zero false))
    a.WellFormed ∧ b.WellFormed ∧ c.WellFormed ∧ a.equal b = true ∧ b.equal c = true ∧
      a.equal c = true ∧ c.equal a = true ∧ ¬Comparable a c := by
  intro nested a b c
  have ha : a.WellFormed := by decide
  have hb : b.WellFormed := by decide
  have hc : c.WellFormed := by decide
  have first : a.equal b = true := by decide +kernel
  have second : b.equal c = true := by decide +kernel
  obtain ⟨-, -, -, -, -, -, -, -, -, trans, -⟩ := comparison_by_value ha hb hc
  obtain ⟨-, -, apart, -, -, -, -, -, symm, -, -⟩ := comparison_by_value ha hc hb
  exact ⟨ha, hb, hc, first, second, trans first second, symm (trans first second), apart.mp rfl⟩

-- No integer is rounded to meet a real: `2 ^ 53 + 1` comes after the real `2 ^ 53`.
example : compare? (.ofInt 9007199254740993)
    (.number (.real ⟨false, fullSignificand, 1075, by decide⟩)) = some .gt := by
  decide +kernel

end Json

end Pushdown
