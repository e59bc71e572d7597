import Mathlib.Data.List.Sort
import Pushdown.Proofs.Number.Order
import Pushdown.Query.Sort

/-!
# Stable sorting

A list is stably sorted when it is rearranged in order and equal elements keep their order. For an
order that is total and transitive there is exactly one such rearrangement, so it does not matter
who sorts, or whether elements are dropped before or after.

The order of documents by several keys is such an order.
-/

namespace Pushdown

open Std (ReflCmp OrientedCmp TransCmp)

/-! ## Stably sorted lists -/

/-- The elements that an order does not tell from one. -/
def ties {α : Type} (order : α → α → Ordering) (x : α) (elements : List α) : List α :=
  elements.filter (order x · == .eq)

/-- A rearrangement in ascending order in which equal elements keep their order. -/
structure StablySorted {α : Type} (order : α → α → Ordering) (given sorted : List α) : Prop where
  rearranged : sorted.Perm given
  ascending : sorted.Pairwise fun a b => (order a b).isLE
  stable : ∀ x ∈ given, ties order x sorted = ties order x given

namespace StablySorted

variable {α : Type} {order other : α → α → Ordering} {given sorted again : List α}

theorem ties_cons_of_eq {x y : α} {elements : List α} (same : order x y = .eq) :
    ties order x (y :: elements) = y :: ties order x elements := by
  apply List.filter_cons_of_pos
  rw [same]
  rfl

theorem ties_cons_of_ne {x y : α} {elements : List α} (different : order x y ≠ .eq) :
    ties order x (y :: elements) = ties order x elements := by
  apply List.filter_cons_of_neg
  rw [beq_iff_eq]
  exact different

theorem refl (ascending : given.Pairwise fun a b => (order a b).isLE) :
    StablySorted order given given := by
  constructor
  · exact .refl _
  · exact ascending
  · intro x _
    rfl

/-- Dropping elements keeps a list sorted. -/
theorem filter (kept : α → Bool) (h : StablySorted order given sorted) :
    StablySorted order (given.filter kept) (sorted.filter kept) := by
  constructor
  · exact h.rearranged.filter kept
  · exact h.ascending.filter kept
  · intro x member
    have stable := h.stable x (List.mem_of_mem_filter member)
    rw [ties, List.filter_comm, ← ties, stable, ties, ties, List.filter_comm]

/-- Only the order of the elements matters. -/
theorem congr (h : StablySorted order given sorted)
    (agree : ∀ a ∈ given, ∀ b ∈ given, order a b = other a b) :
    StablySorted other given sorted := by
  have within {a : α} : a ∈ sorted → a ∈ given := h.rearranged.mem_iff.mp
  constructor
  · exact h.rearranged
  · apply h.ascending.imp_of_mem
    intro a b left right before
    rw [← agree a (within left) b (within right)]
    exact before
  · intro x member
    have same (xs : List α) (inside : ∀ a ∈ xs, a ∈ given) :
        ties other x xs = ties order x xs := by
      apply List.filter_congr
      intro a found
      rw [agree x member a (inside a found)]
    rw [same sorted fun a => within, same given fun a => id, h.stable x member]

theorem first_isLE [TransCmp order] {x z : α} {xs : List α}
    (ascending : (x :: xs).Pairwise fun a b => (order a b).isLE) (member : z ∈ x :: xs) :
    (order x z).isLE := by
  rcases List.mem_cons.mp member with rfl | later
  · have self : order z z = .eq := ReflCmp.compare_self
    rw [self]
    rfl
  · exact List.rel_of_pairwise_cons ascending later

/-- Lists in ascending order that hold the same elements, equal ones in the same order, are the
same. -/
theorem eq_of_ascending [TransCmp order] :
    ∀ {xs ys : List α}, xs.Perm ys →
      (xs.Pairwise fun a b => (order a b).isLE) → (ys.Pairwise fun a b => (order a b).isLE) →
      (∀ x ∈ xs, ties order x xs = ties order x ys) → xs = ys
  | [], ys, perm, _, _, _ => perm.nil_eq
  | x :: xs, [], perm, _, _, _ => by
    cases perm.eq_nil
  | x :: xs, y :: ys, perm, left, right, stable => by
    -- The two first elements are each before the other, hence equal, hence the same.
    have before : (order x y).isLE := first_isLE left (perm.mem_iff.mpr List.mem_cons_self)
    have after : (order y x).isLE := first_isLE right (perm.mem_iff.mp List.mem_cons_self)
    have swap : order y x = (order x y).swap := OrientedCmp.eq_swap
    rw [swap] at after
    have equal : order x y = .eq := Ordering.eq_eq_of_isLE_of_isLE_swap before after
    have heads := stable x List.mem_cons_self
    rw [ties_cons_of_eq ReflCmp.compare_self, ties_cons_of_eq equal] at heads
    obtain ⟨rfl, -⟩ := List.cons.inj heads
    have rest : xs = ys := by
      apply eq_of_ascending perm.cons_inv left.tail right.tail
      intro z member
      have all := stable z (List.mem_cons_of_mem x member)
      by_cases same : order z x = .eq
      · rw [ties_cons_of_eq same, ties_cons_of_eq same] at all
        exact (List.cons.inj all).2
      · rw [ties_cons_of_ne same, ties_cons_of_ne same] at all
        exact all
    rw [rest]

/-- A list is stably sorted in one way only. -/
theorem unique [TransCmp order] (h : StablySorted order given sorted)
    (h' : StablySorted order given again) : sorted = again := by
  apply eq_of_ascending (h.rearranged.trans h'.rearranged.symm) h.ascending h'.ascending
  intro x member
  have within := h.rearranged.mem_iff.mp member
  rw [h.stable x within, h'.stable x within]

/-- Merge sort sorts stably. -/
theorem mergeSort [TransCmp order] (given : List α) :
    StablySorted order given (given.mergeSort fun a b => (order a b).isLE) := by
  have trans (a b c : α) : (order a b).isLE → (order b c).isLE → (order a c).isLE :=
    TransCmp.isLE_trans
  have total (a b : α) : ((order a b).isLE || (order b a).isLE) = true := by
    have swap : order b a = (order a b).swap := OrientedCmp.eq_swap
    rw [swap]
    cases order a b <;> rfl
  have perm := List.mergeSort_perm given fun a b => (order a b).isLE
  constructor
  · exact perm
  · exact List.pairwise_mergeSort trans total given
  · intro x _
    -- Equal elements are in order as they are, so they stay a sublist.
    have equals : (ties order x given).Pairwise fun a b => (order a b).isLE := by
      apply List.pairwise_of_forall_mem_list
      intro a left b right
      have toA : order x a = .eq := by simpa using List.of_mem_filter left
      have toB : order x b = .eq := by simpa using List.of_mem_filter right
      have same : order x b = order a b := TransCmp.congr_left toA
      rw [← same, toB]
      rfl
    have kept := (List.sublist_mergeSort trans total equals List.filter_sublist).filter
      (order x · == .eq)
    rw [ties, List.filter_filter] at kept
    simp only [Bool.and_self] at kept
    exact (kept.eq_of_length_le (perm.filter _).length_eq.le).symm

end StablySorted

/-! ## The order of documents -/

namespace SortKey

/-- The class of a key: missing, a number or a text. -/
def rank : SortKey → Nat
  | .null => 0
  | .number _ => 1
  | .text _ => 2

/-- The number of a key, counted in the least units. -/
def units : SortKey → Int
  | .number value => value.units
  | _ => 0

def content : SortKey → String
  | .text value => value
  | _ => ""

/-- Keys are ordered by their classes and, within a class, by their values. -/
theorem compare_eq :
    SortKey.compare =
      compareLex (compareOn rank) (compareLex (compareOn units) (compareOn content)) := by
  funext a b
  have zero : Ord.compare (0 : Int) 0 = .eq := rfl
  have one : Ord.compare (1 : Nat) 1 = .eq := rfl
  cases a with
  | null => cases b <;> rfl
  | number a =>
    cases b with
    | null => rfl
    | number b =>
      show a.compare b = (Ord.compare a.units b.units).then .eq
      rw [Number.compare_eq, Ordering.then_eq]
    | text b => rfl
  | text a => cases b <;> rfl

instance : TransCmp SortKey.compare := by
  rw [compare_eq]
  infer_instance

end SortKey

def compareAt (segments : List String) (a b : Json) : Ordering :=
  SortKey.compare (.ofValue (a.lookup? segments)) (.ofValue (b.lookup? segments))

instance (segments : List String) : TransCmp (compareAt segments) where
  eq_swap := by
    intro a b
    show SortKey.compare _ _ = (SortKey.compare _ _).swap
    exact OrientedCmp.eq_swap
  isLE_trans := by
    intro a b c
    show (SortKey.compare _ _).isLE → (SortKey.compare _ _).isLE → (SortKey.compare _ _).isLE
    exact TransCmp.isLE_trans

instance (spec : SortSpec) : TransCmp spec.compare := by
  cases direction : spec.direction with
  | ascending =>
    have same : spec.compare = compareAt spec.segments := by
      funext a b
      rw [SortSpec.compare, direction]
      rfl
    rw [same]
    infer_instance
  | descending =>
    have same : spec.compare = fun a b => compareAt spec.segments b a := by
      funext a b
      have swap : compareAt spec.segments b a = (compareAt spec.segments a b).swap :=
        OrientedCmp.eq_swap
      rw [SortSpec.compare, direction, swap]
      rfl
    rw [same]
    infer_instance

theorem compareDocuments_cons (spec : SortSpec) (rest : List SortSpec) :
    compareDocuments (spec :: rest) = compareLex spec.compare (compareDocuments rest) := rfl

/-- Less significant keys decide where the others leave documents equal. -/
theorem compareDocuments_append (sort less : List SortSpec) (a b : Json) :
    compareDocuments (sort ++ less) a b =
      (compareDocuments sort a b).then (compareDocuments less a b) := by
  induction sort with
  | nil => rfl
  | cons spec rest ih =>
    show (spec.compare a b).then (compareDocuments (rest ++ less) a b) = _
    rw [ih, ← Ordering.then_assoc]
    rfl

/-- Documents that no key tells apart are equal in the order. -/
theorem compareDocuments_eq_iff (sort : List SortSpec) (a b : Json) :
    compareDocuments sort a b = .eq ↔ ∀ spec ∈ sort, spec.compare a b = .eq := by
  induction sort with
  | nil => simp [compareDocuments]
  | cons spec rest ih => rw [compareDocuments, Ordering.then_eq_eq, ih, List.forall_mem_cons]

/-- The first key that tells two documents apart decides. -/
theorem compareDocuments_lt_iff (sort : List SortSpec) (a b : Json) :
    compareDocuments sort a b = .lt ↔ ∃ before spec after, sort = before ++ spec :: after ∧
      (∀ earlier ∈ before, earlier.compare a b = .eq) ∧ spec.compare a b = .lt := by
  constructor
  · intro less
    induction sort with
    | nil => cases less
    | cons spec rest ih =>
        rw [compareDocuments, Ordering.then_eq_lt] at less
        obtain first | ⟨tie, later⟩ := less
        · exact ⟨[], spec, rest, rfl, List.forall_mem_nil _, first⟩
        · obtain ⟨before, decisive, after, rfl, ties, less⟩ := ih later
          exact ⟨spec :: before, decisive, after, rfl, List.forall_mem_cons.mpr ⟨tie, ties⟩, less⟩
  · rintro ⟨before, spec, after, rfl, ties, less⟩
    rw [compareDocuments_append, (compareDocuments_eq_iff before a b).mpr ties, Ordering.eq_then,
      compareDocuments, less, Ordering.lt_then]

instance (sort : List SortSpec) : TransCmp (compareDocuments sort) := by
  induction sort with
  | nil => exact { eq_swap := rfl, isLE_trans := fun _ _ => rfl }
  | cons spec rest ih =>
    rw [compareDocuments_cons]
    infer_instance

/-- Documents are sorted stably. -/
theorem sortDocuments_sorted (sort : List SortSpec) (documents : List Json) :
    StablySorted (compareDocuments sort) documents (sortDocuments sort documents) := by
  have ascending : (fun a b => compareDocuments sort a b != .gt) =
      fun a b => (compareDocuments sort a b).isLE := by
    funext a b
    rw [Ordering.isLE_eq_not_beq_gt]
    rfl
  rw [sortDocuments, ascending]
  exact StablySorted.mergeSort documents

/-- Documents are sorted stably by a total preorder: the order by several keys is reflexive,
transitive and total, and it turns around when its arguments are exchanged. The first key that
tells two documents apart decides. A list is rearranged into that order, and documents that are
equal in it stand as they stood. -/
theorem sortDocuments_stable (sort : List SortSpec) :
    (∀ a, compareDocuments sort a a = .eq) ∧
    (∀ a b, compareDocuments sort b a = (compareDocuments sort a b).swap) ∧
    (∀ a b c, (compareDocuments sort a b).isLE → (compareDocuments sort b c).isLE →
      (compareDocuments sort a c).isLE) ∧
    (∀ a b, (compareDocuments sort a b).isLE ∨ (compareDocuments sort b a).isLE) ∧
    (∀ a b, compareDocuments sort a b = .lt ↔ ∃ before spec after, sort = before ++ spec :: after ∧
      (∀ earlier ∈ before, earlier.compare a b = .eq) ∧ spec.compare a b = .lt) ∧
    ∀ documents,
      (sortDocuments sort documents).Perm documents ∧
      (sortDocuments sort documents).Pairwise (fun a b => (compareDocuments sort a b).isLE) ∧
      ∀ a ∈ documents,
        ties (compareDocuments sort) a (sortDocuments sort documents) =
          ties (compareDocuments sort) a documents := by
  have swap (a b : Json) : compareDocuments sort b a = (compareDocuments sort a b).swap :=
    OrientedCmp.eq_swap
  refine ⟨fun _ => ReflCmp.compare_self, swap, ?trans, ?total, compareDocuments_lt_iff sort, ?sorts⟩
  case trans =>
    intro a b c
    exact TransCmp.isLE_trans
  case total =>
    intro a b
    rw [swap a b]
    cases compareDocuments sort a b
    · exact .inl rfl
    · exact .inl rfl
    · exact .inr rfl
  case sorts =>
    intro documents
    obtain ⟨rearranged, ascending, stable⟩ := sortDocuments_sorted sort documents
    exact ⟨rearranged, ascending, stable⟩

/-- Descending by a mixed field, a later key for the same field that changes nothing, and two
documents that stay as they stood. -/
theorem sortDocuments_stable_mixed :
    let sort : List SortSpec := [⟨"v", .descending⟩, ⟨"v", .ascending⟩]
    let missing : Json := .object []
    let truth : Json := .object [("v", .bool true)]
    let one : Json := .object [("v", .ofNat 1), ("w", .null)]
    let text : Json := .object [("v", .string "0")]
    (compareDocuments sort text truth).isLE ∧ (compareDocuments sort truth missing).isLE ∧
      (compareDocuments sort text missing).isLE ∧
      sortDocuments sort [missing, truth, text, one] = [text, truth, one, missing] := by
  intro sort missing truth one text
  obtain ⟨-, -, trans, -, -, sorts⟩ := sortDocuments_stable sort
  have first : (compareDocuments sort text truth).isLE := by decide
  have second : (compareDocuments sort truth missing).isLE := by decide
  refine ⟨first, second, trans text truth missing first second, ?_⟩
  obtain ⟨rearranged, ascending, stable⟩ := sorts [missing, truth, text, one]
  have given : StablySorted (compareDocuments sort) [missing, truth, text, one]
      [text, truth, one, missing] := by
    constructor
    · exact (List.perm_append_singleton missing [text, truth, one]).trans
        (.cons missing (.swap truth text [one]))
    · decide
    · simp only [List.forall_mem_cons]
      exact ⟨rfl, rfl, rfl, rfl, List.forall_mem_nil _⟩
  exact StablySorted.unique ⟨rearranged, ascending, stable⟩ given

end Pushdown
