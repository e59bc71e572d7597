import Mathlib.Tactic.Linarith
import Pushdown.Proofs.Number.Whole

/-!
# The order of numbers

A finite binary64 number is a whole number of units, so its order is an order of integers: a greater
shift means a greater magnitude. Against an integer the ends of the signed range decide, and within
them the whole part, which the cast keeps, and the remainder. Every number of a document has such an
exact value. An integer in the signed 64-bit range is the integer itself, and any other number is
the binary64 number that it is compared as.
-/

namespace Pushdown

namespace Binary64

/-! ## Magnitudes -/

theorem magnitude_eq (x : Binary64) : x.magnitude = x.significand * 2 ^ x.shift := rfl

/-- In canonical form a greater shift means a greater magnitude. -/
theorem magnitude_lt_of_shift_lt {x y : Binary64} (h : x.shift < y.shift) :
    x.magnitude < y.magnitude := by
  have small : x.significand < 2 * fullSignificand := x.canonical.1
  have full : fullSignificand ≤ y.significand := by
    obtain zero | full := y.canonical.2.1
    · omega
    · exact full
  have grows : 2 ^ (x.shift + 1) ≤ 2 ^ y.shift := Nat.pow_le_pow_right (by decide) h
  calc x.magnitude = x.significand * 2 ^ x.shift := rfl
    _ < 2 * fullSignificand * 2 ^ x.shift :=
      Nat.mul_lt_mul_of_pos_right small (Nat.two_pow_pos _)
    _ = fullSignificand * 2 ^ (x.shift + 1) := by rw [pow_succ]; ring
    _ ≤ fullSignificand * 2 ^ y.shift := Nat.mul_le_mul_left _ grows
    _ ≤ y.significand * 2 ^ y.shift := Nat.mul_le_mul_right _ full

theorem magnitude_lt_of_significand_lt {x y : Binary64} (shift : x.shift = y.shift)
    (h : x.significand < y.significand) : x.magnitude < y.magnitude := by
  rw [magnitude_eq, magnitude_eq, shift]
  exact Nat.mul_lt_mul_of_pos_right h (Nat.two_pow_pos _)

/-- The comparison of shifts and significands is the order of magnitudes. -/
theorem compareMagnitude_eq (x y : Binary64) :
    compareMagnitude x y = Ord.compare x.magnitude y.magnitude := by
  unfold compareMagnitude
  obtain less | same | greater := Nat.lt_trichotomy x.shift y.shift
  · rw [Nat.compare_eq_lt.mpr less, Nat.compare_eq_lt.mpr (magnitude_lt_of_shift_lt less)]
    rfl
  · rw [Nat.compare_eq_eq.mpr same]
    obtain less | equal | greater := Nat.lt_trichotomy x.significand y.significand
    · rw [Nat.compare_eq_lt.mpr less,
        Nat.compare_eq_lt.mpr (magnitude_lt_of_significand_lt same less)]
      rfl
    · rw [Nat.compare_eq_eq.mpr equal, magnitude_eq, magnitude_eq, same, equal,
        Nat.compare_eq_eq.mpr rfl]
      rfl
    · rw [Nat.compare_eq_gt.mpr greater,
        Nat.compare_eq_gt.mpr (magnitude_lt_of_significand_lt same.symm greater)]
      rfl
  · rw [Nat.compare_eq_gt.mpr greater, Nat.compare_eq_gt.mpr (magnitude_lt_of_shift_lt greater)]
    rfl

/-! ## Values -/

theorem compare_natCast (m n : Nat) : Ord.compare (m : Int) n = Ord.compare m n := by
  obtain less | same | greater := Nat.lt_trichotomy m n
  · rw [Nat.compare_eq_lt.mpr less, Int.compare_eq_lt.mpr (by omega)]
  · rw [Nat.compare_eq_eq.mpr same, Int.compare_eq_eq.mpr (by omega)]
  · rw [Nat.compare_eq_gt.mpr greater, Int.compare_eq_gt.mpr (by omega)]

theorem compare_neg (i j : Int) : Ord.compare (-i) (-j) = Ord.compare j i := by
  obtain less | same | greater := Int.lt_trichotomy i j
  · rw [Int.compare_eq_gt.mpr (by omega), Int.compare_eq_gt.mpr less]
  · rw [Int.compare_eq_eq.mpr (by omega), Int.compare_eq_eq.mpr same.symm]
  · rw [Int.compare_eq_lt.mpr (by omega), Int.compare_eq_lt.mpr greater]

theorem isZero_iff (x : Binary64) : x.isZero = true ↔ x.magnitude = 0 := by
  rw [isZero, beq_iff_eq, magnitude_eq, Nat.mul_eq_zero]
  have : 2 ^ x.shift ≠ 0 := (Nat.two_pow_pos _).ne'
  tauto

/-- The comparison of numbers is the order of their values in units. -/
theorem compare_eq (x y : Binary64) : x.compare y = Ord.compare x.units y.units := by
  unfold compare units
  split
  · next zeros =>
    rw [Bool.and_eq_true, isZero_iff, isZero_iff] at zeros
    simp [zeros.1, zeros.2]
  · next some =>
    rw [Bool.and_eq_true, isZero_iff, isZero_iff] at some
    cases x.negative <;> cases y.negative <;>
      simp only [compareMagnitude_eq, Bool.false_eq_true, if_false, if_true]
    · exact (compare_natCast _ _).symm
    · exact (Int.compare_eq_gt.mpr (by omega)).symm
    · exact (Int.compare_eq_lt.mpr (by omega)).symm
    · rw [compare_neg, compare_natCast]

/-- A number lies within one of its whole part. -/
theorem truncate_bounds (x : Binary64) :
    (x.truncate - 1) * one < x.units ∧ x.units < (x.truncate + 1) * one := by
  have positive : (0 : Int) < one := by exact_mod_cast one_pos
  have split := Int.mul_tdiv_add_tmod x.units one
  have low := Int.lt_tmod_of_pos x.units positive
  have high := Int.tmod_lt_of_pos x.units positive
  rw [← truncate] at split
  constructor <;> linarith

/-- The order of an integer and a number by whole parts, and then by the fraction. -/
theorem compare_truncate (i : Int) (x : Binary64) :
    (Ord.compare i x.truncate).then (Ord.compare (x.truncate * one) x.units) =
      Ord.compare (i * one) x.units := by
  have positive : (0 : Int) < one := by exact_mod_cast one_pos
  obtain ⟨low, high⟩ := truncate_bounds x
  obtain less | same | greater := Int.lt_trichotomy i x.truncate
  · have below : i * one ≤ (x.truncate - 1) * one :=
      Int.mul_le_mul_of_nonneg_right (by omega) positive.le
    have order : Ord.compare (i * one) x.units = .lt :=
      Int.compare_eq_lt.mpr (lt_of_le_of_lt below low)
    rw [Int.compare_eq_lt.mpr less, order]
    rfl
  · rw [← same, Int.compare_eq_eq.mpr rfl]
    rfl
  · have above : (x.truncate + 1) * one ≤ i * one :=
      Int.mul_le_mul_of_nonneg_right (by omega) positive.le
    have order : Ord.compare (i * one) x.units = .gt :=
      Int.compare_eq_gt.mpr (lt_of_lt_of_le high above)
    rw [Int.compare_eq_gt.mpr greater, order]
    rfl

/-- Integers compare as the values in units that they have. -/
theorem compare_mul_one (i j : Int) : Ord.compare (i * one) (j * one) = Ord.compare i j := by
  have positive : (0 : Int) < one := by exact_mod_cast one_pos
  obtain less | same | greater := Int.lt_trichotomy i j
  · have := Int.mul_lt_mul_of_pos_right less positive
    rw [Int.compare_eq_lt.mpr less, Int.compare_eq_lt.mpr this]
  · rw [same, Int.compare_eq_eq.mpr rfl, Int.compare_eq_eq.mpr rfl]
  · have := Int.mul_lt_mul_of_pos_right greater positive
    rw [Int.compare_eq_gt.mpr greater, Int.compare_eq_gt.mpr this]

theorem units_signedBound : signedBound.units = (greatestSigned + 1) * one := by decide +kernel

theorem units_neg_signedBound : signedBound.neg.units = leastSigned * one := by decide +kernel

/-- A number between the bounds of the signed range has its whole part in the range. -/
theorem truncate_fits {x : Binary64} (low : leastSigned * one ≤ x.units)
    (high : x.units < (greatestSigned + 1) * one) : FitsSigned x.truncate := by
  have positive : (0 : Int) < one := by exact_mod_cast one_pos
  unfold FitsSigned leastSigned greatestSigned truncate at *
  obtain natural | negative := Int.le_total 0 x.units
  · have least : 0 ≤ x.units.tdiv one := Int.tdiv_nonneg natural positive.le
    have greatest : x.units / one < 9223372036854775808 := Int.ediv_lt_of_lt_mul positive high
    rw [← Int.tdiv_eq_ediv_of_nonneg natural] at greatest
    omega
  · have greatest : 0 ≤ (-x.units).tdiv one := Int.tdiv_nonneg (by omega) positive.le
    have least : -x.units / one ≤ 9223372036854775808 :=
      Int.ediv_le_of_le_mul positive (by omega)
    rw [← Int.tdiv_eq_ediv_of_nonneg (by omega)] at least
    rw [Int.neg_tdiv] at least greatest
    omega

/-- The comparison of a signed integer with a number is the order of their values in units. -/
theorem compareInteger?_eq {i : Int} (fits : FitsSigned i) (x : Binary64) :
    compareInteger? i x = some (Ord.compare (i * one) x.units) := by
  have positive : (0 : Int) < one := by exact_mod_cast one_pos
  have least : leastSigned * one ≤ i * one :=
    Int.mul_le_mul_of_nonneg_right fits.1 positive.le
  have greatest : i * one < (greatestSigned + 1) * one :=
    Int.mul_lt_mul_of_pos_right (Int.lt_add_one_of_le fits.2) positive
  unfold compareInteger?
  simp only [compare_eq, units_neg_signedBound, units_signedBound, bne_iff_ne, ne_eq,
    Int.compare_eq_lt, beq_iff_eq, Int.not_lt]
  split
  · next above => rw [Int.compare_eq_lt.mpr (greatest.trans_le above)]
  · next below =>
    rw [Int.not_le] at below
    split
    · next under => rw [Int.compare_eq_gt.mpr (under.trans_le least)]
    · next within =>
      rw [Int.not_lt] at within
      have inside : FitsSigned x.truncate := truncate_fits within below
      obtain ⟨whole, nearest, units, cast⟩ := ofInt?_truncate inside
      rw [nearest, Option.map_some, cast, units, compare_truncate]

end Binary64

namespace Number

/-- The exact value that a number is compared as, in units. -/
def units (n : Number) : Int :=
  match n.signed? with
  | some i => i * Binary64.one
  | none => n.toReal.units

/-- Any two numbers compare, in the order of their exact values. -/
theorem compare?_eq (a b : Number) : a.compare? b = some (Ord.compare a.units b.units) := by
  unfold compare? units
  cases first : a.signed? with
  | none =>
      cases second : b.signed? with
      | none => exact congrArg some (Binary64.compare_eq _ _)
      | some j =>
          have fits := fitsSigned_of_signed? second
          dsimp only
          rw [Binary64.compareInteger?_eq fits, Option.map_some]
          exact congrArg some Std.OrientedCmp.eq_swap.symm
  | some i =>
      cases b.signed? with
      | none => exact Binary64.compareInteger?_eq (fitsSigned_of_signed? first) _
      | some j => exact congrArg some (Binary64.compare_mul_one i j).symm

theorem compare_eq (a b : Number) : a.compare b = Ord.compare a.units b.units := by
  rw [compare, compare?_eq, Option.getD_some]

end Number

end Pushdown
