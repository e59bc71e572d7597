import Pushdown.Proofs.Number.Rounding
import Pushdown.Selector.Reader

/-!
# Numbers cut to whole numbers

The whole part of a binary64 number has at most 53 binary digits before its trailing zeros, so it is
exact as a binary64 number again. Cutting a number to a whole one within the signed 64-bit range is
therefore done once: what comes out is not changed by a second time.
-/

namespace Pushdown

/-! ## Signed integers of 64 bits -/

abbrev FitsSigned (i : Int) : Prop := leastSigned ≤ i ∧ i ≤ greatestSigned

theorem FitsSigned.fitsWord {i : Int} (fits : FitsSigned i) : FitsWord i := by
  obtain ⟨low, high⟩ := fits
  refine ⟨low, high.trans ?_⟩
  decide

theorem Number.fitsSigned_of_signed? {n : Number} {i : Int} (signed : n.signed? = some i) :
    FitsSigned i := by
  cases n with
  | real => cases signed
  | integer value fits =>
      obtain ⟨within, same⟩ := Option.ite_none_right_eq_some.mp signed
      cases same
      exact ⟨fits.1, within⟩

/-! ## Whole parts -/

namespace Binary64

theorem natAbs_units (x : Binary64) : x.units.natAbs = x.significand * 2 ^ x.shift := by
  unfold units magnitude
  split
  · rw [Int.natAbs_neg, Int.natAbs_natCast, Nat.pow_eq]
  · rw [Int.natAbs_natCast, Nat.pow_eq]

/-- A whole part has at most 53 binary digits before its trailing zeros. -/
theorem natAbs_truncate (x : Binary64) :
    ∃ digits zeros, digits < 2 ^ 53 ∧ x.truncate.natAbs = digits * 2 ^ zeros := by
  have small : x.significand < 2 ^ 53 := x.canonical.1
  have whole : x.truncate.natAbs = x.significand * 2 ^ x.shift / 2 ^ unitDigits := by
    rw [truncate, Int.natAbs_tdiv, natAbs_units, Int.natAbs_natCast, one_eq]
    rfl
  by_cases large : unitDigits ≤ x.shift
  · refine ⟨x.significand, x.shift - unitDigits, small, ?_⟩
    have split : 2 ^ x.shift = 2 ^ (x.shift - unitDigits) * 2 ^ unitDigits := by
      rw [← pow_add, Nat.sub_add_cancel large]
    rw [whole, split, ← Nat.mul_assoc, Nat.mul_div_cancel _ (Nat.two_pow_pos _)]
  · refine ⟨x.truncate.natAbs, 0, ?_, by rw [pow_zero, Nat.mul_one]⟩
    have shrinks : x.significand * 2 ^ x.shift ≤ x.significand * 2 ^ unitDigits :=
      Nat.mul_le_mul_left _ (Nat.pow_le_pow_right (by decide) (by omega))
    have bound : x.truncate.natAbs ≤ x.significand := by
      rw [whole]
      calc x.significand * 2 ^ x.shift / 2 ^ unitDigits
          ≤ x.significand * 2 ^ unitDigits / 2 ^ unitDigits := Nat.div_le_div_right shrinks
        _ = x.significand := Nat.mul_div_cancel _ (Nat.two_pow_pos _)
    exact bound.trans_lt small

/-- An integer with at most 53 binary digits before its trailing zeros has itself as its nearest
number. -/
theorem ofInt?_exact {i : Int} (fits : FitsWord i) {digits zeros : Nat} (few : digits < 2 ^ 53)
    (spelled : i.natAbs = digits * 2 ^ zeros) :
    ∃ x, ofInt? i = some x ∧ x.negative = decide (i < 0) ∧ x.magnitude = i.natAbs * one := by
  obtain ⟨x, nearest, sign, magnitude⟩ := ofInt?_eq_some fits
  have units : i.natAbs * one = digits * 2 ^ (zeros + unitDigits) := by
    rw [spelled, one_eq, pow_add, Nat.mul_assoc]
  rw [units, roundHalfEven_exact few, ← units] at magnitude
  exact ⟨x, nearest, sign, magnitude⟩

theorem units_eq_mul_one {i : Int} {x : Binary64} (sign : x.negative = decide (i < 0))
    (magnitude : x.magnitude = i.natAbs * one) : x.units = i * one := by
  unfold units
  rw [sign, magnitude]
  by_cases negative : i < 0
  · rw [decide_eq_true negative, if_pos rfl]
    push_cast
    rw [abs_of_neg negative, Int.neg_mul, Int.neg_neg]
  · rw [decide_eq_false negative, if_neg (by decide)]
    push_cast
    rw [abs_of_nonneg (by omega)]

/-- What is cast to a signed integer and fits the range is cast to its whole part. -/
theorem toSigned_eq {x : Binary64} (fits : FitsSigned x.truncate) : x.toSigned = x.truncate := by
  rw [toSigned, min_eq_right fits.2, max_eq_right fits.1]

/-- A whole part within the signed range is a number again, which is cast to the same integer. -/
theorem ofInt?_truncate {x : Binary64} (fits : FitsSigned x.truncate) :
    ∃ whole, ofInt? x.truncate = some whole ∧ whole.units = x.truncate * one ∧
      whole.toSigned = x.truncate := by
  obtain ⟨digits, zeros, few, spelled⟩ := x.natAbs_truncate
  obtain ⟨whole, nearest, sign, magnitude⟩ := ofInt?_exact fits.fitsWord few spelled
  have units := units_eq_mul_one sign magnitude
  have nonzero : (one : Int) ≠ 0 := by exact_mod_cast one_pos.ne'
  have same : whole.truncate = x.truncate := by
    rw [truncate, units, Int.mul_tdiv_cancel _ nonzero]
  refine ⟨whole, nearest, units, ?_⟩
  rw [← same] at fits
  rw [toSigned_eq fits, same]

end Binary64

namespace Number

open Binary64

/-- An integer with at most 53 binary digits before its trailing zeros is exact as a real. -/
theorem truncate_toReal {i : Int} (fits : FitsWord i) {digits zeros : Nat}
    (few : digits < 2 ^ 53) (spelled : i.natAbs = digits * 2 ^ zeros) :
    (Number.integer i fits).toReal.truncate = i := by
  obtain ⟨x, nearest, sign, magnitude⟩ := ofInt?_exact fits few spelled
  have nonzero : (one : Int) ≠ 0 := by exact_mod_cast one_pos.ne'
  rw [toReal, nearest, Option.getD_some, truncate, units_eq_mul_one sign magnitude,
    Int.mul_tdiv_cancel _ nonzero]

end Number

namespace Operator

theorem wholeOf_bounds (n : Number) : leastSigned ≤ wholeOf n ∧ wholeOf n ≤ greatestSigned := by
  unfold wholeOf Binary64.toSigned leastSigned greatestSigned
  omega

/-- A number that was cut to a whole one has at most 53 binary digits before its trailing zeros,
unless it was cut to the greatest integer. -/
theorem natAbs_wholeOf (n : Number) : wholeOf n = greatestSigned ∨
    ∃ digits zeros, digits < 2 ^ 53 ∧ (wholeOf n).natAbs = digits * 2 ^ zeros := by
  have within : wholeOf n = leastSigned ∨ wholeOf n = greatestSigned ∨
      wholeOf n = n.toReal.truncate := by
    unfold wholeOf Binary64.toSigned
    omega
  obtain least | greatest | exact := within
  · exact .inr ⟨1, 63, by decide, by rw [least]; decide⟩
  · exact .inl greatest
  · rw [exact]
    exact .inr (Binary64.natAbs_truncate n.toReal)

/-- A number that was cut to a whole one stays as it is. -/
theorem wholeOf_ofInt (n : Number) : wholeOf (.ofInt (wholeOf n)) = wholeOf n := by
  obtain ⟨low, high⟩ := wholeOf_bounds n
  have fits : FitsWord (wholeOf n) := by
    refine ⟨low, high.trans ?_⟩
    decide
  have number : Number.ofInt (wholeOf n) = .integer (wholeOf n) fits := dif_pos fits
  obtain greatest | ⟨digits, zeros, few, spelled⟩ := natAbs_wholeOf n
  · rw [greatest]
    decide +kernel
  · have whole := Number.truncate_toReal fits few spelled
    rw [number, wholeOf, Binary64.toSigned, whole]
    omega

/-- Whole numbers are read as they are. -/
theorem ofModulo_whole {divisor remainder : Int} (nonzero : divisor ≠ 0)
    (whole : wholeOf (.ofInt divisor) = divisor)
    (wholeRemainder : wholeOf (.ofInt remainder) = remainder) :
    ofModulo (.array [.ofInt divisor, .ofInt remainder]) = .modulo divisor remainder := by
  rw [Json.ofInt, Json.ofInt, ofModulo, whole, wholeRemainder, if_neg nonzero]

end Operator

end Pushdown
