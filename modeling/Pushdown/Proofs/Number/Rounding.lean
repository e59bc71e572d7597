import Pushdown.Json.Number
import Mathlib.Tactic.Ring

/-!
# Rounding integers to binary64

An integer of 64 bits always has a nearest binary64 number. It has the sign of the integer and at
least the magnitude of the greatest power of two below it, and it is the integer itself when that
has at most 53 binary digits before its trailing zeros.
-/

namespace Pushdown.Binary64

/-! ## Rounded quotients -/

theorem le_roundHalfEven (num den : Nat) : num / den ≤ roundHalfEven num den := by
  unfold roundHalfEven
  dsimp only
  split <;> omega

theorem roundHalfEven_le (num den : Nat) : roundHalfEven num den ≤ num / den + 1 := by
  unfold roundHalfEven
  dsimp only
  split <;> omega

theorem roundHalfEven_of_dvd {num den : Nat} (positive : 0 < den) (h : den ∣ num) :
    roundHalfEven num den = num / den := by
  unfold roundHalfEven
  rw [Nat.mod_eq_zero_of_dvd h]
  exact if_pos (.inl positive)

theorem fullSignificand_eq : fullSignificand = 2 ^ 52 := rfl

/-- The shift that leaves 53 binary digits of a number of units. -/
def shiftOf (num : Nat) : Nat := num.log2 - 52

theorem div_shiftOf_lt (num : Nat) : num / 2 ^ shiftOf num < 2 * fullSignificand := by
  rw [Nat.div_lt_iff_lt_mul (Nat.two_pow_pos _), fullSignificand_eq]
  have digits : num < 2 ^ (num.log2 + 1) := Nat.lt_log2_self
  have grow : 2 ^ (num.log2 + 1) ≤ 2 ^ (53 + shiftOf num) :=
    Nat.pow_le_pow_right (by decide) (by unfold shiftOf; omega)
  calc num < 2 ^ (53 + shiftOf num) := digits.trans_le grow
    _ = 2 * 2 ^ 52 * 2 ^ shiftOf num := by rw [pow_add]; rfl

theorem pow_log2_le {num : Nat} (large : 52 ≤ num.log2) :
    2 ^ num.log2 ≤ num / 2 ^ shiftOf num * 2 ^ shiftOf num := by
  have nonzero : num ≠ 0 := by
    intro zero
    simp [zero] at large
  have split : 2 ^ num.log2 = 2 ^ 52 * 2 ^ shiftOf num := by
    rw [← pow_add, shiftOf, Nat.add_sub_cancel' large]
  rw [split]
  refine Nat.mul_le_mul_right _ ?_
  rw [Nat.le_div_iff_mul_le (Nat.two_pow_pos _), ← split]
  exact Nat.log2_self_le nonzero

/-- A whole number of units within the range is rounded to its first 53 binary digits. -/
theorem ofQuotient?_one (negative : Bool) {num : Nat} (inRange : num.log2 ≤ 2096) :
    ∃ x, ofQuotient? negative num 1 = some x ∧ x.negative = negative ∧
      x.magnitude = roundHalfEven num (2 ^ shiftOf num) * 2 ^ shiftOf num := by
  have floor := div_shiftOf_lt num
  have low := le_roundHalfEven num (2 ^ shiftOf num)
  have high := roundHalfEven_le num (2 ^ shiftOf num)
  have packs : ofQuotient? negative num 1 =
      pack? negative (roundHalfEven num (2 ^ shiftOf num)) (shiftOf num) := by
    simp only [ofQuotient?, Nat.div_one, Nat.one_mul]
    rfl
  have full (notZero : shiftOf num ≠ 0) : fullSignificand ≤ num / 2 ^ shiftOf num := by
    have large : 52 ≤ num.log2 := by unfold shiftOf at notZero; omega
    have power := pow_log2_le large
    have split : 2 ^ num.log2 = 2 ^ 52 * 2 ^ shiftOf num := by
      rw [← pow_add, shiftOf, Nat.add_sub_cancel' large]
    rw [split] at power
    exact Nat.le_of_mul_le_mul_right power (Nat.two_pow_pos _)
  have range : shiftOf num + 1 ≤ 2045 := by unfold shiftOf; omega
  generalize roundHalfEven num (2 ^ shiftOf num) = rounded at *
  rw [packs]
  unfold pack?
  split
  · exact ⟨_, rfl, rfl, rfl⟩
  · next notCanonical =>
    have carried : rounded = 2 * fullSignificand := by
      by_contra notCarried
      refine notCanonical ⟨by omega, ?_, by omega⟩
      by_cases zero : shiftOf num = 0
      · exact .inl zero
      · exact .inr ((full zero).trans low)
    rw [dif_pos ⟨carried, range⟩]
    refine ⟨_, rfl, rfl, ?_⟩
    change fullSignificand * 2 ^ (shiftOf num + 1) = rounded * 2 ^ shiftOf num
    rw [carried, pow_succ]
    ring

/-- A number of units with at most 53 binary digits before its trailing zeros is exact. -/
theorem roundHalfEven_exact {digits zeros : Nat} (few : digits < 2 ^ 53) :
    roundHalfEven (digits * 2 ^ zeros) (2 ^ shiftOf (digits * 2 ^ zeros)) *
      2 ^ shiftOf (digits * 2 ^ zeros) = digits * 2 ^ zeros := by
  have least : shiftOf (digits * 2 ^ zeros) ≤ zeros := by
    by_cases none : digits * 2 ^ zeros = 0
    · simp [none, shiftOf]
    · have below : digits * 2 ^ zeros < 2 ^ (53 + zeros) := by
        rw [pow_add]
        exact Nat.mul_lt_mul_of_pos_right few (Nat.two_pow_pos _)
      have log := (Nat.log2_lt none).mpr below
      unfold shiftOf
      omega
  have divides : 2 ^ shiftOf (digits * 2 ^ zeros) ∣ digits * 2 ^ zeros :=
    (Nat.pow_dvd_pow 2 least).trans (Nat.dvd_mul_left _ _)
  rw [roundHalfEven_of_dvd (Nat.two_pow_pos _) divides]
  exact Nat.div_mul_cancel divides

/-! ## Integers -/

/-- The binary digits of a unit after the point. -/
def unitDigits : Nat := 1074

theorem one_eq : one = 2 ^ unitDigits := Nat.pow_eq

theorem one_pos : 0 < one := by
  rw [one_eq]
  exact Nat.two_pow_pos unitDigits

/-- Every integer of 64 bits has a nearest number, with its sign. -/
theorem ofInt?_eq_some {i : Int} (fits : FitsWord i) :
    ∃ x, ofInt? i = some x ∧ x.negative = decide (i < 0) ∧
      x.magnitude = roundHalfEven (i.natAbs * one) (2 ^ shiftOf (i.natAbs * one)) *
        2 ^ shiftOf (i.natAbs * one) := by
  refine ofQuotient?_one _ ?_
  by_cases zero : i.natAbs * one = 0
  · simp [zero]
  · have small : i.natAbs < 2 ^ 65 := by
      obtain ⟨low, high⟩ := fits
      unfold leastSigned at low
      unfold greatestUnsigned at high
      omega
    have below : i.natAbs * one < 2 ^ (65 + unitDigits) := by
      rw [pow_add, one_eq]
      exact Nat.mul_lt_mul_of_pos_right small (Nat.two_pow_pos _)
    have log := (Nat.log2_lt zero).mpr below
    unfold unitDigits at log
    omega

/-- The number nearest to an integer is as far from zero as every power of two that the integer
reaches. -/
theorem pow_le_magnitude {i : Int} {x : Binary64}
    (magnitude : x.magnitude = roundHalfEven (i.natAbs * one) (2 ^ shiftOf (i.natAbs * one)) *
      2 ^ shiftOf (i.natAbs * one)) {k : Nat} (reaches : 2 ^ k ≤ i.natAbs) :
    2 ^ k * one ≤ x.magnitude := by
  have units : 2 ^ (k + unitDigits) ≤ i.natAbs * one := by
    rw [pow_add, one_eq]
    exact Nat.mul_le_mul_right _ reaches
  have nonzero : i.natAbs * one ≠ 0 := (Nat.two_pow_pos _ |>.trans_le units).ne'
  have log : k + unitDigits ≤ (i.natAbs * one).log2 := (Nat.le_log2 nonzero).mpr units
  calc 2 ^ k * one = 2 ^ (k + unitDigits) := by rw [one_eq, pow_add]
    _ ≤ 2 ^ (i.natAbs * one).log2 := Nat.pow_le_pow_right (by decide) log
    _ ≤ i.natAbs * one / 2 ^ shiftOf (i.natAbs * one) * 2 ^ shiftOf (i.natAbs * one) :=
      pow_log2_le (by unfold unitDigits at log; omega)
    _ ≤ x.magnitude := by
      rw [magnitude]
      exact Nat.mul_le_mul_right _ (le_roundHalfEven _ _)

/-- A count of items that fits the signed range has the value of no integer outside the range of
counts, also when that integer is rounded. -/
theorem count_units_ne {count : Nat} (fitsCount : (count : Int) ≤ greatestSigned) {i : Int}
    (fits : FitsWord i) (outside : i < 0 ∨ greatestSigned < i) :
    (count * one : Int) ≠ (Number.integer i fits).toReal.units := by
  obtain ⟨x, nearest, sign, magnitude⟩ := ofInt?_eq_some fits
  rw [Number.toReal, nearest, Option.getD_some]
  intro units
  have positive : (0 : Int) < one := by exact_mod_cast one_pos
  have countUnits : (0 : Int) ≤ count * one :=
    Int.mul_nonneg (Int.natCast_nonneg count) positive.le
  unfold Binary64.units at units
  obtain negative | large := outside
  · have reaches : 2 ^ 0 ≤ i.natAbs := by simp; omega
    have far := pow_le_magnitude magnitude reaches
    rw [sign, decide_eq_true negative, if_pos rfl] at units
    have := one_pos
    omega
  · have notNegative : ¬ i < 0 := by unfold greatestSigned at large; omega
    have reaches : 2 ^ 63 ≤ i.natAbs := by unfold greatestSigned at large; omega
    have far := pow_le_magnitude magnitude reaches
    rw [sign, decide_eq_false notNegative, if_neg (by decide)] at units
    have few : count < 2 ^ 63 := by unfold greatestSigned at fitsCount; omega
    have less : count * one < 2 ^ 63 * one := Nat.mul_lt_mul_of_pos_right few one_pos
    have same : x.magnitude = count * one := by exact_mod_cast units.symm
    omega

end Pushdown.Binary64
