import Mathlib.Data.Rat.Floor
import Pushdown.Proofs.Number.Whole
import Pushdown.Selector.Matching

/-!
# Remainders

The remainder of an integer is what is left of it when the divisor is taken away as often as the
whole part of the exact quotient says. A divisor that was read from JSON is never zero, and divisor
and remainder are signed 64-bit integers.

The matcher takes the exact remainder of every signed 64-bit integer but one. The quotient of the
least one by minus one is the only quotient that does not fit 64 bits, and there the matcher finds
no remainder at all, although the exact one is zero.
-/

namespace Pushdown

/-! ## Quotients of signed integers -/

section

variable {i d : Int}

/-- The quotient of signed integers fits, except that of the least one by minus one. -/
theorem fitsSigned_tdiv_iff (fits : FitsSigned i) (nonzero : d ≠ 0) :
    FitsSigned (i.tdiv d) ↔ ¬(i = leastSigned ∧ d = -1) := by
  constructor
  · rintro quotient ⟨rfl, rfl⟩
    revert quotient
    decide
  · intro possible
    obtain ⟨low, high⟩ := fits
    by_cases unit : d.natAbs = 1
    · obtain rfl | rfl : d = 1 ∨ d = -1 := by omega
      · rw [Int.tdiv_one]
        exact ⟨low, high⟩
      · rw [Int.tdiv_neg, Int.tdiv_one]
        unfold FitsSigned leastSigned greatestSigned at *
        omega
    · -- Any other divisor at least halves the magnitude.
      have magnitude : (i.tdiv d).natAbs = i.natAbs / d.natAbs := Int.natAbs_tdiv i d
      have halved : i.natAbs / d.natAbs ≤ i.natAbs / 2 :=
        Nat.div_le_div_left (by omega) (by decide)
      unfold FitsSigned leastSigned greatestSigned at *
      omega

/-- The multiple of the divisor that is taken away from a signed integer fits, and so does what is
left. -/
theorem fitsSigned_division (fits : FitsSigned i) (d : Int) :
    FitsSigned (i.tdiv d * d) ∧ FitsSigned (i.tmod d) := by
  have split : i.tdiv d * d + i.tmod d = i := Int.tdiv_mul_add_tmod i d
  have near : (i.tmod d).natAbs ≤ i.natAbs := by
    rw [Int.natAbs_tmod]
    exact Nat.mod_le _ _
  have sign : (0 ≤ i → 0 ≤ i.tmod d) ∧ (i ≤ 0 → i.tmod d ≤ 0) := by
    refine ⟨Int.tmod_nonneg d, ?_⟩
    intro nonpos
    have opposite := Int.tmod_nonneg d (Int.neg_nonneg_of_nonpos nonpos)
    rw [Int.neg_tmod] at opposite
    omega
  unfold FitsSigned leastSigned greatestSigned at *
  omega

end

/-! ## Exact quotients -/

/-- The whole part of a rational number, the fraction being dropped. -/
def wholePart (q : ℚ) : ℤ := if 0 ≤ q then ⌊q⌋ else ⌈q⌉

theorem wholePart_neg (q : ℚ) : wholePart (-q) = -wholePart q := by
  unfold wholePart
  obtain negative | rfl | positive := lt_trichotomy q 0
  · rw [if_pos (by linarith), if_neg (by linarith), Int.floor_neg]
  · simp
  · rw [if_neg (by linarith), if_pos (by linarith), Int.ceil_neg]

theorem wholePart_natCast_div (m n : ℕ) : wholePart ((m : ℚ) / n) = ((m / n : ℕ) : ℤ) := by
  have nonneg : (0 : ℚ) ≤ (m : ℚ) / n := by positivity
  rw [wholePart, if_pos nonneg, Rat.floor_natCast_div_natCast]
  rfl

/-- Integer division that drops the fraction gives the whole part of the exact quotient. -/
theorem wholePart_div (i d : Int) : wholePart ((i : ℚ) / d) = i.tdiv d := by
  obtain ⟨m, rfl | rfl⟩ := i.eq_nat_or_neg <;> obtain ⟨n, rfl | rfl⟩ := d.eq_nat_or_neg
  · exact wholePart_natCast_div m n
  · rw [Int.cast_neg, div_neg, wholePart_neg, Int.tdiv_neg]
    exact congrArg Neg.neg (wholePart_natCast_div m n)
  · rw [Int.cast_neg, neg_div, wholePart_neg, Int.neg_tdiv]
    exact congrArg Neg.neg (wholePart_natCast_div m n)
  · rw [Int.cast_neg, Int.cast_neg, neg_div_neg_eq, Int.neg_tdiv, Int.tdiv_neg, Int.neg_neg]
    exact wholePart_natCast_div m n

/-! ## Remainders of integers -/

namespace Operator

/-- A divisor and a remainder are the two numbers of a list cut to whole ones, and the first of them
is not zero then. -/
theorem ofModulo_eq_modulo {operand : Json} {divisor remainder : Int}
    (read : ofModulo operand = .modulo divisor remainder) :
    ∃ first second : Number, operand = .array [.number first, .number second] ∧
      divisor = wholeOf first ∧ remainder = wholeOf second ∧ divisor ≠ 0 := by
  unfold ofModulo at read
  split at read
  · next first second =>
    split at read
    · cases read
    · next nonzero =>
      cases read
      exact ⟨first, second, rfl, rfl, rfl, nonzero⟩
  · cases read

end Operator

/-- The matcher divides a signed integer exactly, except the least one by minus one. -/
theorem leavesRemainder_signed (divisor remainder : Int) {n : Number} {i : Int}
    (signed : n.signed? = some i) :
    leavesRemainder divisor remainder (.number n) = true ↔
      i.tmod divisor = remainder ∧ ¬(i = leastSigned ∧ divisor = -1) := by
  rw [leavesRemainder, signed]
  simp only [Bool.and_eq_true, Bool.not_eq_true', Bool.and_eq_false_iff, beq_iff_eq,
    beq_eq_false_iff_ne]
  tauto

/-- A divisor that is read from an operand is not zero. A signed integer leaves a remainder exactly
when the remainder is what is left of the integer without the whole part of its exact quotient, the
quotient of the least integer by minus one apart. -/
theorem leavesRemainder_iff_exact {operand : Json} {divisor remainder : Int}
    (read : Operator.ofModulo operand = .modulo divisor remainder) {n : Number} {i : Int}
    (signed : n.signed? = some i) :
    divisor ≠ 0 ∧
      (leavesRemainder divisor remainder (.number n) = true ↔
        i - wholePart ((i : ℚ) / divisor) * divisor = remainder ∧
          ¬(i = leastSigned ∧ divisor = -1)) := by
  obtain ⟨-, -, -, -, -, nonzero⟩ := Operator.ofModulo_eq_modulo read
  have exact : i - wholePart ((i : ℚ) / divisor) * divisor = i.tmod divisor := by
    rw [wholePart_div, Int.tmod_def, Int.mul_comm]
  rw [exact]
  exact ⟨nonzero, leavesRemainder_signed divisor remainder signed⟩

/-- The remainder has the sign of the integer, whatever the sign of the divisor. -/
theorem leavesRemainder_iff_exact_negative :
    let operand : Json := .array [.number (.ofInt (-4)), .number (.ofInt (-1))]
    let n : Number := .ofInt (-9)
    Operator.ofModulo operand = .modulo (-4) (-1) ∧ n.signed? = some (-9) ∧
      leavesRemainder (-4) (-1) (.number n) = true ∧
      (-9 : Int) - wholePart (((-9 : Int) : ℚ) / ((-4 : Int) : ℚ)) * (-4) = -1 := by
  intro operand n
  have read : Operator.ofModulo operand = .modulo (-4) (-1) :=
    Operator.ofModulo_whole (by decide) (by decide +kernel) (by decide +kernel)
  have signed : n.signed? = some (-9) := by decide
  have accepted : leavesRemainder (-4) (-1) (.number n) = true := by decide
  exact ⟨read, signed, accepted, ((leavesRemainder_iff_exact read signed).2.mp accepted).1⟩

/-- The exact remainder of the least signed integer by minus one is zero, and it is not found. -/
theorem leavesRemainder_least :
    let operand : Json := .array [.number (.ofInt (-1)), .number (.ofInt 0)]
    let n : Number := .ofInt leastSigned
    Operator.ofModulo operand = .modulo (-1) 0 ∧ n.signed? = some leastSigned ∧
      leastSigned - wholePart ((leastSigned : ℚ) / ((-1 : Int) : ℚ)) * (-1) = 0 ∧
      leavesRemainder (-1) 0 (.number n) = false := by
  intro operand n
  have read : Operator.ofModulo operand = .modulo (-1) 0 :=
    Operator.ofModulo_whole (by decide) (by decide +kernel) (by decide +kernel)
  refine ⟨read, by decide, ?_, by decide⟩
  rw [wholePart_div]
  decide

end Pushdown
