import Mathlib.Algebra.Order.Field.Rat
import Mathlib.Data.Rat.Cast.Order
import Mathlib.Tactic.FieldSimp
import Mathlib.Tactic.Linarith
import Mathlib.Tactic.Positivity
import Pushdown.Number.Decimal
import Pushdown.Proofs.Number.Order

/-!
# Shortest decimals tell numbers apart

The shortest decimal of a number lies in the interval of the magnitudes that round to the number:
every candidate is checked against the interval, and the twenty-five grids that are searched reach
down to one whose steps are shorter than half of the interval. The intervals of two magnitudes have
at most an end in common, and then the end belongs to one of them only. A magnitude is therefore
determined by the value of its shortest decimal.
-/

namespace Pushdown

def Decimal.value (d : Decimal) : ℚ := d.digits * 10 ^ d.exponent

namespace Binary64

/-! ## Powers of ten -/

theorem powerOfTen_pos (e : Int) : 0 < (powerOfTen e).2 := by
  unfold powerOfTen
  split
  · exact Nat.one_pos
  · exact Nat.pow_pos (by decide)

theorem powerOfTen_eq (e : Int) : ((powerOfTen e).1 : ℚ) / (powerOfTen e).2 = 10 ^ e := by
  unfold powerOfTen
  split
  · next notNegative =>
    obtain ⟨n, rfl⟩ := Int.eq_ofNat_of_zero_le notNegative
    simp [zpow_natCast]
  · next negative =>
    obtain ⟨n, rfl⟩ : ∃ n : Nat, e = -n := ⟨(-e).toNat, by omega⟩
    simp [zpow_neg, zpow_natCast]

/-! ## Rounding intervals -/

def Interval.Contains (i : Interval) (q : ℚ) : Prop :=
  if i.closed then i.low ≤ q ∧ q ≤ i.high else i.low < q ∧ q < i.high

theorem Interval.contains_of_holds {i : Interval} {num den : Nat} (positive : 0 < den)
    (h : i.holds num den = true) : i.Contains (num / den : ℚ) := by
  have bottom : (0 : ℚ) < den := by exact_mod_cast positive
  unfold holds at h
  unfold Contains
  split at h
  · next closed =>
    rw [Bool.and_eq_true, decide_eq_true_eq, decide_eq_true_eq] at h
    rw [if_pos closed, le_div_iff₀ bottom, div_le_iff₀ bottom]
    exact_mod_cast h
  · next notClosed =>
    rw [Bool.and_eq_true, decide_eq_true_eq, decide_eq_true_eq] at h
    rw [if_neg notClosed, lt_div_iff₀ bottom, div_lt_iff₀ bottom]
    exact_mod_cast h

theorem Interval.Contains.le {i : Interval} {q : ℚ} (h : i.Contains q) :
    i.low ≤ q ∧ q ≤ i.high := by
  unfold Contains at h
  split at h
  · exact h
  · exact ⟨h.1.le, h.2.le⟩

/-- Two intervals side by side, without an end that belongs to both, have nothing in common. -/
theorem Interval.not_contains {i j : Interval} (ordered : i.high ≤ j.low)
    (open' : i.high = j.low → i.closed = false ∨ j.closed = false) {q : ℚ} (hi : i.Contains q) :
    ¬ j.Contains q := by
  intro hj
  have high := hi.le.2
  have low := hj.le.1
  have between : (i.high : ℚ) ≤ j.low := by exact_mod_cast ordered
  have meet : (i.high : ℚ) = j.low := by linarith
  obtain left | right := open' (by exact_mod_cast meet)
  · rw [Contains, left] at hi
    have := hi.2
    linarith
  · rw [Contains, right] at hj
    have := hj.1
    linarith

/-- The distance from one number of a shift to the next. -/
def gap (x : Binary64) : Nat := 2 ^ x.shift

theorem gap_pos (x : Binary64) : 0 < x.gap := Nat.two_pow_pos _

theorem magnitude_eq_gap (x : Binary64) : x.magnitude = x.significand * x.gap := rfl

/-- Twice the distance, in units, to the lower end of the rounding interval. -/
def below (x : Binary64) : Nat :=
  if x.significand = fullSignificand ∧ 0 < x.shift then x.gap else 2 * x.gap

theorem roundingInterval_eq (x : Binary64) : x.roundingInterval =
    ⟨4 * x.magnitude - x.below, 4 * x.magnitude + 2 * x.gap, x.significand % 2 == 0⟩ := rfl

theorem below_le (x : Binary64) : x.gap ≤ x.below ∧ x.below ≤ 2 * x.gap := by
  unfold below
  split <;> omega

theorem gap_le_magnitude {x : Binary64} (nonzero : x.isZero = false) : x.gap ≤ x.magnitude := by
  have : x.significand ≠ 0 := by simpa [isZero] using nonzero
  exact Nat.le_mul_of_pos_left _ (Nat.pos_of_ne_zero this)

/-- A number lies a step below the end of its shift, and two steps if its significand is even. -/
theorem magnitude_le_top (x : Binary64) :
    x.magnitude + x.gap ≤ 2 * fullSignificand * x.gap ∧
      (x.significand % 2 = 0 → x.magnitude + 2 * x.gap ≤ 2 * fullSignificand * x.gap) := by
  have small := x.canonical.1
  refine ⟨?_, fun even => ?_⟩
  · calc x.magnitude + x.gap = (x.significand + 1) * x.gap := by rw [magnitude_eq_gap]; ring
      _ ≤ 2 * fullSignificand * x.gap := Nat.mul_le_mul_right _ small
  · -- The last significand is odd.
    have two : x.significand + 2 ≤ 2 * fullSignificand := by unfold fullSignificand at *; omega
    calc x.magnitude + 2 * x.gap = (x.significand + 2) * x.gap := by rw [magnitude_eq_gap]; ring
      _ ≤ 2 * fullSignificand * x.gap := Nat.mul_le_mul_right _ two

/-- The intervals of numbers of different shifts lie side by side. Only the interval of the least
number of a shift can meet that of a number of a lower shift. -/
theorem roundingInterval_ordered_of_shift {x y : Binary64} (h : x.shift < y.shift) :
    4 * x.magnitude + 2 * x.gap + y.below ≤ 4 * y.magnitude ∧
      (4 * x.magnitude + 2 * x.gap + y.below = 4 * y.magnitude → x.significand % 2 ≠ 0) := by
  have positive := x.gap_pos
  obtain ⟨top, evenTop⟩ := x.magnitude_le_top
  have grows : 2 * x.gap ≤ y.gap := by
    have := Nat.pow_le_pow_right (n := 2) (by decide) h
    rw [pow_succ] at this
    unfold gap
    omega
  have full : fullSignificand ≤ y.significand := y.canonical.2.1.resolve_left (by omega)
  obtain least | more := Nat.eq_or_lt_of_le full
  · have halved : y.below = y.gap := if_pos ⟨least.symm, by omega⟩
    have value : y.magnitude = fullSignificand * y.gap := by rw [magnitude_eq_gap, ← least]
    unfold fullSignificand at *
    refine ⟨by linarith, fun meet even => ?_⟩
    have := evenTop even
    linarith
  · have width := y.below_le
    have value : fullSignificand * y.gap + y.gap ≤ y.magnitude := by
      have := Nat.mul_le_mul_right y.gap (Nat.succ_le_of_lt more)
      rwa [Nat.succ_mul] at this
    unfold fullSignificand at *
    refine ⟨by linarith, fun meet => ?_⟩
    linarith

/-- The intervals of numbers of one shift lie side by side, and meet only for neighbours. -/
theorem roundingInterval_ordered_of_significand {x y : Binary64} (shift : x.shift = y.shift)
    (h : x.significand < y.significand) :
    4 * x.magnitude + 2 * x.gap + y.below ≤ 4 * y.magnitude ∧
      (4 * x.magnitude + 2 * x.gap + y.below = 4 * y.magnitude →
        y.significand = x.significand + 1) := by
  have positive := x.gap_pos
  have width := y.below_le
  have gaps : y.gap = x.gap := by rw [gap, gap, shift]
  have value : y.magnitude = y.significand * x.gap := by rw [magnitude_eq_gap, gaps]
  have step : (x.significand + 1) * x.gap ≤ y.magnitude := by
    rw [value]
    exact Nat.mul_le_mul_right _ h
  rw [Nat.add_mul, Nat.one_mul, ← magnitude_eq_gap] at step
  refine ⟨by omega, fun meet => ?_⟩
  by_contra notNext
  have twoSteps : (x.significand + 2) * x.gap ≤ y.magnitude := by
    rw [value]
    exact Nat.mul_le_mul_right _ (by omega)
  rw [Nat.add_mul, ← magnitude_eq_gap] at twoSteps
  omega

/-- The rounding intervals of two magnitudes lie side by side, and an end that is common to both
belongs to one of them at most. -/
theorem roundingInterval_ordered {x y : Binary64} (h : x.magnitude < y.magnitude) :
    4 * x.magnitude + 2 * x.gap + y.below ≤ 4 * y.magnitude ∧
      (4 * x.magnitude + 2 * x.gap + y.below = 4 * y.magnitude →
        x.significand % 2 ≠ 0 ∨ y.significand % 2 ≠ 0) := by
  obtain less | same | greater := Nat.lt_trichotomy x.shift y.shift
  · obtain ⟨ordered, odd⟩ := roundingInterval_ordered_of_shift less
    exact ⟨ordered, fun meet => .inl (odd meet)⟩
  · have order : x.significand < y.significand := by
      rw [magnitude_eq, magnitude_eq, same] at h
      exact Nat.lt_of_mul_lt_mul_right h
    obtain ⟨ordered, neighbours⟩ := roundingInterval_ordered_of_significand same order
    refine ⟨ordered, fun meet => ?_⟩
    have := neighbours meet
    omega
  · have := magnitude_lt_of_shift_lt greater
    omega

/-- Numbers with a common point in their rounding intervals have the same magnitude. -/
theorem magnitude_eq_of_contains {x y : Binary64} (hx : x.isZero = false) (hy : y.isZero = false)
    {q : ℚ} (inX : x.roundingInterval.Contains q) (inY : y.roundingInterval.Contains q) :
    x.magnitude = y.magnitude := by
  have apart {x y : Binary64} (hy : y.isZero = false) (inX : x.roundingInterval.Contains q)
      (inY : y.roundingInterval.Contains q) : ¬ x.magnitude < y.magnitude := by
    intro less
    obtain ⟨ordered, parity⟩ := roundingInterval_ordered less
    have room := gap_le_magnitude hy
    have width := y.below_le
    refine Interval.not_contains ?_ ?_ inX inY
    · rw [roundingInterval_eq, roundingInterval_eq]
      dsimp only
      omega
    · rw [roundingInterval_eq, roundingInterval_eq]
      dsimp only
      intro meet
      exact (parity (by omega)).imp beq_eq_false_iff_ne.mpr beq_eq_false_iff_ne.mpr
  have notLess := apart hy inX inY
  have notGreater := apart hx inY inX
  omega

/-! ## The search for a decimal -/

/-- A multiple that is found lies inside the interval. -/
theorem onGrid?_holds {x : Binary64} {e : Int} {digits : Nat} (h : x.onGrid? e = some digits) :
    x.roundingInterval.holds (digits * (4 * one * (powerOfTen e).1)) (powerOfTen e).2 = true := by
  unfold onGrid? at h
  dsimp only at h
  split at h
  · next both =>
    rw [Bool.and_eq_true] at both
    rw [← Option.some.inj h]
    split
    · exact both.1
    · exact both.2
  · split at h
    · next low =>
      rw [← Option.some.inj h]
      exact low
    · split at h
      · next high =>
        rw [← Option.some.inj h]
        exact high
      · cases h

theorem onGrid?_contains {x : Binary64} {e : Int} {digits : Nat}
    (h : x.onGrid? e = some digits) :
    x.roundingInterval.Contains (4 * one * (⟨digits, e⟩ : Decimal).value) := by
  have inside := Interval.contains_of_holds (powerOfTen_pos e) (onGrid?_holds h)
  have value : ((digits * (4 * one * (powerOfTen e).1) : Nat) : ℚ) / (powerOfTen e).2 =
      4 * one * (digits * 10 ^ e) := by
    rw [← powerOfTen_eq]
    push_cast
    ring
  rwa [value] at inside

/-- The multiple of a step just below the magnitude lies inside the interval if the step is at most
half as long as the interval. -/
theorem holds_floor {x : Binary64} (nonzero : x.isZero = false) {step den : Nat}
    (positive : 0 < step) (bottom : 0 < den) (fine : step ≤ x.gap * den) :
    x.roundingInterval.holds (4 * x.magnitude * den / step * step) den = true := by
  have room := gap_le_magnitude nonzero
  have width := x.below_le
  have floor := Nat.div_mul_le_self (4 * x.magnitude * den) step
  have next := Nat.lt_div_mul_add (a := 4 * x.magnitude * den) positive
  have short : step ≤ x.below * den := fine.trans (Nat.mul_le_mul_right _ width.1)
  have inside : x.below * den ≤ 4 * x.magnitude * den := Nat.mul_le_mul_right _ (by omega)
  have above : 0 < 2 * x.gap * den :=
    Nat.mul_pos (Nat.mul_pos (by decide) x.gap_pos) bottom
  rw [roundingInterval_eq]
  unfold Interval.holds
  dsimp only
  rw [Nat.sub_mul, Nat.add_mul]
  split <;> rw [Bool.and_eq_true, decide_eq_true_eq, decide_eq_true_eq] <;> omega

theorem step_pos (e : Int) : 0 < 4 * one * (powerOfTen e).1 := by
  refine Nat.mul_pos (Nat.mul_pos (by decide) one_pos) ?_
  unfold powerOfTen
  split
  · exact Nat.pow_pos (by decide)
  · exact Nat.one_pos

/-- A grid of steps at most half as long as the interval has a multiple inside. -/
theorem onGrid?_isSome {x : Binary64} (nonzero : x.isZero = false) {e : Int}
    (fine : 4 * one * (powerOfTen e).1 ≤ x.gap * (powerOfTen e).2) :
    ∃ digits, x.onGrid? e = some digits := by
  have low := holds_floor nonzero (step_pos e) (powerOfTen_pos e) fine
  unfold onGrid?
  dsimp only
  rw [low]
  simp only [Bool.true_and, if_true]
  split <;> exact ⟨_, rfl⟩

/-- The search ends with a multiple on one of the grids if the last one has any. -/
theorem firstOnGrid_eq {x : Binary64} {fuel k : Nat} {e : Int} (within : k < fuel) {digits : Nat}
    (last : x.onGrid? (e - k) = some digits) :
    ∃ d, x.firstOnGrid e fuel = d ∧ x.onGrid? d.exponent = some d.digits := by
  induction fuel generalizing e k with
  | zero => omega
  | succ fuel ih =>
      unfold firstOnGrid
      split
      · next found => exact ⟨_, rfl, found⟩
      · next none =>
        cases k with
        | zero =>
            rw [Nat.cast_zero, Int.sub_zero, none] at last
            cases last
        | succ k =>
            refine ih (k := k) (by omega) ?_
            rw [show e - 1 - (k : Int) = e - (k + 1 : Nat) by omega]
            exact last

/-! ## The last grid -/

theorem log2_magnitude_le (x : Binary64) : x.magnitude.log2 ≤ x.shift + 52 := by
  by_cases zero : x.magnitude = 0
  · simp [zero]
  · have small : x.magnitude < 2 ^ (x.shift + 53) := by
      calc x.magnitude = x.significand * 2 ^ x.shift := rfl
        _ < 2 * fullSignificand * 2 ^ x.shift :=
          Nat.mul_lt_mul_of_pos_right x.canonical.1 (Nat.two_pow_pos _)
        _ = 2 ^ (x.shift + 53) := by rw [pow_add, mul_comm]; rfl
    have := (Nat.log2_lt zero).mpr small
    omega

/-- Three binary digits and a third are less than one decimal digit. -/
theorem ten_pow_le_two_pow {n k : Nat} (h : 10 * n ≤ 3 * k) : 10 ^ n ≤ 2 ^ k := by
  have cubes : (10 ^ n) ^ 3 ≤ (2 ^ k) ^ 3 := by
    calc (10 ^ n) ^ 3 = (10 ^ 3) ^ n := by rw [← pow_mul, ← pow_mul, Nat.mul_comm]
      _ ≤ (2 ^ 10) ^ n := Nat.pow_le_pow_left (by decide) n
      _ = 2 ^ (10 * n) := (pow_mul _ _ _).symm
      _ ≤ 2 ^ (3 * k) := Nat.pow_le_pow_right (by decide) h
      _ = (2 ^ k) ^ 3 := by rw [← pow_mul, Nat.mul_comm]
  exact (Nat.pow_le_pow_iff_left (by decide)).mp cubes

/-- Ninety-three binary digits are less than twenty-eight decimal ones. -/
theorem two_pow_le_ten_pow {n k : Nat} (h : 28 * k ≤ 93 * n) : 2 ^ k ≤ 10 ^ n := by
  have powers : (2 ^ k) ^ 93 ≤ (10 ^ n) ^ 93 := by
    calc (2 ^ k) ^ 93 = (2 ^ 93) ^ k := by rw [← pow_mul, ← pow_mul, Nat.mul_comm]
      _ ≤ (10 ^ 28) ^ k := Nat.pow_le_pow_left (by decide) k
      _ = 10 ^ (28 * k) := (pow_mul _ _ _).symm
      _ ≤ 10 ^ (93 * n) := Nat.pow_le_pow_right (by decide) h
      _ = (10 ^ n) ^ 93 := by rw [← pow_mul, Nat.mul_comm]
  exact (Nat.pow_le_pow_iff_left (by decide)).mp powers

theorem four_one : 4 * one = 2 ^ (unitDigits + 2) := by
  have four : 4 = 2 ^ 2 := rfl
  rw [one_eq, pow_add, Nat.mul_comm, ← four]

/-- The last of the grids is finer than half of the rounding interval. -/
theorem last_grid_fine (x : Binary64) :
    4 * one * (powerOfTen (x.gridStart - (24 : Nat))).1 ≤
      x.gap * (powerOfTen (x.gridStart - (24 : Nat))).2 := by
  have log := x.log2_magnitude_le
  have range := x.canonical.2.2
  have start : (x.gridStart - (24 : Nat)) * 100000 ≤
      ((x.shift : Int) - 1021) * 30103 - 22 * 100000 := by
    unfold gridStart
    dsimp only
    omega
  -- The power of two is kept as a variable, since its value has hundreds of digits.
  obtain ⟨unit, unitEq⟩ : ∃ unit, unit = unitDigits + 2 := ⟨_, rfl⟩
  rw [four_one, gap, ← unitEq]
  unfold unitDigits at unitEq
  unfold powerOfTen
  split
  · next notNegative =>
    obtain ⟨n, eq⟩ := Int.eq_ofNat_of_zero_le notNegative
    rw [eq] at start ⊢
    have shift : unit ≤ x.shift := by omega
    have power : 10 ^ n ≤ 2 ^ (x.shift - unit) := ten_pow_le_two_pow (by omega)
    calc 2 ^ unit * Nat.pow 10 (n : Int).toNat = 2 ^ unit * 10 ^ n := rfl
      _ ≤ 2 ^ unit * 2 ^ (x.shift - unit) := Nat.mul_le_mul_left _ power
      _ = 2 ^ x.shift * 1 := by rw [← pow_add, Nat.add_sub_cancel' shift, Nat.mul_one]
  · next negative =>
    obtain ⟨n, eq⟩ : ∃ n : Nat, x.gridStart - (24 : Nat) = -n :=
      ⟨(-(x.gridStart - (24 : Nat))).toNat, by omega⟩
    rw [eq] at start ⊢
    have power : 2 ^ (unit - x.shift) ≤ 10 ^ n := two_pow_le_ten_pow (by omega)
    calc 2 ^ unit * 1 ≤ 2 ^ (x.shift + (unit - x.shift)) := by
          rw [Nat.mul_one]
          exact Nat.pow_le_pow_right (by decide) (by omega)
      _ = 2 ^ x.shift * 2 ^ (unit - x.shift) := pow_add _ _ _
      _ ≤ 2 ^ x.shift * 10 ^ n := Nat.mul_le_mul_left _ power
      _ = 2 ^ x.shift * Nat.pow 10 (- -(n : Int)).toNat := by
          rw [Int.neg_neg]
          rfl

/-! ## Shortest decimals -/

/-- The shortest decimal of a number rounds to the number. -/
theorem shortest_contains {x : Binary64} (nonzero : x.isZero = false) :
    x.roundingInterval.Contains (4 * one * x.shortest.value) := by
  obtain ⟨digits, last⟩ := onGrid?_isSome nonzero x.last_grid_fine
  obtain ⟨d, found, onGrid⟩ := firstOnGrid_eq (by decide : 24 < 25) last
  rw [shortest, nonzero, if_neg (by decide), found]
  exact onGrid?_contains onGrid

theorem shortest_value_pos {x : Binary64} (nonzero : x.isZero = false) :
    0 < x.shortest.value := by
  have low := (shortest_contains nonzero).le.1
  have room := gap_le_magnitude nonzero
  have width := x.below_le
  have positive := x.gap_pos
  have inside : (1 : ℚ) ≤ x.roundingInterval.low := by
    rw [roundingInterval_eq]
    dsimp only
    exact_mod_cast (by omega : 1 ≤ 4 * x.magnitude - x.below)
  have unit : (0 : ℚ) < 4 * one := by exact_mod_cast Nat.mul_pos (by decide : 0 < 4) one_pos
  by_contra notPositive
  have := mul_nonpos_of_nonneg_of_nonpos unit.le (not_lt.mp notPositive)
  linarith

theorem shortest_value_zero {x : Binary64} (zero : x.isZero = true) : x.shortest.value = 0 := by
  rw [shortest, zero, if_pos rfl]
  simp [Decimal.value]

/-- Numbers whose shortest decimals have one value have one magnitude. -/
theorem magnitude_eq_of_shortest {x y : Binary64} (h : x.shortest.value = y.shortest.value) :
    x.magnitude = y.magnitude := by
  cases zeroX : x.isZero with
  | true =>
      cases zeroY : y.isZero with
      | true => rw [(isZero_iff x).mp zeroX, (isZero_iff y).mp zeroY]
      | false =>
          have := shortest_value_pos zeroY
          rw [← h, shortest_value_zero zeroX] at this
          exact absurd this (lt_irrefl 0)
  | false =>
      cases zeroY : y.isZero with
      | true =>
          have := shortest_value_pos zeroX
          rw [h, shortest_value_zero zeroY] at this
          exact absurd this (lt_irrefl 0)
      | false =>
          have inX := shortest_contains zeroX
          rw [h] at inX
          exact magnitude_eq_of_contains zeroX zeroY inX (shortest_contains zeroY)

/-- A number is determined by its sign and its magnitude. -/
theorem eq_of_magnitude {x y : Binary64} (sign : x.negative = y.negative)
    (h : x.magnitude = y.magnitude) : x = y := by
  have order := compareMagnitude_eq x y
  rw [h, Nat.compare_eq_eq.mpr rfl, compareMagnitude, Ordering.then_eq_eq, Nat.compare_eq_eq,
    Nat.compare_eq_eq] at order
  obtain ⟨shift, significand⟩ := order
  cases x
  cases y
  simp_all

end Binary64

end Pushdown
