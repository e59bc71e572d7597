import Pushdown.Number.Binary64

/-!
# Decimals of binary64 numbers

A nonzero number is written with the fewest digits that read back as the same number. The reals
that round to the number form an interval, whose ends belong to it when the significand is even.
The shortest decimal is found on the coarsest grid of multiples of a power of ten that meets this
interval; of two multiples inside, the nearer is taken, and of two equally near the even one.

Reading goes the other way in one step: the digits become a whole number of 64 bits, which is
rounded to a binary64 number and then multiplied or divided once by a power of ten.
-/

namespace Pushdown

/-- The number `digits * 10 ^ exponent`. -/
structure Decimal where
  digits : Nat
  exponent : Int
deriving DecidableEq, Repr

namespace Binary64

/-- An interval of magnitudes. Bounds are in quarters of a unit, so that half the distance to a
neighbour is a whole number. -/
structure Interval where
  low : Nat
  high : Nat
  closed : Bool

/-- The magnitudes that round to `x`. The lower neighbour is half as far away when the
significand is the least of its shift. -/
def roundingInterval (x : Binary64) : Interval :=
  let gap := Nat.pow 2 x.shift
  let below := if x.significand = fullSignificand ∧ 0 < x.shift then gap else 2 * gap
  ⟨4 * x.magnitude - below, 4 * x.magnitude + 2 * gap, x.significand % 2 == 0⟩

/-- Whether `num / den` quarters of a unit lie inside the interval. -/
def Interval.holds (i : Interval) (num den : Nat) : Bool :=
  if i.closed then i.low * den ≤ num && num ≤ i.high * den
  else i.low * den < num && num < i.high * den

/-- The power of ten `10 ^ e` as a quotient of whole numbers. -/
def powerOfTen (e : Int) : Nat × Nat :=
  if 0 ≤ e then (Nat.pow 10 e.toNat, 1) else (1, Nat.pow 10 (-e).toNat)

/-- The multiple of `10 ^ e` inside the rounding interval of `x` that is nearest to `x`. -/
def onGrid? (x : Binary64) (e : Int) : Option Nat :=
  let (up, down) := powerOfTen e
  -- A multiple `d` is `d * step / down` quarters of a unit.
  let step := 4 * one * up
  let value := 4 * x.magnitude * down
  let floor := value / step
  let interval := x.roundingInterval
  let low := interval.holds (floor * step) down
  let high := interval.holds ((floor + 1) * step) down
  let twice := 2 * (value % step)
  if low && high then
    some (if twice < step ∨ (twice = step ∧ floor % 2 = 0) then floor else floor + 1)
  else if low then some floor
  else if high then some (floor + 1)
  else none

/-- The first hit on the grids of `10 ^ e`, `10 ^ (e - 1)` and so on. -/
def firstOnGrid (x : Binary64) (e : Int) : Nat → Decimal
  | 0 => ⟨0, 0⟩
  | fuel + 1 =>
    match x.onGrid? e with
    | some digits => ⟨digits, e⟩
    | none => firstOnGrid x (e - 1) fuel

/-- An exponent for which `10 ^ e` is more than twice the magnitude. The factor `30103 / 100000`
is just above the decimal logarithm of two. -/
def gridStart (x : Binary64) : Int :=
  let bits : Int := (x.magnitude.log2 : Int) + 1 - 1074
  bits * 30103 / 100000 + 2

/-- The decimal with the fewest digits that reads back as the magnitude of `x`; zero has the
single digit `0`. Twenty-five grids below `gridStart` always contain a hit, since seventeen digits
tell all numbers apart. -/
def shortest (x : Binary64) : Decimal :=
  if x.isZero then ⟨0, 0⟩ else x.firstOnGrid x.gridStart 25

/-- The number nearest to `10 ^ n`, for the exponents up to 308 that are in range. -/
def tenTo (n : Nat) : Binary64 := (ofInt? (Nat.pow 10 n)).getD (zero false)

/-- Divides by `10 ^ 308` until the exponent is in range and then by the rest of the power.
Three divisions bring every 64-bit number to zero. -/
def scaleDown? (x : Binary64) (exponent : Nat) : Nat → Option Binary64
  | 0 => some (zero x.negative)
  | fuel + 1 =>
    if x.isZero then some x
    else if exponent ≤ 308 then x.div? (tenTo exponent)
    else do
      let smaller ← x.div? (tenTo 308)
      scaleDown? smaller (exponent - 308) fuel

/-- Reads `digits * 10 ^ exponent`, where the digits fit into 64 bits. Numbers beyond the finite
range are refused, and so is every exponent above 308 unless the digits are zero. -/
def ofDecimal? (negative : Bool) (digits : Nat) (exponent : Int) : Option Binary64 := do
  let whole ← ofQuotient? negative (digits * one) 1
  if 0 ≤ exponent then
    if exponent ≤ 308 then whole.mul? (tenTo exponent.toNat)
    else if whole.isZero then some whole
    else none
  else
    scaleDown? whole (-exponent).toNat 4

end Binary64

end Pushdown
