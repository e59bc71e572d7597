import Pushdown.Number.Word

/-!
# Finite binary64 numbers

A finite number of the 64-bit binary format is a whole number of units, the unit being
`2 ^ -1074`, the smallest positive number of the format. The exact value of a number is therefore
an integer, `units`, and order and equality of values are order and equality of integers.

Arithmetic rounds an exact quotient of units to the nearest number, a tie going to the even
significand. A result that would leave the finite range is `none`.
-/

namespace Pushdown

/-- The least significand of 53 binary digits, `2 ^ 52`. -/
def fullSignificand : Nat := 4503599627370496

/-- A finite number `± significand * 2 ^ shift` units. The canonical form makes equality of the
fields the same as equality of bits: the significand has at most 53 binary digits, and exactly as
many unless the shift is zero. -/
structure Binary64 where
  negative : Bool
  significand : Nat
  shift : Nat
  canonical : significand < 2 * fullSignificand ∧ (shift = 0 ∨ fullSignificand ≤ significand) ∧
    shift ≤ 2045
deriving DecidableEq, Repr

namespace Binary64

/-- The number of units in one. -/
def one : Nat := Nat.pow 2 1074

/-- The distance from zero, in units. -/
def magnitude (x : Binary64) : Nat := x.significand * Nat.pow 2 x.shift

/-- The exact value, in units. -/
def units (x : Binary64) : Int :=
  if x.negative then -(x.magnitude : Int) else x.magnitude

def zero (negative : Bool) : Binary64 := ⟨negative, 0, 0, by decide⟩

instance : Inhabited Binary64 := ⟨zero false⟩

/-- True of both zeros. -/
def isZero (x : Binary64) : Bool := x.significand == 0

/-- The order of distances from zero. In canonical form a greater shift means a greater distance,
and within one shift the significands decide. -/
def compareMagnitude (x y : Binary64) : Ordering :=
  (Ord.compare x.shift y.shift).then (Ord.compare x.significand y.significand)

/-- The order of values. The two zeros are the same value. -/
def compare (x y : Binary64) : Ordering :=
  if x.isZero && y.isZero then .eq
  else match x.negative, y.negative with
    | false, false => compareMagnitude x y
    | false, true => .gt
    | true, false => .lt
    | true, true => compareMagnitude y x

def neg (x : Binary64) : Binary64 := { x with negative := !x.negative }

/-- The quotient rounded to the nearest natural number, a half going to the even neighbour. -/
def roundHalfEven (num den : Nat) : Nat :=
  let quotient := num / den
  let twice := 2 * (num % den)
  if twice < den ∨ (twice = den ∧ quotient % 2 = 0) then quotient else quotient + 1

/-- A significand and shift put into canonical form; a significand that rounding carried to
`2 ^ 53` moves to the next shift. -/
def pack? (negative : Bool) (significand shift : Nat) : Option Binary64 :=
  if h : significand < 2 * fullSignificand ∧ (shift = 0 ∨ fullSignificand ≤ significand) ∧
      shift ≤ 2045 then
    some ⟨negative, significand, shift, h⟩
  else if h : significand = 2 * fullSignificand ∧ shift + 1 ≤ 2045 then
    some ⟨negative, fullSignificand, shift + 1, by decide, .inr (Nat.le_refl _), h.2⟩
  else
    none

/-- The number nearest to `num / den` units, `none` when that lies beyond the finite range. -/
def ofQuotient? (negative : Bool) (num den : Nat) : Option Binary64 :=
  let shift := (num / den).log2 - 52
  pack? negative (roundHalfEven num (den * Nat.pow 2 shift)) shift

def ofInt? (i : Int) : Option Binary64 :=
  ofQuotient? (i < 0) (i.natAbs * one) 1

/-- The whole part of the value, the fraction being dropped. -/
def truncate (x : Binary64) : Int := x.units.tdiv one

/-- The value cast to a signed 64-bit integer. Beyond the range the cast stops at its ends. -/
def toSigned (x : Binary64) : Int := max leastSigned (min greatestSigned x.truncate)

/-- `2 ^ 63`, which follows the greatest signed 64-bit integer. -/
def signedBound : Binary64 := ⟨false, fullSignificand, 1085, by decide⟩

/-- The order of a signed 64-bit integer relative to a number. Beyond the range of such integers a
number is on one side of them all. Within it the whole parts decide, and between equal whole parts
the fraction of the number does. Only what is no number at all would compare with nothing. -/
def compareInteger? (i : Int) (x : Binary64) : Option Ordering :=
  if x.compare signedBound != .lt then some .lt
  else if x.compare signedBound.neg == .lt then some .gt
  else
    (ofInt? x.truncate).map fun whole =>
      (Ord.compare i whole.toSigned).then (whole.compare x)

/-- The quotient of two numbers, the second of which is not zero. -/
def div? (x y : Binary64) : Option Binary64 :=
  ofQuotient? (x.negative != y.negative) (x.magnitude * one) y.magnitude

def mul? (x y : Binary64) : Option Binary64 :=
  ofQuotient? (x.negative != y.negative) (x.magnitude * y.magnitude) one

/-- The difference of two numbers. A zero difference is positive. -/
def sub? (x y : Binary64) : Option Binary64 :=
  let difference := x.units - y.units
  ofQuotient? (difference < 0) difference.natAbs 1

end Binary64

end Pushdown
