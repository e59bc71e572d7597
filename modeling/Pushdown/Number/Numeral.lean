import Pushdown.Number.Decimal

/-!
# Numerals

The digits of a number are fixed by its shortest decimal; a style says how they are laid out. Two
styles are in use. A JSON numeral keeps a point in every number and turns to an exponent outside a
window of sizes. A plain numeral never has an exponent and has a point only before a fraction.
-/

namespace Pushdown

/-- How the digits of a number are laid out. -/
structure NumeralStyle where
  /-- The decimal exponents of the first digit between which no exponent is written, if there is
  such a window. Without a window no exponent is ever written. -/
  window : Option (Int × Int)
  /-- What follows a number without a fraction. -/
  wholeSuffix : List Char

namespace NumeralStyle

/-- Whole numbers end in `.0`, and positional digits are written from `0.00001` up to
`1000000000000000.0`. -/
def json : NumeralStyle := ⟨some (-5, 15), ['.', '0']⟩

/-- Every number is written positionally, a whole one like an integer. -/
def plain : NumeralStyle := ⟨none, []⟩

end NumeralStyle

def decimalDigits (n : Nat) : List Char := Nat.toDigits 10 n

def decimalText (n : Nat) : String := String.ofList (decimalDigits n)

/-- The decimal digits of an integer, after a minus sign when it is negative. -/
def integerDigits (i : Int) : List Char :=
  if i < 0 then '-' :: decimalDigits i.natAbs else decimalDigits i.natAbs

namespace Decimal

/-- The digits with a point after the first `point` places, filled with zeros where the digits do
not reach. -/
def positional (digits : List Char) (point : Int) (wholeSuffix : List Char) : List Char :=
  if point ≤ 0 then
    ['0', '.'] ++ List.replicate (-point).toNat '0' ++ digits
  else if point < digits.length then
    digits.take point.toNat ++ '.' :: digits.drop point.toNat
  else
    digits ++ List.replicate (point - digits.length).toNat '0' ++ wholeSuffix

/-- One digit, a point before any others, and a signed exponent. -/
def scientific (digits : List Char) (exponent : Int) : List Char :=
  let fraction := digits.drop 1
  let sign := if exponent < 0 then '-' else '+'
  digits.take 1 ++ (if fraction.isEmpty then [] else '.' :: fraction) ++
    'e' :: sign :: decimalDigits exponent.natAbs

def layOut (d : Decimal) (style : NumeralStyle) : List Char :=
  let digits := decimalDigits d.digits
  let point := digits.length + d.exponent
  match style.window with
  | none => positional digits point style.wholeSuffix
  | some (least, greatest) =>
    if least ≤ point - 1 ∧ point - 1 ≤ greatest then
      positional digits point style.wholeSuffix
    else
      scientific digits (point - 1)

end Decimal

/-- A number in a style, with a minus sign also before the negative zero. -/
def Binary64.numeral (x : Binary64) (style : NumeralStyle) : List Char :=
  (if x.negative then ['-'] else []) ++ x.shortest.layOut style

end Pushdown
