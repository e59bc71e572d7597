import Pushdown.Number.Numeral
import Pushdown.Number.Word

/-!
# Numbers of documents

A number is an integer that fits 64 bits, signed or unsigned, or a binary64 number. The two kinds
stay apart: `1` and `1.0` are different numbers that compare as equal values.

Values are compared exactly. An integer in the signed range is compared as the integer it is; any
other number is compared as the binary64 number nearest to it.
-/

namespace Pushdown

/-- A number of a document. -/
inductive Number where
  | integer (value : Int) (fits : FitsWord value)
  | real (value : Binary64)
deriving DecidableEq, Repr

namespace Number

instance : Inhabited Number := ⟨.integer 0 (by decide)⟩

/-- An integer as a number; one that does not fit 64 bits becomes zero. -/
def ofInt (i : Int) : Number :=
  if h : FitsWord i then .integer i h else default

/-- The number is kept as a binary64 number. -/
def isReal : Number → Bool
  | integer .. => false
  | real _ => true

/-- The value of an integer in the signed 64-bit range. -/
def signed? : Number → Option Int
  | integer i _ => if i ≤ greatestSigned then some i else none
  | real _ => none

/-- The value of an integer that is not negative. -/
def unsigned? : Number → Option Nat
  | integer i _ => if 0 ≤ i then some i.toNat else none
  | real _ => none

/-- The binary64 number nearest to the number. Every 64-bit integer has one. -/
def toReal : Number → Binary64
  | integer i _ => (Binary64.ofInt? i).getD (.zero false)
  | real x => x

/-- The order of two numbers by value. An integer is never rounded to meet a real. -/
def compare? (a b : Number) : Option Ordering :=
  match a.signed?, b.signed? with
  | some i, some j => some (Ord.compare i j)
  | some i, none => Binary64.compareInteger? i b.toReal
  | none, some j => (Binary64.compareInteger? j a.toReal).map Ordering.swap
  | none, none => some (a.toReal.compare b.toReal)

/-- The order of two numbers in a sort, where numbers that do not compare would be ties. -/
def compare (a b : Number) : Ordering := (a.compare? b).getD .eq

/-- The same number in the same kind; the two zeros of a real are the same. -/
def same : Number → Number → Bool
  | integer i _, integer j _ => i == j
  | real x, real y => x.compare y == .eq
  | _, _ => false

def numeral : Number → List Char
  | integer i _ => integerDigits i
  | real x => x.numeral .json

end Number

end Pushdown
