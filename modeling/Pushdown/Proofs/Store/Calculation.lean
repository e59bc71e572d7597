import Pushdown.Proofs.Number.Whole
import Pushdown.Proofs.Store.Value

/-!
# Calculation in the store

The numbers of a store are signed 64-bit integers and reals. An operation on two integers is exact
where its result fits 64 bits, and is done on reals where it does not, as every operation with a
real is. Cast to an integer, a real loses its fraction and stops at the ends of the signed range.

An arithmetic expression has a text with a placeholder for each of its arguments, and a result for
every stored value.
-/

namespace Pushdown

/-! ## Operations -/

namespace Argument

def real? : Argument → Option Binary64
  | .integer i => Binary64.ofInt? i
  | .real x => some x
  | .null | .text _ => none

def isZero : Argument → Bool
  | .integer i => i == 0
  | .real x => x.isZero
  | .null | .text _ => false

/-- An operation on numbers taken as reals. -/
def onReals? (rounded : Binary64 → Binary64 → Option Binary64) (a b : Argument) :
    Option Argument :=
  a.real?.bind fun x => b.real?.bind fun y => (rounded x y).map .real

/-- An operation on numbers, exact on integers unless the result does not fit. What is no number has
no result, and a result beyond the finite reals is none. -/
def operate? (exact : Int → Int → Int) (rounded : Binary64 → Binary64 → Option Binary64) :
    Argument → Argument → Option Argument
  | .integer i, .integer j =>
    if FitsSigned (exact i j) then some (.integer (exact i j))
    else onReals? rounded (.integer i) (.integer j)
  | a, b => onReals? rounded a b

def difference? : Argument → Argument → Option Argument := operate? (· - ·) Binary64.sub?

def product? : Argument → Argument → Option Argument := operate? (· * ·) Binary64.mul?

/-- The quotient of numbers, on integers without its fraction. There is none by zero. -/
def quotient? (a b : Argument) : Option Argument :=
  if b.isZero then none else operate? Int.tdiv Binary64.div? a b

def toInteger? : Argument → Option Argument
  | .integer i => some (.integer i)
  | .real x => some (.integer x.toSigned)
  | .null | .text _ => none

section

variable {exact : Int → Int → Int} {rounded : Binary64 → Binary64 → Option Binary64} {i j : Int}

theorem operate?_fits (fits : FitsSigned (exact i j)) :
    operate? exact rounded (.integer i) (.integer j) = some (.integer (exact i j)) :=
  if_pos fits

theorem operate?_overflow (exceeds : ¬FitsSigned (exact i j)) :
    operate? exact rounded (.integer i) (.integer j) =
      onReals? rounded (.integer i) (.integer j) :=
  if_neg exceeds

theorem operate?_real (x : Binary64) (a : Argument) :
    operate? exact rounded (.real x) a = onReals? rounded (.real x) a := by
  cases a <;> rfl

theorem quotient?_nonzero (a : Argument) (nonzero : j ≠ 0) :
    a.quotient? (.integer j) = operate? Int.tdiv Binary64.div? a (.integer j) := by
  have notZero : (integer j).isZero = false := beq_eq_false_iff_ne.mpr nonzero
  rw [quotient?, notZero, if_neg Bool.false_ne_true]

/-- A cast within the signed range only drops the fraction. -/
theorem toInteger?_real {x : Binary64} (fits : FitsSigned x.truncate) :
    (real x).toInteger? = some (.integer x.truncate) := by
  rw [toInteger?, Binary64.toSigned_eq fits]

end

end Argument

/-! ## Expressions -/

/-- An arithmetic expression over one stored value. -/
inductive Arithmetic where
  | value
  | argument (a : Argument)
  | difference (left right : Arithmetic)
  | product (left right : Arithmetic)
  /-- The quotient cast to an integer. -/
  | wholeQuotient (left right : Arithmetic)

namespace Arithmetic

/-- The SQL text of an expression, a placeholder standing for each argument. -/
def sql (value : String) : Arithmetic → String
  | .value => value
  | .argument _ => "?"
  | .difference left right => "(" ++ left.sql value ++ " - " ++ right.sql value ++ ")"
  | .product left right => "(" ++ left.sql value ++ " * " ++ right.sql value ++ ")"
  | .wholeQuotient left right =>
    "CAST(" ++ left.sql value ++ " / " ++ right.sql value ++ " AS INTEGER)"

def args : Arithmetic → List Argument
  | .value => []
  | .argument a => [a]
  | .difference left right | .product left right | .wholeQuotient left right =>
    left.args ++ right.args

/-- What an expression comes to for a stored value. -/
def result? (value : Argument) : Arithmetic → Option Argument
  | .value => some value
  | .argument a => some a
  | .difference left right =>
    (left.result? value).bind fun a => (right.result? value).bind a.difference?
  | .product left right =>
    (left.result? value).bind fun a => (right.result? value).bind a.product?
  | .wholeQuotient left right =>
    (left.result? value).bind fun a => (right.result? value).bind fun b =>
      (a.quotient? b).bind Argument.toInteger?

/-- The value without the whole part of its quotient. -/
def remainder (divisor : Int) : Arithmetic :=
  .difference .value
    (.product (.wholeQuotient .value (.argument (.integer divisor))) (.argument (.integer divisor)))

end Arithmetic

def Argument.leavesRemainder? (value : Argument) (divisor remainder : Int) : Option Bool :=
  ((Arithmetic.remainder divisor).result? value).bind fun rest => rest.equal? (.integer remainder)

/-- A store that finds remainders by this arithmetic. -/
def Store.Calculates (store : Store) : Prop :=
  ∀ value divisor remainder,
    store.remainder value divisor remainder = value.leavesRemainder? divisor remainder

end Pushdown
