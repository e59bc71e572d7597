import Mathlib.Data.List.Infix
import Pushdown.Document.Order
import Pushdown.Proofs.Number.Order
import Pushdown.Sql.Test
import Pushdown.Sql.TextPattern

/-!
# Values of the store

The store reads a JSON value as NULL, a number or a text. Truth values become the integers one and
zero, and arrays and objects their JSON text. A comparison with NULL is NULL; any two other values
compare, numbers by value and before every text, and texts by their characters.

`LIKE` is case sensitive. Its pattern stands for a list of parts, of which `%` fits any characters
and `_` one character.
-/

namespace Pushdown

namespace Argument

def ofJson : Json → Argument
  | .null => .null
  | .bool b => .integer (if b then 1 else 0)
  | .number n => .ofNumber n
  | .string content => .text content
  | .array items => .text (Json.array items).compact
  | .object members => .text (Json.object members).compact

def ofMissing (v? : Option Json) : Argument := (v?.map ofJson).getD .null

/-- The order of two values, `none` when one of them is NULL. -/
def compare? : Argument → Argument → Option Ordering
  | .null, _ => none
  | _, .null => none
  | .text a, .text b => some (Json.compareText a b)
  | .text _, _ => some .gt
  | _, .text _ => some .lt
  | .integer a, .integer b => some (Ord.compare a b)
  | .integer a, .real b => some (Ord.compare (a * Binary64.one) b.units)
  | .real a, .integer b => some (Ord.compare a.units (b * Binary64.one))
  | .real a, .real b => some (Ord.compare a.units b.units)

def equal? (a b : Argument) : Option Bool := (a.compare? b).map (· == .eq)

/-- Whether a value is among others. Where it is not found, a NULL on either side leaves the answer
open. -/
def memberOf? (a : Argument) (values : List Argument) : Option Bool :=
  if values.isEmpty then some false
  else if values.any fun b => a.equal? b == some true then some true
  else if a = .null ∨ .null ∈ values then none
  else some false

/-- Numbers of documents compare in the store as they do in the matcher. -/
theorem compare?_ofNumber (a b : Number) : (ofNumber a).compare? (ofNumber b) = a.compare? b := by
  rw [Number.compare?_eq]
  unfold ofNumber Number.units
  cases a.signed? <;> cases b.signed? <;> try rfl
  exact congrArg some (Binary64.compare_mul_one _ _).symm

theorem compareText_eq (a b : String) : (Json.compareText a b == .eq) = (a == b) := by
  unfold Json.compareText
  by_cases same : a = b
  · rw [same, if_neg (String.lt_irrefl b), if_pos rfl]
    simp
  · by_cases less : a < b <;> simp [same, less]

theorem equal?_text (a b : String) :
    (text a).equal? (.text b) = some (a == b) := by
  rw [← compareText_eq]
  rfl

theorem equal?_number (a b : Number) :
    (ofNumber a).equal? (.ofNumber b) = some (a.compare? b == some .eq) := by
  rw [equal?, compare?_ofNumber, Number.compare?_eq]
  rfl

theorem equal?_integer (i j : Int) : (integer i).equal? (integer j) = some (i == j) := by
  change some (Ord.compare i j == .eq) = _
  rw [Option.some.injEq, Bool.eq_iff_iff, beq_iff_eq, beq_iff_eq]
  exact Std.LawfulEqOrd.compare_eq_iff_eq

theorem equal?_real (i : Int) (x : Binary64) :
    (integer i).equal? (real x) = some (Ord.compare (i * Binary64.one) x.units == .eq) := rfl

theorem memberOf?_eq_true (a : Argument) (values : List Argument) :
    (a.memberOf? values == some true) = values.any fun b => a.equal? b == some true := by
  unfold memberOf?
  split
  · next empty => simp [List.isEmpty_iff.mp empty]
  · split
    · next found => simp [found]
    · next notFound =>
      rw [Bool.not_eq_true] at notFound
      rw [notFound]
      split <;> rfl

/-- NULL is not found. -/
theorem memberOf?_null (values : List Argument) : null.memberOf? values ≠ some true := by
  rw [ne_eq, ← beq_iff_eq, memberOf?_eq_true]
  simp [equal?, compare?]

/-- A value of a document is found where the matcher finds it, if the two agree on equality. -/
theorem memberOf?_ofJson {a : Argument} {v : Json} {values : List Json}
    (agree : ∀ o ∈ values, (a.equal? (.ofJson o) == some true) = v.equal o) :
    (a.memberOf? (values.map ofJson) == some true) = values.any (v.equal ·) := by
  rw [memberOf?_eq_true, List.any_map, Bool.eq_iff_iff, List.any_eq_true, List.any_eq_true]
  refine exists_congr fun o => and_congr_right fun ho => ?_
  rw [Function.comp_apply, agree o ho]

end Argument

/-! ## Patterns of `LIKE` -/

inductive LikePart where
  /-- Any characters. -/
  | any
  /-- One character. -/
  | one
  | char (c : Char)

namespace LikePart

/-- The parts of a pattern, `none` when it ends inside an escape. -/
def ofPattern? : List Char → Option (List LikePart)
  | [] => some []
  | ['\\'] => none
  | '\\' :: c :: rest => (ofPattern? rest).map (.char c :: ·)
  | '%' :: rest => (ofPattern? rest).map (.any :: ·)
  | '_' :: rest => (ofPattern? rest).map (.one :: ·)
  | c :: rest => (ofPattern? rest).map (.char c :: ·)

def fits : List LikePart → List Char → Bool
  | [], text => text.isEmpty
  | .any :: parts, text => text.tails.any (fits parts)
  | .one :: parts, _ :: text => fits parts text
  | .char c :: parts, d :: text => c == d && fits parts text
  | _, [] => false

end LikePart

def isLike (text pattern : String) : Bool :=
  (LikePart.ofPattern? pattern.toList).any fun parts => LikePart.fits parts text.toList

/-! ## Stores -/

/-- A store. How a number is written when it is compared as a text, and how remainders are
calculated, is left to the store. -/
structure Store where
  numberText : Argument → String
  remainder : Argument → Int → Int → Option Bool

namespace Store

variable (store : Store)

def textOf? : Argument → Option String
  | .null => none
  | .text text => some text
  | number => some (store.numberText number)

/-- The truth value of a comparison of a text. Only texts can be equal to a text, and the other
tests read every value as a text. -/
def textTest (v : Argument) (operand : String) : TextTest → Option Bool
  | .equal => v.equal? (.text operand)
  | .lowerEqual => (store.textOf? v).map fun text => TextPattern.lowered text == operand
  | .equalIgnoringCase =>
    match v with
    | .null => none
    | .text text => some (TextPattern.lowered text == TextPattern.lowered operand)
    | _ => some false
  | .like => (store.textOf? v).map fun text => isLike text operand
  | .lowerLike => (store.textOf? v).map fun text => isLike (TextPattern.lowered text) operand
  | .lowerLikeLower =>
    (store.textOf? v).map fun text =>
      isLike (TextPattern.lowered text) (TextPattern.lowered operand)

end Store

end Pushdown
