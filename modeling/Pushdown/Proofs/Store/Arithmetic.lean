import Pushdown.Proofs.Number.Order
import Pushdown.Proofs.Number.Remainder
import Pushdown.Proofs.Store.Truth

/-!
# Remainders in the store

The store says by an arithmetic expression whether a number leaves a remainder. It agrees with the
matcher on every number whose quotient, cut to a whole one, is a signed 64-bit integer. Beyond that
range the cast stops and the matcher goes on: of the greatest unsigned integer divided by one the
matcher leaves nothing, and the store leaves `2 ^ 63`.
-/

namespace Pushdown

/-! ## Whole quotients -/

/-- The quotient of a number cut to a whole one, before it is cast. -/
def Number.wholeQuotient? (n : Number) (divisor : Int) : Option Int :=
  match n.signed? with
  | some i => some (i.tdiv divisor)
  | none => (Binary64.ofInt? divisor).bind fun d => (n.toReal.div? d).map Binary64.truncate

/-- The whole quotient of a number is a signed 64-bit integer. -/
def Number.QuotientFits (n : Number) (divisor : Int) : Prop :=
  ∀ quotient, n.wholeQuotient? divisor = some quotient → FitsSigned quotient

namespace Binary64

theorem roundHalfEven_mul_right (num den : Nat) {k : Nat} (positive : 0 < k) :
    roundHalfEven (num * k) (den * k) = roundHalfEven num den := by
  have twice : 2 * (num % den * k) = 2 * (num % den) * k := by rw [Nat.mul_assoc]
  have less : 2 * (num % den) * k < den * k ↔ 2 * (num % den) < den :=
    Nat.mul_lt_mul_right positive
  have same : 2 * (num % den) * k = den * k ↔ 2 * (num % den) = den :=
    Nat.mul_left_inj positive.ne'
  unfold roundHalfEven
  simp only [Nat.mul_div_mul_right _ _ positive, Nat.mul_mod_mul_right, twice, less, same]

/-- A quotient can be reduced before it is rounded. -/
theorem ofQuotient?_mul_right (negative : Bool) (num : Nat) {k : Nat} (positive : 0 < k) :
    ofQuotient? negative (num * k) k = ofQuotient? negative num 1 := by
  simp only [ofQuotient?, Nat.mul_div_cancel _ positive, Nat.div_one, Nat.one_mul]
  rw [Nat.mul_comm k, roundHalfEven_mul_right _ _ positive]

/-- A difference depends on the value of what is taken away only. -/
theorem sub?_congr (x : Binary64) {y? z? : Option Binary64}
    (same : y?.map units = z?.map units) : y?.bind x.sub? = z?.bind x.sub? := by
  have value (y : Binary64) : x.sub? y =
      ofQuotient? (x.units - y.units < 0) (x.units - y.units).natAbs 1 := rfl
  cases y? <;> cases z? <;> simp_all

section

variable {i j : Int}

/-- The product of two integers that are exact as reals is rounded like the exact product. -/
theorem mul?_exact {x y : Binary64}
    (signX : x.negative = decide (i < 0)) (magnitudeX : x.magnitude = i.natAbs * one)
    (signY : y.negative = decide (j < 0)) (magnitudeY : y.magnitude = j.natAbs * one) :
    (x.mul? y).map units = (ofInt? (i * j)).map units := by
  have product : x.magnitude * y.magnitude = (i * j).natAbs * one * one := by
    rw [magnitudeX, magnitudeY, Int.natAbs_mul]
    ring
  rw [mul?, product, ofQuotient?_mul_right _ _ one_pos, signX, signY, ofInt?]
  by_cases zero : i * j = 0
  · rw [zero]
    cases (decide (i < 0) != decide (j < 0)) <;> decide +kernel
  · have sign : (decide (i < 0) != decide (j < 0)) = decide (i * j < 0) := by
      have left : i ≠ 0 := left_ne_zero_of_mul zero
      have right : j ≠ 0 := right_ne_zero_of_mul zero
      rw [Bool.eq_iff_iff, decide_eq_true_iff, mul_neg_iff]
      simp
      omega
    rw [sign]

/-- The product of a whole quotient and a divisor that was cut to a whole number. A divisor that is
not exact as a real is the greatest integer, and then the product fits for three quotients only. -/
theorem mul?_whole {divisor : Int} (fits : FitsSigned divisor)
    (whole : divisor = greatestSigned ∨
      ∃ digits zeros, digits < 2 ^ 53 ∧ divisor.natAbs = digits * 2 ^ zeros)
    (q : Binary64) (quotientFits : FitsSigned q.truncate)
    (productFits : FitsSigned (q.truncate * divisor)) :
    ((ofInt? q.truncate).bind fun x => (ofInt? divisor).bind fun y => x.mul? y).map units =
      (ofInt? (q.truncate * divisor)).map units := by
  obtain rfl | ⟨digits, zeros, few, spelled⟩ := whole
  · have few : q.truncate = -1 ∨ q.truncate = 0 ∨ q.truncate = 1 := by
      unfold FitsSigned leastSigned greatestSigned at productFits
      omega
    obtain minusOne | zero | one := few
    · rw [minusOne]
      decide +kernel
    · rw [zero]
      decide +kernel
    · rw [one]
      decide +kernel
  · obtain ⟨quotientDigits, quotientZeros, quotientFew, quotientSpelled⟩ := q.natAbs_truncate
    obtain ⟨x, nearestX, signX, magnitudeX⟩ :=
      ofInt?_exact quotientFits.fitsWord quotientFew quotientSpelled
    obtain ⟨y, nearestY, signY, magnitudeY⟩ := ofInt?_exact fits.fitsWord few spelled
    rw [nearestX, nearestY, Option.bind_some, Option.bind_some]
    exact mul?_exact signX magnitudeX signY magnitudeY

end

end Binary64

/-! ## Agreement -/

open Binary64

namespace Arithmetic

variable {divisor : Int}

/-- The expression in its steps. -/
theorem result?_remainder (value : Argument) (nonzero : divisor ≠ 0) :
    (remainder divisor).result? value =
      ((Argument.operate? Int.tdiv Binary64.div? value (.integer divisor)).bind
        Argument.toInteger?).bind fun whole =>
          (whole.product? (.integer divisor)).bind value.difference? := by
  simp only [remainder, result?, Option.bind_some, Argument.quotient?_nonzero _ nonzero,
    Option.bind_assoc]

/-- On an integer every step is exact if the quotient fits. -/
theorem result?_integer {i : Int} (fits : FitsSigned i) (nonzero : divisor ≠ 0)
    (quotientFits : FitsSigned (i.tdiv divisor)) :
    (remainder divisor).result? (.integer i) = some (.integer (i.tmod divisor)) := by
  obtain ⟨productFits, restFits⟩ := fitsSigned_division fits divisor
  have exact : i - i.tdiv divisor * divisor = i.tmod divisor := by
    rw [Int.tmod_def, Int.mul_comm]
  rw [← exact] at restFits
  rw [result?_remainder _ nonzero, Argument.operate?_fits quotientFits, Option.bind_some,
    Argument.toInteger?, Option.bind_some, Argument.product?, Argument.operate?_fits productFits,
    Option.bind_some, Argument.difference?, Argument.operate?_fits restFits, exact]

/-- The matcher's remainder of a real in its steps. -/
theorem realRemainder?_eq (x : Binary64) (divisor : Int) :
    realRemainder? x divisor = (ofInt? divisor).bind fun d => (x.div? d).bind fun q =>
      ((ofInt? q.truncate).bind fun t => t.mul? d).bind x.sub? := by
  rw [realRemainder?]
  simp only [Option.bind_eq_bind, Option.bind_assoc]

/-- On a real the steps are those of the matcher if the whole quotient fits. -/
theorem result?_real (fits : FitsSigned divisor) (nonzero : divisor ≠ 0)
    (whole : divisor = greatestSigned ∨
      ∃ digits zeros, digits < 2 ^ 53 ∧ divisor.natAbs = digits * 2 ^ zeros)
    {x d : Binary64} (nearest : ofInt? divisor = some d)
    (quotientFits : ∀ q, x.div? d = some q → FitsSigned q.truncate) :
    (remainder divisor).result? (.real x) = (realRemainder? x divisor).map .real := by
  have divided : Argument.operate? Int.tdiv Binary64.div? (.real x) (.integer divisor) =
      (x.div? d).map .real := by
    rw [Argument.operate?_real, Argument.onReals?, Argument.real?, Argument.real?,
      Option.bind_some, nearest, Option.bind_some]
  have difference (p : Argument) : (Argument.real x).difference? p =
      p.real?.bind fun y => (x.sub? y).map .real := by
    rw [Argument.difference?, Argument.operate?_real, Argument.onReals?, Argument.real?,
      Option.bind_some]
  rw [result?_remainder _ nonzero, divided, realRemainder?_eq, nearest, Option.bind_some]
  cases quotient : x.div? d with
  | none => rfl
  | some q =>
    have quotientFits := quotientFits q quotient
    rw [Option.map_some, Option.bind_some, Argument.toInteger?_real quotientFits,
      Option.bind_some, Option.bind_some, Argument.product?]
    by_cases productFits : FitsSigned (q.truncate * divisor)
    · have same := mul?_whole fits whole q quotientFits productFits
      simp only [nearest, Option.bind_some] at same
      rw [Argument.operate?_fits productFits, Option.bind_some, difference, Argument.real?,
        sub?_congr x same, Option.map_bind, Function.comp_def]
    · rw [Argument.operate?_overflow productFits, Argument.onReals?, Argument.real?,
        Argument.real?, nearest]
      cases ofInt? q.truncate with
      | none => rfl
      | some t =>
        rw [Option.bind_some, Option.bind_some, Option.bind_some]
        cases t.mul? d with
        | none => rfl
        | some p => exact difference (.real p)

end Arithmetic

/-- No number has the value of the greatest signed integer, which has 63 binary digits. -/
theorem Binary64.units_ne_greatest (x : Binary64) : x.units ≠ greatestSigned * one := by
  intro same
  have nonzero : (one : Int) ≠ 0 := by exact_mod_cast one_pos.ne'
  have whole : x.truncate = greatestSigned := by
    rw [truncate, same, Int.mul_tdiv_cancel _ nonzero]
  obtain ⟨digits, zeros, few, spelled⟩ := x.natAbs_truncate
  rw [whole] at spelled
  cases zeros with
  | zero =>
    rw [pow_zero, Nat.mul_one] at spelled
    rw [← spelled] at few
    exact absurd few (by decide)
  | succ zeros =>
    rw [pow_succ, ← Nat.mul_assoc] at spelled
    unfold greatestSigned at spelled
    omega

/-- A real equals an integer in the store exactly when they have the same value. -/
theorem Argument.equal?_real_integer (x : Binary64) (i : Int) :
    (real x).equal? (integer i) = some true ↔ x.units = i * one := by
  change some (Ord.compare x.units (i * one) == .eq) = some true ↔ _
  rw [Option.some.injEq, beq_iff_eq, Std.LawfulEqOrd.compare_eq_iff_eq]

namespace Number

variable {divisor remainder : Int} {n : Number}

theorem wholeQuotient?_real (real : n.signed? = none) :
    n.wholeQuotient? divisor =
      (ofInt? divisor).bind fun d => (n.toReal.div? d).map truncate := by
  rw [wholeQuotient?, real]

/-- The matcher compares the remainder of a real with the real nearest to the given one. -/
theorem leavesRemainder_real (real : n.signed? = none) {e : Binary64}
    (nearest : ofInt? remainder = some e) :
    leavesRemainder divisor remainder (.number n) = true ↔
      ∃ rest, realRemainder? n.toReal divisor = some rest ∧ rest.units = e.units := by
  -- Only the answers of the two calculations matter.
  rw [leavesRemainder]
  generalize realRemainder? n.toReal divisor = rest?
  generalize ofInt? remainder = e? at nearest ⊢
  rw [real, nearest]
  cases rest? with
  | none => simp
  | some rest => simp [Binary64.compare_eq]

/-- The store and the matcher take the remainder of a signed integer exactly where the quotient
fits. -/
theorem leavesRemainder?_signed {i : Int} (signed : n.signed? = some i) (nonzero : divisor ≠ 0)
    (quotientFits : FitsSigned (i.tdiv divisor)) :
    (Argument.ofNumber n).leavesRemainder? divisor remainder = some true ↔
      leavesRemainder divisor remainder (.number n) = true := by
  have fits := fitsSigned_of_signed? signed
  have possible := (fitsSigned_tdiv_iff fits nonzero).mp quotientFits
  rw [leavesRemainder_signed divisor remainder signed, and_iff_left possible,
    Argument.leavesRemainder?, Argument.ofNumber, signed]
  simp only [Arithmetic.result?_integer fits nonzero quotientFits, Option.bind_some,
    Argument.equal?_integer, Option.some.injEq, beq_iff_eq]

/-- The store takes the remainder of a real like the matcher if the whole quotient fits, but it does
not round the remainder that is asked for. Of those that are read, only the greatest integer is not
exact as a real. -/
theorem leavesRemainder?_real {first second : Number} (real : n.signed? = none)
    (nonzero : Operator.wholeOf first ≠ 0)
    (quotientFits : n.QuotientFits (Operator.wholeOf first)) :
    (Argument.ofNumber n).leavesRemainder? (Operator.wholeOf first) (Operator.wholeOf second) =
        some true ↔
      leavesRemainder (Operator.wholeOf first) (Operator.wholeOf second) (.number n) = true ∧
        Operator.wholeOf second ≠ greatestSigned := by
  have fits : FitsSigned (Operator.wholeOf first) := Operator.wholeOf_bounds first
  have asked : FitsSigned (Operator.wholeOf second) := Operator.wholeOf_bounds second
  have whole := Operator.natAbs_wholeOf first
  have exact := Operator.natAbs_wholeOf second
  generalize Operator.wholeOf first = divisor at *
  generalize Operator.wholeOf second = remainder at *
  obtain ⟨d, nearest, -⟩ := ofInt?_eq_some fits.fitsWord
  obtain ⟨e, nearestAsked, -⟩ := ofInt?_eq_some asked.fitsWord
  have wholeQuotient : n.wholeQuotient? divisor = (n.toReal.div? d).map truncate := by
    rw [wholeQuotient?_real real, nearest, Option.bind_some]
  have result := Arithmetic.result?_real fits nonzero whole nearest fun q quotient =>
    quotientFits q.truncate (by rw [wholeQuotient, quotient, Option.map_some])
  rw [leavesRemainder_real real nearestAsked, Argument.leavesRemainder?, Argument.ofNumber, real]
  dsimp only
  rw [result]
  cases realRemainder? n.toReal divisor with
  | none => simp
  | some rest =>
    rw [Option.map_some, Option.bind_some, Argument.equal?_real_integer]
    by_cases greatest : remainder = greatestSigned
    · rw [greatest]
      exact iff_of_false rest.units_ne_greatest fun both => both.2 rfl
    · obtain ⟨digits, zeros, few, spelled⟩ := exact.resolve_left greatest
      obtain ⟨e', nearest', sign, magnitude⟩ := ofInt?_exact asked.fitsWord few spelled
      obtain rfl : e = e' := Option.some.inj (nearestAsked.symm.trans nearest')
      rw [units_eq_mul_one sign magnitude, and_iff_left greatest]
      constructor
      · exact fun units => ⟨rest, rfl, units⟩
      · rintro ⟨_, same, units⟩
        cases same
        exact units

/-- The quotient of a signed integer does not fit in one case only. There the matcher finds no
remainder, and the store finds the one that the greatest integer as a quotient leaves. -/
theorem leavesRemainder?_least {i : Int} (signed : n.signed? = some i) (nonzero : divisor ≠ 0)
    (exceeds : ¬n.QuotientFits divisor) :
    leavesRemainder divisor remainder (.number n) = false ∧
      ((Argument.ofNumber n).leavesRemainder? divisor remainder = some true ↔ remainder = -1) := by
  have overflow : i = leastSigned ∧ divisor = -1 := by
    by_contra possible
    have fits := (fitsSigned_tdiv_iff (fitsSigned_of_signed? signed) nonzero).mpr possible
    refine exceeds fun quotient found => ?_
    rw [wholeQuotient?, signed] at found
    cases found
    exact fits
  obtain ⟨rfl, rfl⟩ := overflow
  have result : (Arithmetic.remainder (-1)).result? (.integer leastSigned) =
      some (.integer (-1)) := by
    decide +kernel
  constructor
  · rw [Bool.eq_false_iff, ne_eq, leavesRemainder_signed (-1) remainder signed]
    exact fun accepted => accepted.2 ⟨rfl, rfl⟩
  · rw [Argument.leavesRemainder?, Argument.ofNumber, signed]
    simp only [result, Option.bind_some, Argument.equal?_integer, Option.some.injEq, beq_iff_eq]
    exact eq_comm

end Number

/-- The test for a remainder is written as an expression with an argument for each placeholder. If
the whole quotient of a number is a signed 64-bit integer, the store answers it with the verdict of
the matcher; only the greatest integer is left by no real in the store. The quotient of a signed
integer does not fit in one case, where the store finds another remainder and the matcher none. -/
theorem Store.Calculates.answer_iff_leavesRemainder {store : Store} (calculates : store.Calculates)
    {operand : Json} {divisor remainder : Int}
    (read : Operator.ofModulo operand = .modulo divisor remainder) (n : Number) {document : Json}
    {rows : Rows} {place : Location} (stands : place.value? document rows = some (.number n)) :
    let test : Test := .leavesRemainder place divisor remainder
    let answer := test.answer store document rows
    (∀ column, test.clause column =
      ⟨(Arithmetic.remainder divisor).sql (place.value column) ++ " = ?",
        (Arithmetic.remainder divisor).args ++ [.integer remainder], true⟩) ∧
    (n.QuotientFits divisor →
      (answer = some true ↔ leavesRemainder divisor remainder (.number n) = true ∧
        (n.signed? = none → remainder ≠ greatestSigned))) ∧
    (∀ i, n.signed? = some i → ¬n.QuotientFits divisor →
      leavesRemainder divisor remainder (.number n) = false ∧
        (answer = some true ↔ remainder = -1)) := by
  intro test answer
  have stored : answer = (Argument.ofNumber n).leavesRemainder? divisor remainder := by
    have value : place.stored document rows = .ofNumber n := by
      rw [Location.stored, stands]
      rfl
    rw [← value]
    exact calculates _ divisor remainder
  obtain ⟨first, second, -, whole, wholeRemainder, nonzero⟩ := Operator.ofModulo_eq_modulo read
  refine ⟨fun column => Test.clause_leavesRemainder column place divisor remainder, ?_, ?_⟩
  · intro fits
    rw [stored]
    cases signed : n.signed? with
    | none =>
      rw [whole, wholeRemainder]
      rw [whole] at nonzero fits
      simpa using Number.leavesRemainder?_real signed nonzero fits
    | some i =>
      have quotient : n.wholeQuotient? divisor = some (i.tdiv divisor) := by
        rw [Number.wholeQuotient?, signed]
      simpa using Number.leavesRemainder?_signed signed nonzero (fits _ quotient)
  · intro i signed exceeds
    rw [stored]
    exact Number.leavesRemainder?_least signed nonzero exceeds

/-- A store that calculates, and writes numbers in some way. -/
def Store.calculating (numberText : Argument → String) : Store where
  numberText := numberText
  remainder := Argument.leavesRemainder?

def Location.ofField (name : String) : Location where
  origin := .document
  steps := [.key name]
  ownColumn := none
  declared := .number
  required := false
  indexPath := some name

theorem Location.value?_ofField {name : String} (written : (PathStep.key name).isWritten = true)
    (document : Json) (rows : Rows) :
    (ofField name).value? document rows = walk? [.key name] document :=
  Json.atPath?_stepsText (List.forall_mem_singleton.mpr written) document

/-- The greatest unsigned integer is a real in the store, and its quarter fits. -/
theorem Store.Calculates.answer_iff_leavesRemainder_unsigned :
    let store : Store := .calculating fun _ => ""
    let operand : Json := .array [.number (.ofInt 4), .number (.ofInt 0)]
    let n : Number := .ofInt greatestUnsigned
    let document : Json := .object [("n", .number n)]
    let test : Test := .leavesRemainder (.ofField "n") 4 0
    store.Calculates ∧ Operator.ofModulo operand = .modulo 4 0 ∧
      (Location.ofField "n").value? document Rows.initial = some (.number n) ∧
      n.QuotientFits 4 ∧ n.signed? = none ∧
      test.answer store document Rows.initial = some true := by
  intro store operand n document test
  have read : Operator.ofModulo operand = .modulo 4 0 :=
    Operator.ofModulo_whole (by decide) (by decide +kernel) (by decide +kernel)
  have stands : (Location.ofField "n").value? document Rows.initial = some (.number n) :=
    Location.value?_ofField (by decide) document Rows.initial
  have quotient : n.wholeQuotient? 4 = some 4611686018427387904 := by decide +kernel
  have fits : n.QuotientFits 4 := by
    intro q found
    rw [quotient] at found
    cases found
    decide
  have accepted : leavesRemainder 4 0 (.number n) = true := by decide +kernel
  have calculates : store.Calculates := fun _ _ _ => rfl
  have agree := (calculates.answer_iff_leavesRemainder read n stands).2.1 fits
  exact ⟨calculates, read, stands, fits, rfl, agree.mpr ⟨accepted, fun _ => by decide⟩⟩

/-- The greatest unsigned integer leaves nothing by one. The store finds `2 ^ 63`, since the cast
stops at the greatest signed integer. -/
theorem answer_ne_leavesRemainder_unsigned :
    let operand : Json := .array [.number (.ofInt 1), .number (.ofInt 0)]
    let n : Number := .ofInt greatestUnsigned
    let document : Json := .object [("n", .number n)]
    let test : Test := .leavesRemainder (.ofField "n") 1 0
    Operator.ofModulo operand = .modulo 1 0 ∧
      (Location.ofField "n").value? document Rows.initial = some (.number n) ∧
      leavesRemainder 1 0 (.number n) = true ∧
      test.answer (.calculating fun _ => "") document Rows.initial = some false := by
  intro operand n document test
  have read : Operator.ofModulo operand = .modulo 1 0 :=
    Operator.ofModulo_whole (by decide) (by decide +kernel) (by decide +kernel)
  have stands : (Location.ofField "n").value? document Rows.initial = some (.number n) :=
    Location.value?_ofField (by decide) document Rows.initial
  refine ⟨read, stands, by decide +kernel, ?_⟩
  rw [Test.answer, Location.stored, stands]
  decide +kernel

end Pushdown
