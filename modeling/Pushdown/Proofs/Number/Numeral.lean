import Mathlib.Algebra.Field.Basic
import Mathlib.Data.List.TakeWhile
import Mathlib.Tactic.FieldSimp
import Pushdown.Json.Number
import Pushdown.Proofs.Number.Shortest

/-!
# Numerals tell numbers apart

The numeral of an integer has digits only, and its digits are its value. The numeral of any other
number has a point or an exponent, and `NumeralText.value` reads its value back: the digits around
the point are a whole number, scaled down by the places of the fraction and then by the exponent.
What is read is the value of the shortest decimal, wherever the layout puts the point, so two
numbers with one numeral are the same number.
-/

namespace Pushdown

/-! ## Digits -/

theorem isDigit_of_mem_decimalDigits {n : Nat} {c : Char} (h : c ∈ decimalDigits n) :
    c.isDigit = true := Nat.isDigit_of_mem_toDigits (by decide) (by decide) h

theorem decimalDigits_ne_nil (n : Nat) : decimalDigits n ≠ [] := Nat.toDigits_ne_nil

theorem decimalDigits_injective {m n : Nat} (h : decimalDigits m = decimalDigits n) : m = n := by
  have read := congrArg (Nat.ofDigitChars 10 · 0) h
  simpa only [decimalDigits, Nat.ofDigitChars_ten_toDigits] using read

/-- A digit is none of the other characters of a numeral. -/
theorem ne_of_isDigit {c : Char} (h : c.isDigit = true) :
    c ≠ '-' ∧ c ≠ '+' ∧ c ≠ '.' ∧ c ≠ 'e' := by
  refine ⟨?_, ?_, ?_, ?_⟩ <;>
    · rintro rfl
      exact absurd h (by decide)

namespace NumeralText

/-! ## Reading a numeral -/

/-- The value of digits with at most one point. -/
def mantissa (text : List Char) : ℚ :=
  let whole := text.takeWhile (· != '.')
  let fraction := (text.dropWhile (· != '.')).drop 1
  Nat.ofDigitChars 10 (whole ++ fraction) 0 / 10 ^ fraction.length

/-- The value of digits after a sign, zero if there is no exponent. -/
def exponent : List Char → Int
  | [] => 0
  | sign :: digits =>
    if sign = '-' then -Nat.ofDigitChars 10 digits 0 else Nat.ofDigitChars 10 digits 0

/-- The value of a numeral without a minus sign. -/
def value (text : List Char) : ℚ :=
  mantissa (text.takeWhile (· != 'e')) * 10 ^ exponent ((text.dropWhile (· != 'e')).drop 1)

theorem mantissa_point {whole : List Char} (noPoint : '.' ∉ whole) (fraction : List Char) :
    mantissa (whole ++ '.' :: fraction) =
      Nat.ofDigitChars 10 (whole ++ fraction) 0 / 10 ^ fraction.length := by
  have before : ∀ c ∈ whole, (c != '.') = true := by
    intro c mem
    exact bne_iff_ne.mpr fun point => noPoint (point ▸ mem)
  unfold mantissa
  rw [List.takeWhile_append_of_pos before, List.dropWhile_append_of_pos before]
  simp

theorem mantissa_whole {whole : List Char} (noPoint : '.' ∉ whole) :
    mantissa whole = Nat.ofDigitChars 10 whole 0 := by
  have all : ∀ c ∈ whole, (c != '.') = true := by
    intro c mem
    exact bne_iff_ne.mpr fun point => noPoint (point ▸ mem)
  unfold mantissa
  rw [List.takeWhile_eq_self_iff.mpr all, List.dropWhile_eq_nil_iff.mpr all]
  simp

theorem value_of_no_exponent {text : List Char} (noExponent : 'e' ∉ text) :
    value text = mantissa text := by
  have all : ∀ c ∈ text, (c != 'e') = true := by
    intro c mem
    exact bne_iff_ne.mpr fun letter => noExponent (letter ▸ mem)
  unfold value
  rw [List.takeWhile_eq_self_iff.mpr all, List.dropWhile_eq_nil_iff.mpr all]
  simp [exponent]

theorem value_of_exponent {text : List Char} (noExponent : 'e' ∉ text) (rest : List Char) :
    value (text ++ 'e' :: rest) = mantissa text * 10 ^ exponent rest := by
  have before : ∀ c ∈ text, (c != 'e') = true := by
    intro c mem
    exact bne_iff_ne.mpr fun letter => noExponent (letter ▸ mem)
  unfold value
  rw [List.takeWhile_append_of_pos before, List.dropWhile_append_of_pos before]
  simp

theorem exponent_signed (e : Int) :
    exponent ((if e < 0 then '-' else '+') :: decimalDigits e.natAbs) = e := by
  have read : Nat.ofDigitChars 10 (decimalDigits e.natAbs) 0 = e.natAbs :=
    Nat.ofDigitChars_ten_toDigits
  unfold exponent
  dsimp only
  rw [read]
  split
  · rw [if_pos rfl]
    omega
  · rw [if_neg (by decide)]
    omega

end NumeralText

namespace Decimal

section Layout

variable {digits : List Char} (areDigits : ∀ c ∈ digits, c.isDigit = true)

include areDigits

theorem not_mem_of_digits : '.' ∉ digits ∧ 'e' ∉ digits :=
  ⟨fun mem => absurd (areDigits _ mem) (by decide), fun mem => absurd (areDigits _ mem) (by decide)⟩

/-- Every place of the point gives the digits their value. -/
theorem mantissa_positional (point : Int) :
    NumeralText.mantissa (positional digits point ['.', '0']) =
      Nat.ofDigitChars 10 digits 0 * 10 ^ (point - digits.length) := by
  have noPoint := (not_mem_of_digits areDigits).1
  unfold positional
  split
  · next small =>
    obtain ⟨zeros, rfl⟩ : ∃ zeros : Nat, point = -zeros := ⟨(-point).toNat, by omega⟩
    have shape : ['0', '.'] ++ List.replicate (- -(zeros : Int)).toNat '0' ++ digits =
        ['0'] ++ '.' :: (List.replicate zeros '0' ++ digits) := by simp
    rw [shape, NumeralText.mantissa_point (by decide)]
    have read : Nat.ofDigitChars 10 (['0'] ++ (List.replicate zeros '0' ++ digits)) 0 =
        Nat.ofDigitChars 10 digits 0 := by
      rw [Nat.ofDigitChars_append, Nat.ofDigitChars_append]
      simp [Nat.ofDigitChars_cons]
    rw [read, List.length_append, List.length_replicate, div_eq_mul_inv, ← zpow_natCast,
      ← zpow_neg]
    congr 2
    push_cast
    ring
  · split
    · next notSmall within =>
      obtain ⟨places, rfl⟩ : ∃ places : Nat, point = places := ⟨point.toNat, by omega⟩
      have noPointBefore : '.' ∉ digits.take places := fun mem => noPoint (List.mem_of_mem_take mem)
      rw [Int.toNat_natCast, NumeralText.mantissa_point noPointBefore, List.take_append_drop,
        List.length_drop, div_eq_mul_inv, ← zpow_natCast, ← zpow_neg]
      congr 2
      omega
    · next notSmall beyond =>
      obtain ⟨zeros, rfl⟩ : ∃ zeros : Nat, point = digits.length + zeros :=
        ⟨(point - digits.length).toNat, by omega⟩
      have noPointBefore : '.' ∉ digits ++ List.replicate zeros '0' := by
        rw [List.mem_append, List.mem_replicate]
        rintro (mem | ⟨-, eq⟩)
        · exact noPoint mem
        · exact absurd eq (by decide)
      have count : ((digits.length : Int) + zeros - digits.length).toNat = zeros := by omega
      rw [count, NumeralText.mantissa_point noPointBefore, Nat.ofDigitChars_append,
        Nat.ofDigitChars_append, Nat.ofDigitChars_replicate_zero]
      have exact : (digits.length : Int) + zeros - digits.length = zeros := by omega
      rw [exact, zpow_natCast]
      simp [Nat.ofDigitChars_cons]
      ring

theorem positional_no_exponent (point : Int) : 'e' ∉ positional digits point ['.', '0'] := by
  have none := (not_mem_of_digits areDigits).2
  unfold positional
  split
  · simp [none]
  · split
    · have before : 'e' ∉ digits.take point.toNat := fun mem => none (List.mem_of_mem_take mem)
      have after : 'e' ∉ digits.drop point.toNat := fun mem => none (List.mem_of_mem_drop mem)
      simp [before, after]
    · simp [none]

/-- The scientific layout gives the digits the value that they have with the point after the
first. -/
theorem value_scientific (notNil : digits ≠ []) (e : Int) :
    NumeralText.value (scientific digits e) =
      Nat.ofDigitChars 10 digits 0 * 10 ^ (e + 1 - digits.length) := by
  obtain ⟨noPoint, noExponent⟩ := not_mem_of_digits areDigits
  obtain ⟨first, fraction, rfl⟩ := List.exists_cons_of_ne_nil notNil
  have noPointBefore : '.' ∉ [first] := fun mem => noPoint (by simp_all)
  have split : scientific (first :: fraction) e =
      ([first] ++ (if fraction.isEmpty then [] else '.' :: fraction)) ++
        'e' :: (if e < 0 then '-' else '+') :: decimalDigits e.natAbs := rfl
  have noLetter : 'e' ∉ [first] ++ (if fraction.isEmpty then [] else '.' :: fraction) := by
    split <;> simp_all
  have ten : (10 : ℚ) ≠ 0 := by norm_num
  rw [split, NumeralText.value_of_exponent noLetter, NumeralText.exponent_signed]
  cases fraction with
  | nil =>
      rw [List.isEmpty_nil, if_pos rfl, List.append_nil, NumeralText.mantissa_whole noPointBefore]
      simp
  | cons second rest =>
      rw [List.isEmpty_cons, if_neg (by decide), NumeralText.mantissa_point noPointBefore]
      have places : (e + 1 - (first :: second :: rest).length : Int) =
          e - (second :: rest).length := by
        simp only [List.length_cons]
        omega
      rw [places, zpow_sub₀ ten, zpow_natCast, List.singleton_append]
      ring

end Layout

/-- A JSON numeral has the value of its decimal. -/
theorem value_layOut (d : Decimal) : NumeralText.value (d.layOut .json) = d.value := by
  have digits (c : Char) (h : c ∈ decimalDigits d.digits) := isDigit_of_mem_decimalDigits h
  have read : Nat.ofDigitChars 10 (decimalDigits d.digits) 0 = d.digits :=
    Nat.ofDigitChars_ten_toDigits
  unfold layOut NumeralStyle.json value
  dsimp only
  split
  · rw [NumeralText.value_of_no_exponent (positional_no_exponent digits _),
      mantissa_positional digits, read]
    congr 2
    omega
  · rw [value_scientific digits (decimalDigits_ne_nil _), read]
    congr 2
    omega

/-- A JSON numeral begins with a digit. -/
theorem layOut_head (d : Decimal) :
    ∃ c rest, d.layOut .json = c :: rest ∧ c.isDigit = true := by
  obtain ⟨c, rest, eq⟩ := List.exists_cons_of_ne_nil (decimalDigits_ne_nil d.digits)
  have digit : c.isDigit = true := isDigit_of_mem_decimalDigits (eq ▸ List.mem_cons_self)
  unfold layOut NumeralStyle.json
  dsimp only
  rw [eq]
  split
  · unfold positional
    split
    · exact ⟨'0', _, rfl, by decide⟩
    · split
      · next positive _ =>
        obtain ⟨places, places'⟩ : ∃ places, ((c :: rest).length + d.exponent).toNat = places + 1 :=
          ⟨((c :: rest).length + d.exponent).toNat - 1, by omega⟩
        rw [places']
        exact ⟨c, _, rfl, digit⟩
      · exact ⟨c, _, rfl, digit⟩
  · exact ⟨c, _, rfl, digit⟩

/-- A JSON numeral has a point or an exponent. -/
theorem layOut_marked (d : Decimal) : '.' ∈ d.layOut .json ∨ 'e' ∈ d.layOut .json := by
  unfold layOut NumeralStyle.json
  dsimp only
  split
  · left
    unfold positional
    split
    · simp
    · split <;> simp
  · right
    unfold scientific
    simp

end Decimal

/-! ## Numbers -/

/-- Numbers with one JSON numeral are the same number. -/
theorem Binary64.numeral_injective {x y : Binary64} (h : x.numeral .json = y.numeral .json) :
    x = y := by
  obtain ⟨c, restX, eqX, digitX⟩ := Decimal.layOut_head x.shortest
  obtain ⟨d, restY, eqY, digitY⟩ := Decimal.layOut_head y.shortest
  have noSignX := (ne_of_isDigit digitX).1
  have noSignY := (ne_of_isDigit digitY).1
  have parts : x.negative = y.negative ∧ x.shortest.layOut .json = y.shortest.layOut .json := by
    unfold numeral at h
    cases signX : x.negative <;> cases signY : y.negative <;> rw [signX, signY] at h
    · exact ⟨rfl, h⟩
    · rw [eqX] at h
      exact absurd (List.cons.inj h).1 noSignX
    · rw [eqY] at h
      exact absurd (List.cons.inj h).1.symm noSignY
    · exact ⟨rfl, (List.cons.inj h).2⟩
  have value : x.shortest.value = y.shortest.value := by
    rw [← Decimal.value_layOut, ← Decimal.value_layOut, parts.2]
  exact eq_of_magnitude parts.1 (magnitude_eq_of_shortest value)

theorem mem_integerDigits {i : Int} {c : Char} (h : c ∈ integerDigits i) :
    c = '-' ∨ c.isDigit = true := by
  unfold integerDigits at h
  split at h
  · exact (List.mem_cons.mp h).imp_right isDigit_of_mem_decimalDigits
  · exact .inr (isDigit_of_mem_decimalDigits h)

theorem integerDigits_injective {i j : Int} (h : integerDigits i = integerDigits j) : i = j := by
  have noSign {n : Nat} {rest : List Char} : decimalDigits n ≠ '-' :: rest := by
    intro eq
    have := isDigit_of_mem_decimalDigits (eq ▸ List.mem_cons_self : '-' ∈ decimalDigits n)
    exact absurd this (by decide)
  unfold integerDigits at h
  split at h <;> split at h
  · have := decimalDigits_injective (List.cons.inj h).2
    omega
  · exact absurd h.symm noSign
  · exact absurd h noSign
  · have := decimalDigits_injective h
    omega

namespace Number

theorem numeral_integer_ne_real (i : Int) (x : Binary64) :
    integerDigits i ≠ x.numeral .json := by
  intro h
  have marked : '.' ∈ x.numeral .json ∨ 'e' ∈ x.numeral .json :=
    (Decimal.layOut_marked x.shortest).imp (List.mem_append_right _) (List.mem_append_right _)
  rw [← h] at marked
  obtain point | letter := marked
  · exact absurd (mem_integerDigits point) (by decide)
  · exact absurd (mem_integerDigits letter) (by decide)

/-- Numbers of documents with one numeral are the same number. -/
theorem numeral_injective {a b : Number} (h : a.numeral = b.numeral) : a = b := by
  cases a with
  | integer i fitsI =>
      cases b with
      | integer j fitsJ =>
          obtain rfl := integerDigits_injective h
          rfl
      | real y => exact absurd h (numeral_integer_ne_real i y)
  | real x =>
      cases b with
      | integer j fitsJ => exact absurd h.symm (numeral_integer_ne_real j x)
      | real y => rw [Binary64.numeral_injective h]

end Number

end Pushdown
