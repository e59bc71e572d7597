import Pushdown.Proofs.Number.Rounding
import Pushdown.Proofs.Push.Tells
import Pushdown.Proofs.Store.Like
import Pushdown.Selector.Matching

/-!
# Tests of one value

Every test of a single value says what the matcher asks of that value. A test for a class stands
before each comparison, or is left out where the declared type admits no other class but null; then
a missing or null value is NULL to the store, which is not true.
-/

namespace Pushdown

variable {setting : Setting} {place : Location} {rows : Rows} {v? : Option Json}

/-! ## What locations give -/

theorem Setting.At.stored (h : setting.At place rows v?) :
    place.stored setting.document rows = .ofMissing v? := by
  rw [Location.stored, h.value]

theorem Setting.At.accepts {v : Json} (h : setting.At place rows (some v)) :
    place.declared.accepts v = true :=
  Location.Denotes.accepts h v rfl

/-- The type of a value is among the names. -/
theorem Tells.hasType (names : List TypeName) :
    Tells setting (setting.At place) (.leaf (.hasType place names))
      fun v? => v?.any fun v => names.contains (TypeName.ofJson v) := by
  refine .answered rfl ?_
  intro _ rows v? hx
  have typed : place.typed? setting.document rows = v? := hx.typed
  rw [Test.answer, typed]
  cases v? with
  | none => cases names <;> rfl
  | some v => simp

/-- The value is in a class that type names stand for. -/
theorem Tells.hasClass {names : List TypeName} {inClass : Json → Bool}
    (named : ∀ v, names.contains (TypeName.ofJson v) = inClass v) :
    Tells setting (setting.At place) (.leaf (.hasType place names)) fun v? => v?.any inClass := by
  rw [← funext named]
  exact Tells.hasType names

/-! ## Guards -/

/-- A guard lets through the values of a class. Where it is left out, the declared type admits that
class and null only. -/
def Guards (setting : Setting) (place : Location) (guard : Condition Test) (inClass : Json → Bool) :
    Prop :=
  (guard = .const true ∧
      ∀ v, place.declared.accepts v = true → v = .null ∨ inClass v = true) ∨
    Tells setting (setting.At place) guard fun v? => v?.any inClass

theorem textGuard_guards : Guards setting place (textGuard place) isString := by
  unfold textGuard
  split
  · next string =>
    refine .inl ⟨rfl, ?_⟩
    intro v accepts
    rw [string] at accepts
    cases v <;> simp_all [FieldType.accepts, isString]
  · refine .inr (Tells.hasClass ?_)
    intro v
    cases v with
    | bool b => cases b <;> rfl
    | number n => cases h : n.isReal <;> simp [TypeName.ofJson, h, isString]
    | null | string | array | object => rfl

theorem numberGuard_guards : Guards setting place (numberGuard place) isNumber := by
  unfold numberGuard
  split
  · next number =>
    refine .inl ⟨rfl, ?_⟩
    intro v accepts
    rw [number] at accepts
    cases v <;> simp_all [FieldType.accepts, isNumber]
  · refine .inr (Tells.hasClass ?_)
    intro v
    cases v with
    | bool b => cases b <;> rfl
    | number n => cases h : n.isReal <;> simp [TypeName.ofJson, h, isNumber]
    | null | string | array | object => rfl

/-- A guarded test of the stored value tells what it tells about the values of the class, and
nothing of any other. -/
theorem Guards.tells {guard : Condition Test} {inClass pred : Json → Bool} {test : Test}
    {answer : Argument → Option Bool} (guards : Guards setting place guard inClass)
    (plain : test.isScan = false)
    (answers : ∀ rows, test.answer setting.store setting.document rows =
      answer (place.stored setting.document rows))
    (null : answer .null ≠ some true)
    (inside : setting.exact → ∀ v, inClass v = true → (answer (.ofJson v) == some true) = pred v)
    (outside : ∀ v, inClass v = false → pred v = false) (nullOutside : inClass .null = false) :
    Tells setting (setting.At place) (.all [guard, .leaf test]) fun v? => v?.any pred := by
  have missing {rows : Rows} (noValue : place.stored setting.document rows = .null) :
      (test.answer setting.store setting.document rows == some true) = false := by
    rw [answers, noValue, beq_eq_false_iff_ne]
    exact null
  have valued (exact : setting.exact) {rows : Rows} {v : Json} (hx : setting.At place rows (some v))
      (isInside : inClass v = true) :
      (test.answer setting.store setting.document rows == some true) = pred v := by
    rw [answers, hx.stored]
    exact inside exact v isInside
  obtain ⟨rfl, only⟩ | guardTells := guards
  · change Tells setting _ (.leaf test) _
    refine .answered plain ?_
    intro exact rows v? hx
    cases v? with
    | none => exact missing hx.stored
    | some v =>
        obtain rfl | isInside := only v hx.accepts
        · rw [missing hx.stored]
          exact (outside _ nullOutside).symm
        · exact valued exact hx isInside
  · have behind : Tells setting (fun rows v? => setting.At place rows v? ∧ v?.any inClass = true)
        (.leaf test) fun v? => v?.any pred := by
      refine .answered plain ?_
      intro exact rows v? hx
      cases v? with
      | none => cases hx.2
      | some v => exact valued exact hx.1 hx.2
    apply (guardTells.guarded behind).congr
    intro _ v? _
    cases v? with
    | none => rfl
    | some v =>
        cases isInside : inClass v with
        | false => simp [isInside, outside v isInside]
        | true => simp [isInside]

/-- A test of a text. -/
theorem textGuard_tells {test : Test} (answer : Argument → Option Bool) {pred : Json → Bool}
    (plain : test.isScan = false)
    (answers : ∀ rows, test.answer setting.store setting.document rows =
      answer (place.stored setting.document rows))
    (null : answer .null ≠ some true)
    (texts : setting.exact → ∀ text, (answer (.text text) == some true) = pred (.string text))
    (others : ∀ v, isString v = false → pred v = false) :
    Tells setting (setting.At place) (.all [textGuard place, .leaf test])
      fun v? => v?.any pred := by
  refine textGuard_guards.tells plain answers null ?_ others rfl
  intro exact v isText
  cases v with
  | string text => exact texts exact text
  | null | bool | number | array | object => cases isText

/-- A test of a number. -/
theorem numberGuard_tells {test : Test} (answer : Argument → Option Bool) {pred : Json → Bool}
    (plain : test.isScan = false)
    (answers : ∀ rows, test.answer setting.store setting.document rows =
      answer (place.stored setting.document rows))
    (null : answer .null ≠ some true)
    (numbers : setting.exact → ∀ n, (answer (.ofNumber n) == some true) = pred (.number n))
    (others : ∀ v, isNumber v = false → pred v = false) :
    Tells setting (setting.At place) (.all [numberGuard place, .leaf test])
      fun v? => v?.any pred := by
  refine numberGuard_guards.tells plain answers null ?_ others rfl
  intro exact v isNumber
  cases v with
  | number n => exact numbers exact n
  | null | bool | string | array | object => cases isNumber

/-! ## Equality and order -/

theorem Json.equal_string (v : Json) (text : String) (h : isString v = false) :
    v.equal (.string text) = false := by
  cases v with
  | string => cases h
  | null | bool | number | array | object => simp [Json.equal]

theorem Json.equal_number (v : Json) (n : Number) (h : isNumber v = false) :
    v.equal (.number n) = false := by
  cases v with
  | number => cases h
  | null | bool | string | array | object => simp [Json.equal]

theorem Json.equal_bool (v : Json) (b : Bool) :
    v.equal (.bool b) =
      [if b then TypeName.trueValue else .falseValue].contains (TypeName.ofJson v) := by
  cases v with
  | bool c => cases b <;> cases c <;> rfl
  | number n => cases b <;> cases h : n.isReal <;> simp [TypeName.ofJson, h, Json.equal]
  | null | string | array | object => cases b <;> simp [TypeName.ofJson, Json.equal]

/-- The value equals a text, a number or a truth value. -/
theorem equalsScalar_tells {operand : Json} (noContainer : isContainer operand = false)
    (notNull : operand.isNull = false) :
    Tells setting (setting.At place) (equalsScalar operand place)
      fun v? => v?.any fun v => v.equal operand := by
  cases operand with
  | null => cases notNull
  | array | object => cases noContainer
  | string text =>
      refine textGuard_tells (·.equal? (.text text)) rfl (fun _ => rfl)
        (by simp [Argument.equal?, Argument.compare?]) ?_ fun v => v.equal_string text
      intro _ content
      simp [Argument.equal?_text, Json.equal]
  | number n =>
      refine numberGuard_tells (·.equal? (.ofNumber n)) rfl (fun _ => rfl)
        (by simp [Argument.equal?, Argument.compare?]) ?_ fun v => v.equal_number n
      intro _ m
      simp [Argument.equal?_number, Json.equal]
  | bool b =>
      simp only [Json.equal_bool]
      cases b <;> exact Tells.hasType _

/-- The value is a text that stands in an order to a text. -/
theorem comparesText_tells (comparison : Comparison) (text : String) :
    Tells setting (setting.At place) (comparesTest textGuard comparison (.text text) place)
      fun v? => v?.any (comparesTo comparison (.string text)) := by
  refine textGuard_tells (fun v => (v.compare? (.text text)).map comparison.holds)
    rfl (fun _ => rfl) (by simp [Argument.compare?]) ?_ ?_
  · intro _ content
    change (some (comparison.holds (Json.compareText content text)) == some true) = _
    simp [comparesTo, Json.compare?]
  · intro v notText
    cases v with
    | string => cases notText
    | null | bool | number | array | object => rfl

/-- The value is a number that stands in an order to a number. -/
theorem comparesNumber_tells (comparison : Comparison) (n : Number) :
    Tells setting (setting.At place) (comparesTest numberGuard comparison (.ofNumber n) place)
      fun v? => v?.any (comparesTo comparison (.number n)) := by
  refine numberGuard_tells (fun v => (v.compare? (.ofNumber n)).map comparison.holds)
    rfl (fun _ => rfl) (by simp [Argument.compare?]) ?_ ?_
  · intro _ m
    rw [Argument.compare?_ofNumber, comparesTo, Json.compare?]
    cases m.compare? n <;> simp
  · intro v notNumber
    cases v with
    | number => cases notNumber
    | null | bool | string | array | object => rfl

/-! ## Membership -/

/-- The value is one of several texts. -/
theorem memberOfTexts_tells {texts : List Json} (all : ∀ o ∈ texts, isString o = true) :
    Tells setting (setting.At place) (.all [textGuard place, .leaf (.memberOf place texts)])
      fun v? => v?.any fun v => texts.any (v.equal ·) := by
  refine textGuard_tells (·.memberOf? (texts.map Argument.ofJson)) rfl (fun _ => rfl)
    (Argument.memberOf?_null _) ?_ ?_
  · intro _ content
    refine Argument.memberOf?_ofJson fun o ho => ?_
    cases o with
    | string text =>
        change ((Argument.text content).equal? (.text text) == some true) = _
        simp [Argument.equal?_text, Json.equal]
    | null | bool | number | array | object => cases all _ ho
  · intro v notText
    rw [List.any_eq_false]
    intro o ho
    cases o with
    | string text => simp [v.equal_string text notText]
    | null | bool | number | array | object => cases all _ ho

/-- The value is one of several numbers. -/
theorem memberOfNumbers_tells {numbers : List Json} (all : ∀ o ∈ numbers, isNumber o = true) :
    Tells setting (setting.At place) (.all [numberGuard place, .leaf (.memberOf place numbers)])
      fun v? => v?.any fun v => numbers.any (v.equal ·) := by
  refine numberGuard_tells (·.memberOf? (numbers.map Argument.ofJson)) rfl (fun _ => rfl)
    (Argument.memberOf?_null _) ?_ ?_
  · intro _ m
    refine Argument.memberOf?_ofJson fun o ho => ?_
    cases o with
    | number n =>
        change ((Argument.ofNumber m).equal? (.ofNumber n) == some true) = _
        simp [Argument.equal?_number, Json.equal]
    | null | bool | string | array | object => cases all _ ho
  · intro v notNumber
    rw [List.any_eq_false]
    intro o ho
    cases o with
    | number n => simp [v.equal_number n notNumber]
    | null | bool | string | array | object => cases all _ ho

/-- The value equals one of the values of a list other than null. -/
def equalsSome (values : List Json) (v : Json) : Bool :=
  values.any fun o => !o.isNull && v.equal o

theorem booleans_contain (someFalse someTrue : Bool) (name : TypeName) :
    ((if someFalse then [TypeName.falseValue] else []) ++
        (if someTrue then [TypeName.trueValue] else [])).contains name =
      (someFalse && name == .falseValue || someTrue && name == .trueValue) := by
  cases someFalse <;> cases someTrue <;> cases name <;> rfl

/-- A value equals one of a list when it does so in its class. -/
theorem ClassifiedValues.equalsSome_eq {values : List Json} {classes : ClassifiedValues}
    (classified : ClassifiedValues.ofList? values = some classes) (v : Json) :
    equalsSome values v = (classes.strings.any (v.equal ·) || classes.numbers.any (v.equal ·) ||
      classes.booleans.contains (TypeName.ofJson v)) := by
  obtain ⟨noContainer, same⟩ := Option.ite_none_left_eq_some.mp classified
  cases same
  rw [booleans_contain]
  clear classified
  induction values with
  | nil => rfl
  | cons o rest ih =>
      simp only [List.any_cons, Bool.or_eq_true, not_or] at noContainer
      have tail := ih noContainer.2
      unfold equalsSome at tail ⊢
      rw [List.any_cons, tail]
      cases o with
      | null => simp [Json.isNull, isString, isNumber, isBoolean]
      | bool b =>
          cases b <;> simp [Json.isNull, isString, isNumber, isBoolean, Json.equal_bool] <;> grind
      | number n => simp [Json.isNull, isString, isNumber, isBoolean]; grind
      | string text => simp [Json.isNull, isString, isNumber, isBoolean]; grind
      | array | object => simp [isContainer] at noContainer

/-- The value is in one of the classes of a list. -/
theorem memberTest_tells {values : List Json} {classes : ClassifiedValues}
    (classified : ClassifiedValues.ofList? values = some classes) :
    Tells setting (setting.At place) (memberTest classes place)
      fun v? => v?.any (equalsSome values) := by
  have equals := ClassifiedValues.equalsSome_eq classified
  obtain ⟨_, same⟩ := Option.ite_none_left_eq_some.mp classified
  have strings : ∀ o ∈ classes.strings, isString o = true := by
    cases same
    exact fun o ho => (List.mem_filter.mp ho).2
  have numbers : ∀ o ∈ classes.numbers, isNumber o = true := by
    cases same
    exact fun o ho => (List.mem_filter.mp ho).2
  have parts := Tells.any <| List.rel_append
    (List.rel_append
      (Tells.optional classes.strings.isEmpty
        (memberOfTexts_tells strings : Tells setting (setting.At place) _ _))
      (Tells.optional classes.numbers.isEmpty (memberOfNumbers_tells numbers)))
    (Tells.optional classes.booleans.isEmpty (Tells.hasType classes.booleans))
  apply parts.congr
  intro _ v? _
  cases v? with
  | none =>
      cases classes.strings.isEmpty <;> cases classes.numbers.isEmpty <;>
        cases classes.booleans.isEmpty <;> rfl
  | some v =>
      rw [Option.any_some, equals v]
      cases classes.strings <;> cases classes.numbers <;> cases classes.booleans <;>
        simp [Bool.or_assoc]

/-! ## Null, presence and length -/

theorem Argument.ofJson_eq_null (v : Json) : (Argument.ofJson v == .null) = v.isNull := by
  cases v with
  | number n =>
      change (Argument.ofNumber n == .null) = false
      unfold Argument.ofNumber
      cases n.signed? <;> rfl
  | null | bool | string | array | object => rfl

/-- The value is missing or null. -/
theorem isNull_tells :
    Tells setting (setting.At place) (.leaf (.isNull place)) fun v? => v?.all Json.isNull := by
  refine .answered rfl ?_
  intro _ rows v? hx
  rw [Test.answer, hx.stored]
  cases v? with
  | none => rfl
  | some v =>
      change (some (Argument.ofJson v == .null) == some true) = v.isNull
      simp [Argument.ofJson_eq_null]

/-- The value is null. -/
theorem isNullItem_tells :
    Tells setting (setting.At place) (isNullItem place) fun v? => v?.any Json.isNull := by
  apply Tells.hasClass
  intro v
  cases v with
  | bool b => cases b <;> rfl
  | number n => cases h : n.isReal <;> simp [TypeName.ofJson, h, Json.isNull]
  | null | string | array | object => rfl

/-- The value is an array. -/
theorem isArray_tells :
    Tells setting (setting.At place) (isArray place) fun v? => v?.any (·.items?.isSome) := by
  apply Tells.hasClass
  intro v
  cases v with
  | bool b => cases b <;> rfl
  | number n => cases h : n.isReal <;> simp [TypeName.ofJson, h, Json.items?]
  | null | string | array | object => rfl

/-- The value is present or not. -/
theorem presentTest_tells (expected : Bool) :
    Tells setting (setting.At place) (presentTest place expected)
      fun v? => v?.isSome == expected := by
  unfold presentTest
  split
  · next required =>
    refine .const ?_
    intro rows v? hx
    rw [Location.Denotes.required hx required]
    cases expected <;> rfl
  · refine .answered rfl ?_
    intro _ rows v? hx
    have typed : place.typed? setting.document rows = v? := hx.typed
    rw [Test.answer, typed]
    cases v? <;> cases expected <;> rfl

/-- A count of items that fits memory is exact as a real. -/
theorem ofInt?_count {count : Nat} (fits : count ≤ 2 * fullSignificand) :
    ∃ x, Binary64.ofInt? count = some x ∧ x.units = count * Binary64.one := by
  unfold fullSignificand at fits
  obtain ⟨digits, zeros, few, spelled⟩ : ∃ digits zeros, digits < 2 ^ 53 ∧
      (count : Int).natAbs = digits * 2 ^ zeros := by
    obtain few | limit := Nat.lt_or_eq_of_le fits
    · exact ⟨count, 0, few, by simp⟩
    · exact ⟨1, 53, by decide, by simp [limit]⟩
  have word : FitsWord (count : Int) := by
    unfold FitsWord leastSigned greatestUnsigned
    omega
  obtain ⟨x, nearest, sign, magnitude⟩ := Binary64.ofInt?_exact word few spelled
  exact ⟨x, nearest, Binary64.units_eq_mul_one sign magnitude⟩

/-- A number of items equals a size as the store compares it when it does so in the matcher. -/
theorem hasLength_eq (size : Number) {items : List Json}
    (fits : items.length ≤ 2 * fullSignificand) :
    ((Argument.integer items.length).equal? (.ofNumber size) == some true) =
      hasLength (some (.array items)) size := by
  have some_eq (b : Bool) : (some b == some true) = b := by cases b <;> rfl
  obtain ⟨count, nearest, units⟩ := ofInt?_count fits
  have rounded (size : Number) (unsigned : size.unsigned? = none) :
      hasLength (some (.array items)) size =
        (Ord.compare (items.length * Binary64.one : Int) size.toReal.units == .eq) := by
    rw [hasLength, unsigned, nearest]
    dsimp only
    rw [Binary64.compare_eq, units]
  cases size with
  | real x =>
      rw [rounded _ rfl]
      change ((Argument.integer items.length).equal? (.real x) == some true) = _
      rw [Argument.equal?_real, some_eq]
      rfl
  | integer i fitsWord =>
      have never (outside : i < 0 ∨ greatestSigned < i) :
          (Ord.compare (items.length * Binary64.one : Int)
            (Number.integer i fitsWord).toReal.units == .eq) = false := by
        rw [beq_eq_false_iff_ne, ne_eq, Std.LawfulEqOrd.compare_eq_iff_eq]
        refine Binary64.count_units_ne ?_ fitsWord outside
        unfold fullSignificand at fits
        unfold greatestSigned
        omega
      by_cases large : i ≤ greatestSigned
      · have bound : Argument.ofNumber (.integer i fitsWord) = .integer i := by
          rw [Argument.ofNumber, Number.signed?, if_pos large]
        rw [bound, Argument.equal?_integer, some_eq]
        by_cases positive : 0 ≤ i
        · rw [hasLength, Number.unsigned?, if_pos positive, Bool.eq_iff_iff, beq_iff_eq, beq_iff_eq]
          omega
        · have unsigned : (Number.integer i fitsWord).unsigned? = none := if_neg positive
          rw [rounded _ unsigned, never (.inl (by omega)), beq_eq_false_iff_ne]
          omega
      · have bound : Argument.ofNumber (.integer i fitsWord) =
            .real (Number.integer i fitsWord).toReal := by
          rw [Argument.ofNumber, Number.signed?, if_neg large]
        have positive : 0 ≤ i := by unfold greatestSigned at large; omega
        rw [bound, Argument.equal?_real, some_eq, never (.inr (by omega)), hasLength,
          Number.unsigned?, if_pos positive, eq_comm, beq_eq_false_iff_ne]
        unfold fullSignificand at fits
        unfold greatestSigned at large
        omega

theorem hasLength_eq_false (size : Number) (noArray : v?.any (·.items?.isSome) = false) :
    hasLength v? size = false := by
  cases v? with
  | none => rfl
  | some v =>
      cases v with
      | array => cases noArray
      | null | bool | number | string | object => rfl

/-- Only declared arrays and undeclared values are arrays. -/
theorem Setting.At.noArray (h : setting.At place rows v?)
    (noItems : itemType? place.declared = none) : v?.any (·.items?.isSome) = false := by
  cases v? with
  | none => rfl
  | some v =>
      have accepts := h.accepts
      cases v with
      | array items => cases declared : place.declared <;> simp_all [itemType?, FieldType.accepts]
      | null | bool | number | string | object => rfl

/-- The value is an array with a number of items. -/
theorem lengthTest_tells (size : Number)
    (memory : setting.exact → setting.document.fitsMemory = true) :
    Tells setting (setting.At place) (lengthTest place size) fun v? => hasLength v? size := by
  have counted : Tells setting (setting.At place)
      (.all [isArray place, .leaf (.hasLength place (.ofNumber size))])
      fun v? => hasLength v? size := by
    have length : Tells setting
        (fun rows v? => setting.At place rows v? ∧ v?.any (·.items?.isSome) = true)
        (.leaf (.hasLength place (.ofNumber size))) fun v? => hasLength v? size := by
      refine .answered rfl ?_
      intro exact rows v? hx
      obtain ⟨denotes, array⟩ := hx
      have node : place.node? setting.document rows = v? := denotes.node
      rw [Test.answer, node]
      cases v? with
      | none => cases array
      | some v =>
          cases v with
          | array items =>
              have fits := Json.atPath?_fitsMemory (memory exact) node
              rw [Json.fitsMemory, Bool.and_eq_true, decide_eq_true_eq] at fits
              exact hasLength_eq size fits.1
          | null | bool | number | string | object => cases array
    apply (isArray_tells.guarded length).congr
    intro _ v? _
    cases array : v?.any (·.items?.isSome) with
    | true => rfl
    | false => rw [hasLength_eq_false size array, Bool.and_false]
  unfold lengthTest
  split
  · exact counted
  · exact counted
  · next notArray notUnknown =>
    refine .const fun rows v? hx => hasLength_eq_false size (hx.noArray ?_)
    cases declared : place.declared with
    | array items => exact absurd declared (notArray items)
    | unknown => exact absurd declared notUnknown
    | string | number | boolean | null | object => rfl

/-! ## Remainders and text patterns -/

/-- The value leaves a remainder. The store may round where the matcher does not, so nothing is
told of the truth of this test. -/
theorem remainderTest_tells (inexact : ¬ setting.exact) (divisor remainder : Int) :
    Tells setting (setting.At place) (remainderTest divisor remainder place)
      fun v? => v?.any (leavesRemainder divisor remainder) := by
  refine ⟨?_, ?_, fun exact => absurd exact inexact⟩
  · refine .all (List.forall_mem_cons.mpr ⟨?_, List.forall_mem_singleton.mpr ?_⟩)
    · unfold numberGuard
      split
      · exact .const true
      · exact .leaf (Test.readable_of_plain rfl)
    · exact .leaf (Test.readable_of_plain rfl)
  · intro b eq
    exfalso
    revert eq
    unfold remainderTest numberGuard
    split <;>
    · intro eq
      cases eq

/-- The value matches a text pattern, which stands for a regular expression where the setting is
exact. -/
theorem patternTest_tells {pattern : TextPattern} {ignoreCase : Bool}
    {expression : RegularExpression} (reducible : pattern ≠ .irreducible)
    (stands : setting.exact → ∀ text,
      pattern.accepts ignoreCase text = expression.matchesIn text) :
    Tells setting (setting.At place) (patternTest setting.schema pattern ignoreCase place)
      fun v? => v?.any (matchesRegex expression) := by
  have answer := TextPattern.textTest_answer setting.store reducible ignoreCase
    (place.indexPath.any fun path => setting.schema.hasIndex path .lowercase)
  have written (lowerIndex : Bool) (same : lowerIndex =
      place.indexPath.any fun path => setting.schema.hasIndex path .lowercase) :
      patternTest setting.schema pattern ignoreCase place =
        .all [textGuard place, .leaf (.text place (textTest pattern ignoreCase lowerIndex).1
          (textTest pattern ignoreCase lowerIndex).2)] := by
    subst same
    rfl
  rw [written _ rfl]
  generalize textTest pattern ignoreCase _ = test at answer
  obtain ⟨test, operand⟩ := test
  refine textGuard_tells (fun v => setting.store.textTest v operand test)
    rfl (fun _ => rfl) ?_ ?_ fun v notText => ?_
  · cases test <;> simp [Store.textTest, Store.textOf?, Argument.equal?, Argument.compare?]
  · intro exact text
    rw [answer text, stands exact text]
    cases found : expression.matchesIn text <;> simp [matchesRegex, found]
  · cases v with
    | string => cases notText
    | null | bool | number | array | object => rfl

end Pushdown
