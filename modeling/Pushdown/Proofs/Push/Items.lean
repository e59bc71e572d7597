import Pushdown.Proofs.Push.Tests
import Pushdown.Proofs.Regex.Literal

/-!
# Tests of values and their items

The matcher tries an operator on a value and on the items of an array. What is pushed tests the
value where its declared type can be other than an array, and scans the items where it can be one. A
scan over a declared array also meets null, which is one row; the tests that are true of null are
made of the value as well, so this changes no verdict.

The contracts here say for every operator on values what its pushed condition tells.
-/

namespace Pushdown

open Push (Ensures)

/-- In an exact setting no pattern comes from a cache. -/
def Setting.Uncached (setting : Setting) (state : PushState) : Prop :=
  setting.exact → state.patterns = none

variable {setting : Setting} {place : Location}

theorem newScan_uncached : Ensures setting.Uncached Push.newScan fun _ => True :=
  .newScan fun _ _ uncached => uncached

/-! ## Scans over arrays -/

/-- What a guarded scan tells: a verdict about the items of an array, and nothing otherwise. -/
def arrayVerdict (verdict : Json → Bool) : Option Json → Bool
  | some (.array items) => items.any verdict
  | _ => false

/-- What an unguarded scan over a declared array tells. -/
def itemVerdict (declaredArray : Bool) (verdict : Json → Bool) : Option Json → Bool
  | some (.array items) => items.any verdict
  | some .null => declaredArray && verdict .null
  | _ => false

theorem Setting.At.scannable {rows : Rows} {v? : Option Json} (h : setting.At place rows v?)
    {type : FieldType} (itemType : itemType? place.declared = some type)
    (array : v?.any (·.items?.isSome) = true) : Scannable type v? := by
  cases v? with
  | none => cases array
  | some v =>
      cases v with
      | array items =>
          refine .inr (.inr ⟨items, rfl, ?_⟩)
          intro item member
          have accepts := h.accepts
          cases declared : place.declared <;> rw [declared] at itemType accepts <;> cases itemType
          · simp
          · obtain impossible | ⟨values, same, typed⟩ := FieldType.accepts_array accepts
            · cases impossible
            · cases same
              exact typed item member
      | null | bool | number | string | object => cases array

/-- A scan behind a test for an array tells a verdict about the items. -/
theorem arrayScan_tells {X : Type} {domain : Rows → X → Prop} {number : Nat} {type : FieldType}
    {body : Condition Test} {verdict : X → Bool} {item : Json → X}
    (itemType : itemType? place.declared = some type)
    (begins : ∀ rows v, setting.In (.item number type) rows v → domain rows (item v))
    (h : Tells setting domain body verdict) :
    Tells setting (setting.At place) (.all [isArray place, .scan place number body])
      (arrayVerdict fun v => verdict (item v)) := by
  have scanned : Tells setting
      (fun rows v? => setting.At place rows v? ∧ v?.any (·.items?.isSome) = true)
      (.scan place number body) (rowVerdict fun v => verdict (item v)) :=
    (Tells.scan begins h).restrict fun rows v? hx => ⟨hx.1, hx.1.scannable itemType hx.2⟩
  apply (isArray_tells.guarded scanned).congr
  intro _ v? _
  cases v? with
  | none => rfl
  | some v => cases v <;> rfl

variable {test : Location → Condition Test} {pred : Json → Bool}

/-- Some item satisfies a test. -/
theorem someItem_tells
    (tells : ∀ place, Tells setting (setting.At place) (test place) fun v? => v?.any pred) :
    Ensures setting.Uncached (someItem place test) fun c =>
      Tells setting (setting.At place) c (itemVerdict place.declared.isArray pred) := by
  have begins (number : Nat) (type : FieldType) (rows : Rows) (v : Json)
      (inside : setting.In (.item number type) rows v) :
      setting.At (.item number type) rows (some v) := Location.item_denotes inside
  unfold someItem
  split
  · next type declared =>
    refine newScan_uncached.bind fun number _ => .pure ?_
    have scanned : Tells setting (setting.At place)
        (.scan place number (test (.item number type))) (rowVerdict fun v => (some v).any pred) :=
      (Tells.scan (begins number type) (tells _)).restrict fun rows v? hx => by
        have accepts := Location.Denotes.accepts hx
        rw [declared] at accepts
        exact ⟨hx, FieldType.scannable accepts⟩
    apply scanned.congr
    intro _ v? _
    rw [declared]
    cases v? with
    | none => rfl
    | some v => cases v <;> rfl
  · next declared =>
    refine newScan_uncached.bind fun number _ => .pure ?_
    have itemType : itemType? place.declared = some .unknown := by rw [declared]; rfl
    apply (arrayScan_tells itemType (begins number .unknown) (tells _)).congr
    intro _ v? _
    rw [declared]
    cases v? with
    | none => rfl
    | some v => cases v <;> rfl
  · next notArray notUnknown =>
    refine .pure (.const ?_)
    intro rows v? hx
    have noItems : itemType? place.declared = none := by
      cases declared : place.declared with
      | array items => exact absurd declared (notArray items)
      | unknown => exact absurd declared notUnknown
      | string | number | boolean | null | object => rfl
    have notDeclared : place.declared.isArray = false := by
      cases declared : place.declared with
      | array items => exact absurd declared (notArray items)
      | unknown | string | number | boolean | null | object => rfl
    have noArray := hx.noArray noItems
    rw [notDeclared]
    cases v? with
    | none => rfl
    | some v =>
        cases v with
        | array => cases noArray
        | null | bool | number | string | object => rfl

/-- The value or some item satisfies a test that is not true of null or of arrays. -/
theorem valueOrItem_tells
    (tells : ∀ place, Tells setting (setting.At place) (test place) fun v? => v?.any pred)
    (null : pred .null = false) (arrays : ∀ items, pred (.array items) = false) :
    Ensures setting.Uncached (valueOrItem place test) fun c =>
      Tells setting (setting.At place) c fun v? => anyCandidate v? pred := by
  have direct : Tells setting (setting.At place)
      (if place.declared.isArray then .const false else test place)
      fun v? => !place.declared.isArray && v?.any pred := by
    split
    · next isArray => exact .const fun _ _ _ => by rw [isArray]; rfl
    · next notArray =>
      rw [Bool.not_eq_true] at notArray
      exact (tells place).congr fun _ _ _ => by rw [notArray]; rfl
  refine (someItem_tells tells).bind fun c items => .pure ?_
  apply (Tells.any (.cons direct (.cons items .nil))).congr
  intro _ v? hx
  cases v? with
  | none => cases place.declared.isArray <;> rfl
  | some v =>
      have accepts := hx.accepts
      cases v with
      | array items => simp [anyCandidate, itemVerdict, arrays]
      | null => simp [anyCandidate, itemVerdict, null]
      | bool | number | string | object =>
          cases declared : place.declared <;>
            simp_all [anyCandidate, itemVerdict, FieldType.isArray, FieldType.accepts]

/-! ## Operators on values -/

/-- The value is missing or null, or some item is null. -/
theorem pushNull_tells :
    Ensures setting.Uncached (pushNull place) fun c =>
      Tells setting (setting.At place) c fun v? => equalsOperand v? .null := by
  refine (someItem_tells fun _ => isNullItem_tells).bind fun c items => .pure ?_
  apply (Tells.any (.cons isNull_tells (.cons items .nil))).congr
  intro _ v? _
  cases v? with
  | none => rfl
  | some v => cases v <;> simp [equalsOperand, itemVerdict, Json.isNull]

theorem pushEquals_tells (operand : Json) :
    Ensures setting.Uncached (pushEquals place operand) fun c =>
      Tells setting (setting.At place) c fun v? => equalsOperand v? operand := by
  cases operand with
  | null => exact pushNull_tells
  | array | object => exact .decline
  | bool | number | string =>
      refine valueOrItem_tells (fun _ => equalsScalar_tells rfl rfl) ?_ fun _ => ?_ <;>
        simp [Json.equal]

theorem pushCompares_tells (comparison : Comparison) (bound : Json) :
    Ensures setting.Uncached (pushCompares place comparison bound) fun c =>
      Tells setting (setting.At place) c fun v? =>
        anyCandidate v? (comparesTo comparison bound) := by
  cases bound with
  | null | bool | array | object => exact .decline
  | string text =>
      exact valueOrItem_tells (fun _ => comparesText_tells comparison text) rfl fun _ => rfl
  | number n =>
      exact valueOrItem_tells (fun _ => comparesNumber_tells comparison n) rfl fun _ => rfl

/-! ### Membership -/

theorem anyCandidate_or (v? : Option Json) (p q : Json → Bool) :
    anyCandidate v? (fun v => p v || q v) = (anyCandidate v? p || anyCandidate v? q) := by
  cases v? with
  | none => rfl
  | some v =>
      cases v with
      | array items =>
          rw [Bool.eq_iff_iff]
          simp only [anyCandidate, Bool.or_eq_true, List.any_eq_true]
          grind
      | null | bool | number | string | object => rfl

theorem anyCandidate_false (v? : Option Json) : anyCandidate v? (fun _ => false) = false := by
  cases v? with
  | none => rfl
  | some v => cases v <;> simp [anyCandidate]

/-- A value is in a list if null is in the list and it counts as null, or if a candidate equals
another value of the list. -/
theorem equalsAny_eq (v? : Option Json) (values : List Json) :
    equalsAny v? values =
      (values.any Json.isNull && equalsOperand v? .null ||
        anyCandidate v? (equalsSome values)) := by
  induction values with
  | nil => exact (anyCandidate_false v?).symm
  | cons o rest ih =>
      have split : equalsSome (o :: rest) =
          fun v => (!o.isNull && v.equal o) || equalsSome rest v := rfl
      rw [split, anyCandidate_or, equalsAny, List.any_cons, List.any_cons]
      rw [equalsAny] at ih
      rw [ih]
      cases o with
      | null =>
          simp only [Json.isNull, Bool.not_true, Bool.false_and, anyCandidate_false]
          cases equalsOperand v? .null <;> simp
      | bool | number | string | array | object =>
          simp only [Json.isNull, Bool.not_false, Bool.true_and, Bool.false_or, equalsOperand]
          grind

/-- Null and arrays equal no value that is pushed. -/
theorem equalsSome_eq_false {values : List Json} {classes : ClassifiedValues}
    (classified : ClassifiedValues.ofList? values = some classes) :
    equalsSome values .null = false ∧ ∀ items, equalsSome values (.array items) = false := by
  obtain ⟨noContainer, -⟩ := Option.ite_none_left_eq_some.mp classified
  rw [List.any_eq_true, not_exists] at noContainer
  refine ⟨?_, fun items => ?_⟩ <;>
  · rw [equalsSome, List.any_eq_false]
    intro o ho
    cases o with
    | array | object => exact absurd ⟨ho, rfl⟩ (noContainer _)
    | null | bool | number | string => simp [Json.equal, Json.isNull]

theorem pushMember_tells (values : List Json) :
    Ensures setting.Uncached (pushMember place values) fun c =>
      Tells setting (setting.At place) c fun v? => equalsAny v? values := by
  unfold pushMember
  split
  · exact .decline
  · next classes classified =>
    have hasNull : classes.hasNull = values.any Json.isNull := by
      obtain ⟨_, same⟩ := Option.ite_none_left_eq_some.mp classified
      cases same
      rfl
    have others {ns : List (Condition Test)} {verdicts : List (Option Json → Bool)}
        (nulls : List.Forall₂ (Tells setting (setting.At place)) ns verdicts) :
        Ensures setting.Uncached
          (if classes.strings.isEmpty && classes.numbers.isEmpty && classes.booleans.isEmpty then
            pure (.any (ns ++ []))
          else do
            let c ← valueOrItem place (memberTest classes)
            pure (.any (ns ++ [c])))
          fun c => Tells setting (setting.At place) c fun v? =>
            verdicts.any (· v?) || anyCandidate v? (equalsSome values) := by
      split
      · next empty =>
        have never : equalsSome values = fun _ => false := by
          funext v
          rw [ClassifiedValues.equalsSome_eq classified v]
          simp only [Bool.and_eq_true, List.isEmpty_iff] at empty
          simp [empty.1.1, empty.1.2, empty.2]
        refine .pure ?_
        rw [List.append_nil]
        apply (Tells.any nulls).congr
        intro _ v? _
        rw [never, anyCandidate_false, Bool.or_false]
      · obtain ⟨null, arrays⟩ := equalsSome_eq_false classified
        refine (valueOrItem_tells (fun _ => memberTest_tells classified) null arrays).bind
          fun c tells => .pure ?_
        apply (Tells.any (List.rel_append nulls (.cons tells .nil))).congr
        intro _ v? _
        simp
    simp only [pure_bind, equalsAny_eq, ← hasNull]
    split
    · next null =>
      refine pushNull_tells.bind fun c tells => (others (.cons tells .nil)).imp fun c tells => ?_
      exact tells.congr fun _ _ _ => by simp [null]
    · next noNull =>
      rw [Bool.not_eq_true] at noNull
      exact (others .nil).imp fun c tells => tells.congr fun _ _ _ => by simp [noNull]

/-! ### Kinds -/

theorem typeNames_contains (kinds : List Kind) (v : Json) :
    (kinds.flatMap Kind.typeNames).contains (TypeName.ofJson v) =
      kinds.contains (Kind.ofJson v) := by
  rw [Bool.eq_iff_iff, List.contains_iff_mem, List.contains_iff_mem, List.mem_flatMap]
  constructor
  · rintro ⟨kind, member, named⟩
    have same : Kind.ofJson v = kind := by
      cases v with
      | bool b => cases b <;> cases kind <;> simp_all [Kind.typeNames, TypeName.ofJson, Kind.ofJson]
      | number n =>
          cases h : n.isReal <;> cases kind <;>
            simp_all [Kind.typeNames, TypeName.ofJson, Kind.ofJson]
      | null | string | array | object =>
          cases kind <;> simp_all [Kind.typeNames, TypeName.ofJson, Kind.ofJson]
    exact same ▸ member
  · intro member
    refine ⟨_, member, ?_⟩
    cases v with
    | bool b => cases b <;> simp [Kind.typeNames, TypeName.ofJson, Kind.ofJson]
    | number n => cases h : n.isReal <;> simp [Kind.typeNames, TypeName.ofJson, Kind.ofJson, h]
    | null | string | array | object => simp [Kind.typeNames, TypeName.ofJson, Kind.ofJson]

theorem pushKinds_tells (kinds : List Kind) :
    Ensures setting.Uncached (pushKinds place kinds) fun c =>
      Tells setting (setting.At place) c fun v? =>
        anyCandidate v? fun candidate => kinds.contains (Kind.ofJson candidate) := by
  have direct (place : Location) : Tells setting (setting.At place)
      (.leaf (.hasType place (kinds.flatMap Kind.typeNames)))
      fun v? => v?.any fun v => kinds.contains (Kind.ofJson v) :=
    Tells.hasClass (typeNames_contains kinds)
  refine (someItem_tells direct).bind fun c items => .pure ?_
  apply (Tells.any (.cons (direct place) (.cons items .nil))).congr
  intro _ v? _
  cases v? with
  | none => rfl
  | some v =>
      cases v with
      | null =>
          rw [List.any_cons, List.any_cons, List.any_nil, Bool.or_false]
          cases null : kinds.contains (Kind.ofJson .null) <;>
            simp_all [anyCandidate, itemVerdict]
      | bool | number | string | array | object => simp [anyCandidate, itemVerdict]

/-! ### Regular expressions -/

theorem classifyRegex_ensures (expression : RegularExpression) :
    Ensures setting.Uncached (classifyRegex setting.schema place expression) fun pattern =>
      setting.exact → pattern = TextPattern.ofRegex expression := by
  intro state uncached
  cases patterns : state.patterns with
  | none =>
      have run : (classifyRegex setting.schema place expression).run state =
          (some (.ofRegex expression), state) := by
        obtain ⟨scans, _, metrics⟩ := state
        cases patterns
        rfl
      rw [run]
      exact ⟨uncached, fun pattern same _ => (Option.some.inj same).symm⟩
  | some cache =>
      have inexact : ¬ setting.exact := fun exact => by simp [uncached exact] at patterns
      exact ⟨fun exact => absurd exact inexact, fun _ _ exact => absurd exact inexact⟩

theorem pushRegex_tells (expression : RegularExpression) :
    Ensures setting.Uncached (pushRegex setting.schema place expression) fun c =>
      Tells setting (setting.At place) c fun v? =>
        anyCandidate v? (matchesRegex expression) := by
  apply (classifyRegex_ensures expression).bind
  intro pattern same
  split
  · exact .decline
  · next reducible =>
    refine valueOrItem_tells (fun _ => patternTest_tells reducible fun exact text => ?_) rfl
      fun _ => rfl
    rw [same exact] at reducible ⊢
    exact TextPattern.accepts_ofRegex reducible text

end Pushdown
