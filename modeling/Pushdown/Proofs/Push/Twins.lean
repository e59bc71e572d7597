import Pushdown.Proofs.Push.Ensures

/-!
# What pushing builds

A selector is pushed step by step: it resolves paths, numbers scans as they are met, and joins tests
with the building functions of conditions. `Condition.Twins` says this once, of two runs at the same
time. They may be for different layouts, and the second one may start with a higher number of scans.
Its conditions are built in the same steps then, from tests of the places that the same paths lead
to, and every scan has the number that it has in the first run, raised by as much.

What holds of all conditions that are pushed follows by induction over these steps. Where one run is
of interest, it is its own twin.
-/

namespace Pushdown

/-! ## Tests of one value -/

/-- A way to test a value, whatever the place of the value is. -/
inductive Test.OfValue : (Location → Test) → Prop
  | isNull : OfValue .isNull
  | present (expected : Bool) : OfValue (.present · expected)
  | hasType (names : List TypeName) : OfValue (.hasType · names)
  | equals (operand : Argument) : OfValue (.equals · operand)
  | compares (comparison : Comparison) (operand : Argument) :
      OfValue (.compares · comparison operand)
  | memberOf (values : List Json) : OfValue (.memberOf · values)
  | hasLength (length : Argument) : OfValue (.hasLength · length)
  | leavesRemainder (divisor remainder : Int) : OfValue (.leavesRemainder · divisor remainder)
  | text (test : TextTest) (operand : String) : OfValue (.text · test operand)

/-! ## Places of both runs -/

/-- The number of the scan whose items paths begin at; none at the document. -/
def Scope.number? : Scope → Option Nat
  | .document => none
  | .item scan _ => some scan

def Scope.raise (d : Nat) : Scope → Scope
  | .document => .document
  | .item scan type => .item (scan + d) type

theorem Scope.raise_zero (scope : Scope) : scope.raise 0 = scope := by
  cases scope <;> rfl

namespace Location

/-- Two places agree in what pushing asks of a place. -/
structure Agree (place place' : Location) : Prop where
  declared : place'.declared = place.declared
  required : place'.required = place.required
  indexPath : place'.indexPath = place.indexPath

theorem agree_resolve? (schema : Schema) (first second : Layout) (d : Nat) (scope : Scope)
    (segments : List String) :
    Option.Rel Agree (resolve? schema first scope segments)
      (resolve? schema second (scope.raise d) segments) := by
  cases scope with
  | item scan type =>
      rw [Scope.raise, resolve?, resolve?]
      cases stepsBelow? type segments with
      | none => exact .none
      | some below => exact .some ⟨rfl, rfl, rfl⟩
  | document =>
      cases segments with
      | nil => exact .none
      | cons segment rest =>
          rw [Scope.raise, resolve?, resolve?]
          cases PathStep.key? segment with
          | none => exact .none
          | some step =>
              dsimp only [Option.bind_eq_bind, Option.bind_some]
              generalize ((schema.fields.find? segment).map (·.type)).getD .unknown = top
              cases stepsBelow? top rest with
              | none => exact .none
              | some below => exact .some ⟨rfl, rfl, rfl⟩

section

variable (schema : Schema) (first second : Layout) (d : Nat)

/-- The places that one path leads to in both runs, or the items of one scan. -/
inductive Twins : Option Nat → Location → Location → Prop
  | resolved {scope : Scope} {segments : List String} {place place' : Location}
      (here : resolve? schema first scope segments = some place)
      (there : resolve? schema second (scope.raise d) segments = some place') :
      Twins scope.number? place place'
  | item (scan : Nat) (type : FieldType) :
      Twins (some scan) (.item scan type) (.item (scan + d) type)

end

theorem Twins.agree {schema : Schema} {first second : Layout} {d : Nat} {scope : Option Nat}
    {place place' : Location} (twins : Twins schema first second d scope place place') :
    Agree place place' := by
  cases twins with
  | item => exact ⟨rfl, rfl, rfl⟩
  | @resolved scope segments _ _ here there =>
      have agree := agree_resolve? schema first second d scope segments
      rw [here, there] at agree
      cases agree with
      | some agree => exact agree

end Location

/-! ## Conditions of both runs -/

/-- Conditions in a row that both runs build in the same steps, within the scan of a given number.
The numbers of their scans lie above `lo` and not above `hi`, and increase along the row. -/
inductive Condition.Twins (schema : Schema) (first second : Layout) (d : Nat) :
    Option Nat → Nat → Nat → List (Condition Test) → List (Condition Test) → Prop
  | nil {scope : Option Nat} {lo hi : Nat} (le : lo ≤ hi) :
      Twins schema first second d scope lo hi [] []
  | append {scope : Option Nat} {lo mid hi : Nat} {cs cs' es es' : List (Condition Test)}
      (front : Twins schema first second d scope lo mid cs cs')
      (back : Twins schema first second d scope mid hi es es') :
      Twins schema first second d scope lo hi (cs ++ es) (cs' ++ es')
  | const {scope : Option Nat} {lo hi : Nat} (value : Bool) (le : lo ≤ hi) :
      Twins schema first second d scope lo hi [.const value] [.const value]
  | leaf {scope : Option Nat} {lo hi : Nat} {test : Location → Test} {place place' : Location}
      (ofValue : Test.OfValue test)
      (places : Location.Twins schema first second d scope place place') (le : lo ≤ hi) :
      Twins schema first second d scope lo hi [.leaf (test place)] [.leaf (test place')]
  | all {scope : Option Nat} {lo hi : Nat} {cs cs' : List (Condition Test)}
      (parts : Twins schema first second d scope lo hi cs cs') :
      Twins schema first second d scope lo hi [.all cs] [.all cs']
  | any {scope : Option Nat} {lo hi : Nat} {cs cs' : List (Condition Test)}
      (parts : Twins schema first second d scope lo hi cs cs') :
      Twins schema first second d scope lo hi [.any cs] [.any cs']
  | negate {scope : Option Nat} {lo hi : Nat} {c c' : Condition Test}
      (inner : Twins schema first second d scope lo hi [c] [c']) :
      Twins schema first second d scope lo hi [c.negate] [c'.negate]
  | scan {scope : Option Nat} {lo number hi : Nat} {place place' : Location}
      {body body' : Condition Test}
      (places : Location.Twins schema first second d scope place place') (lt : lo < number)
      (inner : Twins schema first second d (some number) number hi [body] [body']) :
      Twins schema first second d scope lo hi [.scan place number body]
        [.scan place' (number + d) body']

/-! ## Steps of both runs -/

def PushState.raise (d : Nat) (s : PushState) : PushState := { s with scans := s.scans + d }

theorem PushState.raise_zero (s : PushState) : s.raise 0 = s := rfl

namespace Push

variable {α β γ δ : Type} {d lo : Nat}

/-- From states of which the second one is raised, and in which `lo` scans have been met, both steps
decline or both return related results. They meet the same number of scans and leave such states
again. -/
def Abreast (d lo : Nat) (R : Nat → α → β → Prop) (first : Push α) (second : Push β) : Prop :=
  ∀ s : PushState, s.scans = lo →
    lo ≤ (first.run s).2.scans ∧ (second.run (s.raise d)).2 = (first.run s).2.raise d ∧
      Option.Rel (R (first.run s).2.scans) (first.run s).1 (second.run (s.raise d)).1

namespace Abreast

variable {R : Nat → α → β → Prop} {S : Nat → γ → δ → Prop}

theorem pure {a : α} {b : β} (h : R lo a b) : Abreast d lo R (Pure.pure a) (Pure.pure b) := by
  rintro s rfl
  exact ⟨Nat.le_refl _, rfl, .some h⟩

theorem decline : Abreast d lo R Push.decline Push.decline := by
  rintro s rfl
  exact ⟨Nat.le_refl _, rfl, .none⟩

theorem bind {first : Push α} {second : Push β} {next : α → Push γ} {next' : β → Push δ}
    (h : Abreast d lo R first second)
    (after : ∀ mid a b, lo ≤ mid → R mid a b → Abreast d mid S (next a) (next' b)) :
    Abreast d lo S (first >>= next) (second >>= next') := by
  intro s met
  obtain ⟨more, left, results⟩ := h s met
  rw [run_bind, run_bind, left]
  revert results
  cases (first.run s).1 <;> cases (second.run (s.raise d)).1 <;> intro results <;> cases results
  · exact ⟨more, rfl, .none⟩
  · next related =>
    obtain ⟨later, left, results⟩ := after _ _ _ more related (first.run s).2 rfl
    exact ⟨Nat.le_trans more later, left, results⟩

/-- The results are used in the same way. -/
theorem map {first : Push α} {second : Push β} {f : α → γ} {g : β → δ}
    (h : Abreast d lo R first second) (related : ∀ hi a b, lo ≤ hi → R hi a b → S hi (f a) (g b)) :
    Abreast d lo S (first >>= fun a => Pure.pure (f a)) (second >>= fun b => Pure.pure (g b)) :=
  h.bind fun mid a b le hab => .pure (related mid a b le hab)

theorem newScan : Abreast d lo (fun hi k k' => k = lo + 1 ∧ hi = k ∧ k' = k + d)
    Push.newScan Push.newScan := by
  rintro s rfl
  have raised : s.scans + d + 1 = s.scans + 1 + d := Nat.add_right_comm _ _ _
  refine ⟨Nat.le_succ _, ?_, .some ⟨rfl, rfl, raised⟩⟩
  exact congrArg (fun n => ({ s with scans := n } : PushState)) raised

/-- A regular expression is looked up in the same cache, and no scan is met. -/
theorem classifyRegex (schema : Schema) {place place' : Location}
    (indexPath : place'.indexPath = place.indexPath) (expression : RegularExpression) :
    Abreast d lo (fun hi p q => hi = lo ∧ p = q) (Pushdown.classifyRegex schema place expression)
      (Pushdown.classifyRegex schema place' expression) := by
  rintro ⟨scans, patterns, metrics⟩ rfl
  unfold Pushdown.classifyRegex
  rw [indexPath]
  cases patterns <;> exact ⟨Nat.le_refl _, rfl, .some ⟨rfl, rfl⟩⟩

end Abreast

end Push

open Push (Abreast)

variable {schema : Schema} {first second : Layout} {d : Nat}

namespace Condition.Twins

variable {scope : Option Nat} {lo mid hi : Nat} {c c' e e' : Condition Test}

theorem both (front : Twins schema first second d scope lo mid [c] [c'])
    (back : Twins schema first second d scope mid hi [e] [e']) :
    Twins schema first second d scope lo hi [.all [c, e]] [.all [c', e']] :=
  .all (.append front back)

theorem either (front : Twins schema first second d scope lo mid [c] [c'])
    (back : Twins schema first second d scope mid hi [e] [e']) :
    Twins schema first second d scope lo hi [.any [c, e]] [.any [c', e']] :=
  .any (.append front back)

end Condition.Twins

/-! ## Conditions on one value -/

/-- A condition on a value that both runs build in the same steps, wherever the value is. -/
structure Uniform (schema : Schema) (first second : Layout) (d : Nat)
    (test : Location → Condition Test) : Prop where
  twins : ∀ {scope : Option Nat} {lo hi : Nat} {place place' : Location},
    Location.Twins schema first second d scope place place' → lo ≤ hi →
      Condition.Twins schema first second d scope lo hi [test place] [test place']

namespace Uniform

theorem leaf {test : Location → Test} (ofValue : Test.OfValue test) :
    Uniform schema first second d fun place => .leaf (test place) where
  twins places le := .leaf ofValue places le

/-- A test behind a guard. -/
theorem guarded {guard : Location → Condition Test} {test : Location → Test}
    (uniform : Uniform schema first second d guard) (ofValue : Test.OfValue test) :
    Uniform schema first second d fun place => .all [guard place, .leaf (test place)] where
  twins places le := .both (uniform.twins places (Nat.le_refl _)) (.leaf ofValue places le)

theorem textGuard : Uniform schema first second d textGuard where
  twins {scope lo hi place place'} places le := by
    unfold Pushdown.textGuard
    rw [places.agree.declared]
    cases place.declared with
    | string => exact .const true le
    | number | boolean | null | unknown | object | array => exact .leaf (.hasType _) places le

theorem numberGuard : Uniform schema first second d numberGuard where
  twins {scope lo hi place place'} places le := by
    unfold Pushdown.numberGuard
    rw [places.agree.declared]
    cases place.declared with
    | number => exact .const true le
    | string | boolean | null | unknown | object | array => exact .leaf (.hasType _) places le

theorem presentTest (expected : Bool) :
    Uniform schema first second d fun place => presentTest place expected where
  twins {scope lo hi place place'} places le := by
    unfold Pushdown.presentTest
    rw [places.agree.required]
    split
    · exact .const expected le
    · exact .leaf (.present expected) places le

theorem lengthTest (size : Number) :
    Uniform schema first second d fun place => lengthTest place size where
  twins {scope lo hi place place'} places le := by
    unfold Pushdown.lengthTest
    rw [places.agree.declared]
    cases place.declared with
    | array | unknown => exact ((leaf (.hasType _)).guarded (.hasLength _)).twins places le
    | string | number | boolean | null | object => exact .const false le

theorem equalsScalar (operand : Json) : Uniform schema first second d (equalsScalar operand) where
  twins places le := by
    cases operand with
    | string text => exact (textGuard.guarded (.equals _)).twins places le
    | number n => exact (numberGuard.guarded (.equals _)).twins places le
    | bool value => cases value <;> exact .leaf (.hasType _) places le
    | null | array | object => exact .const false le

theorem memberTest (values : ClassifiedValues) :
    Uniform schema first second d (memberTest values) where
  twins {scope lo hi place place'} places le := by
    -- Each class adds one condition, or none if the list has no such value.
    have optional {test : Location → Condition Test} (absent : Bool) {n : Nat} (le : lo ≤ n)
        (uniform : Uniform schema first second d test) :
        Condition.Twins schema first second d scope lo n (if absent then [] else [test place])
          (if absent then [] else [test place']) := by
      cases absent
      · exact uniform.twins places le
      · exact .nil le
    have strings := optional values.strings.isEmpty (Nat.le_refl lo)
      (textGuard.guarded (.memberOf values.strings))
    have numbers := optional values.numbers.isEmpty (Nat.le_refl lo)
      (numberGuard.guarded (.memberOf values.numbers))
    have booleans := optional values.booleans.isEmpty le (leaf (.hasType values.booleans))
    exact .any (.append (.append strings numbers) booleans)

theorem patternTest (pattern : TextPattern) (ignoreCase : Bool) :
    Uniform schema first second d (patternTest schema pattern ignoreCase) where
  twins places le := by
    unfold Pushdown.patternTest
    rw [places.agree.indexPath]
    exact (textGuard.guarded (.text _ _)).twins places le

end Uniform

/-! ## Operators -/

namespace Location.Twins

variable {scope : Option Nat} {lo : Nat} {place place' : Location}
  (places : Location.Twins schema first second d scope place place')

include places

theorem isArray : Condition.Twins schema first second d scope lo lo [isArray place]
    [isArray place'] :=
  .leaf (.hasType [.array]) places (Nat.le_refl _)

theorem someItem {test : Location → Condition Test}
    (uniform : Uniform schema first second d test) :
    Abreast d lo (fun hi c c' => Condition.Twins schema first second d scope lo hi [c] [c'])
      (someItem place test) (Pushdown.someItem place' test) := by
  have item (number : Nat) (type : FieldType) :
      Condition.Twins schema first second d (some number) number number
        [test (.item number type)] [test (.item (number + d) type)] :=
    uniform.twins (.item number type) (Nat.le_refl _)
  unfold Pushdown.someItem
  rw [places.agree.declared]
  cases place.declared with
  | array items =>
      refine Abreast.newScan.map ?_
      rintro _ number _ - ⟨rfl, rfl, rfl⟩
      exact .scan places (Nat.lt_succ_self _) (item _ items)
  | unknown =>
      refine Abreast.newScan.map ?_
      rintro _ number _ - ⟨rfl, rfl, rfl⟩
      exact .both places.isArray (.scan places (Nat.lt_succ_self _) (item _ .unknown))
  | string | number | boolean | null | object => exact .pure (.const false (Nat.le_refl _))

theorem valueOrItem {test : Location → Condition Test}
    (uniform : Uniform schema first second d test) :
    Abreast d lo (fun hi c c' => Condition.Twins schema first second d scope lo hi [c] [c'])
      (valueOrItem place test) (Pushdown.valueOrItem place' test) := by
  unfold Pushdown.valueOrItem
  rw [places.agree.declared]
  refine (places.someItem uniform).map ?_
  intro hi c c' _ items
  refine .either ?_ items
  split
  · exact .const false (Nat.le_refl _)
  · exact uniform.twins places (Nat.le_refl _)

theorem pushNull :
    Abreast d lo (fun hi c c' => Condition.Twins schema first second d scope lo hi [c] [c'])
      (pushNull place) (Pushdown.pushNull place') :=
  (places.someItem (.leaf (.hasType [.null]))).map fun _ _ _ _ items =>
    .either (.leaf .isNull places (Nat.le_refl _)) items

theorem pushEquals (operand : Json) :
    Abreast d lo (fun hi c c' => Condition.Twins schema first second d scope lo hi [c] [c'])
      (pushEquals place operand) (Pushdown.pushEquals place' operand) := by
  cases operand with
  | null => exact places.pushNull
  | array | object => exact .decline
  | bool | number | string => exact places.valueOrItem (.equalsScalar _)

theorem pushCompares (comparison : Comparison) (bound : Json) :
    Abreast d lo (fun hi c c' => Condition.Twins schema first second d scope lo hi [c] [c'])
      (pushCompares place comparison bound) (Pushdown.pushCompares place' comparison bound) := by
  cases bound with
  | string text => exact places.valueOrItem (Uniform.textGuard.guarded (.compares comparison _))
  | number n => exact places.valueOrItem (Uniform.numberGuard.guarded (.compares comparison _))
  | null | bool | array | object => exact .decline

theorem pushMember (values : List Json) :
    Abreast d lo (fun hi c c' => Condition.Twins schema first second d scope lo hi [c] [c'])
      (pushMember place values) (Pushdown.pushMember place' values) := by
  unfold Pushdown.pushMember
  cases ClassifiedValues.ofList? values with
  | none => exact .decline
  | some classes =>
      have others {mid : Nat} {cs cs' : List (Condition Test)}
          (nulls : Condition.Twins schema first second d scope lo mid cs cs') :
          Abreast d mid
            (fun hi c c' => Condition.Twins schema first second d scope lo hi [c] [c'])
            (if classes.strings.isEmpty && classes.numbers.isEmpty && classes.booleans.isEmpty then
              pure (.any (cs ++ []))
            else do
              let c ← Pushdown.valueOrItem place (memberTest classes)
              pure (.any (cs ++ [c])))
            (if classes.strings.isEmpty && classes.numbers.isEmpty && classes.booleans.isEmpty then
              pure (.any (cs' ++ []))
            else do
              let c ← Pushdown.valueOrItem place' (memberTest classes)
              pure (.any (cs' ++ [c]))) := by
        split
        · exact .pure (.any (.append nulls (.nil (Nat.le_refl _))))
        · exact (places.valueOrItem (.memberTest classes)).map fun _ _ _ _ members =>
            .any (.append nulls members)
      simp only [pure_bind]
      split
      · exact places.pushNull.bind fun _ _ _ _ nulls => others nulls
      · exact others (.nil (Nat.le_refl _))

theorem pushKinds (kinds : List Kind) :
    Abreast d lo (fun hi c c' => Condition.Twins schema first second d scope lo hi [c] [c'])
      (pushKinds place kinds) (Pushdown.pushKinds place' kinds) :=
  (places.someItem (.leaf (.hasType _))).map fun _ _ _ _ items =>
    .either (.leaf (.hasType _) places (Nat.le_refl _)) items

theorem pushRegex (expression : RegularExpression) :
    Abreast d lo (fun hi c c' => Condition.Twins schema first second d scope lo hi [c] [c'])
      (pushRegex schema place expression) (Pushdown.pushRegex schema place' expression) := by
  unfold Pushdown.pushRegex
  refine (Abreast.classifyRegex schema places.agree.indexPath expression).bind ?_
  rintro _ pattern _ - ⟨rfl, rfl⟩
  split
  · exact .decline
  · exact places.valueOrItem (.patternTest pattern _)

end Location.Twins

/-! ## Selectors -/

mutual

/-- Both runs of a selector build its condition in the same steps. -/
theorem Selector.push_twins (scope : Scope) : ∀ (selector : Selector) {lo : Nat},
    Abreast d lo
      (fun hi c c' => Condition.Twins schema first second d scope.number? lo hi [c] [c'])
      (selector.push schema first scope) (selector.push schema second (scope.raise d))
  | .const value, lo => .pure (.const value (Nat.le_refl lo))
  | .allOf children, _ => by
    rw [Selector.push, Selector.push]
    exact (Selector.pushAll_twins scope children).map fun _ _ _ _ parts => .all parts
  | .anyOf children, _ => by
    rw [Selector.push, Selector.push]
    exact (Selector.pushAll_twins scope children).map fun _ _ _ _ parts => .any parts
  | .noneOf children, _ => by
    rw [Selector.push, Selector.push]
    exact (Selector.pushAll_twins scope children).map fun _ _ _ _ parts => .negate (.any parts)
  | .field path operators, _ => by
    rw [Selector.push, Selector.push]
    have agree := Location.agree_resolve? schema first second d scope path.segments
    cases here : Location.resolve? schema first scope path.segments with
    | none =>
        cases there : Location.resolve? schema second (scope.raise d) path.segments with
        | none => exact .decline
        | some place' =>
            rw [here, there] at agree
            cases agree
    | some place =>
        cases there : Location.resolve? schema second (scope.raise d) path.segments with
        | none =>
            rw [here, there] at agree
            cases agree
        | some place' =>
            exact (Operator.pushAll_twins (.resolved here there) operators).map
              fun _ _ _ _ parts => .all parts

theorem Selector.pushAll_twins (scope : Scope) : ∀ (selectors : List Selector) {lo : Nat},
    Abreast d lo (fun hi cs cs' => Condition.Twins schema first second d scope.number? lo hi cs cs')
      (Selector.pushAll schema first scope selectors)
      (Selector.pushAll schema second (scope.raise d) selectors)
  | [], lo => .pure (.nil (Nat.le_refl lo))
  | child :: rest, _ => by
    rw [Selector.pushAll, Selector.pushAll]
    exact (Selector.push_twins scope child).bind fun _ _ _ _ front =>
      (Selector.pushAll_twins scope rest).map fun _ _ _ _ back => .append front back

theorem Operator.push_twins {scope : Option Nat} {place place' : Location}
    (places : Location.Twins schema first second d scope place place') :
    ∀ (operator : Operator) {lo : Nat},
      Abreast d lo (fun hi c c' => Condition.Twins schema first second d scope lo hi [c] [c'])
        (operator.push schema first place) (operator.push schema second place')
  | .equals operand, _ => by
    rw [Operator.push, Operator.push]
    exact places.pushEquals operand
  | .differs operand, _ => by
    rw [Operator.push, Operator.push]
    exact (places.pushEquals operand).map fun _ _ _ _ inner => .negate inner
  | .compares comparison bound, _ => by
    rw [Operator.push, Operator.push]
    exact places.pushCompares comparison bound
  | .isIn values, _ => by
    rw [Operator.push, Operator.push]
    exact places.pushMember values
  | .notIn values, _ => by
    rw [Operator.push, Operator.push]
    exact (places.pushMember values).map fun _ _ _ _ inner => .negate inner
  | .present expected, lo => by
    rw [Operator.push, Operator.push]
    exact .pure ((Uniform.presentTest expected).twins places (Nat.le_refl lo))
  | .hasKind kinds, _ => by
    rw [Operator.push, Operator.push]
    exact places.pushKinds kinds
  | .hasSize size, lo => by
    rw [Operator.push, Operator.push]
    exact .pure ((Uniform.lengthTest size).twins places (Nat.le_refl lo))
  | .modulo divisor remainder, _ => by
    rw [Operator.push, Operator.push]
    exact places.valueOrItem (Uniform.numberGuard.guarded (.leavesRemainder divisor remainder))
  | .regex expression, _ => by
    rw [Operator.push, Operator.push]
    exact places.pushRegex expression
  | .element operators, lo => by
    rw [Operator.push, Operator.push, places.agree.declared]
    cases itemType? place.declared with
    | none => exact .pure (.const false (Nat.le_refl lo))
    | some items =>
        refine Abreast.newScan.bind ?_
        rintro _ number _ - ⟨rfl, rfl, rfl⟩
        exact (Operator.pushAll_twins (.item _ items) operators).map fun _ _ _ _ parts =>
          .both places.isArray (.scan places (Nat.lt_succ_self lo) (.all parts))
  | .elementSelected selector, lo => by
    rw [Operator.push, Operator.push, places.agree.declared]
    cases itemType? place.declared with
    | none => exact .pure (.const false (Nat.le_refl lo))
    | some items =>
        refine Abreast.newScan.bind ?_
        rintro _ number _ - ⟨rfl, rfl, rfl⟩
        exact (Selector.push_twins (.item _ items) selector).map fun _ _ _ _ inner =>
          .both places.isArray (.scan places (Nat.lt_succ_self lo) inner)
  | .elementOther _, lo => by
    rw [Operator.push, Operator.push, places.agree.declared]
    cases itemType? place.declared with
    | none => exact .pure (.const false (Nat.le_refl lo))
    | some items => exact Abreast.newScan.bind fun _ _ _ _ _ => .decline
  | .negation operators, _ => by
    rw [Operator.push, Operator.push]
    exact (Operator.pushAll_twins places operators).map fun _ _ _ _ parts => .negate (.all parts)
  | .never, lo => .pure (.const false (Nat.le_refl lo))

theorem Operator.pushAll_twins {scope : Option Nat} {place place' : Location}
    (places : Location.Twins schema first second d scope place place') :
    ∀ (operators : List Operator) {lo : Nat},
      Abreast d lo (fun hi cs cs' => Condition.Twins schema first second d scope lo hi cs cs')
        (Operator.pushAll schema first place operators)
        (Operator.pushAll schema second place' operators)
  | [], lo => .pure (.nil (Nat.le_refl lo))
  | operator :: rest, _ => by
    rw [Operator.pushAll, Operator.pushAll]
    exact (Operator.push_twins places operator).bind fun _ _ _ _ front =>
      (Operator.pushAll_twins places rest).map fun _ _ _ _ back => .append front back

end

end Pushdown
