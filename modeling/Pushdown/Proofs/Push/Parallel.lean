import Mathlib.Data.List.Forall2
import Pushdown.Proofs.Cache.Entries
import Pushdown.Proofs.Push.Ensures

/-!
# Pushing twice

Two steps of pushing are compared from states that have met the same number of scans and whose
pattern caches, if any, are faithful. What the caches hold and what the counters show may differ.
Steps that run in parallel both decline or both return, with related results, and leave such states
again.

The relation of results is a congruence of conditions: it is kept by conjunction, disjunction,
negation and scans. Where the leaves of two selectors are pushed with related results, so are the
selectors.
-/

namespace Pushdown

/-- The pattern cache, if there is one, is faithful. -/
def PushState.Faithful (s : PushState) : Prop :=
  ∀ cache, s.patterns = some cache → cache.Faithful

/-- States that differ in cached patterns and counters only. -/
structure PushState.Alike (s t : PushState) : Prop where
  scans : s.scans = t.scans
  left : s.Faithful
  right : t.Faithful

/-- A state without a cache is like itself. -/
theorem PushState.Alike.fresh : Alike {} {} := ⟨rfl, nofun, nofun⟩

namespace Push

variable {α β γ δ : Type}

/-- From states alike both steps decline or both return related results, and the states that they
leave are alike. -/
def Parallel (R : α → β → Prop) (first : Push α) (second : Push β) : Prop :=
  ∀ s t : PushState, s.Alike t →
    Option.Rel R (first.run s).1 (second.run t).1 ∧ (first.run s).2.Alike (second.run t).2

namespace Parallel

variable {R : α → β → Prop} {S : γ → δ → Prop}

theorem pure {a : α} {b : β} (h : R a b) : Parallel R (Pure.pure a) (Pure.pure b) :=
  fun _ _ alike => ⟨.some h, alike⟩

theorem decline : Parallel R Push.decline Push.decline :=
  fun _ _ alike => ⟨.none, alike⟩

theorem bind {first : Push α} {second : Push β} {next : α → Push γ} {next' : β → Push δ}
    (h : Parallel R first second) (after : ∀ a b, R a b → Parallel S (next a) (next' b)) :
    Parallel S (first >>= next) (second >>= next') := by
  intro s t alike
  obtain ⟨results, left⟩ := h s t alike
  rw [run_bind, run_bind]
  revert results
  cases (first.run s).1 <;> cases (second.run t).1 <;> intro results <;> cases results
  · exact ⟨.none, left⟩
  · next related => exact after _ _ related _ _ left

/-- The results are used in the same way. -/
theorem map {first : Push α} {second : Push β} {f : α → γ} {g : β → δ}
    (h : Parallel R first second) (related : ∀ a b, R a b → S (f a) (g b)) :
    Parallel S (first >>= fun a => Pure.pure (f a)) (second >>= fun b => Pure.pure (g b)) :=
  h.bind fun a b hab => .pure (related a b hab)

/-- The result of the first step only is used. -/
theorem map_left {T : γ → β → Prop} {first : Push α} {second : Push β} {f : α → γ}
    (h : Parallel R first second) (related : ∀ a b, R a b → T (f a) b) :
    Parallel T (first >>= fun a => Pure.pure (f a)) second := by
  have mapped := h.map (g := id) related
  exact bind_pure second ▸ mapped

/-- The result of the second step only is used. -/
theorem map_right {T : α → δ → Prop} {first : Push α} {second : Push β} {g : β → δ}
    (h : Parallel R first second) (related : ∀ a b, R a b → T a (g b)) :
    Parallel T first (second >>= fun b => Pure.pure (g b)) := by
  have mapped := h.map (f := id) related
  exact bind_pure first ▸ mapped

theorem imp {T : α → β → Prop} {first : Push α} {second : Push β} (h : Parallel R first second)
    (weaker : ∀ a b, R a b → T a b) : Parallel T first second := by
  have mapped := h.map_left (f := id) weaker
  exact bind_pure first ▸ mapped

/-- New scans have the same number. -/
theorem newScan : Parallel Eq Push.newScan Push.newScan := by
  intro s t alike
  refine ⟨?_, ?_⟩
  · exact .some (congrArg (· + 1) alike.scans)
  · exact ⟨congrArg (· + 1) alike.scans, alike.left, alike.right⟩

end Parallel

/-- In a faithful state a regular expression is classified by its form. -/
theorem run_classifyRegex (schema : Schema) (place : Location) (expression : RegularExpression)
    {s : PushState} (faithful : s.Faithful) :
    ((classifyRegex schema place expression).run s).1 = some (.ofRegex expression) ∧
      ((classifyRegex schema place expression).run s).2.Faithful ∧
      ((classifyRegex schema place expression).run s).2.scans = s.scans := by
  obtain ⟨scans, patterns, metrics⟩ := s
  cases patterns with
  | none => exact ⟨rfl, faithful, rfl⟩
  | some cache =>
      obtain ⟨form, kept⟩ := (faithful cache rfl).classify (place.indexPath.getD "") expression
        schema.version
      refine ⟨congrArg some form, ?_, rfl⟩
      rintro _ ⟨⟩
      exact kept

theorem Parallel.classifyRegex (schema schema' : Schema) {place place' : Location}
    {a b : RegularExpression} :
    Parallel (fun p q => p = .ofRegex a ∧ q = .ofRegex b)
      (Pushdown.classifyRegex schema place a) (Pushdown.classifyRegex schema' place' b) := by
  intro s t alike
  obtain ⟨formA, keptA, scansA⟩ := run_classifyRegex schema place a alike.left
  obtain ⟨formB, keptB, scansB⟩ := run_classifyRegex schema' place' b alike.right
  refine ⟨?_, scansA.trans (alike.scans.trans scansB.symm), keptA, keptB⟩
  rw [formA, formB]
  exact .some ⟨rfl, rfl⟩

end Push

open Push (Parallel)

/-! ## Congruences -/

/-- A relation of conditions that is kept by the ways to build them. -/
structure Condition.Congruence (R : Condition Test → Condition Test → Prop) : Prop where
  refl : ∀ c, R c c
  all : ∀ {cs ds}, List.Forall₂ R cs ds → R (.all cs) (.all ds)
  any : ∀ {cs ds}, List.Forall₂ R cs ds → R (.any cs) (.any ds)
  negate : ∀ {c d}, R c d → R c.negate d.negate
  scan : ∀ {c d} (place : Location) (number : Nat), R c d →
    R (.scan place number c) (.scan place number d)

/-- Equality is a congruence. -/
theorem Condition.Congruence.eq : Congruence Eq where
  refl _ := rfl
  all h := congrArg Condition.all (List.forall₂_eq_eq_eq ▸ h)
  any h := congrArg Condition.any (List.forall₂_eq_eq_eq ▸ h)
  negate h := congrArg Condition.negate h
  scan place number h := congrArg (Condition.scan place number) h

variable {R : Condition Test → Condition Test → Prop}

namespace Condition.Congruence

variable (closed : Congruence R)

include closed

/-- Some item satisfies one of two related tests. -/
theorem someItem (place : Location) {test test' : Location → Condition Test}
    (h : ∀ place, R (test place) (test' place)) :
    Parallel R (someItem place test) (someItem place test') := by
  unfold Pushdown.someItem
  split
  · refine Parallel.newScan.map ?_
    rintro number _ rfl
    exact closed.scan place number (h _)
  · refine Parallel.newScan.map ?_
    rintro number _ rfl
    exact closed.all (.cons (closed.refl _) (.cons (closed.scan place number (h _)) .nil))
  · exact .pure (closed.refl _)

theorem valueOrItem (place : Location) {test test' : Location → Condition Test}
    (h : ∀ place, R (test place) (test' place)) :
    Parallel R (valueOrItem place test) (valueOrItem place test') := by
  unfold Pushdown.valueOrItem
  refine (closed.someItem place h).map ?_
  intro c d related
  refine closed.any (.cons ?_ (.cons related .nil))
  split
  · exact closed.refl _
  · exact h place

theorem pushNull (place : Location) : Parallel R (pushNull place) (pushNull place) := by
  unfold Pushdown.pushNull
  refine (closed.someItem place fun _ => closed.refl _).map ?_
  intro c d related
  exact closed.any (.cons (closed.refl _) (.cons related .nil))

theorem pushKinds (place : Location) (kinds : List Kind) :
    Parallel R (pushKinds place kinds) (pushKinds place kinds) := by
  unfold Pushdown.pushKinds
  refine (closed.someItem place fun _ => closed.refl _).map ?_
  intro c d related
  exact closed.any (.cons (closed.refl _) (.cons related .nil))

theorem pushEquals (place : Location) (operand : Json) :
    Parallel R (pushEquals place operand) (pushEquals place operand) := by
  cases operand with
  | null => exact closed.pushNull place
  | array | object => exact .decline
  | bool | number | string => exact closed.valueOrItem place fun _ => closed.refl _

theorem pushCompares (place : Location) (comparison : Comparison) (bound : Json) :
    Parallel R (pushCompares place comparison bound) (pushCompares place comparison bound) := by
  cases bound with
  | number | string => exact closed.valueOrItem place fun _ => closed.refl _
  | null | bool | array | object => exact .decline

/-- Lists of values are pushed in parallel if both have containers, or if both have the same classes
of values and their tests are related. -/
theorem pushMember (place : Location) {values others : List Json}
    (h : Option.Rel (fun a b => a.hasNull = b.hasNull ∧
        (a.strings.isEmpty && a.numbers.isEmpty && a.booleans.isEmpty) =
          (b.strings.isEmpty && b.numbers.isEmpty && b.booleans.isEmpty) ∧
        ∀ place, R (memberTest a place) (memberTest b place))
      (ClassifiedValues.ofList? values) (ClassifiedValues.ofList? others)) :
    Parallel R (pushMember place values) (pushMember place others) := by
  unfold Pushdown.pushMember
  revert h
  cases ClassifiedValues.ofList? values <;> cases ClassifiedValues.ofList? others <;>
    intro h <;> cases h
  · exact .decline
  · next a b h =>
    obtain ⟨hasNull, isEmpty, test⟩ := h
    have others {cs ds : List (Condition Test)} (nulls : List.Forall₂ R cs ds) :
        Parallel R
          (if a.strings.isEmpty && a.numbers.isEmpty && a.booleans.isEmpty then
            pure (.any (cs ++ []))
          else do
            let c ← Pushdown.valueOrItem place (memberTest a)
            pure (.any (cs ++ [c])))
          (if b.strings.isEmpty && b.numbers.isEmpty && b.booleans.isEmpty then
            pure (.any (ds ++ []))
          else do
            let d ← Pushdown.valueOrItem place (memberTest b)
            pure (.any (ds ++ [d]))) := by
      rw [isEmpty]
      split
      · exact .pure (closed.any (List.rel_append nulls .nil))
      · refine (closed.valueOrItem place test).map fun c d related => ?_
        exact closed.any (List.rel_append nulls (.cons related .nil))
    simp only [pure_bind, hasNull]
    split
    · exact (closed.pushNull place).bind fun c d related => others (.cons related .nil)
    · exact others .nil

/-- One list of values has the same classes, and one test. -/
theorem pushMember_refl (place : Location) (values : List Json) :
    Parallel R (Pushdown.pushMember place values) (Pushdown.pushMember place values) := by
  refine closed.pushMember place ?_
  cases ClassifiedValues.ofList? values with
  | none => exact .none
  | some classes => exact .some ⟨rfl, rfl, fun _ => closed.refl _⟩

theorem pushRegex (schema : Schema) (place : Location) {a b : RegularExpression}
    (declines : TextPattern.ofRegex a = .irreducible ↔ TextPattern.ofRegex b = .irreducible)
    (test : ∀ place, R (patternTest schema (.ofRegex a) a.caseInsensitive place)
      (patternTest schema (.ofRegex b) b.caseInsensitive place)) :
    Parallel R (pushRegex schema place a) (pushRegex schema place b) := by
  unfold Pushdown.pushRegex
  refine (Parallel.classifyRegex schema schema).bind ?_
  rintro _ _ ⟨rfl, rfl⟩
  by_cases irreducible : TextPattern.ofRegex b = .irreducible
  · rw [if_pos (declines.mpr irreducible), if_pos irreducible]
    exact .decline
  · rw [if_neg (mt declines.mp irreducible), if_neg irreducible]
    exact closed.valueOrItem place test

end Condition.Congruence

/-! ## Selectors alike -/

section

variable (R) (schema : Schema) (layout : Layout)

mutual

/-- Selectors of one shape with operators alike. -/
inductive Selector.Alike : Selector → Selector → Prop
  | const (value : Bool) : Selector.Alike (.const value) (.const value)
  | allOf {as bs : List Selector} (h : Selector.AlikeAll as bs) :
      Selector.Alike (.allOf as) (.allOf bs)
  | anyOf {as bs : List Selector} (h : Selector.AlikeAll as bs) :
      Selector.Alike (.anyOf as) (.anyOf bs)
  | noneOf {as bs : List Selector} (h : Selector.AlikeAll as bs) :
      Selector.Alike (.noneOf as) (.noneOf bs)
  | field (path : FieldPath) {as bs : List Operator} (h : Operator.AlikeAll as bs) :
      Selector.Alike (.field path as) (.field path bs)

inductive Selector.AlikeAll : List Selector → List Selector → Prop
  | nil : Selector.AlikeAll [] []
  | cons {a b : Selector} {as bs : List Selector} (first : Selector.Alike a b)
      (rest : Selector.AlikeAll as bs) : Selector.AlikeAll (a :: as) (b :: bs)

/-- Operators that are pushed with related results, or that hold such operators or selectors. -/
inductive Operator.Alike : Operator → Operator → Prop
  | leaf {a b : Operator}
      (h : ∀ place, Parallel R (a.push schema layout place) (b.push schema layout place)) :
      Operator.Alike a b
  | element {as bs : List Operator} (h : Operator.AlikeAll as bs) :
      Operator.Alike (.element as) (.element bs)
  | elementSelected {a b : Selector} (h : Selector.Alike a b) :
      Operator.Alike (.elementSelected a) (.elementSelected b)
  | negation {as bs : List Operator} (h : Operator.AlikeAll as bs) :
      Operator.Alike (.negation as) (.negation bs)

inductive Operator.AlikeAll : List Operator → List Operator → Prop
  | nil : Operator.AlikeAll [] []
  | cons {a b : Operator} {as bs : List Operator} (first : Operator.Alike a b)
      (rest : Operator.AlikeAll as bs) : Operator.AlikeAll (a :: as) (b :: bs)

end

end

variable {schema : Schema} {layout : Layout}

mutual

/-- Selectors alike are pushed in parallel. -/
theorem Selector.Alike.push (closed : Condition.Congruence R) : ∀ {a b : Selector},
    Selector.Alike R schema layout a b → ∀ scope,
      Parallel R (a.push schema layout scope) (b.push schema layout scope)
  | _, _, .const value, scope => .pure (closed.refl _)
  | _, _, .allOf h, scope => by
    rw [Selector.push, Selector.push]
    exact (h.push closed scope).map fun _ _ related => closed.all related
  | _, _, .anyOf h, scope => by
    rw [Selector.push, Selector.push]
    exact (h.push closed scope).map fun _ _ related => closed.any related
  | _, _, .noneOf h, scope => by
    rw [Selector.push, Selector.push]
    exact (h.push closed scope).map fun _ _ related => closed.negate (closed.any related)
  | _, _, .field path h, scope => by
    rw [Selector.push, Selector.push]
    cases Location.resolve? schema layout scope path.segments with
    | none => exact .decline
    | some place => exact (h.push closed place).map fun _ _ related => closed.all related

theorem Selector.AlikeAll.push (closed : Condition.Congruence R) : ∀ {as bs : List Selector},
    Selector.AlikeAll R schema layout as bs → ∀ scope,
      Parallel (List.Forall₂ R) (Selector.pushAll schema layout scope as)
        (Selector.pushAll schema layout scope bs)
  | _, _, .nil, scope => .pure .nil
  | _, _, .cons first rest, scope => by
    rw [Selector.pushAll, Selector.pushAll]
    exact (first.push closed scope).bind fun _ _ related =>
      (rest.push closed scope).map fun _ _ others => .cons related others

theorem Operator.Alike.push (closed : Condition.Congruence R) : ∀ {a b : Operator},
    Operator.Alike R schema layout a b → ∀ place,
      Parallel R (a.push schema layout place) (b.push schema layout place)
  | _, _, .leaf h, place => h place
  | _, _, .element h, place => by
    rw [Operator.push, Operator.push]
    cases itemType? place.declared with
    | none => exact .pure (closed.refl _)
    | some items =>
        refine Parallel.newScan.bind ?_
        rintro number _ rfl
        refine (h.push closed _).map fun _ _ related => ?_
        exact closed.all (.cons (closed.refl _)
          (.cons (closed.scan place number (closed.all related)) .nil))
  | _, _, .elementSelected h, place => by
    rw [Operator.push, Operator.push]
    cases itemType? place.declared with
    | none => exact .pure (closed.refl _)
    | some items =>
        refine Parallel.newScan.bind ?_
        rintro number _ rfl
        refine (h.push closed _).map fun _ _ related => ?_
        exact closed.all (.cons (closed.refl _) (.cons (closed.scan place number related) .nil))
  | _, _, .negation h, place => by
    rw [Operator.push, Operator.push]
    exact (h.push closed place).map fun _ _ related => closed.negate (closed.all related)

theorem Operator.AlikeAll.push (closed : Condition.Congruence R) : ∀ {as bs : List Operator},
    Operator.AlikeAll R schema layout as bs → ∀ place,
      Parallel (List.Forall₂ R) (Operator.pushAll schema layout place as)
        (Operator.pushAll schema layout place bs)
  | _, _, .nil, place => .pure .nil
  | _, _, .cons first rest, place => by
    rw [Operator.pushAll, Operator.pushAll]
    exact (first.push closed place).bind fun _ _ related =>
      (rest.push closed place).map fun _ _ others => .cons related others

end

/-! ## One selector pushed twice -/

mutual

theorem Selector.Alike.refl (closed : Condition.Congruence R) : ∀ selector : Selector,
    Selector.Alike R schema layout selector selector
  | .const value => .const value
  | .allOf children => .allOf (Selector.AlikeAll.refl closed children)
  | .anyOf children => .anyOf (Selector.AlikeAll.refl closed children)
  | .noneOf children => .noneOf (Selector.AlikeAll.refl closed children)
  | .field path operators => .field path (Operator.AlikeAll.refl closed operators)

theorem Selector.AlikeAll.refl (closed : Condition.Congruence R) : ∀ selectors : List Selector,
    Selector.AlikeAll R schema layout selectors selectors
  | [] => .nil
  | child :: rest => .cons (Selector.Alike.refl closed child) (Selector.AlikeAll.refl closed rest)

theorem Operator.Alike.refl (closed : Condition.Congruence R) : ∀ operator : Operator,
    Operator.Alike R schema layout operator operator
  | .equals operand => .leaf fun place => by
    rw [Operator.push]
    exact closed.pushEquals place operand
  | .differs operand => .leaf fun place => by
    rw [Operator.push]
    exact (closed.pushEquals place operand).map fun _ _ related => closed.negate related
  | .compares comparison bound => .leaf fun place => by
    rw [Operator.push]
    exact closed.pushCompares place comparison bound
  | .isIn values => .leaf fun place => by
    rw [Operator.push]
    exact closed.pushMember_refl place values
  | .notIn values => .leaf fun place => by
    rw [Operator.push]
    exact (closed.pushMember_refl place values).map fun _ _ related => closed.negate related
  | .present expected => .leaf fun place => by
    rw [Operator.push]
    exact .pure (closed.refl _)
  | .hasKind kinds => .leaf fun place => by
    rw [Operator.push]
    exact closed.pushKinds place kinds
  | .hasSize size => .leaf fun place => by
    rw [Operator.push]
    exact .pure (closed.refl _)
  | .modulo divisor remainder => .leaf fun place => by
    rw [Operator.push]
    exact closed.valueOrItem place fun _ => closed.refl _
  | .regex expression => .leaf fun place => by
    rw [Operator.push]
    exact closed.pushRegex schema place Iff.rfl fun _ => closed.refl _
  | .element operators => .element (Operator.AlikeAll.refl closed operators)
  | .elementSelected selector => .elementSelected (Selector.Alike.refl closed selector)
  | .elementOther criteria => .leaf fun place => by
    rw [Operator.push]
    cases itemType? place.declared with
    | none => exact .pure (closed.refl _)
    | some items => exact Parallel.newScan.bind fun _ _ _ => .decline
  | .negation operators => .negation (Operator.AlikeAll.refl closed operators)
  | .never => .leaf fun place => by
    rw [Operator.push]
    exact .pure (closed.refl _)

theorem Operator.AlikeAll.refl (closed : Condition.Congruence R) : ∀ operators : List Operator,
    Operator.AlikeAll R schema layout operators operators
  | [] => .nil
  | operator :: rest =>
    .cons (Operator.Alike.refl closed operator) (Operator.AlikeAll.refl closed rest)

end

end Pushdown
