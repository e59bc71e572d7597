import Pushdown.Proofs.Query.Division
import Pushdown.Proofs.Selector.Printable

/-!
# Operators that are merged and read again

A selector comes back from its JSON as it is, with one exception. The criteria for the items of an
array can be a selector that is constantly true, as those of `{"$and": []}` are. It is printed as an
empty object, which is read as an operator that holds of nothing. `reread` is the selector with
every such operator replaced.

Operators of one object are printed by merging the members that each of them is printed as. Their
keys are distinct, so an operator is found again under its key and beside its own option letters,
and the order of the members does not matter.
-/

namespace Pushdown

/-! ## What is read again -/

mutual

/-- A selector as it comes back from its JSON. -/
def Selector.reread : Selector → Selector
  | .const value => .const value
  | .allOf children => .allOf (Selector.rereadAll children)
  | .anyOf children => .anyOf (Selector.rereadAll children)
  | .noneOf children => .noneOf (Selector.rereadAll children)
  | .field path operators => .field path (Operator.rereadAll operators)

def Selector.rereadAll : List Selector → List Selector
  | [] => []
  | child :: rest => Selector.reread child :: Selector.rereadAll rest

def Operator.reread : Operator → Operator
  | .element operators => .element (Operator.rereadAll operators)
  | .elementSelected (.const true) => .never
  | .elementSelected selector => .elementSelected (Selector.reread selector)
  | .negation operators => .negation (Operator.rereadAll operators)
  | operator => operator

def Operator.rereadAll : List Operator → List Operator
  | [] => []
  | operator :: rest => Operator.reread operator :: Operator.rereadAll rest

end

mutual

/-- Some array is asked for an item, whatever the item is, by criteria that are constantly true. -/
def Selector.asksForAnyItem : Selector → Bool
  | .const _ => false
  | .allOf children | .anyOf children | .noneOf children => Selector.someAskForAnyItem children
  | .field _ operators => Operator.someAskForAnyItem operators

def Selector.someAskForAnyItem : List Selector → Bool
  | [] => false
  | child :: rest => Selector.asksForAnyItem child || Selector.someAskForAnyItem rest

def Operator.asksForAnyItem : Operator → Bool
  | .element operators | .negation operators => Operator.someAskForAnyItem operators
  | .elementSelected (.const true) => true
  | .elementSelected selector => Selector.asksForAnyItem selector
  | _ => false

def Operator.someAskForAnyItem : List Operator → Bool
  | [] => false
  | operator :: rest => Operator.asksForAnyItem operator || Operator.someAskForAnyItem rest

end

mutual

/-- Without the exception a selector comes back as it is. -/
theorem Selector.reread_eq_self : ∀ {selector : Selector}, selector.asksForAnyItem = false →
    selector.reread = selector
  | .const _, _ => rfl
  | .allOf _, h => congrArg Selector.allOf (Selector.rereadAll_eq_self h)
  | .anyOf _, h => congrArg Selector.anyOf (Selector.rereadAll_eq_self h)
  | .noneOf _, h => congrArg Selector.noneOf (Selector.rereadAll_eq_self h)
  | .field path _, h => congrArg (Selector.field path) (Operator.rereadAll_eq_self h)

theorem Selector.rereadAll_eq_self : ∀ {selectors : List Selector},
    Selector.someAskForAnyItem selectors = false → Selector.rereadAll selectors = selectors
  | [], _ => rfl
  | child :: rest, h => by
    rw [Selector.someAskForAnyItem, Bool.or_eq_false_iff] at h
    rw [Selector.rereadAll, Selector.reread_eq_self h.1, Selector.rereadAll_eq_self h.2]

theorem Operator.reread_eq_self : ∀ {operator : Operator}, operator.asksForAnyItem = false →
    operator.reread = operator
  | .element _, h => congrArg Operator.element (Operator.rereadAll_eq_self h)
  | .negation _, h => congrArg Operator.negation (Operator.rereadAll_eq_self h)
  | .elementSelected (.const false), _ => rfl
  | .elementSelected (.allOf children), h =>
    congrArg Operator.elementSelected (@Selector.reread_eq_self (.allOf children) h)
  | .elementSelected (.anyOf children), h =>
    congrArg Operator.elementSelected (@Selector.reread_eq_self (.anyOf children) h)
  | .elementSelected (.noneOf children), h =>
    congrArg Operator.elementSelected (@Selector.reread_eq_self (.noneOf children) h)
  | .elementSelected (.field path operators), h =>
    congrArg Operator.elementSelected (@Selector.reread_eq_self (.field path operators) h)
  | .equals _, _ | .differs _, _ | .compares _ _, _ | .isIn _, _ | .notIn _, _ | .present _, _
  | .hasKind _, _ | .hasSize _, _ | .modulo _ _, _ | .regex _, _ | .elementOther _, _
  | .never, _ => rfl

theorem Operator.rereadAll_eq_self : ∀ {operators : List Operator},
    Operator.someAskForAnyItem operators = false → Operator.rereadAll operators = operators
  | [], _ => rfl
  | operator :: rest, h => by
    rw [Operator.someAskForAnyItem, Bool.or_eq_false_iff] at h
    rw [Operator.rereadAll, Operator.reread_eq_self h.1, Operator.rereadAll_eq_self h.2]

end

/-! ## Printed operators -/

namespace Operator

def mergedJson (operators : List Operator) : Json :=
  if operators.any isNever then neverJson else .ofMembers (mergedMembers operators)

def operand : Operator → Json
  | .equals value | .differs value => value
  | .compares _ bound => bound
  | .isIn values | .notIn values => .array values
  | .present expected => .bool expected
  | .hasKind kinds => .array (kinds.map fun kind => .string kind.name)
  | .hasSize size => .number size
  | .modulo divisor remainder => .array [.ofInt divisor, .ofInt remainder]
  | .regex expression => .string expression.pattern
  | .element operators | .negation operators => mergedJson operators
  | .elementSelected selector => selector.toJson
  | .elementOther criteria => criteria
  | .never => .array []

def options? : Operator → Option String
  | .regex expression => some expression.options
  | _ => none

def optionMember (operator : Operator) : List (String × Json) :=
  match operator.options? with
  | some options => if options.isEmpty then [] else [(optionsKey, .string options)]
  | none => []

def members (operator : Operator) : List (String × Json) :=
  operator.optionMember ++ [(operator.key, operator.operand)]

theorem toJson_eq (operator : Operator) : operator.toJson = .object operator.members := by
  cases operator with
  | regex expression =>
      rw [toJson, RegularExpression.toJson, members, optionMember, options?]
      dsimp only
      split
      · rfl
      · rfl
  | equals | differs | compares | isIn | notIn | present | hasKind | hasSize | modulo | element
  | elementSelected | elementOther | negation | never => rfl

theorem mergedMembers_eq (operators : List Operator) :
    mergedMembers operators = operators.flatMap members := by
  induction operators with
  | nil => rfl
  | cons first rest ih =>
      rw [mergedMembers, ih, toJson_eq, List.flatMap_cons]
      rfl

variable {operator : Operator} {operators : List Operator}

theorem mem_optionMember {member : String × Json} (found : member ∈ operator.optionMember) :
    operator.keyword = .regex ∧ member.1 = optionsKey := by
  cases operator with
  | regex expression =>
      refine ⟨rfl, ?_⟩
      simp only [optionMember, options?] at found
      split at found
      · cases found
      · cases List.mem_singleton.mp found
        rfl
  | equals | differs | compares | isIn | notIn | present | hasKind | hasSize | modulo | element
  | elementSelected | elementOther | negation | never => cases found

/-- Merged are the option letters and the operand of each operator. -/
theorem mem_mergedMembers {member : String × Json} :
    member ∈ mergedMembers operators ↔ ∃ operator ∈ operators,
      member ∈ operator.optionMember ∨ member = (operator.key, operator.operand) := by
  rw [mergedMembers_eq, List.mem_flatMap]
  simp only [members, List.mem_append, List.mem_singleton]

theorem mem_keys_members {key : String} (found : key ∈ Json.keys operator.members) :
    key = operator.key ∨ (key = optionsKey ∧ operator.keyword = .regex) := by
  obtain ⟨member, inside, rfl⟩ := List.mem_map.mp found
  obtain option | main := List.mem_append.mp inside
  · have regex := mem_optionMember option
    exact .inr ⟨regex.2, regex.1⟩
  · cases List.mem_singleton.mp main
    exact .inl rfl

theorem nodup_keys_members (operator : Operator) : (Json.keys operator.members).Nodup := by
  have apart := (OperatorKey.key_apart operator.keyword).2.1
  unfold members optionMember
  cases operator.options? with
  | none => simp [Json.keys]
  | some options =>
      dsimp only
      split
      · simp [Json.keys]
      · simpa [Json.keys, key] using apart.symm

/-- Operators with distinct keys have distinct keys when they are merged, options included. -/
theorem nodup_mergedMembers (distinct : (operators.map key).Nodup) :
    (Json.keys (mergedMembers operators)).Nodup := by
  rw [mergedMembers_eq, Json.keys, List.map_flatMap, List.nodup_flatMap]
  refine ⟨fun operator _ => nodup_keys_members operator, ?_⟩
  refine (List.pairwise_map.mp distinct).imp fun {a b} different => ?_
  intro key inA inB
  have apartA := (OperatorKey.key_apart a.keyword).2.1
  have apartB := (OperatorKey.key_apart b.keyword).2.1
  rcases mem_keys_members inA with rfl | ⟨rfl, regexA⟩ <;>
    obtain same | ⟨isOptions, regexB⟩ := mem_keys_members inB
  · exact different same
  · exact apartA isOptions
  · exact apartB same.symm
  · exact different (congrArg OperatorKey.key (regexA.trans regexB.symm))

/-! ## Reading printed operators -/

/-- What is read under the key of an operator, beside its own option letters, holds of the values
that `reread` holds of. -/
def ReadsBack (operator : Operator) : Prop :=
  ∀ options, (∀ given, operator.options? = some given → options = given) → ∀ v? : Option Json,
    (ofMember options operator.key operator.operand).holds v? = operator.reread.holds v?

theorem holdAll_iff (v? : Option Json) :
    holdAll operators v? = true ↔ ∀ operator ∈ operators, operator.holds v? = true := by
  rw [holdAll_eq, List.all_eq_true]
  simp

theorem rereadAll_eq (operators : List Operator) : rereadAll operators = operators.map reread := by
  induction operators with
  | nil => rfl
  | cons first rest ih => rw [rereadAll, ih, List.map_cons]

theorem ofMembers_eq (options : String) (members : List (String × Json)) :
    ofMembers options members =
      (members.filter (·.1 ≠ optionsKey)).map fun member => ofMember options member.1 member.2 := by
  induction members with
  | nil => rfl
  | cons member rest ih =>
      rw [ofMembers, List.filter_cons]
      by_cases isOptions : member.1 = optionsKey
      · rw [if_pos isOptions, if_neg (by simpa using isOptions), ih]
      · rw [if_neg isOptions, if_pos (by simpa using isOptions), ih, List.map_cons]

variable {sorted : List (String × Json)}

/-- The option letters of merged operators are those of the regular expression among them. -/
theorem optionsOf_merged (distinct : (operators.map key).Nodup)
    (merged : sorted.Perm (mergedMembers operators)) (inside : operator ∈ operators)
    {options : String} (given : operator.options? = some options) :
    optionsOf sorted = options := by
  have regex : operator.keyword = .regex := by
    cases operator <;> first | rfl | cases given
  have nodup : (Json.keys sorted).Nodup :=
    (merged.map Prod.fst).nodup_iff.mpr (nodup_mergedMembers distinct)
  by_cases empty : options.isEmpty = true
  · have absent : optionsKey ∉ Json.keys sorted := by
      intro found
      obtain ⟨member, found, isOptions⟩ := List.mem_map.mp found
      rw [merged.mem_iff, mem_mergedMembers] at found
      obtain ⟨other, otherInside, option | rfl⟩ := found
      · have keys : other.key = operator.key :=
          congrArg OperatorKey.key ((mem_optionMember option).1.trans regex.symm)
        obtain rfl : other = operator :=
          List.inj_on_of_nodup_map distinct otherInside inside keys
        simp [optionMember, given, empty] at option
      · exact (OperatorKey.key_apart other.keyword).2.1 isOptions
    rw [optionsOf, Json.member?_eq_none absent]
    exact (String.isEmpty_iff.mp empty).symm
  · have present : (optionsKey, Json.string options) ∈ sorted := by
      rw [merged.mem_iff, mem_mergedMembers]
      refine ⟨operator, inside, .inl ?_⟩
      simp [optionMember, given, empty]
    rw [optionsOf, Json.member?_eq_some nodup present]
    rfl

/-- From merged operators each of them is read under its key, and nothing else. -/
theorem mem_ofMembers_merged (merged : sorted.Perm (mergedMembers operators)) {options : String}
    {read : Operator} :
    read ∈ ofMembers options sorted ↔ ∃ operator ∈ operators,
      ofMember options operator.key operator.operand = read := by
  rw [ofMembers_eq, List.mem_map]
  constructor
  · rintro ⟨member, found, rfl⟩
    obtain ⟨listed, noOptions⟩ := List.mem_filter.mp found
    rw [merged.mem_iff, mem_mergedMembers] at listed
    obtain ⟨operator, inside, option | rfl⟩ := listed
    · simp [(mem_optionMember option).2] at noOptions
    · exact ⟨operator, inside, rfl⟩
  · rintro ⟨operator, inside, rfl⟩
    refine ⟨(operator.key, operator.operand), List.mem_filter.mpr ⟨?_, ?_⟩, rfl⟩
    · rw [merged.mem_iff, mem_mergedMembers]
      exact ⟨operator, inside, .inr rfl⟩
    · exact decide_eq_true (OperatorKey.key_apart operator.keyword).2.1

theorem orNever_of_mem (inside : operator ∈ operators) : orNever operators = operators := by
  cases operators with
  | nil => cases inside
  | cons => rfl

/-- Merged operators are read as operators that hold together as those do that come back. -/
theorem holdAll_merged (some : operators ≠ []) (distinct : (operators.map key).Nodup)
    (readBack : ∀ operator ∈ operators, operator.ReadsBack)
    (merged : sorted.Perm (mergedMembers operators)) (v? : Option Json) :
    holdAll (orNever (ofMembers (optionsOf sorted) sorted)) v? =
      holdAll (rereadAll operators) v? := by
  have reads : ∀ operator ∈ operators,
      (ofMember (optionsOf sorted) operator.key operator.operand).holds v? =
        operator.reread.holds v? := by
    intro operator inside
    apply readBack operator inside
    intro options given
    exact optionsOf_merged distinct merged inside given
  obtain ⟨first, inside⟩ := List.exists_mem_of_ne_nil _ some
  rw [orNever_of_mem ((mem_ofMembers_merged merged).mpr ⟨first, inside, rfl⟩), rereadAll_eq,
    Bool.eq_iff_iff, holdAll_iff, holdAll_iff, List.forall_mem_map]
  constructor
  · intro all operator inside
    rw [← reads operator inside]
    exact all _ ((mem_ofMembers_merged merged).mpr ⟨operator, inside, rfl⟩)
  · intro all read found
    obtain ⟨operator, inside, rfl⟩ := (mem_ofMembers_merged merged).mp found
    rw [reads operator inside]
    exact all operator inside

theorem isElementOperators_iff {members : List (String × Json)} :
    isElementOperators members = true ↔ ∀ key ∈ Json.keys members,
      isKeyword key = true ∧ ¬ (key = "$and" ∨ key = "$or" ∨ key = "$nor") := by
  simp only [isElementOperators, Json.keys, Bool.and_eq_true, List.all_eq_true,
    Bool.not_eq_true', List.any_eq_false, List.forall_mem_map, Bool.or_eq_true, beq_iff_eq,
    ← forall_and, or_assoc]

/-- The keys of merged operators are keywords that combine no selectors. -/
theorem isElementOperators_merged (merged : sorted.Perm (mergedMembers operators)) :
    isElementOperators sorted = true := by
  apply isElementOperators_iff.mpr
  intro key found
  have found : key ∈ Json.keys (mergedMembers operators) := (merged.map Prod.fst).mem_iff.mp found
  rw [mergedMembers_eq, Json.keys, List.map_flatMap, List.mem_flatMap] at found
  obtain ⟨operator, _, found⟩ := found
  obtain rfl | ⟨rfl, _⟩ := mem_keys_members found
  · have apart := OperatorKey.key_apart operator.keyword
    exact ⟨apart.1, apart.2.2⟩
  · decide

theorem holdAll_never (inside : .never ∈ operators) (v? : Option Json) :
    holdAll operators v? = false := by
  apply Bool.eq_false_iff.mpr
  intro all
  cases (holdAll_iff v?).mp all _ inside

/-- The JSON of merged operators is read as operators, which hold together as those do that come
back. -/
theorem mergedJson_reads (some : operators ≠ []) (mergeable : Mergeable operators)
    (readBack : ∀ operator ∈ operators, operator.ReadsBack) :
    ∃ members, mergedJson operators = .object members ∧ members ≠ [] ∧
      isElementOperators members = true ∧
      ∀ v?, holdAll (orNever (ofMembers (optionsOf members) members)) v? =
        holdAll (rereadAll operators) v? := by
  by_cases someNever : operators.any isNever = true
  · have inside : .never ∈ operators := by
      obtain ⟨operator, inside, isNever⟩ := List.any_eq_true.mp someNever
      cases operator <;> first | exact inside | cases isNever
    have comesBack : .never ∈ rereadAll operators := by
      rw [rereadAll_eq]
      exact List.mem_map.mpr ⟨_, inside, rfl⟩
    refine ⟨[("$in", .array [])], if_pos someNever, List.cons_ne_nil _ _, by decide, ?_⟩
    intro v?
    rw [holdAll_never comesBack]
    rfl
  · have distinct := mergeable.resolve_left someNever
    obtain ⟨sorted, object, merged⟩ := Json.ofMembers_perm (nodup_mergedMembers distinct)
    refine ⟨sorted, (if_neg someNever).trans object, ?_, isElementOperators_merged merged,
      holdAll_merged some distinct readBack merged⟩
    rintro rfl
    obtain ⟨operator, inside⟩ := List.exists_mem_of_ne_nil _ some
    have found : (operator.key, operator.operand) ∈ [] :=
      merged.mem_iff.mpr (mem_mergedMembers.mpr ⟨operator, inside, .inr rfl⟩)
    cases found

end Operator

end Pushdown
