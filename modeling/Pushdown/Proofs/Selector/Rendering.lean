import Pushdown.Proofs.Selector.Merging

/-!
# Selectors that are printed and read again

A selector that was read, printed and read again accepts the documents that `reread` of it accepts,
and so the same documents unless some array is asked for an item by criteria that are constantly
true.
-/

namespace Pushdown

/-! ## Operands -/

namespace Kind

theorem resolve?_name (kind : Kind) : resolve? (.string kind.name) = some [kind] := by
  cases kind <;> decide

theorem resolve?_names (kinds : List Kind) :
    ((kinds.map fun kind => Json.string kind.name).filterMap resolve?).flatten = kinds := by
  induction kinds with
  | nil => rfl
  | cons first rest ih =>
      rw [List.map_cons, List.filterMap_cons_some (resolve?_name first), List.flatten_cons, ih]
      rfl

end Kind

theorem RegularExpression.ofPattern?_self (expression : RegularExpression) :
    ofPattern? expression.pattern expression.options = some expression := by
  unfold ofPattern?
  split
  · next program found =>
    obtain rfl := Option.some.inj (expression.program_eq.symm.trans found)
    rfl
  · next missing =>
    rw [expression.program_eq] at missing
    cases missing

namespace Operator

/-- Kinds that stand in their order and once each are read from their names. -/
theorem ofKinds_names {kinds : List Kind} (some : kinds ≠ [])
    (settled : Kind.all.filter kinds.contains = kinds) :
    ofKinds (.array (kinds.map fun kind => .string kind.name)) = .hasKind kinds := by
  simp only [ofKinds, Json.items?, Option.getD_some, Kind.resolve?_names, settled]

/-- An operator whose operand is neither a list of operators nor a selector is read as it was. -/
theorem readsBack_scalar {operator : Operator} (comesBack : operator.reread = operator)
    (scalar : operator.operand.isObject = false ∨
      (operator.keyword ≠ .element ∧ operator.keyword ≠ .negation))
    (read : ∀ options, (∀ given, operator.options? = some given → options = given) →
      (ofScalarOperand operator.keyword options operator.operand).holds = operator.holds) :
    operator.ReadsBack := by
  intro options given v?
  rw [Operator.key, ofMember_scalar (OperatorKey.ofKey?_key _) scalar, read options given,
    comesBack]

variable {operators : List Operator} {selector : Selector}

theorem readsBack_element (some : operators ≠ []) (mergeable : Mergeable operators)
    (readBack : ∀ operator ∈ operators, operator.ReadsBack) :
    (Operator.element operators).ReadsBack := by
  intro options _ v?
  obtain ⟨members, printed, nonempty, areOperators, same⟩ :=
    mergedJson_reads some mergeable readBack
  change (ofMember options OperatorKey.element.key (mergedJson operators)).holds v? = _
  rw [printed, ofMember_element (OperatorKey.ofKey?_key .element),
    if_neg (by simpa using nonempty), if_pos areOperators, reread]
  cases v? with
  | none => rfl
  | some v =>
      cases v with
      | array items => exact congrArg (List.any items) (funext fun item => same item)
      | null | bool | number | string | object => rfl

theorem readsBack_negation (some : operators ≠ []) (mergeable : Mergeable operators)
    (readBack : ∀ operator ∈ operators, operator.ReadsBack) :
    (Operator.negation operators).ReadsBack := by
  intro options _ v?
  obtain ⟨members, printed, nonempty, areOperators, same⟩ :=
    mergedJson_reads some mergeable readBack
  have keywords : members.all (fun member => isKeyword member.1) = true :=
    (Bool.and_eq_true_iff.mp areOperators).1
  change (ofMember options OperatorKey.negation.key (mergedJson operators)).holds v? = _
  rw [printed, ofMember_negation (OperatorKey.ofKey?_key .negation), keywords,
    if_pos (by simpa using nonempty), reread, holds, holds, same v?]

end Operator

/-! ## Selectors as criteria -/

/-- What is read from the JSON of a selector accepts what `reread` accepts. -/
def Selector.ReadsBack (selector : Selector) : Prop :=
  ∀ document,
    (Selector.ofJson selector.toJson).accepts document = selector.reread.accepts document

/-- A selector is printed as an object, and unless it is constantly true the members of the object
are not read as operators. -/
theorem Selector.toJson_object {selector : Selector} (printable : selector.Printable) :
    ∃ members, selector.toJson = .object members ∧
      (selector = .const true ∨
        members ≠ [] ∧ Operator.isElementOperators members = false) := by
  cases selector with
  | const value =>
      cases value
      · exact ⟨_, rfl, .inr ⟨List.cons_ne_nil _ _, by decide⟩⟩
      · exact ⟨_, rfl, .inl rfl⟩
  | allOf | anyOf | noneOf => exact ⟨_, rfl, .inr ⟨List.cons_ne_nil _ _, rfl⟩⟩
  | field path operators =>
      rw [Selector.Printable] at printable
      rw [Selector.toJson]
      split
      · next condition conditions =>
        cases operators with
        | nil => cases conditions
        | cons first rest =>
            obtain rfl := (List.cons.inj conditions).1
            refine ⟨_, rfl, .inr ⟨List.cons_ne_nil _ _, ?_⟩⟩
            simp [Operator.isElementOperators, printable.1]
      · exact ⟨_, rfl, .inr ⟨List.cons_ne_nil _ _, rfl⟩⟩

theorem Operator.reread_elementSelected {selector : Selector} (other : selector ≠ .const true) :
    (Operator.elementSelected selector).reread = .elementSelected selector.reread := by
  cases selector with
  | const value =>
      cases value
      · rfl
      · exact absurd rfl other
  | allOf | anyOf | noneOf | field => rfl

theorem Operator.readsBack_selected {selector : Selector} (printable : selector.Printable)
    (readBack : selector.ReadsBack) : (Operator.elementSelected selector).ReadsBack := by
  intro options _ v?
  obtain ⟨members, printed, always | ⟨nonempty, noOperators⟩⟩ := Selector.toJson_object printable
  · subst always
    rfl
  · have other : selector ≠ .const true := by
      rintro rfl
      cases printed
      exact nonempty rfl
    change (ofMember options OperatorKey.element.key selector.toJson).holds v? = _
    rw [Selector.ReadsBack, printed] at readBack
    rw [printed]
    rw [ofMember_element (OperatorKey.ofKey?_key .element), if_neg (by simpa using nonempty),
      if_neg (by simpa using noOperators), reread_elementSelected other]
    cases v? with
    | none => rfl
    | some v =>
        cases v with
        | array items => exact congrArg (List.any items) (funext fun item => readBack item)
        | null | bool | number | string | object => rfl

/-! ## Selectors -/

namespace Selector

variable {children : List Selector}

theorem accepts_single (key : String) (operand document : Json) :
    (ofJson (.single key operand)).accepts document = (ofMember key operand).accepts document := by
  rw [Json.single, ofJson, ofMembers, ofMembers, accepts_conjoin, acceptAll, acceptAll,
    Bool.and_true]

theorem accepts_all (items : List Json) (document : Json) :
    (ofJson (.single Connective.allOf.key (.array items))).accepts document =
      acceptAll (ofItems items) document := by
  rw [accepts_single]
  exact accepts_conjoin (ofItems items) document

theorem accepts_any (items : List Json) (document : Json) :
    (ofJson (.single Connective.anyOf.key (.array items))).accepts document =
      acceptAny (ofItems items) document := by
  rw [accepts_single]
  cases items <;> rfl

theorem accepts_none (items : List Json) (document : Json) :
    (ofJson (.single Connective.noneOf.key (.array items))).accepts document =
      !acceptAny (ofItems items) document := by
  rw [accepts_single]
  cases items <;> rfl

theorem acceptAll_ofItems (readBack : ∀ child ∈ children, child.ReadsBack) (document : Json) :
    acceptAll (ofItems (toJsonAll children)) document =
      acceptAll (rereadAll children) document := by
  induction children with
  | nil => rfl
  | cons first rest ih =>
      obtain ⟨head, tail⟩ := List.forall_mem_cons.mp readBack
      rw [toJsonAll, ofItems, rereadAll, acceptAll, acceptAll, head document, ih tail]

theorem acceptAny_ofItems (readBack : ∀ child ∈ children, child.ReadsBack) (document : Json) :
    acceptAny (ofItems (toJsonAll children)) document =
      acceptAny (rereadAll children) document := by
  induction children with
  | nil => rfl
  | cons first rest ih =>
      obtain ⟨head, tail⟩ := List.forall_mem_cons.mp readBack
      rw [toJsonAll, ofItems, rereadAll, acceptAny, acceptAny, head document, ih tail]

variable {path : FieldPath}

/-- A condition is read as one for the operator that comes back. -/
theorem accepts_condition (noKeyword : isKeyword path.dotted = false)
    (spelled : FieldPath.ofDotted path.dotted = path) {operator : Operator}
    (readBack : operator.ReadsBack) (document : Json) :
    (ofJson (.single path.dotted operator.toJson)).accepts document =
      operator.reread.holds (document.lookup? path.segments) := by
  have nonempty : operator.members ≠ [] := by
    simp [Operator.members]
  have operatorMap : isOperatorMap operator.members = true := by
    refine List.any_eq_true.mpr ⟨(operator.key, operator.operand), ?_, ?_⟩
    · exact List.mem_append_right _ (List.mem_singleton_self _)
    · exact (OperatorKey.key_apart operator.keyword).1
  have merged : operator.members.Perm (Operator.mergedMembers [operator]) := by
    rw [Operator.mergedMembers_eq, List.flatMap_singleton]
  have same := Operator.holdAll_merged (List.cons_ne_nil operator []) (List.nodup_singleton _)
    (by simpa using readBack) merged (document.lookup? path.segments)
  rw [accepts_single, Operator.toJson_eq, ofMember, if_neg (by simp [noKeyword]),
    if_neg (by simpa using nonempty), if_pos operatorMap, spelled, accepts, same,
    Operator.rereadAll, Operator.rereadAll, Operator.holdAll, Operator.holdAll, Bool.and_true]

/-- The conditions of a field are read as those for the operators that come back. -/
theorem acceptAll_conditions (noKeyword : isKeyword path.dotted = false)
    (spelled : FieldPath.ofDotted path.dotted = path) {operators : List Operator}
    (readBack : ∀ operator ∈ operators, operator.ReadsBack) (document : Json) :
    acceptAll (ofItems (Operator.conditions path operators)) document =
      Operator.holdAll (Operator.rereadAll operators) (document.lookup? path.segments) := by
  induction operators with
  | nil => rfl
  | cons first rest ih =>
      obtain ⟨head, tail⟩ := List.forall_mem_cons.mp readBack
      rw [Operator.conditions, ofItems, acceptAll, Operator.rereadAll, Operator.holdAll,
        accepts_condition noKeyword spelled head, ih tail]

theorem readsBack_field (noKeyword : isKeyword path.dotted = false)
    (spelled : FieldPath.ofDotted path.dotted = path) {operators : List Operator}
    (readBack : ∀ operator ∈ operators, operator.ReadsBack) :
    (Selector.field path operators).ReadsBack := by
  intro document
  have conditions := acceptAll_conditions noKeyword spelled readBack document
  rw [toJson, reread, accepts, ← conditions]
  split
  · next condition single =>
    rw [single, ofItems, ofItems, acceptAll, acceptAll, Bool.and_true]
  · exact accepts_all _ document

end Selector

/-! ## What is printed is read again -/

mutual

/-- The operators and selectors inside are read back by the same statement, and the lemmas above put
them together. -/
theorem Selector.readsBack : ∀ {selector : Selector}, selector.Printable → selector.ReadsBack
  | .const value, _ => fun _ => by cases value <;> rfl
  | .allOf children, h => fun document => by
    have readBack := Selector.readsBack_all h
    rw [Selector.toJson, Selector.accepts_all, Selector.acceptAll_ofItems readBack,
      Selector.reread, Selector.accepts]
  | .anyOf children, h => fun document => by
    have readBack := Selector.readsBack_all h
    rw [Selector.toJson, Selector.accepts_any, Selector.acceptAny_ofItems readBack,
      Selector.reread, Selector.accepts]
  | .noneOf children, h => fun document => by
    have readBack := Selector.readsBack_all h
    rw [Selector.toJson, Selector.accepts_none, Selector.acceptAny_ofItems readBack,
      Selector.reread, Selector.accepts]
  | .field _ _, h => Selector.readsBack_field h.1 h.2.1 (Operator.readsBack_all h.2.2)

theorem Selector.readsBack_all : ∀ {selectors : List Selector}, Selector.AllPrintable selectors →
    ∀ selector ∈ selectors, selector.ReadsBack
  | [], _ => by simp
  | _ :: _, h => List.forall_mem_cons.mpr ⟨Selector.readsBack h.1, Selector.readsBack_all h.2⟩

theorem Operator.readsBack : ∀ {operator : Operator}, operator.Printable → operator.ReadsBack
  | .element _, h => Operator.readsBack_element h.1 h.2.1 (Operator.readsBack_all h.2.2)
  | .negation _, h => Operator.readsBack_negation h.1 h.2.1 (Operator.readsBack_all h.2.2)
  | .elementSelected _, h => Operator.readsBack_selected h (Selector.readsBack h)
  | .elementOther _, h => Operator.readsBack_scalar rfl (.inl h) fun _ _ => rfl
  | .hasKind _, h => Operator.readsBack_scalar rfl (.inl rfl) fun _ _ =>
    congrArg Operator.holds (Operator.ofKinds_names h.1 h.2)
  | .modulo _ _, h => Operator.readsBack_scalar rfl (.inl rfl) fun _ _ =>
    congrArg Operator.holds (Operator.ofModulo_whole h.1 h.2.1 h.2.2)
  | .regex expression, _ => Operator.readsBack_scalar rfl (.inl rfl) fun options given => by
    rw [given expression.options rfl]
    change (Operator.ofRegex _ (.string expression.pattern)).holds = _
    rw [Operator.ofRegex, RegularExpression.ofPattern?_self]
  | .equals _, _ | .differs _, _ | .compares _ _, _ =>
    Operator.readsBack_scalar rfl (.inr ⟨OperatorKey.noConfusion, OperatorKey.noConfusion⟩)
      fun _ _ => rfl
  | .isIn _, _ | .notIn _, _ | .present _, _ | .hasSize _, _ =>
    Operator.readsBack_scalar rfl (.inl rfl) fun _ _ => rfl
  | .never, _ => Operator.readsBack_scalar rfl (.inl rfl) fun _ _ => by
    funext v?
    rfl

theorem Operator.readsBack_all : ∀ {operators : List Operator}, Operator.AllPrintable operators →
    ∀ operator ∈ operators, operator.ReadsBack
  | [], _ => by simp
  | _ :: _, h => List.forall_mem_cons.mpr ⟨Operator.readsBack h.1, Operator.readsBack_all h.2⟩

end

/-- What is read again accepts the documents that `reread` accepts. These are the documents that
were accepted at first, unless an array is asked for an item by criteria that are constantly
true. -/
theorem Selector.accepts_reprinted (v : Json) (wellFormed : v.WellFormed) (document : Json) :
    let selector := Selector.ofJson v
    let reprinted := Selector.ofJson selector.toJson
    reprinted.accepts document = selector.reread.accepts document ∧
      (selector.asksForAnyItem = false →
        reprinted.accepts document = selector.accepts document) := by
  intro selector reprinted
  have printable : selector.Printable := Selector.printable_ofJson v wellFormed
  have same : reprinted.accepts document = selector.reread.accepts document :=
    Selector.readsBack printable document
  refine ⟨same, ?_⟩
  intro noExceptions
  rw [same, Selector.reread_eq_self noExceptions]

/-- Both forms of criteria for items, and negated operators. -/
theorem Selector.accepts_reprinted_criteria :
    let v : Json := .object [
      ("$nor", .array [.object [("a", .object [("$elemMatch", .object [("b", .null)])])]]),
      ("a", .object [("$elemMatch", .object [("$not", .object [("$type", .string "int")])])])]
    let document : Json := .object [("a", .array [.object [("b", .bool true)]])]
    v.WellFormed ∧ (Selector.ofJson v).asksForAnyItem = false ∧
      (Selector.ofJson (Selector.ofJson v).toJson).accepts document = true := by
  intro v document
  have wellFormed : v.WellFormed := by decide
  have noExceptions : (Selector.ofJson v).asksForAnyItem = false := by decide
  refine ⟨wellFormed, noExceptions, ?_⟩
  rw [(Selector.accepts_reprinted v wellFormed document).2 noExceptions]
  decide

/-- The exception occurs: an array with an item is accepted at first, but not by what is read
again. -/
theorem Selector.reprinted_rejects :
    let v : Json := .object [
      ("a", .object [("$elemMatch", .object [("$and", .array [])])])]
    let document : Json := .object [("a", .array [.bool true])]
    v.WellFormed ∧ (Selector.ofJson v).accepts document = true ∧
      (Selector.ofJson (Selector.ofJson v).toJson).accepts document = false := by
  decide

end Pushdown
