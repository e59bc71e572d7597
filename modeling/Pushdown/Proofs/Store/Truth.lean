import Pushdown.Proofs.Condition.Phrase
import Pushdown.Proofs.Store.Predicate

/-!
# Truth of tests

What the store answers to a test of one value, with its documented answers for missing values. A
scan asks for a row of a value in which its body is true, so a test is a phrase: its tokens and its
expression are those of the body inside, and those of any other test are one predicate.

The text and the arguments of a test are those of its phrase, and the truth of the predicate, which
is found from its text and arguments alone, is the answer to the test. `Test.isTrue` is the truth of
a test in a document. A test can be read from its text whenever the bodies of its scans are in
normal form, and then a scan is true exactly when its body holds in one of the rows.
-/

namespace Pushdown

open Sql (Token Expression Spelling Predicate)

/-! ## Tests of one value -/

/-- What a test other than a scan asks of the value at its place. -/
def Test.answer (store : Store) (document : Json) (test : Test) (rows : Rows) : Option Bool :=
  match test with
  | .isNull place => some (place.stored document rows == .null)
  | .present place expected => some ((place.typed? document rows).isSome == expected)
  | .hasType place names =>
    match place.typed? document rows with
    | none => if names.isEmpty then some false else none
    | some v => some (names.contains (TypeName.ofJson v))
  | .equals place operand => (place.stored document rows).equal? operand
  | .compares place comparison operand =>
    ((place.stored document rows).compare? operand).map comparison.holds
  | .memberOf place values =>
    (place.stored document rows).memberOf? (values.map Argument.ofJson)
  | .hasLength place length =>
    (place.node? document rows).bind fun v => (Argument.integer (Sql.itemCount v)).equal? length
  | .leavesRemainder place divisor remainder =>
    store.remainder (place.stored document rows) divisor remainder
  | .text place test operand => store.textTest (place.stored document rows) operand test
  | .scan .. => none

def Test.isScan : Test → Bool
  | .scan .. => true
  | _ => false

/-! ## Phrases of tests -/

/-- What a scan runs through: the value at a path, under a number of its own. -/
abbrev ScanSource := Sql.Path × Nat

namespace ScanSource

def sql (column : String) (source : ScanSource) : String :=
  "json_each(" ++ column ++ ", " ++ source.1.sql ++ ")"

/-- The rows of a scan, each as the current one. -/
def rows (document : Json) (source : ScanSource) (rows : Rows) : List Rows :=
  let path := source.1.text rows
  (rowsOf path (document.atPath? path)).map (rows.move source.2)

end ScanSource

def Sql.Predicate.spelling (column : String) : Spelling Predicate ScanSource where
  leaf predicate := predicate.sql column
  source source := source.sql column ++ " AS " ++ scanName source.2

def Sql.Predicate.phrase (column : String) (predicate : Predicate) :
    Phrase Predicate ScanSource :=
  ⟨predicate.clause column, [.leaf predicate], .leaf predicate⟩

/-- The phrase of a scan whose body has phrases. -/
def scanPhrase (column : String) (source : ScanSource) :
    Condition (Phrase Predicate ScanSource) → Phrase Predicate ScanSource
  | .const true => {
      clause := Condition.existsClause (source.sql column) (scanName source.2) none
      tokens := [.someRow source]
      expression := .someRow source }
  | body => {
      clause := Condition.existsClause (source.sql column) (scanName source.2)
        (some (body.map Phrase.clause).fragment)
      tokens := .someRowWhere source :: (body.tokens ++ [.closing])
      expression := .someRowWhere source body.expression }

mutual

def Test.phrase (column : String) : Test → Phrase Predicate ScanSource
  | .isNull place => (Predicate.isNull place.valueAccessor).phrase column
  | .present place true => (Predicate.isNotNull place.typeAccessor).phrase column
  | .present place false => (Predicate.isNull place.typeAccessor).phrase column
  | .hasType place names => (Predicate.hasType place.typeAccessor names).phrase column
  | .equals place operand =>
    (Predicate.compares .equal (.read place.valueAccessor) (.bound operand)).phrase column
  | .compares place comparison operand =>
    (Predicate.compares comparison.relation (.read place.valueAccessor) (.bound operand)).phrase
      column
  | .memberOf place values => (Predicate.isItemOf place.valueAccessor values).phrase column
  | .hasLength place length =>
    (Predicate.compares .equal (.read place.lengthAccessor) (.bound length)).phrase column
  | .leavesRemainder place divisor remainder =>
    (Predicate.leavesRemainder place.valueAccessor divisor remainder).phrase column
  | .text place test operand =>
    (test.comparison.predicate place.valueAccessor operand).phrase column
  | .scan place number body =>
    scanPhrase column (place.sqlPath, number) (Condition.phrases column body)

def Condition.phrases (column : String) :
    Condition Test → Condition (Phrase Predicate ScanSource)
  | .const value => .const value
  | .leaf test => .leaf (Test.phrase column test)
  | .allOf children => .allOf (Condition.phrasesAll column children)
  | .anyOf children => .anyOf (Condition.phrasesAll column children)
  | .negation child => .negation (Condition.phrases column child)

def Condition.phrasesAll (column : String) :
    List (Condition Test) → List (Condition (Phrase Predicate ScanSource))
  | [] => []
  | child :: rest => Condition.phrases column child :: Condition.phrasesAll column rest

end

mutual

theorem Condition.phrases_eq_map (column : String) : ∀ c : Condition Test,
    c.phrases column = c.map (Test.phrase column)
  | .const _ => rfl
  | .leaf _ => rfl
  | .allOf children => congrArg Condition.allOf (Condition.phrasesAll_eq_map column children)
  | .anyOf children => congrArg Condition.anyOf (Condition.phrasesAll_eq_map column children)
  | .negation child => congrArg Condition.negation (Condition.phrases_eq_map column child)

theorem Condition.phrasesAll_eq_map (column : String) : ∀ children : List (Condition Test),
    Condition.phrasesAll column children = Condition.mapAll (Test.phrase column) children
  | [] => rfl
  | child :: rest => by
    rw [Condition.phrasesAll, Condition.mapAll, Condition.phrases_eq_map column child,
      Condition.phrasesAll_eq_map column rest]

end

theorem TextTest.args_predicate (x : Sql.Accessor) (operand : String) (test : TextTest) :
    (test.comparison.predicate x operand).args = [.text operand] := by
  cases test <;> rfl

theorem TextTest.nullable_predicate (x : Sql.Accessor) (operand : String) (test : TextTest) :
    (test.comparison.predicate x operand).nullable = true := by
  cases test <;> rfl

theorem ScanSource.sql_eq (column : String) (place : Location) (number : Nat) :
    ScanSource.sql column (place.sqlPath, number) = place.rows column := by
  rw [ScanSource.sql, Location.sqlPath_sql, Location.rows, Location.call]
  rfl

mutual

/-- The SQL of a test is that of its phrase: the same text, and the same arguments. -/
theorem Test.phrase_clause (column : String) : ∀ test : Test,
    (test.phrase column).clause = test.clause column
  | .isNull place => by
    rw [Test.phrase, Test.clause, ← place.valueAccessor_sql]
    rfl
  | .present place true => by
    rw [Test.phrase, Test.clause, ← place.typeAccessor_sql]
    rfl
  | .present place false => by
    rw [Test.phrase, Test.clause, ← place.typeAccessor_sql]
    rfl
  | .hasType place names => by
    rw [Test.phrase, Test.clause, ← place.typeAccessor_sql, ← Predicate.sql_hasType]
    obtain _ | ⟨name, _ | ⟨next, rest⟩⟩ := names <;> rfl
  | .equals place operand => by
    rw [Test.phrase, Test.clause, ← place.valueAccessor_sql, ← Predicate.sql_equals_bound]
    rfl
  | .compares place comparison operand => by
    rw [Test.phrase, Test.clause, ← place.valueAccessor_sql, Predicate.phrase, Predicate.clause,
      Predicate.sql_compares_bound]
    cases comparison <;> rfl
  | .memberOf place values => by
    rw [Test.phrase, Test.clause, ← place.valueAccessor_sql]
    rfl
  | .hasLength place length => by
    rw [Test.phrase, Test.clause, ← place.lengthAccessor_sql, ← Predicate.sql_equals_bound]
    rfl
  | .leavesRemainder place divisor remainder => by
    rw [Test.phrase, Test.clause_leavesRemainder, ← place.valueAccessor_sql]
    rfl
  | .text place test operand => by
    rw [Test.phrase, Test.clause, ← place.valueAccessor_sql, Predicate.phrase, Predicate.clause,
      TextComparison.predicate_sql, TextTest.comparison_sql, TextTest.args_predicate,
      TextTest.nullable_predicate]
  | .scan place number body => by
    have inner := Condition.map_phrases_clause column body
    rw [Test.phrase, Test.clause, ← ScanSource.sql_eq column place number]
    cases body with
    | const b => cases b <;> rfl
    | leaf | allOf | anyOf | negation =>
        rw [← inner]
        rfl

theorem Condition.map_phrases_clause (column : String) : ∀ c : Condition Test,
    (c.phrases column).map Phrase.clause = c.clauses column
  | .const _ => rfl
  | .leaf test => congrArg Condition.leaf (Test.phrase_clause column test)
  | .allOf children => congrArg Condition.allOf (Condition.mapAll_phrases_clause column children)
  | .anyOf children => congrArg Condition.anyOf (Condition.mapAll_phrases_clause column children)
  | .negation child => congrArg Condition.negation (Condition.map_phrases_clause column child)

theorem Condition.mapAll_phrases_clause (column : String) : ∀ children : List (Condition Test),
    Condition.mapAll Phrase.clause (Condition.phrasesAll column children) =
      Condition.clausesAll column children
  | [] => rfl
  | child :: rest => by
    rw [Condition.phrasesAll, Condition.mapAll, Condition.clausesAll,
      Condition.map_phrases_clause column child, Condition.mapAll_phrases_clause column rest]

end

/-! ## Truth -/

/-- The truth value of an expression in a document. -/
def documentTruth (store : Store) (document : Json) (expression : Expression Predicate ScanSource)
    (rows : Rows) : Option Bool :=
  expression.truth (fun predicate rows => predicate.truth store document rows)
    (ScanSource.rows document) rows

def Test.isTrue (store : Store) (document : Json) (column : String) (rows : Rows) (test : Test) :
    Bool :=
  documentTruth store document (test.phrase column).expression rows == some true

/-- The text of a test is read as its expression. -/
def Test.Readable (column : String) (test : Test) : Prop :=
  (test.phrase column).Readable (Predicate.spelling column)

variable {store : Store} {document : Json} {column : String} {rows : Rows}

theorem Sql.Predicate.truth_compares_bound (relation : Sql.Relation) (x : Sql.Accessor)
    (operand : Argument) :
    (Predicate.compares relation (.read x) (.bound operand)).truth store document rows =
      ((x.value document rows).compare? operand).map relation.holds := rfl

theorem Sql.typeText_eq (v : Json) : Sql.typeText v = (TypeName.ofJson v).spelling := by
  cases v with
  | bool b => cases b <;> rfl
  | number n => cases h : n.isReal <;> simp [Sql.typeText, TypeName.ofJson, h] <;> rfl
  | null | string | array | object => rfl

theorem TypeName.spelling_injective : Function.Injective TypeName.spelling := by
  intro a b
  cases a <;> cases b <;> decide

theorem Argument.memberOf?_texts (content : String) (texts : List String) :
    (Argument.text content).memberOf? (texts.map .text) = some (texts.contains content) := by
  have found : (texts.map Argument.text).any
      (fun b => (Argument.text content).equal? b == some true) = texts.contains content := by
    rw [List.any_map, List.contains_eq_any_beq]
    refine congrArg _ (funext fun text => ?_)
    simp [Argument.equal?_text]
  cases texts with
  | nil => rfl
  | cons first rest =>
      rw [Argument.memberOf?, found]
      cases (first :: rest).contains content <;> simp

/-- The predicate for type names asks for the type of the value. -/
theorem Sql.Predicate.truth_hasType {x : Sql.Accessor} {v : Json}
    (reads : x.value document rows = .text (Sql.typeText v)) (names : List TypeName) :
    (Predicate.hasType x names).truth store document rows =
      some (names.contains (TypeName.ofJson v)) := by
  have spelled (names : List TypeName) : (names.map TypeName.spelling).contains (Sql.typeText v) =
      names.contains (TypeName.ofJson v) := by
    rw [Sql.typeText_eq, Bool.eq_iff_iff, List.contains_iff_mem, List.contains_iff_mem,
      List.mem_map_of_injective TypeName.spelling_injective]
  obtain _ | ⟨name, _ | ⟨next, rest⟩⟩ := names
  · rfl
  · rw [← spelled]
    change ((x.value document rows).equal? (.text name.spelling)) = _
    rw [reads, Argument.equal?_text, List.map_cons, List.map_nil, List.contains_cons,
      List.contains_nil, Bool.or_false]
  · change (x.value document rows).memberOf? (List.map _ (List.map _ (name :: next :: rest))) = _
    rw [reads, Argument.memberOf?_texts, spelled]

theorem Sql.Predicate.truth_hasType_null {x : Sql.Accessor} (reads : x.value document rows = .null)
    (names : List TypeName) : (Predicate.hasType x names).truth store document rows =
      if names.isEmpty then some false else none := by
  obtain _ | ⟨name, _ | ⟨next, rest⟩⟩ := names
  · rfl
  · change ((x.value document rows).equal? (.text name.spelling)) = _
    rw [reads]
    rfl
  · change (x.value document rows).memberOf? (List.map _ (List.map _ (name :: next :: rest))) = _
    rw [reads]
    simp [Argument.memberOf?, Argument.equal?, Argument.compare?]

/-- The predicate for a test of a text is the store's answer to the test. -/
theorem TextTest.truth_predicate (x : Sql.Accessor) (operand : String) (test : TextTest) :
    (test.comparison.predicate x operand).truth store document rows =
      store.textTest (x.value document rows) operand test := by
  -- In every test but equality the stored value is read as a text first.
  have lowered : (Sql.Operand.lower (.read x)).value store document rows =
      ((store.textOf? (x.value document rows)).map fun text =>
        Argument.text (TextPattern.lowered text)).getD .null := by
    simp only [Sql.Operand.value]
    cases store.textOf? (x.value document rows) <;> rfl
  cases test with
  | equal => rfl
  | lowerEqual =>
      change (Argument.compare? ((Sql.Operand.lower (.read x)).value store document rows)
        (.text operand)).map _ = (store.textOf? (x.value document rows)).map _
      rw [lowered]
      cases store.textOf? (x.value document rows) with
      | none => rfl
      | some text => exact Argument.equal?_text (TextPattern.lowered text) operand
  | equalIgnoringCase =>
      simp only [TextTest.comparison, TextComparison.predicate, TextOperand.operand,
        Predicate.truth, Sql.Operand.value]
      cases x.value document rows <;> rfl
  | like =>
      change (store.textOf? (x.value document rows)).bind _ =
        (store.textOf? (x.value document rows)).map _
      cases store.textOf? (x.value document rows) <;> rfl
  | lowerLike | lowerLikeLower =>
      change (store.textOf? ((Sql.Operand.lower (.read x)).value store document rows)).bind _ =
        (store.textOf? (x.value document rows)).map _
      rw [lowered]
      cases store.textOf? (x.value document rows) <;> rfl

/-- A test other than a scan is one predicate, and the truth of that is the answer to the test. -/
theorem Test.phrase_predicate (column : String) {test : Test} (plain : test.isScan = false) :
    ∃ predicate : Predicate, test.phrase column = predicate.phrase column ∧
      ∀ store document rows,
        predicate.truth store document rows = test.answer store document rows := by
  cases test with
  | isNull place =>
      refine ⟨_, rfl, fun store document rows => ?_⟩
      rw [Predicate.truth, place.valueAccessor_value]
      rfl
  | present place expected =>
      cases expected with
      | true | false =>
          refine ⟨_, rfl, fun store document rows => ?_⟩
          rw [Predicate.truth, place.typeAccessor_value, Test.answer]
          cases place.typed? document rows <;> rfl
  | hasType place names =>
      refine ⟨_, rfl, fun store document rows => ?_⟩
      have reads := place.typeAccessor_value document rows
      rw [Test.answer]
      cases typed : place.typed? document rows with
      | none =>
          rw [typed] at reads
          exact Predicate.truth_hasType_null reads names
      | some v =>
          rw [typed] at reads
          exact Predicate.truth_hasType reads names
  | equals place operand =>
      refine ⟨_, rfl, fun store document rows => ?_⟩
      rw [Predicate.truth_compares_bound, place.valueAccessor_value]
      rfl
  | compares place comparison operand =>
      refine ⟨_, rfl, fun store document rows => ?_⟩
      rw [Predicate.truth_compares_bound, place.valueAccessor_value]
      cases comparison <;> rfl
  | memberOf place values =>
      refine ⟨_, rfl, fun store document rows => ?_⟩
      rw [Predicate.truth, place.valueAccessor_value]
      rfl
  | hasLength place length =>
      refine ⟨_, rfl, fun store document rows => ?_⟩
      rw [Predicate.truth_compares_bound, place.lengthAccessor_value, Test.answer]
      cases place.node? document rows <;> rfl
  | leavesRemainder place divisor remainder =>
      refine ⟨_, rfl, fun store document rows => ?_⟩
      rw [Predicate.truth, place.valueAccessor_value]
      rfl
  | text place test operand =>
      refine ⟨_, rfl, fun store document rows => ?_⟩
      rw [TextTest.truth_predicate, place.valueAccessor_value]
      rfl
  | scan => cases plain

/-- A test other than a scan is true where its answer is. -/
theorem Test.isTrue_eq {test : Test} (plain : test.isScan = false) :
    test.isTrue store document column rows = (test.answer store document rows == some true) := by
  obtain ⟨predicate, phrase, answer⟩ := Test.phrase_predicate column plain
  rw [Test.isTrue, phrase, ← answer]
  rfl

/-- The tests that are never NULL are those that say so. -/
theorem Test.phrase_sound (test : Test) :
    (test.phrase column).Sound (fun predicate rows => predicate.truth store document rows)
      (ScanSource.rows document) := by
  intro notNullable rows
  cases plain : test.isScan with
  | false =>
      obtain ⟨predicate, phrase, -⟩ := Test.phrase_predicate column plain
      rw [phrase] at notNullable ⊢
      exact Predicate.truth_ne_none notNullable store document rows
  | true =>
      cases test with
      | scan place number body =>
          rw [Test.phrase, scanPhrase.eq_def]
          split <;> simp [Expression.truth]
      | isNull | present | hasType | equals | compares | memberOf | hasLength | leavesRemainder
      | text => cases plain

theorem Condition.Normal.phrases {c : Condition Test} (h : c.Normal (Test.Readable column)) :
    (c.phrases column).Normal (Phrase.Readable (Predicate.spelling column)) := by
  have readable : c.Normal fun test =>
      (test.phrase column).Readable (Predicate.spelling column) := h
  rw [Condition.phrases_eq_map]
  exact readable.map_leaves _

/-- The expression of a condition is true in a document where the condition holds. -/
theorem Condition.Normal.documentTruth_iff {c : Condition Test}
    (h : c.Normal (Test.Readable column)) (rows : Rows) :
    documentTruth store document (c.phrases column).expression rows = some true ↔
      c.holds (Test.isTrue store document column rows) = true := by
  have sound : (c.phrases column).Normal
      (Phrase.Sound (fun predicate rows => predicate.truth store document rows)
        (ScanSource.rows document)) := by
    rw [Condition.phrases_eq_map]
    exact (h.imp fun test _ => Test.phrase_sound test).map_leaves _
  rw [documentTruth, sound.truth_iff, Condition.phrases_eq_map, Condition.holds_map]
  rfl

/-- Every test but a scan is one token. -/
theorem Test.readable_of_plain {test : Test} (plain : test.isScan = false) :
    test.Readable column := by
  obtain ⟨predicate, phrase, -⟩ := Test.phrase_predicate column plain
  rw [Test.Readable, phrase]
  exact ⟨String.append_empty, Sql.reads_leaf predicate⟩

theorem ScanSource.select_eq (source : ScanSource) :
    "EXISTS(SELECT 1 FROM " ++ (Predicate.spelling column).source source =
      "EXISTS(SELECT 1 FROM " ++ source.sql column ++ " AS " ++ scanName source.2 := by
  rw [Predicate.spelling, ← String.append_assoc, ← String.append_assoc]

theorem Test.readable_scan (place : Location) (number : Nat) {body : Condition Test}
    (h : body.Normal (Test.Readable column)) :
    (Test.scan place number body).Readable column := by
  have inner := h.phrases
  rw [Test.Readable, Test.phrase]
  generalize body.phrases column = body at inner
  generalize (place.sqlPath, number) = source
  have filtered : Phrase.Readable (Predicate.spelling column) {
      clause := Condition.existsClause (ScanSource.sql column source) (scanName source.2)
        (some (body.map Phrase.clause).fragment)
      tokens := .someRowWhere source :: (body.tokens ++ [.closing])
      expression := .someRowWhere source body.expression } := by
    refine ⟨?_, inner.read_tokens.someRowWhere _⟩
    rw [Condition.textOf_enclosed, inner.textOf_tokens]
    exact congrArg (· ++ " WHERE " ++ (body.map Phrase.clause).sql ++ ")")
      (ScanSource.select_eq source)
  rw [scanPhrase.eq_def]
  split
  · refine ⟨?_, Sql.reads_someRow _⟩
    rw [Token.textOf_cons, Token.textOf_nil, String.append_empty]
    exact congrArg (· ++ ")") (ScanSource.select_eq source)
  · exact filtered

/-- A scan is true when its body holds in one of the rows. -/
theorem Test.isTrue_scan (place : Location) (number : Nat) {body : Condition Test}
    (h : body.Normal (Test.Readable column)) (rows : Rows) :
    (Test.scan place number body).isTrue store document column rows =
      (rowsOf (place.path rows) (place.node? document rows)).any fun row =>
        body.holds (Test.isTrue store document column (rows.move number row)) := by
  have truth (inner : Rows) :
      (documentTruth store document (body.phrases column).expression inner == some true) =
        body.holds (Test.isTrue store document column inner) := by
    rw [Bool.eq_iff_iff, beq_iff_eq]
    exact h.documentTruth_iff inner
  have moved : ScanSource.rows document (place.sqlPath, number) rows =
      (rowsOf (place.path rows) (place.node? document rows)).map (rows.move number) := by
    rw [ScanSource.rows, Location.sqlPath_text]
    rfl
  simp only [← truth]
  rw [Test.isTrue, Test.phrase]
  generalize body.phrases column = body
  rw [scanPhrase.eq_def]
  split
  · rw [documentTruth, Expression.truth, moved]
    cases rowsOf (place.path rows) (place.node? document rows) <;>
      simp [documentTruth, Expression.truth, Condition.expression]
  · rw [documentTruth, Expression.truth, moved]
    simp [documentTruth, List.any_map, Function.comp_def]

end Pushdown
