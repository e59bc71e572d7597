import Pushdown.Proofs.Push.Reindexed
import Pushdown.Proofs.Query.Agreement
import Pushdown.Proofs.Query.Parallel
import Pushdown.Proofs.Query.Verdict
import Pushdown.Proofs.Regex.Description

/-!
# Text patterns and indexes

A text pattern is written as one of six comparisons of a stored text with a bound one, and an index
in lower case decides between two of them when case is ignored. Each comparison is true of just the
texts that the pattern describes, so it does not matter which of them is written. Neither do the
indexes of a schema matter to a query: the documents that it selects are the same.
-/

namespace Pushdown

open Push (Parallel)

/-! ## Comparisons of texts -/

/-- The test for a pattern is true of the texts that the pattern describes, whether or not an index
has chosen it. -/
theorem textTest_describes {pattern : TextPattern} (reducible : pattern ≠ .irreducible)
    (ignoreCase lowerIndex : Bool) (text : String) :
    (textTest pattern ignoreCase lowerIndex).1.comparison.holds text
        (textTest pattern ignoreCase lowerIndex).2 = true ↔
      pattern.Describes ignoreCase text := by
  let store : Store := ⟨fun _ => "", fun _ _ _ => none⟩
  have answer := TextPattern.textTest_answer store reducible ignoreCase lowerIndex text
  rw [TextTest.comparison_holds, Option.some.injEq] at answer
  rw [answer, TextPattern.accepts_iff_describes]

/-! ## Queries under other indexes -/

/-- Two conditions are true in the same rows of scans. -/
def Setting.SameTruth (setting : Setting) (c d : Condition Test) : Prop :=
  ∀ rows, c.holds (setting.isTrue rows) = d.holds (setting.isTrue rows)

variable {setting : Setting}

theorem Setting.SameTruth.each {cs ds : List (Condition Test)}
    (h : List.Forall₂ setting.SameTruth cs ds) (rows : Rows) :
    cs.map (Condition.holds (setting.isTrue rows)) =
      ds.map (Condition.holds (setting.isTrue rows)) := by
  induction h with
  | nil => rfl
  | cons first _ ih => rw [List.map_cons, List.map_cons, first rows, ih]

theorem Setting.SameTruth.joinable : Condition.Joinable setting.SameTruth where
  refl _ _ := rfl
  all h rows := by
    have same := congrArg (List.all · id) (Setting.SameTruth.each h rows)
    simpa [List.all_map] using same
  any h rows := by
    have same := congrArg (List.any · id) (Setting.SameTruth.each h rows)
    simpa [List.any_map] using same
  negate h rows := by rw [Condition.holds_negate, Condition.holds_negate, h rows]

/-- Under any indexes the test for a regular expression is true where the expression matches the
value of a conforming document. -/
theorem RelatesFields.sameTruth {first second : Schema} {layout : Layout}
    (conforms : first.conforms setting.document = true) :
    RelatesFields setting.SameTruth first second layout .document := by
  intro segments place resolved expression reducible rows
  have denotes : place.Denotes setting.document rows (setting.document.lookup? segments) :=
    Location.resolve?_document_denotes resolved conforms
  have tells (schema : Schema) :
      (patternTest schema (.ofRegex expression) expression.caseInsensitive place).holds
          (setting.isTrue rows) =
        (setting.document.lookup? segments).any (matchesRegex expression) := by
    let judged : Setting := { setting with schema, exact := True }
    have whole : Tells judged (judged.At place)
        (patternTest judged.schema (.ofRegex expression) expression.caseInsensitive place)
        fun v? => v?.any (matchesRegex expression) :=
      patternTest_tells reducible fun _ => TextPattern.accepts_ofRegex reducible
    exact whole.holds trivial rows _ denotes
  rw [tells first, tells second]

namespace CompiledQuery

/-- A document is selected: the text of the query is read as one expression, which is true of the
document in the store, and the residual accepts the document. -/
def Selects (store : Store) (document : Json) (query : CompiledQuery) : Prop :=
  ∃ expression, Sql.read query.tokens = some expression ∧
    documentTruth store document expression Rows.initial = some true ∧
      query.residualAccepts document = true

theorem selects_iff {store : Store} {document : Json} {query : CompiledQuery}
    (readable : query.pushed.Normal (Test.Readable query.column)) :
    query.Selects store document ↔
      query.pushed.holds (Test.isTrue store document query.column Rows.initial) = true ∧
        query.residualAccepts document = true := by
  have read : Sql.read query.tokens = some (query.pushed.phrases query.column).expression :=
    readable.phrases.read_tokens.read
  rw [Selects, read, ← readable.documentTruth_iff]
  simp

/-- What is pushed can be read, whatever has been cached. -/
theorem ofSelector_readable (schema : Schema) (layout : Layout) (selector : Selector)
    (s : PushState) :
    let query := ((ofSelector schema layout selector).run s).1
    query.pushed.Normal (Test.Readable query.column) := by
  have stored : (Setting.undecided schema layout .null).Stored := False.elim
  have uncached : (Setting.undecided schema layout .null).Uncached s := False.elim
  obtain ⟨_, _, divides⟩ := ofSelector_divides stored selector False.elim uncached
  exact divides.tells.readable

/-- Conditions that hold somewhere are not the constant false, and leave what was declined. -/
theorem residualOf_eq {c d : Condition Test} {value : Test → Bool} (left : c.holds value = true)
    (right : d.holds value = true) (declined : List Selector) :
    residualOf c declined = residualOf d declined := by
  have possible {c : Condition Test} (holds : c.holds value = true) : c.isFalse = false := by
    by_contra impossible
    rw [Bool.not_eq_false, Condition.isFalse_iff] at impossible
    rw [impossible] at holds
    cases holds
  simp only [residualOf, possible left, possible right]

/-- Under other indexes a selector selects the same conforming documents. -/
theorem selects_reindexed (store : Store) {first second : Schema}
    (fields : first.fields = second.fields) (layout : Layout) (selector : Selector)
    {s t : PushState} (alike : s.Alike t) {document : Json}
    (conforms : first.conforms document = true) :
    ((ofSelector first layout selector).run s).1.Selects store document ↔
      ((ofSelector second layout selector).run t).1.Selects store document := by
  let setting : Setting := { store, schema := first, layout, document, exact := True }
  have push : ∀ a b : Selector, a = b → Parallel setting.SameTruth
      (a.push first layout .document) (b.push second layout .document) := by
    rintro a _ rfl
    exact a.push_reindexed fields Setting.SameTruth.joinable (.sameTruth conforms)
  have same : List.Forall₂ Eq selector.conjuncts selector.conjuncts :=
    List.forall₂_same.mpr fun _ _ => rfl
  obtain ⟨pushed, declined, -⟩ := divide_parallel push same alike
  rw [List.forall₂_eq_eq_eq] at declined
  have truth := Setting.SameTruth.joinable.all pushed Rows.initial
  rw [selects_iff (ofSelector_readable first layout selector s),
    selects_iff (ofSelector_readable second layout selector t), ofSelector_run, ofSelector_run]
  dsimp only
  rw [← declined]
  generalize Condition.all _ = c at truth ⊢
  generalize Condition.all _ = d at truth ⊢
  show c.holds (setting.isTrue Rows.initial) = true ∧ _ ↔
    d.holds (setting.isTrue Rows.initial) = true ∧ _
  rw [← truth]
  apply and_congr_right
  intro holds
  rw [residualAccepts, residualAccepts, residualOf_eq holds (truth ▸ holds)]

/-- What is written for a text pattern is one comparison with one argument. It is true of the texts
that the pattern describes, with and without an index in lower case, and the indexes of a schema
change nothing about which conforming documents a selector selects. -/
theorem pattern_tests_describe :
    (∀ (pattern : TextPattern) (ignoreCase lowerIndex : Bool), pattern ≠ .irreducible →
      let (test, operand) := textTest pattern ignoreCase lowerIndex
      (∀ place column, (Test.text place test operand).clause column =
        ⟨test.comparison.sql (place.value column), [.text operand], true⟩) ∧
      ∀ text, test.comparison.holds text operand = true ↔ pattern.Describes ignoreCase text) ∧
    ∀ (store : Store) (first second : Schema) (layout : Layout) (selector : Selector)
      (s t : PushState) (document : Json), first.fields = second.fields → s.Alike t →
      first.conforms document = true →
      (((ofSelector first layout selector).run s).1.Selects store document ↔
        ((ofSelector second layout selector).run t).1.Selects store document) := by
  constructor
  · intro pattern ignoreCase lowerIndex reducible
    refine ⟨?_, textTest_describes reducible ignoreCase lowerIndex⟩
    intro place column
    rw [TextTest.comparison_sql]
    rfl
  · intro store first second layout selector s t document fields alike conforms
    exact selects_reindexed store fields layout selector alike conforms

/-- Wildcards in a literal are escaped whether the pattern is put in lower case before it is bound
or in the store. -/
theorem pattern_tests_describe_wildcards :
    let first : Schema := {
      version := 1, fields := [("a", ⟨.string, false⟩)], indexes := [⟨"a", .lowercase⟩] }
    let second : Schema := { first with indexes := [] }
    let selector : Selector := .ofJson (.object [
      ("a", .object [("$regex", .string "^A_%"), ("$options", .string "i")])])
    let document : Json := .object [("a", .string "a_%c")]
    let pattern : TextPattern := .starts "A_%"
    textTest pattern true true = (.lowerLike, "a\\_\\%%") ∧
      textTest pattern true false = (.lowerLikeLower, "A\\_\\%%") ∧
      pattern ≠ .irreducible ∧ PushState.Alike {} {} ∧ first.conforms document = true ∧
      (∀ lowerIndex, (textTest pattern true lowerIndex).1.comparison.holds "a_%c"
        (textTest pattern true lowerIndex).2 = true) ∧
      ∀ store, (((ofSelector first .standard selector).run {}).1.Selects store document ↔
        ((ofSelector second .standard selector).run {}).1.Selects store document) := by
  intro first second selector document pattern
  have conforms : first.conforms document = true := by decide
  have described : pattern.Describes true "a_%c" := by decide
  have reducible : pattern ≠ .irreducible := by nofun
  refine ⟨by decide, by decide, reducible, .fresh, conforms, ?_, ?_⟩
  · intro lowerIndex
    exact ((pattern_tests_describe.1 pattern true lowerIndex reducible).2 _).mpr described
  · intro store
    exact pattern_tests_describe.2 store first second .standard selector {} {} document rfl
      .fresh conforms

end CompiledQuery

end Pushdown
