import Pushdown.Proofs.Selector.Remainder

/-!
# The store and the matcher agree

A compiled query is sent to the store as text with arguments, and what the store fetches is filtered
by the residual. The text has tokens, which are read as one expression. Its leaves are predicates,
with an argument for each placeholder, and what they are true of follows from their text and these
arguments. A document satisfies the expression and the residual exactly when the matcher accepts it
for the whole selector.
-/

namespace Pushdown

open Sql (Token Predicate)

/-! ## Arguments -/

def tokenArgs : Token Predicate ScanSource → List Argument
  | .leaf predicate => predicate.args
  | _ => []

theorem flatMap_separated {α ι σ : Type} {f : Token ι σ → List α} {separator : Token ι σ}
    (nothing : f separator = []) (groups : List (List (Token ι σ))) :
    (Token.separated separator groups).flatMap f = groups.flatMap (·.flatMap f) := by
  induction groups with
  | nil => rfl
  | cons first rest ih =>
      cases rest with
      | nil => simp [Token.separated]
      | cons next rest =>
          have split : Token.separated separator (first :: next :: rest) =
              first ++ separator :: Token.separated separator (next :: rest) := rfl
          rw [split, List.flatMap_append, List.flatMap_cons, nothing, ih]
          rfl

theorem flatMap_enclosed {α ι σ : Type} {f : Token ι σ → List α} {first last : Token ι σ}
    (nothing : f first = [] ∧ f last = []) (tokens : List (Token ι σ)) :
    (first :: (tokens ++ [last])).flatMap f = tokens.flatMap f := by
  simp [nothing]

mutual

theorem Test.phrase_args (column : String) : ∀ test : Test,
    (test.phrase column).tokens.flatMap tokenArgs = (test.clause column).args
  | .scan place number body => by
    have inner := Condition.phrases_args column body
    rw [Test.phrase, Test.clause]
    cases body with
    | const b => cases b <;> rfl
    | leaf | allOf | anyOf | negation => exact (flatMap_enclosed ⟨rfl, rfl⟩ _).trans inner
  | .isNull _ | .present _ true | .present _ false | .hasType _ _ | .equals _ _ | .compares _ _ _
  | .memberOf _ _ | .hasLength _ _ | .leavesRemainder _ _ _ | .text _ _ _ => by
    rw [← Test.phrase_clause]
    exact List.append_nil _

theorem Condition.phrases_args (column : String) : ∀ c : Condition Test,
    (c.phrases column).tokens.flatMap tokenArgs = (c.clauses column).args
  | .const _ => rfl
  | .leaf test => Test.phrase_args column test
  | .allOf children => by
    rw [Condition.phrases, Condition.tokens, flatMap_separated rfl]
    exact Condition.phrasesAll_args column children
  | .anyOf children => by
    have parts (tokens : List (Token Predicate ScanSource)) :
        (Condition.parenthesised tokens).flatMap tokenArgs =
          tokens.flatMap tokenArgs := flatMap_enclosed ⟨rfl, rfl⟩ tokens
    rw [Condition.phrases, Condition.tokens, parts, flatMap_separated rfl, List.flatMap_map]
    simp only [parts]
    exact Condition.phrasesAll_args column children
  | .negation child => by
    have inner := Condition.phrases_args column child
    rw [Condition.phrases, Condition.tokens, List.flatMap_cons]
    split
    · exact (flatMap_enclosed ⟨rfl, rfl⟩ _).trans inner
    · exact (flatMap_enclosed ⟨rfl, rfl⟩ _).trans inner

theorem Condition.phrasesAll_args (column : String) : ∀ children : List (Condition Test),
    (Condition.tokensAll (Condition.phrasesAll column children)).flatMap
        (·.flatMap tokenArgs) =
      Condition.argsAll (Condition.clausesAll column children)
  | [] => rfl
  | child :: rest => by
    rw [Condition.phrasesAll, Condition.tokensAll, List.flatMap_cons, Condition.clausesAll,
      Condition.argsAll, Condition.phrases_args column child,
      Condition.phrasesAll_args column rest]

end

namespace CompiledQuery

/-! ## The text of a query -/

variable {query : CompiledQuery}

def tokens (query : CompiledQuery) : List (Token Predicate ScanSource) :=
  (query.pushed.phrases query.column).tokens

/-- A query that fetches every document is written like its condition, too. -/
theorem whereSql_and_args (query : CompiledQuery) :
    query.whereSql = (query.pushed.clauses query.column).sql ∧
      query.args = (query.pushed.clauses query.column).args := by
  rw [whereSql, args, fragment?]
  by_cases always : query.pushed.isTrue = true
  · rw [if_pos always, Condition.isTrue_iff.mp always]
    exact ⟨rfl, rfl⟩
  · rw [if_neg always]
    exact ⟨rfl, rfl⟩

theorem textOf_tokens (readable : query.pushed.Normal (Test.Readable query.column)) :
    Token.textOf (Predicate.spelling query.column) query.tokens = query.whereSql := by
  rw [(whereSql_and_args query).1, tokens, readable.phrases.textOf_tokens,
    Condition.map_phrases_clause]

theorem tokens_args (query : CompiledQuery) :
    query.tokens.flatMap tokenArgs = query.args := by
  rw [(whereSql_and_args query).2, tokens, Condition.phrases_args]

/-! ## Agreement -/

/-- A compiled query selects what the matcher selects. Its text is that of tokens, which have the
arguments of the query at their placeholders and are read as one expression of predicates; and a
conforming document is accepted by the matcher exactly when the expression is true in the store and
the residual accepts the document. The selector asks for no remainder, which the store computes
differently. -/
theorem accepts_iff_fetched (store : Store) (schema : Schema) (layout : Layout) (selector : Json)
    (noModulo : (Selector.ofJson selector).usesModulo = false) (document : Json)
    (conforms : schema.conforms document = true) (fits : document.fitsMemory = true) :
    let query := CompiledQuery.compile schema layout selector
    Token.textOf (Predicate.spelling query.column) query.tokens = query.whereSql ∧
    query.tokens.flatMap tokenArgs = query.args ∧
    ∃ expression, Sql.read query.tokens = some expression ∧
      ((Selector.ofJson selector).accepts document = true ↔
        documentTruth store document expression Rows.initial = some true ∧
          query.residualAccepts document = true) := by
  intro query
  let setting : Setting := {
    store := store, schema := schema, layout := layout, document := document, exact := True }
  have stored : setting.Stored := fun _ => fits
  have uncached : setting.Uncached {} := fun _ => rfl
  obtain ⟨kept, declined, divides⟩ : ∃ kept declined,
      query.DividesSelector setting (Selector.ofJson selector) kept declined :=
    CompiledQuery.ofSelector_divides stored _ (fun _ => noModulo) uncached
  have readable : query.pushed.Normal (Test.Readable query.column) := by
    rw [divides.column]
    exact divides.tells.readable
  refine ⟨textOf_tokens readable, tokens_args query, _, readable.phrases.read_tokens.read, ?_⟩
  have holds : query.pushed.holds (setting.isTrue Rows.initial) =
      Selector.acceptAll kept document :=
    divides.tells.holds trivial Rows.initial document ⟨rfl, conforms⟩
  have truth : documentTruth store document (query.pushed.phrases query.column).expression
      Rows.initial = some true ↔ Selector.acceptAll kept document = true := by
    rw [readable.documentTruth_iff, ← holds, divides.column]
    rfl
  rw [truth, divides.accepts, Bool.and_eq_true]
  apply and_congr_right
  intro accepted
  rw [divides.residualAccepts]
  by_contra impossible
  rw [Bool.not_eq_false, Condition.isFalse_iff] at impossible
  have rejected := divides.tells.decided false impossible Rows.initial document ⟨rfl, conforms⟩
  rw [rejected] at accepted
  cases accepted

/-- A selector with a conjunct for each side. -/
theorem accepts_iff_fetched_both :
    let schema : Schema := { version := 1, fields := [("a", ⟨.string, true⟩)], indexes := [] }
    let selector : Json := .object [("a", .string "x"), ("b", .array [])]
    let document : Json := .object [("a", .string "x"), ("b", .array [])]
    let query := CompiledQuery.compile schema .standard selector
    (Selector.ofJson selector).usesModulo = false ∧ schema.conforms document = true ∧
      document.fitsMemory = true ∧ query.hasResidual = true ∧
      ∃ expression, Sql.read query.tokens = some expression ∧
        documentTruth ⟨fun _ => "", fun _ _ _ => none⟩ document expression Rows.initial =
          some true := by
  intro schema selector document query
  have noModulo : (Selector.ofJson selector).usesModulo = false :=
    Selector.usesModulo_ofJson (by decide)
  have conforms : schema.conforms document = true := by decide
  have fits : document.fitsMemory = true := by decide
  obtain ⟨-, -, expression, read, agree⟩ := accepts_iff_fetched ⟨fun _ => "", fun _ _ _ => none⟩
    schema .standard selector noModulo document conforms fits
  refine ⟨noModulo, conforms, fits, by decide, expression, read, ?_⟩
  exact (agree.mp (by decide)).1

end CompiledQuery

end Pushdown
