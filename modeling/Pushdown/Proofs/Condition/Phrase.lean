import Pushdown.Proofs.Condition.NormalForm
import Pushdown.Proofs.Condition.Reading

/-!
# The text of conditions and what it means

A phrase is a clause together with the tokens of its text and the expression that these are read as.
A condition over phrases therefore has tokens and an expression as well as the text that the
compiler writes.

For a condition in normal form the tokens are the tokens of that text, they are read as the
expression, and the expression is true exactly where the condition holds when NULL counts as false.
A condition that is not nullable is never NULL, so a negation can leave out `COALESCE`.
-/

namespace Pushdown

open Sql (Token Expression Spelling Reads ReadsWhole)

/-- A clause with the tokens of its text and the expression that they are read as. -/
structure Phrase (ι σ : Type) where
  clause : Clause
  tokens : List (Token ι σ)
  expression : Expression ι σ

variable {ι σ ρ : Type}

/-- The tokens are those of the text of the clause and are read as the expression. -/
structure Phrase.Readable (spelling : Spelling ι σ) (phrase : Phrase ι σ) : Prop where
  text : Token.textOf spelling phrase.tokens = phrase.clause.sql
  reads : Reads phrase.tokens phrase.expression

/-- A clause that is not nullable is never NULL. -/
def Phrase.Sound (value : ι → ρ → Option Bool) (rows : σ → ρ → List ρ) (phrase : Phrase ι σ) :
    Prop :=
  phrase.clause.nullable = false → ∀ row, phrase.expression.truth value rows row ≠ none

namespace Condition

/-! ## Tokens and expressions -/

def nullablePhrases (c : Condition (Phrase ι σ)) : Bool := nullable (c.map Phrase.clause)

def parenthesised (tokens : List (Token ι σ)) : List (Token ι σ) :=
  .opening :: (tokens ++ [.closing])

mutual

def tokens : Condition (Phrase ι σ) → List (Token ι σ)
  | .const b => [.constant b]
  | .leaf phrase => phrase.tokens
  | .allOf children => Token.separated .and (tokensAll children)
  | .anyOf children => parenthesised (Token.separated .or ((tokensAll children).map parenthesised))
  | .negation child =>
    .not :: (if child.nullablePhrases then .coalesce :: (tokens child ++ [.orFalse])
      else parenthesised (tokens child))

def tokensAll : List (Condition (Phrase ι σ)) → List (List (Token ι σ))
  | [] => []
  | child :: rest => tokens child :: tokensAll rest

end

mutual

/-- The expression that the text of a condition is read as. -/
def expression : Condition (Phrase ι σ) → Expression ι σ
  | .const b => .constant b
  | .leaf phrase => phrase.expression
  | .allOf children =>
    match expressionAll children with
    | [] => .constant true
    | first :: rest => .chain .and none first rest
  | .anyOf children =>
    match expressionAll children with
    | [] => .constant false
    | first :: rest => .chain .or none first rest
  | .negation child =>
    .not (if child.nullablePhrases then .orFalse (expression child) else expression child)

def expressionAll : List (Condition (Phrase ι σ)) → List (Expression ι σ)
  | [] => []
  | child :: rest => expression child :: expressionAll rest

end

theorem tokensAll_eq (children : List (Condition (Phrase ι σ))) :
    tokensAll children = children.map tokens := by
  induction children with
  | nil => rfl
  | cons child rest ih => simp [tokensAll, ih]

theorem expressionAll_eq (children : List (Condition (Phrase ι σ))) :
    expressionAll children = children.map expression := by
  induction children with
  | nil => rfl
  | cons child rest ih => simp [expressionAll, ih]

theorem sqlAll_eq (children : List (Condition Clause)) : sqlAll children = children.map sql := by
  induction children with
  | nil => rfl
  | cons child rest ih => simp [sqlAll, ih]

theorem anyNullable_eq (children : List (Condition Clause)) :
    anyNullable children = children.any nullable := by
  induction children with
  | nil => rfl
  | cons child rest ih => simp [anyNullable, ih]

theorem nullablePhrases_allOf (children : List (Condition (Phrase ι σ))) :
    nullablePhrases (.allOf children) = children.any nullablePhrases := by
  rw [nullablePhrases, map_allOf, nullable, anyNullable_eq, List.any_map]
  rfl

theorem nullablePhrases_anyOf (children : List (Condition (Phrase ι σ))) :
    nullablePhrases (.anyOf children) = children.any nullablePhrases := by
  rw [nullablePhrases, map_anyOf, nullable, anyNullable_eq, List.any_map]
  rfl

/-! ## The tokens are those of the text -/

variable {spelling : Spelling ι σ}

theorem textOf_enclosed (first last : Token ι σ) (tokens : List (Token ι σ)) :
    Token.textOf spelling (first :: (tokens ++ [last])) =
      first.text spelling ++ Token.textOf spelling tokens ++ last.text spelling := by
  simp only [Token.textOf_cons, Token.textOf_append, Token.textOf_nil, String.append_empty,
    ← String.append_assoc]

theorem textOf_parenthesised (tokens : List (Token ι σ)) :
    Token.textOf spelling (parenthesised tokens) = "(" ++ Token.textOf spelling tokens ++ ")" :=
  textOf_enclosed .opening .closing tokens

theorem Proper.textOf_tokens {c : Condition (Phrase ι σ)}
    (h : Proper (Phrase.Readable spelling) c) :
    Token.textOf spelling c.tokens = (c.map Phrase.clause).sql := by
  induction h with
  | leaf readable => exact readable.text
  | @allOf children _ _ _ ih =>
      have texts : (children.map tokens).map (Token.textOf spelling) =
          (children.map (map Phrase.clause)).map sql := by
        rw [List.map_map, List.map_map]
        exact List.map_congr_left ih
      rw [map_allOf, tokens, sql, tokensAll_eq, sqlAll_eq, Token.textOf_separated, texts]
      rfl
  | @anyOf children _ _ _ ih =>
      have texts : ((children.map tokens).map parenthesised).map (Token.textOf spelling) =
          ((children.map (map Phrase.clause)).map sql).map fun part => "(" ++ part ++ ")" := by
        simp only [List.map_map]
        apply List.map_congr_left
        intro c hc
        simp only [Function.comp_apply, textOf_parenthesised, ih c hc]
      rw [map_anyOf, tokens, sql, tokensAll_eq, sqlAll_eq, textOf_parenthesised,
        Token.textOf_separated, texts]
      rfl
  | @negation child _ _ ih =>
      rw [map_negation, tokens, sql, Token.textOf_cons, ← nullablePhrases]
      split
      · rw [textOf_enclosed, ih, ← String.append_assoc, ← String.append_assoc]
        rfl
      · rw [textOf_parenthesised, ih, ← String.append_assoc, ← String.append_assoc]
        rfl

/-- A condition in normal form is written as its tokens. -/
theorem Normal.textOf_tokens {c : Condition (Phrase ι σ)}
    (h : Normal (Phrase.Readable spelling) c) :
    Token.textOf spelling c.tokens = (c.map Phrase.clause).sql := by
  cases h with
  | const b => cases b <;> exact String.append_empty
  | proper proper => exact proper.textOf_tokens

/-! ## The tokens are read as the expression -/

theorem forall₂_map_reads {α : Type} {f : α → List (Token ι σ)} {g : α → Expression ι σ}
    {parts : List α} (h : ∀ part ∈ parts, Reads (f part) (g part)) :
    List.Forall₂ Reads (parts.map f) (parts.map g) := by
  rw [List.forall₂_map_left_iff, List.forall₂_map_right_iff, List.forall₂_same]
  exact h

/-- A part of a conjunction that is no conjunction itself needs no parentheses. -/
theorem Proper.reads {c : Condition (Phrase ι σ)} (h : Proper (Phrase.Readable spelling) c) :
    ReadsWhole c.tokens c.expression ∧ (c.isAllOf = false → Reads c.tokens c.expression) := by
  have operand {c : Condition (Phrase ι σ)} (reads : Reads c.tokens c.expression) :
      ReadsWhole c.tokens c.expression ∧ (c.isAllOf = false → Reads c.tokens c.expression) :=
    ⟨reads.whole, fun _ => reads⟩
  induction h with
  | leaf readable => exact operand readable.reads
  | @allOf children many _ flat ih =>
      have reads (c : Condition (Phrase ι σ)) (hc : c ∈ children) : Reads c.tokens c.expression :=
        (ih c hc).2 (flat c hc)
      obtain ⟨first, rest, rfl⟩ := List.exists_cons_of_length_pos (Nat.zero_lt_of_lt many)
      constructor
      · rw [tokens, expression, tokensAll_eq, expressionAll_eq]
        exact Sql.readsWhole_conjunction (reads first (by simp))
          (forall₂_map_reads fun c hc => reads c (by simp [hc]))
      · intro isAllOf
        cases isAllOf
  | @anyOf children many _ _ ih =>
      have reads (c : Condition (Phrase ι σ)) (hc : c ∈ children) :
          Reads (parenthesised c.tokens) c.expression := (ih c hc).1.parenthesised
      apply operand
      obtain ⟨first, rest, rfl⟩ := List.exists_cons_of_length_pos (Nat.zero_lt_of_lt many)
      rw [tokens, expression, tokensAll_eq, expressionAll_eq, List.map_map]
      apply ReadsWhole.parenthesised
      exact Sql.readsWhole_disjunction (reads first (by simp))
        (forall₂_map_reads fun c hc => reads c (by simp [hc]))
  | @negation child _ _ ih =>
      apply operand
      rw [tokens, expression]
      split
      · exact ih.1.orFalse.not
      · exact ih.1.parenthesised.not

/-- The text of a condition in normal form is read as its expression. -/
theorem Normal.read_tokens {c : Condition (Phrase ι σ)} (h : Normal (Phrase.Readable spelling) c) :
    ReadsWhole c.tokens c.expression := by
  cases h with
  | const b => exact (Sql.reads_constant b).whole
  | proper proper => exact proper.reads.1

/-! ## The expression is true where the condition holds -/

variable {value : ι → ρ → Option Bool} {rows : σ → ρ → List ρ}

/-- A condition that is not nullable is never NULL. -/
theorem Proper.truth_ne_none {c : Condition (Phrase ι σ)} (h : Proper (Phrase.Sound value rows) c) :
    c.nullablePhrases = false → ∀ row, c.expression.truth value rows row ≠ none := by
  induction h with
  | leaf sound => exact sound
  | @allOf children many _ _ ih =>
      intro notNullable row
      rw [nullablePhrases_allOf, List.any_eq_false] at notNullable
      have parts (c : Condition (Phrase ι σ)) (hc : c ∈ children) :
          c.expression.truth value rows row ≠ none :=
        ih c hc (by simpa using notNullable c hc) row
      obtain ⟨first, rest, rfl⟩ := List.exists_cons_of_length_pos (Nat.zero_lt_of_lt many)
      rw [expression, expressionAll_eq]
      exact Expression.truth_chain_and_ne_none (by simpa using parts)
  | @anyOf children many _ _ ih =>
      intro notNullable row
      rw [nullablePhrases_anyOf, List.any_eq_false] at notNullable
      have parts (c : Condition (Phrase ι σ)) (hc : c ∈ children) :
          c.expression.truth value rows row ≠ none :=
        ih c hc (by simpa using notNullable c hc) row
      obtain ⟨first, rest, rfl⟩ := List.exists_cons_of_length_pos (Nat.zero_lt_of_lt many)
      rw [expression, expressionAll_eq]
      exact Expression.truth_chain_or_ne_none (by simpa using parts)
  | @negation child _ _ ih =>
      intro _ row
      rw [expression, Expression.truth]
      split
      · simp [Expression.truth]
      · next notNullable =>
        simpa using ih (by simpa using notNullable) row

/-- The expression of a condition is true where the condition holds, a leaf holding where it is
true. -/
theorem Proper.truth_iff {c : Condition (Phrase ι σ)} (h : Proper (Phrase.Sound value rows) c)
    (row : ρ) :
    c.expression.truth value rows row = some true ↔
      c.holds (fun phrase => phrase.expression.truth value rows row == some true) = true := by
  induction h with
  | leaf => simp [expression]
  | @allOf children many _ _ ih =>
      rw [holds_allOf, List.all_eq_true, ← forall₂_congr ih]
      obtain ⟨first, rest, rfl⟩ := List.exists_cons_of_length_pos (Nat.zero_lt_of_lt many)
      rw [expression, expressionAll_eq]
      simp [Expression.truth_chain_and]
  | @anyOf children many _ _ ih =>
      have parts : (∃ c ∈ children, c.expression.truth value rows row = some true) ↔
          ∃ c ∈ children, c.holds (fun phrase =>
            phrase.expression.truth value rows row == some true) = true :=
        exists_congr fun c => and_congr_right (ih c)
      rw [holds_anyOf, List.any_eq_true, ← parts]
      obtain ⟨first, rest, rfl⟩ := List.exists_cons_of_length_pos (Nat.zero_lt_of_lt many)
      rw [expression, expressionAll_eq]
      simp [Expression.truth_chain_or]
  | @negation child proper _ ih =>
      rw [holds_negation, Bool.not_eq_true', ← Bool.not_eq_true, ← ih, expression,
        Expression.truth]
      split
      · rw [Expression.truth]
        rcases child.expression.truth value rows row with _ | _ | _ <;> simp
      · next notNullable =>
        have known := proper.truth_ne_none (by simpa using notNullable) row
        revert known
        rcases child.expression.truth value rows row with _ | _ | _ <;> simp

theorem Normal.truth_ne_none {c : Condition (Phrase ι σ)} (h : Normal (Phrase.Sound value rows) c)
    (notNullable : c.nullablePhrases = false) (row : ρ) :
    c.expression.truth value rows row ≠ none := by
  cases h with
  | const b => simp [expression, Expression.truth]
  | proper proper => exact proper.truth_ne_none notNullable row

theorem Normal.truth_iff {c : Condition (Phrase ι σ)} (h : Normal (Phrase.Sound value rows) c)
    (row : ρ) :
    c.expression.truth value rows row = some true ↔
      c.holds (fun phrase => phrase.expression.truth value rows row == some true) = true := by
  cases h with
  | const b => simp [expression, Expression.truth]
  | proper proper => exact proper.truth_iff row

end Condition

end Pushdown
