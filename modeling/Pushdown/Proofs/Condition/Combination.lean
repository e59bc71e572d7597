import Pushdown.Proofs.Condition.Phrase

/-!
# Boolean combinations as SQL

A combination is what was asked for: leaves joined by conjunction, disjunction, negation and scans
in any way, before anything is simplified. `condition` builds it with the building functions of
conditions, so that constants disappear, groups are merged and double negations cancel.

The SQL text of the built condition is true in exactly those rows in which the combination holds
when every NULL leaf is read as false, and a condition that is not nullable is never NULL.
-/

namespace Pushdown

open Sql (Token Expression Spelling)

/-- A Boolean combination of leaves. A strict leaf is one that SQL never evaluates to NULL. -/
inductive Combination (ι κ σ : Type) where
  | const (value : Bool)
  | leaf (name : ι)
  | strict (name : κ)
  | all (parts : List (Combination ι κ σ))
  | any (parts : List (Combination ι κ σ))
  | negate (part : Combination ι κ σ)
  /-- Some row of a source satisfies the body. -/
  | someRow (source : σ) (body : Combination ι κ σ)

structure Writing (ι κ σ : Type) where
  leaf : ι → Fragment
  strict : κ → Fragment
  source : σ → String
  rowName : σ → String

/-- The truth values of leaves in every row, and the inner rows of every source. -/
structure Assignment (ι κ σ ρ : Type) where
  leaf : ι → ρ → Option Bool
  strict : κ → ρ → Bool
  rows : σ → ρ → List ρ

variable {ι κ σ ρ : Type}

def Writing.spelling (writing : Writing ι κ σ) : Spelling (ι ⊕ κ) σ where
  leaf := Sum.elim (fun name => (writing.leaf name).sql) fun name => (writing.strict name).sql
  source source := writing.source source ++ " AS " ++ writing.rowName source

def Assignment.value (assignment : Assignment ι κ σ ρ) : ι ⊕ κ → ρ → Option Bool :=
  Sum.elim assignment.leaf fun name row => some (assignment.strict name row)

namespace Combination

mutual

/-- Whether a combination holds in a row, NULL read as false. -/
def holds (assignment : Assignment ι κ σ ρ) : Combination ι κ σ → ρ → Bool
  | .const b, _ => b
  | .leaf name, row => assignment.leaf name row == some true
  | .strict name, row => assignment.strict name row
  | .all parts, row => holdAll assignment parts row
  | .any parts, row => holdAny assignment parts row
  | .negate part, row => !holds assignment part row
  | .someRow source body, row =>
    (assignment.rows source row).any fun inner => holds assignment body inner

def holdAll (assignment : Assignment ι κ σ ρ) : List (Combination ι κ σ) → ρ → Bool
  | [], _ => true
  | part :: rest, row => holds assignment part row && holdAll assignment rest row

def holdAny (assignment : Assignment ι κ σ ρ) : List (Combination ι κ σ) → ρ → Bool
  | [], _ => false
  | part :: rest, row => holds assignment part row || holdAny assignment rest row

end

def clause (fragment : Fragment) (nullable : Bool) : Clause :=
  ⟨fragment.sql, fragment.args, nullable⟩

mutual

/-- The condition that is built for a combination. -/
def condition (writing : Writing ι κ σ) : Combination ι κ σ → Condition Clause
  | .const b => .const b
  | .leaf name => .leaf (clause (writing.leaf name) true)
  | .strict name => .leaf (clause (writing.strict name) false)
  | .all parts => .all (conditions writing parts)
  | .any parts => .any (conditions writing parts)
  | .negate part => .negate (condition writing part)
  | .someRow source body =>
    .someRow (writing.source source) (writing.rowName source) (condition writing body)

def conditions (writing : Writing ι κ σ) : List (Combination ι κ σ) → List (Condition Clause)
  | [] => []
  | part :: rest => condition writing part :: conditions writing rest

end

/-! ## The same conditions with their tokens -/

/-- The condition that a row of a source satisfies a body, with its tokens. -/
def someRowPhrase (writing : Writing ι κ σ) (source : σ) :
    Condition (Phrase (ι ⊕ κ) σ) → Condition (Phrase (ι ⊕ κ) σ)
  | .const false => .const false
  | .const true => .leaf {
      clause := Condition.existsClause (writing.source source) (writing.rowName source) none
      tokens := [.someRow source]
      expression := .someRow source }
  | body => .leaf {
      clause := Condition.existsClause (writing.source source) (writing.rowName source)
        (some (body.map Phrase.clause).fragment)
      tokens := .someRowWhere source :: (body.tokens ++ [.closing])
      expression := .someRowWhere source body.expression }

mutual

/-- The condition that is built for a combination, with its tokens. -/
def phrases (writing : Writing ι κ σ) : Combination ι κ σ → Condition (Phrase (ι ⊕ κ) σ)
  | .const b => .const b
  | .leaf name =>
    .leaf ⟨clause (writing.leaf name) true, [.leaf (.inl name)], .leaf (.inl name)⟩
  | .strict name =>
    .leaf ⟨clause (writing.strict name) false, [.leaf (.inr name)], .leaf (.inr name)⟩
  | .all parts => .all (phrasesAll writing parts)
  | .any parts => .any (phrasesAll writing parts)
  | .negate part => .negate (phrases writing part)
  | .someRow source body => someRowPhrase writing source (phrases writing body)

def phrasesAll (writing : Writing ι κ σ) :
    List (Combination ι κ σ) → List (Condition (Phrase (ι ⊕ κ) σ))
  | [] => []
  | part :: rest => phrases writing part :: phrasesAll writing rest

end

def tokens (writing : Writing ι κ σ) (combination : Combination ι κ σ) : List (Token (ι ⊕ κ) σ) :=
  (combination.phrases writing).tokens

variable (writing : Writing ι κ σ)

theorem map_someRowPhrase (source : σ) (body : Condition (Phrase (ι ⊕ κ) σ)) :
    (someRowPhrase writing source body).map Phrase.clause =
      .someRow (writing.source source) (writing.rowName source) (body.map Phrase.clause) := by
  cases body with
  | const b => cases b <;> rfl
  | leaf | allOf | anyOf | negation => rfl

mutual

theorem map_phrases : ∀ combination : Combination ι κ σ,
    (combination.phrases writing).map Phrase.clause = combination.condition writing
  | .const _ => rfl
  | .leaf _ => rfl
  | .strict _ => rfl
  | .all parts => by
    rw [phrases, condition, Condition.map_all, map_phrasesAll parts]
  | .any parts => by
    rw [phrases, condition, Condition.map_any, map_phrasesAll parts]
  | .negate part => by
    rw [phrases, condition, Condition.map_negate, map_phrases part]
  | .someRow source body => by
    rw [phrases, condition, map_someRowPhrase, map_phrases body]

theorem map_phrasesAll : ∀ parts : List (Combination ι κ σ),
    (phrasesAll writing parts).map (Condition.map Phrase.clause) = conditions writing parts
  | [] => rfl
  | part :: rest => by
    rw [phrasesAll, conditions, List.map_cons, map_phrases part, map_phrasesAll rest]

end

/-! ## Readings and truth values -/

variable (assignment : Assignment ι κ σ ρ)

/-- The text of a phrase is read as its expression, which is NULL only if the clause is nullable. -/
def Faithful (phrase : Phrase (ι ⊕ κ) σ) : Prop :=
  phrase.Readable writing.spelling ∧ phrase.Sound assignment.value assignment.rows

def isTrueIn (row : ρ) (phrase : Phrase (ι ⊕ κ) σ) : Bool :=
  phrase.expression.truth assignment.value assignment.rows row == some true

variable {writing assignment}

theorem select_source (source : σ) :
    "EXISTS(SELECT 1 FROM " ++ writing.spelling.source source =
      "EXISTS(SELECT 1 FROM " ++ writing.source source ++ " AS " ++ writing.rowName source := by
  rw [Writing.spelling, ← String.append_assoc, ← String.append_assoc]

theorem normal_someRowPhrase (source : σ) {body : Condition (Phrase (ι ⊕ κ) σ)}
    (h : body.Normal (Faithful writing assignment)) :
    (someRowPhrase writing source body).Normal (Faithful writing assignment) := by
  have known (phrase : Phrase (ι ⊕ κ) σ)
      (strict : ∀ row, phrase.expression.truth assignment.value assignment.rows row ≠ none) :
      phrase.Sound assignment.value assignment.rows := fun _ => strict
  have readable : body.Normal (Phrase.Readable writing.spelling) :=
    h.imp fun _ faithful => faithful.1
  have filtered : Faithful writing assignment {
      clause := Condition.existsClause (writing.source source) (writing.rowName source)
        (some (body.map Phrase.clause).fragment)
      tokens := .someRowWhere source :: (body.tokens ++ [.closing])
      expression := .someRowWhere source body.expression } := by
    refine ⟨⟨?_, readable.read_tokens.someRowWhere source⟩, known _ fun _ => by
      simp [Expression.truth]⟩
    rw [Condition.textOf_enclosed, readable.textOf_tokens]
    exact congrArg (· ++ " WHERE " ++ (body.map Phrase.clause).sql ++ ")") (select_source source)
  cases body with
  | const b =>
      cases b
      · exact .const false
      · refine .leaf ⟨⟨?_, Sql.reads_someRow source⟩, known _ fun _ => by simp [Expression.truth]⟩
        rw [Token.textOf_cons, Token.textOf_nil, String.append_empty]
        exact congrArg (· ++ ")") (select_source source)
  | leaf | allOf | anyOf | negation => exact .leaf filtered

mutual

theorem normal_phrases : ∀ combination : Combination ι κ σ,
    (combination.phrases writing).Normal (Faithful writing assignment)
  | .const b => .const b
  | .leaf _ => .leaf ⟨⟨String.append_empty, Sql.reads_leaf _⟩, fun strict => nomatch strict⟩
  | .strict _ => .leaf ⟨⟨String.append_empty, Sql.reads_leaf _⟩, fun _ _ => by
    simp [Expression.truth, Assignment.value]⟩
  | .all parts => .all (normal_phrasesAll parts)
  | .any parts => .any (normal_phrasesAll parts)
  | .negate part => (normal_phrases part).negate
  | .someRow source body => normal_someRowPhrase source (normal_phrases body)

theorem normal_phrasesAll : ∀ parts : List (Combination ι κ σ),
    ∀ c ∈ phrasesAll writing parts, c.Normal (Faithful writing assignment)
  | [] => by simp [phrasesAll]
  | part :: rest => by
    rw [phrasesAll, List.forall_mem_cons]
    exact ⟨normal_phrases part, normal_phrasesAll rest⟩

end

/-- A scan holds in a row when its body holds in one of the inner rows. -/
theorem holds_someRowPhrase (source : σ) {body : Condition (Phrase (ι ⊕ κ) σ)}
    (h : body.Normal (Faithful writing assignment)) (row : ρ) :
    (someRowPhrase writing source body).holds (isTrueIn assignment row) =
      (assignment.rows source row).any fun inner => body.holds (isTrueIn assignment inner) := by
  have truth (inner : ρ) :
      (body.expression.truth assignment.value assignment.rows inner == some true) =
        body.holds (isTrueIn assignment inner) := by
    rw [Bool.eq_iff_iff, beq_iff_eq]
    exact (h.imp fun _ faithful => faithful.2).truth_iff inner
  cases body with
  | const b =>
      cases b
      · simp [someRowPhrase]
      · cases rows : assignment.rows source row <;>
          simp [someRowPhrase, isTrueIn, Expression.truth, rows]
  | leaf | allOf | anyOf | negation =>
      simp only [← truth]
      simp [someRowPhrase, isTrueIn, Expression.truth]

mutual

theorem holds_phrases : ∀ (combination : Combination ι κ σ) (row : ρ),
    (combination.phrases writing).holds (isTrueIn assignment row) = combination.holds assignment row
  | .const _, _ => rfl
  | .leaf _, _ => rfl
  | .strict name, row => by
    cases strict : assignment.strict name row <;>
      simp [phrases, holds, isTrueIn, Expression.truth, Assignment.value, strict]
  | .all parts, row => by
    rw [phrases, Condition.holds_all, (holds_phrasesAll parts row).1, holds]
  | .any parts, row => by
    rw [phrases, Condition.holds_any, (holds_phrasesAll parts row).2, holds]
  | .negate part, row => by
    rw [phrases, Condition.holds_negate, holds_phrases part row, holds]
  | .someRow source body, row => by
    rw [phrases, holds_someRowPhrase source (normal_phrases body), holds]
    simp only [holds_phrases body]

theorem holds_phrasesAll : ∀ (parts : List (Combination ι κ σ)) (row : ρ),
    (phrasesAll writing parts).all (Condition.holds (isTrueIn assignment row)) =
        holdAll assignment parts row ∧
      (phrasesAll writing parts).any (Condition.holds (isTrueIn assignment row)) =
        holdAny assignment parts row
  | [], _ => ⟨rfl, rfl⟩
  | part :: rest, row => by
    simp only [phrasesAll, List.all_cons, List.any_cons, holdAll, holdAny, holds_phrases part row,
      holds_phrasesAll rest row, and_self]

end

/-- The SQL of a combination. Its tokens are those of the text that is compiled, and SQL reads them
as an expression that is true exactly where the combination holds, NULL leaves being read as false.
The expression is NULL only if the condition is nullable, and negating the combination gives an
expression that is true exactly where this one is not true. -/
theorem sql_true_iff_holds (combination : Combination ι κ σ) (writing : Writing ι κ σ)
    (assignment : Assignment ι κ σ ρ) :
    Token.textOf writing.spelling (combination.tokens writing) =
        (combination.condition writing).sql ∧
      ∃ expression negated,
        Sql.read (combination.tokens writing) = some expression ∧
        Sql.read ((negate combination).tokens writing) = some negated ∧
        ∀ row,
          (expression.truth assignment.value assignment.rows row = some true ↔
            combination.holds assignment row = true) ∧
          ((combination.condition writing).nullable = false →
            expression.truth assignment.value assignment.rows row ≠ none) ∧
          (negated.truth assignment.value assignment.rows row = some true ↔
            expression.truth assignment.value assignment.rows row ≠ some true) := by
  have faithful (c : Combination ι κ σ) :
      (c.phrases writing).Normal (Faithful writing assignment) := normal_phrases c
  have normal (c : Combination ι κ σ) :
      (c.phrases writing).Normal (Phrase.Readable writing.spelling) :=
    (faithful c).imp fun _ faithful => faithful.1
  have sound (c : Combination ι κ σ) :
      (c.phrases writing).Normal (Phrase.Sound assignment.value assignment.rows) :=
    (faithful c).imp fun _ faithful => faithful.2
  have truth (c : Combination ι κ σ) (row : ρ) :
      (c.phrases writing).expression.truth assignment.value assignment.rows row = some true ↔
        c.holds assignment row = true := by
    have holds : (c.phrases writing).holds (isTrueIn assignment row) = c.holds assignment row :=
      holds_phrases c row
    rw [← holds]
    exact (sound c).truth_iff row
  refine ⟨?_, _, _, (normal combination).read_tokens.read, (normal _).read_tokens.read, ?_⟩
  · rw [tokens, (normal combination).textOf_tokens, map_phrases]
  · intro row
    refine ⟨truth combination row, ?_, ?_⟩
    · intro notNullable
      refine (sound combination).truth_ne_none ?_ row
      rw [Condition.nullablePhrases, map_phrases, notNullable]
    · rw [truth (negate combination) row, ne_eq, truth combination row, holds]
      simp

end Combination

end Pushdown
