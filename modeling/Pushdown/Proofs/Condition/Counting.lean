import Pushdown.Proofs.Condition.Lexeme
import Pushdown.Proofs.Condition.Outline
import Pushdown.Proofs.Condition.Places

/-!
# Placeholders of conditions

Whichever way placeholders are counted, every piece of SQL that is written for a test has one for
each argument that is bound with it, as long as none is counted in the columns of documents and of
fields. The pieces are joined by operators and parentheses only, so a whole condition has as many
placeholders as arguments.
-/

namespace Pushdown

open Sql (IsCode Tally)

variable {T : String → Nat → Prop}

/-- A column of its own that a place has, if any, is written without placeholders. -/
def Location.ColumnCounts (T : String → Nat → Prop) (place : Location) : Prop :=
  ∀ field ∈ place.ownColumn, T (Sql.quoteIdentifier field) 0

/-! ## Locations -/

theorem isCode_scanName (scan : Nat) : IsCode (scanName scan) 0 :=
  .of_continues (Sql.continues_scanName scan)

namespace Sql.Tally

variable (tally : Tally T) {column : String} (plain : T column 0) (place : Location)

include tally

theorem pathExpression : T place.pathExpression 0 := by
  have name (scan : Nat) : T (scanName scan) 0 := tally.code (isCode_scanName scan)
  rw [Location.pathExpression]
  split
  · exact tally.literal _
  · exact tally.followed (name _) ".fullkey" 0 (by decide)
  · exact tally.append (tally.followed (name _) ".fullkey || " 0 (by decide)) (tally.literal _)

include plain

theorem call (function : String) (named : IsCode function 0) :
    T (place.call function column) 0 := by
  have opened : T (function ++ "(") 0 := tally.followed (tally.code named) "(" 0 (by decide)
  have document : T (function ++ "(" ++ column ++ ", ") 0 :=
    tally.followed (tally.append opened plain) ", " 0 (by decide)
  exact tally.followed (tally.append document (tally.pathExpression place)) ")" 0 (by decide)

theorem value (own : place.ColumnCounts T) : T (place.value column) 0 := by
  rw [Location.value]
  split
  · next field given => exact own field given
  · split
    · exact tally.followed (tally.code (isCode_scanName _)) ".value" 0 (by decide)
    · exact tally.call plain place "json_extract" (by decide)

theorem typeName : T (place.typeName column) 0 := by
  rw [Location.typeName]
  split
  · exact tally.followed (tally.code (isCode_scanName _)) ".type" 0 (by decide)
  · exact tally.call plain place "json_type" (by decide)

theorem rows : T (place.rows column) 0 := tally.call plain place "json_each" (by decide)

theorem length : T (place.length column) 0 :=
  tally.call plain place "json_array_length" (by decide)

omit plain

/-! ## Tests -/

/-- A text that is compared with an operand has one placeholder, in whichever way it is compared. -/
theorem textTest {value : String} (closed : T value 0) (test : TextTest) :
    T (test.sql value) 1 := by
  have lower : T ("lower(" ++ value) 0 := tally.preceded closed "lower(" (by decide)
  have escape : T escapeClause 0 :=
    tally.append (tally.code (n := 0) (by decide)) (tally.literal "\\")
  cases test with
  | equal => exact tally.followed closed " = ?" 1 (by decide)
  | lowerEqual => exact tally.followed lower ") = ?" 1 (by decide)
  | equalIgnoringCase => exact tally.followed closed " = ? COLLATE NOCASE" 1 (by decide)
  | like => exact tally.append (tally.followed closed " LIKE ?" 1 (by decide)) escape
  | lowerLike => exact tally.append (tally.followed lower ") LIKE ?" 1 (by decide)) escape
  | lowerLikeLower =>
      exact tally.append (tally.followed lower ") LIKE lower(?)" 1 (by decide)) escape

theorem typeTest {typeName : String} (closed : T typeName 0) (names : List TypeName) :
    T (typeTestSql typeName names) 0 := by
  have list : T (Pushdown.joinWith ", " (names.map fun name => Sql.literal name.spelling)) 0 := by
    apply tally.joinWith_closed (by decide)
    intro text member
    obtain ⟨name, -, rfl⟩ := List.mem_map.mp member
    exact tally.literal name.spelling
  rw [typeTestSql.eq_def]
  split
  · exact tally.append (tally.followed closed " = " 0 (by decide)) (tally.literal _)
  · have opened : T (typeName ++ " IN (") 0 := tally.followed closed " IN (" 0 (by decide)
    exact tally.followed (tally.append opened list) ")" 0 (by decide)

theorem remainder {value : String} (closed : T value 0) : T (remainderSql value) 3 := by
  have dividend : T ("(" ++ value ++ " - (CAST(") 0 :=
    tally.followed (tally.preceded closed "(" (by decide)) " - (CAST(" 0 (by decide)
  have divided : T ("(" ++ value ++ " - (CAST(" ++ value ++ " / ? AS INTEGER) * ?)) = ?") 3 :=
    tally.followed (tally.append dividend closed) " / ? AS INTEGER) * ?)) = ?" 3 (by decide)
  exact divided

/-- A scan has the placeholders of its body. -/
theorem existsClause {source : String} (closed : T source 0) (scan : Nat) {body : Option Fragment}
    (counted : ∀ fragment ∈ body, T fragment.sql fragment.args.length) :
    T (Condition.existsClause source (scanName scan) body).sql
      (Condition.existsClause source (scanName scan) body).args.length := by
  have rows : T ("EXISTS(SELECT 1 FROM " ++ source ++ " AS ") 0 :=
    tally.followed (tally.preceded closed "EXISTS(SELECT 1 FROM " (by decide)) " AS " 0 (by decide)
  have head : T ("EXISTS(SELECT 1 FROM " ++ source ++ " AS " ++ scanName scan) 0 :=
    tally.followed rows (scanName scan) 0 (isCode_scanName scan)
  cases body with
  | none => exact tally.followed head ")" 0 (by decide)
  | some fragment =>
      have filtered : T ("EXISTS(SELECT 1 FROM " ++ source ++ " AS " ++ scanName scan ++
          " WHERE " ++ fragment.sql) fragment.args.length :=
        tally.after (counted fragment rfl) (tally.followed head " WHERE " 0 (by decide))
      exact tally.followed filtered ")" 0 (by decide)

end Sql.Tally

/-! ## Conditions -/

theorem length_argsAll (children : List (Condition Clause)) :
    (Condition.argsAll children).length = (children.map fun c => c.args.length).sum := by
  induction children with
  | nil => rfl
  | cons child rest ih =>
      rw [Condition.argsAll, List.length_append, ih, List.map_cons, List.sum_cons]

mutual

theorem Test.counts (tally : Tally T) {column : String} (plain : T column 0) :
    ∀ test : Test, test.Everywhere (Location.ColumnCounts T) →
      T (test.clause column).sql (test.clause column).args.length
  | .isNull place, own => tally.followed (tally.value plain place own) " IS NULL" 0 (by decide)
  | .present place true, _ =>
    tally.followed (tally.typeName plain place) " IS NOT NULL" 0 (by decide)
  | .present place false, _ => tally.followed (tally.typeName plain place) " IS NULL" 0 (by decide)
  | .hasType place names, _ => tally.typeTest (tally.typeName plain place) names
  | .equals place _, own => tally.followed (tally.value plain place own) " = ?" 1 (by decide)
  | .compares place comparison _, own => by
    have sign : IsCode comparison.sign 0 := by cases comparison <;> decide
    have blank := tally.followed (tally.value plain place own) " " 0 (by decide)
    exact tally.followed (tally.followed blank comparison.sign 0 sign) " ?" 1 (by decide)
  | .memberOf place _, own => tally.followed (tally.value plain place own)
    " IN (SELECT value FROM json_each(?))" 1 (by decide)
  | .hasLength place _, _ => tally.followed (tally.length plain place) " = ?" 1 (by decide)
  | .leavesRemainder place _ _, own => tally.remainder (tally.value plain place own)
  | .text place test _, own => tally.textTest (tally.value plain place own) test
  | .scan place number body, own => by
    rw [Condition.clause_scan]
    apply tally.existsClause (tally.rows plain place)
    intro fragment member
    rw [Option.mem_def, Option.ite_none_left_eq_some, Option.some.injEq] at member
    rw [← member.2]
    exact Condition.counts tally plain body own.2

/-- A condition has a placeholder for each argument. -/
theorem Condition.counts (tally : Tally T) {column : String} (plain : T column 0) :
    ∀ c : Condition Test, c.Everywhere (Location.ColumnCounts T) →
      T (c.clauses column).sql (c.clauses column).args.length
  | .const value, _ => by
    have constant : IsCode (Condition.const value).sql 0 := by cases value <;> decide
    exact tally.code constant
  | .leaf test, own => Test.counts tally plain test own
  | .allOf children, own => by
    rw [Condition.clauses, Condition.sql, Condition.args, length_argsAll]
    exact tally.joinWith (by decide) (Condition.counts_each tally plain children own)
  | .anyOf children, own => by
    have parts := (Condition.counts_each tally plain children own).imp
      fun _ _ part => tally.parenthesised part
    rw [Condition.clauses, Condition.sql, Condition.args, length_argsAll]
    exact tally.parenthesised (tally.joinWith (by decide) (List.forall₂_map_left_iff.mpr parts))
  | .negation child, own => by
    have inner := Condition.counts tally plain child own
    rw [Condition.clauses, Condition.sql, Condition.args]
    split
    · exact tally.followed (tally.preceded inner "NOT COALESCE(" (by decide)) ", 0)" 0 (by decide)
    · exact tally.followed (tally.preceded inner "NOT (" (by decide)) ")" 0 (by decide)

theorem Condition.counts_each (tally : Tally T) {column : String} (plain : T column 0) :
    ∀ children : List (Condition Test),
      Condition.AllEverywhere (Location.ColumnCounts T) children →
      List.Forall₂ T (Condition.sqlAll (Condition.clausesAll column children))
        ((Condition.clausesAll column children).map fun c => c.args.length)
  | [], _ => .nil
  | child :: rest, own =>
    .cons (Condition.counts tally plain child own.1)
      (Condition.counts_each tally plain rest own.2)

end

end Pushdown
