import Pushdown.Proofs.Condition.Leaves
import Pushdown.Proofs.Condition.Outline
import Pushdown.Proofs.Condition.Pieces

/-!
# Scans in the text of conditions

Every condition over tests that is scoped is a piece of text, for a column of documents that is a
plain identifier: a cursor passes it in the body of the scan whose items it reads, or outside of all
scans. The names that its text introduces are those of its scans. A scan reads the column of
documents in its source, and its body is a piece within the scope of its rows.
-/

namespace Pushdown

/-! ## Places -/

/-- A name whose operands are a group. -/
structure Sql.IsFunction (name : String) : Prop where
  fixed : Sql.Fixed (name ++ "(") [.word name, .mark '(']
  opens : Sql.Bracket.opened (some (.word name)) = .group
  apart : Sql.endsApart (name ++ "(") = true

instance (name : String) : Decidable (Sql.IsFunction name) :=
  decidable_of_iff _ ⟨fun h => ⟨h.1, h.2.1, h.2.2⟩,
    fun h => And.intro h.fixed (And.intro h.opens h.apart)⟩

open Sql (Passes Cursor Lexes Bracket Lexeme Embeds Spans Admits isIdentifier inScan)

namespace Location

variable {document : String} {cursor : Cursor} {place : Location} {scope : Option Nat}

/-- The item that paths begin at, if any, belongs to a scan in whose body the place is. -/
def Named (scopes : List Bracket) (place : Location) : Prop :=
  ∀ scan, place.origin = .item scan → .body (scanName scan) ∈ scopes

theorem In.named {scopes : List Bracket} (within : place.In scope) (admits : Admits scope scopes) :
    place.Named scopes := by
  intro scan origin
  cases scope with
  | none => cases within.symm.trans origin
  | some number =>
      cases within.1.symm.trans origin
      exact admits

theorem passes_pathExpression (named : place.Named cursor.scopes)
    (isOpen : Sql.isOpen cursor.scopes = true) (noAlias : cursor.before ≠ some (.word "AS")) :
    Passes document cursor place.pathExpression [] False (·.scopes = cursor.scopes) := by
  have key {scan : Nat} (origin : place.origin = .item scan) :
      Passes document cursor (scanName scan ++ ".fullkey") [] False (·.scopes = cursor.scopes) :=
    .rowColumn (by decide) (named scan origin) isOpen noAlias
  have literal {text : String} {between : Cursor} (same : between.scopes = cursor.scopes) :
      Passes document between (Sql.literal text) [] False (·.scopes = cursor.scopes) :=
    (Passes.literal between text).imp id fun _ eq => eq ▸ same
  cases origin : place.origin with
  | document =>
      rw [pathExpression, origin]
      exact literal rfl
  | item scan =>
      cases steps : place.steps with
      | nil =>
          rw [pathExpression, origin, steps]
          exact key origin
      | cons first rest =>
          have joined : Passes document cursor (scanName scan ++ ".fullkey" ++ " || ") [] False
              (·.scopes = cursor.scopes) :=
            (key origin).followed " || " [.mark '|', .mark '|'] (by decide)
              fun _ same => same
          rw [pathExpression, origin, steps]
          rw [String.append_assoc] at joined
          exact joined.andThen (fun _ => literal) (.inl (Sql.beginsApart_literal _))

/-- A function reads the column of documents, in a scan if the call is in one. -/
theorem passes_call (plain : isIdentifier document = true) (named : place.Named cursor.scopes)
    {function : String} (known : Sql.IsFunction function)
    (keeps : (cursor.read (.word function)).scopes = cursor.scopes) :
    Passes document cursor (place.call function document) [] (inScan cursor.scopes = true)
      (· = ⟨cursor.scopes, some (.mark ')')⟩) := by
  have front : Passes document cursor (function ++ "(") [] False
      (· = ⟨.group :: cursor.scopes, some (.mark '(')⟩) := by
    refine (Passes.fixed known.fixed).imp id ?_
    rintro _ rfl
    rw [← keeps, ← known.opens]
    rfl
  have column : Passes document cursor (function ++ "(" ++ document) []
      (inScan cursor.scopes = true) (· = ⟨.group :: cursor.scopes, some (.word document)⟩) := by
    refine (front.append ?_ (.inr known.apart)).imp .inr fun _ same => same
    rintro _ rfl
    exact .documentColumn plain rfl rfl
  have comma : Passes document cursor (function ++ "(" ++ document ++ ", ") []
      (inScan cursor.scopes = true) (· = ⟨.group :: cursor.scopes, some (.mark ',')⟩) := by
    refine column.followed ", " [.mark ','] (by decide) ?_
    rintro _ rfl
    rfl
  have path : Passes document cursor
      (function ++ "(" ++ document ++ ", " ++ place.pathExpression) [] (inScan cursor.scopes = true)
      (·.scopes = .group :: cursor.scopes) := by
    refine comma.andThen ?_ (.inr ?_)
    · rintro _ rfl
      have inside : place.Named (.group :: cursor.scopes) := fun scan origin =>
        List.mem_cons_of_mem _ (named scan origin)
      exact passes_pathExpression inside rfl (Sql.Calm.mark ',').1
    · exact Sql.endsApart_append rfl (by decide)
  refine path.followed ")" [.mark ')'] (by decide) ?_
  rintro ⟨scopes, before⟩ rfl
  rfl

/-- A function of the value at a place. -/
theorem embeds_call (plain : isIdentifier document = true) (within : place.In scope)
    {function : String} (known : Sql.IsFunction function) :
    Embeds document scope (place.call function document) [] :=
  Spans.of_passes fun cursor ready => by
    have keeps : (cursor.read (.word function)).scopes = cursor.scopes := by
      rw [Cursor.read_word ready.isOpen]
    exact (passes_call plain (within.named ready.admits) known keeps).imp False.elim
      fun _ eq => eq ▸ rfl

/-- The items themselves, by the name of their rows. -/
theorem embeds_rowColumn {scan : Nat} (within : place.In scope) (origin : place.origin = .item scan)
    {column : String} (known : column ∈ [".value", ".type", ".fullkey"]) :
    Embeds document scope (scanName scan ++ column) [] :=
  Spans.of_passes fun _ ready =>
    .rowColumn known (within.named ready.admits scan origin) ready.isOpen ready.calm.1

/-- A column of its own is used outside of all scans. -/
theorem embeds_ownColumn (field : String) :
    Embeds document none (Sql.quoteIdentifier field) [] := by
  refine Spans.of_passes fun cursor ready => ?_
  have outside : ¬ inScan cursor.scopes = true := Bool.eq_false_iff.mp ready.admits
  cases plain : isIdentifier field with
  | true =>
      rw [Sql.quoteIdentifier, if_pos plain]
      have unqualified := Sql.isQualified_of_continues (Sql.continues_of_isIdentifier plain).2
      refine (Passes.word (.identifier plain) (.of_unqualified rfl unqualified ?_) ready.calm.1).imp
        id ?_
      · exact fun inside => absurd inside outside
      · rintro _ rfl
        rw [Cursor.read_word ready.isOpen]
  | false => exact (Passes.quotedName plain ready.admits).imp id fun _ same => same

theorem embeds_value (plain : isIdentifier document = true) (within : place.In scope) :
    Embeds document scope (place.value document) [] := by
  rw [value]
  split
  · next field own =>
    cases scope with
    | none => exact embeds_ownColumn field
    | some => cases within.2.symm.trans own
  · split
    · next scan origin steps => exact embeds_rowColumn within origin (by decide)
    · exact embeds_call plain within (by decide)

theorem embeds_typeName (plain : isIdentifier document = true) (within : place.In scope) :
    Embeds document scope (place.typeName document) [] := by
  rw [typeName]
  split
  · next scan origin steps => exact embeds_rowColumn within origin (by decide)
  · exact embeds_call plain within (by decide)

end Location

namespace Sql.Spans

variable {document value : String} {scope : Option Nat}
  (piece : Embeds document scope value [])

include piece

theorem textTest (test : TextTest) : Embeds document scope (test.sql value) [] := by
  have lower (behind : String) (closes : Turns false 1 0 behind ∧ beginsApart behind = true) :
      Embeds document scope ("lower(" ++ value ++ behind) [] :=
    piece.enclosed "lower(" behind 1 (by decide) closes
  have escaped {like : String} (embeds : Embeds document scope like []) :
      Embeds document scope (like ++ escapeClause) [] :=
    embeds.followed escapeClause (by decide)
  cases test with
  | equal => exact piece.followed " = ?" (by decide)
  | lowerEqual => exact lower ") = ?" (by decide)
  | equalIgnoringCase => exact piece.followed " = ? COLLATE NOCASE" (by decide)
  | like => exact escaped (piece.followed " LIKE ?" (by decide))
  | lowerLike => exact escaped (lower ") LIKE ?" (by decide))
  | lowerLikeLower => exact escaped (lower ") LIKE lower(?)" (by decide))

theorem comparison (comparison : Comparison) :
    Embeds document scope (value ++ " " ++ comparison.sign ++ " ?") [] := by
  have sign : Turns false 0 0 comparison.sign ∧ beginsApart comparison.sign = true := by
    cases comparison <;> decide
  have blank : Embeds document scope (value ++ " ") [] := piece.followed " " (by decide)
  exact (blank.followed comparison.sign sign).followed " ?" (by decide)

theorem remainder : Embeds document scope (remainderSql value) [] := by
  have dividend : Spans document scope 0 1 ("(" ++ value) [] :=
    (piece.within 1).preceded "(" (by decide)
  have divided : Spans document scope 0 3 ("(" ++ value ++ " - (CAST(" ++ value) [] :=
    dividend.between " - (CAST(" (by decide) (piece.within 3)
  exact divided.followed " / ? AS INTEGER) * ?)) = ?" (by decide)

theorem typeTest (names : List TypeName) : Embeds document scope (typeTestSql value names) [] := by
  have list : Embeds document scope (value ++ " IN (" ++ Pushdown.joinWith ", "
      (names.map fun name => Sql.literal name.spelling) ++ ")") [] := by
    obtain ⟨n, commas⟩ := Lexes.literals (names.map TypeName.spelling)
    rw [List.map_map] at commas
    have marks : (List.replicate n (Lexeme.mark ',')).all Lexeme.isFixed = true := by
      rw [List.all_replicate]
      split <;> rfl
    refine of_passes fun cursor ready => ?_
    have opened : Passes document cursor (value ++ " IN (") [] False
        (·.scopes = .list :: cursor.scopes) := by
      refine (piece.passes ready).followed " IN (" [.word "IN", .mark '('] (by decide) ?_
      rintro ⟨_, before⟩ rfl
      rw [Cursor.after_operands ready.isOpen]
      rfl
    have listed := opened.andThen (fun between same => (Passes.fixed ⟨commas, marks⟩).imp id
      fun _ eq => eq ▸ (Cursor.scopes_after_commas n).trans same) (.inr ?_)
    · refine listed.followed ")" [.mark ')'] (by decide) ?_
      rintro ⟨_, before⟩ rfl
      rfl
    · exact Sql.endsApart_append rfl (by decide)
  rw [typeTestSql.eq_def]
  split
  · exact piece.between " = " (by decide) (.literal _)
  · exact list

theorem memberOf : Embeds document scope (value ++ " IN (SELECT value FROM json_each(?))") [] := by
  refine of_passes fun cursor ready => ?_
  have selects : Passes document cursor (value ++ " IN (SELECT ") [] False
      (· = ⟨.select :: cursor.scopes, some (.word "SELECT")⟩) := by
    refine (piece.passes ready).followed " IN (SELECT " [.word "IN", .mark '(', .word "SELECT"]
      (by decide) ?_
    rintro ⟨_, before⟩ rfl
    rw [Cursor.after_operands ready.isOpen]
    rfl
  have column : Passes document cursor (value ++ " IN (SELECT " ++ "value") [] False
      (· = ⟨.select :: cursor.scopes, some (.word "value")⟩) := by
    refine selects.andThen ?_ (.inr (endsApart_append rfl (by decide)))
    rintro _ rfl
    have noAlias : some (Lexeme.word "SELECT") ≠ some (.word "AS") := by decide
    refine .word (by decide) (.of_unqualified rfl (by decide) fun inside => ?_) noAlias
    cases inside
  have whole : Passes document cursor (value ++ " IN (SELECT " ++ "value" ++ " FROM json_each(?))")
      [] False (·.scopes = cursor.scopes) := by
    refine column.followed " FROM json_each(?))" [.word "FROM", .word "json_each", .mark '(',
      .mark '?', .mark ')', .mark ')'] (by decide) ?_
    rintro _ rfl
    rfl
  rw [String.append_assoc, String.append_assoc] at whole
  exact whole

end Sql.Spans

/-! ## Scans -/

section

variable {document : String} {place : Location} {cursor : Cursor} {scope : Option Nat}
  (plain : isIdentifier document = true) (number : Nat)

include plain

/-- The beginning of a scan, up to the name of its rows, reads the column of documents. -/
theorem Location.passes_rows (named : place.Named cursor.scopes)
    (isOpen : Sql.isOpen cursor.scopes = true) :
    Passes document cursor
      ("EXISTS(SELECT 1 FROM " ++ place.rows document ++ " AS " ++ scanName number) [number] True
      (· = ⟨.rows (scanName number) :: cursor.scopes, some (.word (scanName number))⟩) := by
  have source : Passes document cursor ("EXISTS(SELECT 1 FROM " ++ place.rows document) [] True
      (· = ⟨.source :: cursor.scopes, some (.mark ')')⟩) := by
    have inside : place.Named (.source :: cursor.scopes) := fun scan origin =>
      List.mem_cons_of_mem _ (named scan origin)
    apply Passes.preceded "EXISTS(SELECT 1 FROM "
      [.word "EXISTS", .mark '(', .word "SELECT", .word "1", .word "FROM"] (by decide)
    rw [Cursor.after_cons, Cursor.read_word isOpen]
    exact (passes_call plain inside (by decide) rfl).imp (fun _ => rfl) fun _ eq => eq
  have behind : Passes document cursor ("EXISTS(SELECT 1 FROM " ++ place.rows document ++ " AS ") []
      True (· = ⟨.source :: cursor.scopes, some (.word "AS")⟩) := by
    refine source.followed " AS " [.word "AS"] (by decide) ?_
    rintro _ rfl
    rfl
  have name : Passes document ⟨.source :: cursor.scopes, some (.word "AS")⟩ (scanName number)
      [number] False
      (· = ⟨.rows (scanName number) :: cursor.scopes, some (.word (scanName number))⟩) :=
    .rowName number rfl
  have whole := behind.append (fun _ eq => eq ▸ name) (.inr (Sql.endsApart_append rfl (by decide)))
  exact whole.imp .inl fun _ eq => eq

/-- The rows of a scan are those of the document, and its body is read in the scope of its rows. -/
theorem Location.embeds_scan (within : place.In scope) {body : Option Fragment}
    {numbers : List Nat} (absent : body = none → numbers = [])
    (inner : ∀ fragment ∈ body, Embeds document (some number) fragment.sql numbers) :
    Embeds document scope (Condition.existsClause (place.rows document) (scanName number) body).sql
      (number :: numbers) := by
  intro cursor ready
  change Passes document cursor _ _ _ (·.scopes = cursor.scopes)
  have head := passes_rows plain number (within.named ready.admits) ready.isOpen
  cases body with
  | none =>
      have closed : Passes document cursor ("EXISTS(SELECT 1 FROM " ++ place.rows document ++
          " AS " ++ scanName number ++ ")") [number] True (·.scopes = cursor.scopes) := by
        refine head.followed ")" [.mark ')'] (by decide) ?_
        rintro _ rfl
        rfl
      rw [absent rfl]
      exact closed.imp (fun _ => trivial) fun _ same => same
  | some fragment =>
      have filtered : Passes document cursor ("EXISTS(SELECT 1 FROM " ++ place.rows document ++
          " AS " ++ scanName number ++ " WHERE ") [number] True
          (· = ⟨.body (scanName number) :: cursor.scopes, some (.word "WHERE")⟩) := by
        refine head.followed " WHERE " [.word "WHERE"] (by decide) ?_
        rintro _ rfl
        rfl
      have ready : Cursor.Ready (some number)
          ⟨.body (scanName number) :: cursor.scopes, some (.word "WHERE")⟩ :=
        ⟨List.mem_cons_self, rfl, show Sql.Calm (some (.word "WHERE")) by decide⟩
      have rest : Passes document ⟨.body (scanName number) :: cursor.scopes, some (.word "WHERE")⟩
          fragment.sql numbers (numbers ≠ [])
          (·.scopes = .body (scanName number) :: cursor.scopes) := inner fragment rfl _ ready
      have whole := filtered.append (fun _ eq => eq ▸ rest)
        (.inr (Sql.endsApart_append rfl (by decide)))
      refine Passes.imp (whole.followed ")" [.mark ')'] (by decide) ?_)
        (fun _ => .inl trivial) fun _ same => same
      rintro ⟨_, before⟩ rfl
      rfl

end

/-! ## Conditions -/

mutual

/-- The text of a test is embedded where the test is scoped. -/
theorem Test.embeds {document : String} (plain : isIdentifier document = true) :
    ∀ (test : Test) {scope : Option Nat}, test.Scoped scope →
      Embeds document scope (test.clause document).sql test.scanNumbers
  | .isNull place, _, within =>
    (place.embeds_value plain within).followed " IS NULL" (by decide)
  | .present place true, _, within =>
    (place.embeds_typeName plain within).followed " IS NOT NULL" (by decide)
  | .present place false, _, within =>
    (place.embeds_typeName plain within).followed " IS NULL" (by decide)
  | .hasType place names, _, within => (place.embeds_typeName plain within).typeTest names
  | .equals place _, _, within =>
    (place.embeds_value plain within).followed " = ?" (by decide)
  | .compares place comparison _, _, within =>
    (place.embeds_value plain within).comparison comparison
  | .memberOf place _, _, within => (place.embeds_value plain within).memberOf
  | .hasLength place _, _, within =>
    (place.embeds_call plain within (by decide)).followed " = ?" (by decide)
  | .leavesRemainder place _ _, _, within => (place.embeds_value plain within).remainder
  | .text place test _, _, within => (place.embeds_value plain within).textTest test
  | .scan place number body, _, inside => by
    rw [Condition.clause_scan, Test.scanNumbers]
    apply place.embeds_scan plain number inside.1
    · intro absent
      rw [ite_eq_left_iff] at absent
      have always : body.isTrue = true := by
        by_contra other
        cases absent other
      rw [Condition.isTrue_iff.mp always]
      rfl
    · intro fragment member
      rw [Option.mem_def, Option.ite_none_left_eq_some, Option.some.injEq] at member
      rw [← member.2]
      exact Condition.embeds plain body inside.2

/-- The text of a condition is embedded where the condition is scoped. -/
theorem Condition.embeds {document : String} (plain : isIdentifier document = true) :
    ∀ (c : Condition Test) {scope : Option Nat}, c.Scoped scope →
      Embeds document scope (c.clauses document).sql c.scanNumbers
  | .const true, _, _ => .fixed "1=1" (by decide)
  | .const false, _, _ => .fixed "1=0" (by decide)
  | .leaf test, _, inside => Test.embeds plain test inside
  | .allOf children, _, inside => by
    rw [Condition.clauses, Condition.sql, Condition.scanNumbers, Condition.scanNumbersAll_eq]
    exact .joinWith (by decide) (Condition.embeds_each plain children inside)
  | .anyOf children, _, inside => by
    have parts := (Condition.embeds_each plain children inside).imp
      fun _ _ piece => piece.parenthesised
    rw [Condition.clauses, Condition.sql, Condition.scanNumbers, Condition.scanNumbersAll_eq]
    exact Spans.parenthesised (.joinWith (by decide)
      (List.forall₂_map_left_iff.mpr parts))
  | .negation child, _, inside => by
    have inner := Condition.embeds plain child inside
    rw [Condition.clauses, Condition.sql, Condition.scanNumbers]
    split
    · exact inner.enclosed "NOT COALESCE(" ", 0)" 1 (by decide) (by decide)
    · exact inner.enclosed "NOT (" ")" 1 (by decide) (by decide)

theorem Condition.embeds_each {document : String} (plain : isIdentifier document = true) :
    ∀ (children : List (Condition Test)) {scope : Option Nat}, Condition.AllScoped scope children →
      List.Forall₂ (Embeds document scope)
        (Condition.sqlAll (Condition.clausesAll document children))
        (children.map Condition.scanNumbers)
  | [], _, _ => .nil
  | child :: rest, _, inside =>
    .cons (Condition.embeds plain child inside.1) (Condition.embeds_each plain rest inside.2)

end

end Pushdown
