import Pushdown.Proofs.Condition.Outline
import Pushdown.Proofs.Push.Relocated
import Pushdown.Proofs.Query.Agreement
import Pushdown.Proofs.Query.Twins
import Pushdown.Proofs.Query.Verdict

/-!
# Columns of fields

A store that keeps declared strings and numbers in columns of their own is asked the same questions
as one that keeps whole documents only. The layout decides in no case what is pushed and what is
declined, and the tests of a condition differ in where they read values: from the column of a field,
or from the document at the path of that field. Everything else in the text of a condition, the
bodies of scans included, is the same.
-/

namespace Pushdown

open Push (Lockstep Ensures)

/-! ## Places with columns of their own -/

/-- A field is kept in a column of its own: it is declared as a string or a number at the top, and
its key has a written form. -/
def Layout.mirrors (layout : Layout) (schema : Schema) (field : String) : Bool :=
  layout.hasFieldColumns && PathStep.isAddressable field &&
    (schema.fields.find? field).any fun declared => Location.fitsColumn declared.type

namespace Location

/-- The place with its value read from the document. -/
def inDocument (place : Location) : Location := { place with ownColumn := none }

/-- The column of the place, if it has one, is that of a field, and the place is that field at the
top of the document. -/
def Fits (schema : Schema) (layout : Layout) (place : Location) : Prop :=
  ∀ field ∈ place.ownColumn, layout.mirrors schema field = true ∧
    place.origin = .document ∧ place.steps = [.key field]

theorem fits_item (schema : Schema) (layout : Layout) (scan : Nat) (type : FieldType) :
    (item scan type).Fits schema layout := by
  intro field own
  cases own

variable {schema : Schema} {layout : Layout}

theorem fits_resolve? {scope : Scope} {segments : List String} {place : Location}
    (resolved : resolve? schema layout scope segments = some place) :
    place.Fits schema layout := by
  intro field own
  cases scope with
  | item scan type =>
      obtain ⟨below, -, ends⟩ := Option.bind_eq_some_iff.mp resolved
      cases ends
      cases own
  | document =>
      cases segments with
      | nil => cases resolved
      | cons first rest =>
          obtain ⟨step, key, resolved⟩ := Option.bind_eq_some_iff.mp resolved
          obtain ⟨⟨steps, declared⟩, below, ends⟩ := Option.bind_eq_some_iff.mp resolved
          obtain ⟨addressable, key⟩ := Option.ite_none_right_eq_some.mp key
          cases key
          cases ends
          obtain ⟨fits, own⟩ := Option.ite_none_right_eq_some.mp own
          cases own
          rw [Bool.and_eq_true, Bool.and_eq_true] at fits
          obtain ⟨⟨columns, last⟩, type⟩ := fits
          obtain rfl := List.isEmpty_iff.mp last
          cases below
          refine ⟨?_, rfl, rfl⟩
          rw [Layout.mirrors, columns, addressable]
          cases found : schema.fields.find? field with
          | none =>
              rw [found] at type
              cases type
          | some declared =>
              rw [found] at type
              exact type

/-- Without columns of their own the same paths are resolved, to the places in the document. -/
theorem resolve?_jsonColumn (schema : Schema) (layout : Layout) (column : String) (scope : Scope)
    (segments : List String) :
    resolve? schema (.jsonColumn column) scope segments =
      (resolve? schema layout scope segments).map inDocument := by
  cases scope with
  | item scan type =>
      rw [resolve?, resolve?]
      cases stepsBelow? type segments <;> rfl
  | document =>
      cases segments with
      | nil => rfl
      | cons first rest =>
          rw [resolve?, resolve?]
          cases PathStep.key? first with
          | none => rfl
          | some step =>
              dsimp only [Option.bind_eq_bind, Option.bind_some]
              cases stepsBelow? _ rest <;> rfl

/-- Selectors are pushed to the places in the document. -/
theorem relocation_inDocument (schema : Schema) (layout : Layout) (column : String) :
    Relocation schema layout (.jsonColumn column) inDocument (Fits schema layout) where
  declared _ := rfl
  required _ := rfl
  indexPath _ := rfl
  item _ _ := rfl
  item_good := fits_item schema layout
  resolve := resolve?_jsonColumn schema layout column
  resolve_good _ _ _ resolved := fits_resolve? resolved

/-! ## Accessors -/

variable (accessor : String → String) (column : String)

def valueVia (place : Location) : String :=
  match place.ownColumn with
  | some field => accessor field
  | none => place.value column

def extract (field : String) : String :=
  "json_extract(" ++ column ++ ", " ++ Sql.literal ("$" ++ PathStep.text (.key field)) ++ ")"

theorem valueVia_quoteIdentifier (place : Location) :
    place.valueVia Sql.quoteIdentifier column = place.value column := by
  rw [valueVia, value]
  cases place.ownColumn <;> rfl

/-- In the document a field is found at the path of its key. -/
theorem valueVia_extract {place : Location} (fits : place.Fits schema layout) :
    place.valueVia (extract column) column = place.inDocument.value column := by
  obtain ⟨origin, steps, ownColumn, declared, required, indexPath⟩ := place
  cases ownColumn with
  | none => rfl
  | some field =>
      obtain ⟨-, atTop, single⟩ := fits field rfl
      dsimp only at atTop single
      subst atTop single
      rfl

end Location

mutual

/-- The SQL of a test, in which columns of fields are written by an accessor. -/
def Test.clauseVia (accessor : String → String) (column : String) : Test → Clause
  | .isNull place => ⟨place.valueVia accessor column ++ " IS NULL", [], false⟩
  | .present place expected => Test.clause column (.present place expected)
  | .hasType place names => Test.clause column (.hasType place names)
  | .equals place operand => ⟨place.valueVia accessor column ++ " = ?", [operand], true⟩
  | .compares place comparison operand =>
    ⟨place.valueVia accessor column ++ " " ++ comparison.sign ++ " ?", [operand], true⟩
  | .memberOf place values =>
    ⟨place.valueVia accessor column ++ " IN (SELECT value FROM json_each(?))",
      [.text (Json.array values).compact], true⟩
  | .hasLength place length => Test.clause column (.hasLength place length)
  | .leavesRemainder place divisor remainder =>
    ⟨remainderSql (place.valueVia accessor column),
      [.integer divisor, .integer divisor, .integer remainder], true⟩
  | .text place test operand =>
    ⟨test.sql (place.valueVia accessor column), [.text operand], true⟩
  | .scan place number body =>
    Condition.existsClause (place.rows column) (scanName number)
      (if body.isTrue then none else some (Condition.clausesVia accessor column body).fragment)

def Condition.clausesVia (accessor : String → String) (column : String) :
    Condition Test → Condition Clause
  | .const value => .const value
  | .leaf test => .leaf (Test.clauseVia accessor column test)
  | .allOf children => .allOf (Condition.clausesViaAll accessor column children)
  | .anyOf children => .anyOf (Condition.clausesViaAll accessor column children)
  | .negation child => .negation (Condition.clausesVia accessor column child)

def Condition.clausesViaAll (accessor : String → String) (column : String) :
    List (Condition Test) → List (Condition Clause)
  | [] => []
  | child :: rest =>
    Condition.clausesVia accessor column child :: Condition.clausesViaAll accessor column rest

end

mutual

/-- A condition is written with the columns of fields themselves. -/
theorem Test.clauseVia_quoteIdentifier (column : String) : ∀ test : Test,
    test.clauseVia Sql.quoteIdentifier column = test.clause column
  | .present _ _ | .hasType _ _ | .hasLength _ _ => by rw [Test.clauseVia]
  | .isNull _ | .equals _ _ | .compares _ _ _ | .memberOf _ _ | .leavesRemainder _ _ _
  | .text _ _ _ => by rw [Test.clauseVia, Test.clause, Location.valueVia_quoteIdentifier]
  | .scan place number body => by
    rw [Test.clauseVia, Condition.clause_scan, Condition.clausesVia_quoteIdentifier column body]

theorem Condition.clausesVia_quoteIdentifier (column : String) : ∀ c : Condition Test,
    c.clausesVia Sql.quoteIdentifier column = c.clauses column
  | .const _ => by rw [Condition.clausesVia, Condition.clauses]
  | .leaf test => by
    rw [Condition.clausesVia, Condition.clauses, Test.clauseVia_quoteIdentifier column test]
  | .allOf children | .anyOf children => by
    rw [Condition.clausesVia, Condition.clauses,
      Condition.clausesViaAll_quoteIdentifier column children]
  | .negation child => by
    rw [Condition.clausesVia, Condition.clauses, Condition.clausesVia_quoteIdentifier column child]

theorem Condition.clausesViaAll_quoteIdentifier (column : String) :
    ∀ children : List (Condition Test),
      Condition.clausesViaAll Sql.quoteIdentifier column children =
        Condition.clausesAll column children
  | [] => by rw [Condition.clausesViaAll, Condition.clausesAll]
  | child :: rest => by
    rw [Condition.clausesViaAll, Condition.clausesAll,
      Condition.clausesVia_quoteIdentifier column child,
      Condition.clausesViaAll_quoteIdentifier column rest]

end

section

variable {schema : Schema} {layout : Layout} (column : String)

mutual

/-- With fields extracted from the document a condition is written as the one on the places in the
document. -/
theorem Test.clauseVia_extract : ∀ test : Test, test.Everywhere (Location.Fits schema layout) →
    test.clauseVia (Location.extract column) column =
      (test.relocate Location.inDocument).clause column
  | .present _ _, _ | .hasType _ _, _ | .hasLength _ _, _ => by
    rw [Test.clauseVia, Test.relocate]
    rfl
  | .isNull _, fits | .equals _ _, fits | .compares _ _ _, fits | .memberOf _ _, fits
  | .leavesRemainder _ _ _, fits | .text _ _ _, fits => by
    rw [Test.clauseVia, Test.relocate, Test.clause, Location.valueVia_extract column fits]
  | .scan place number body, fits => by
    rw [Test.clauseVia, Test.relocate, Condition.clause_scan, Condition.isTrue_relocate,
      Condition.clausesVia_extract body fits.2]
    rfl

theorem Condition.clausesVia_extract : ∀ c : Condition Test,
    c.Everywhere (Location.Fits schema layout) →
    c.clausesVia (Location.extract column) column =
      (c.relocate Location.inDocument).clauses column
  | .const _, _ => by rw [Condition.clausesVia, Condition.relocate, Condition.clauses]
  | .leaf test, fits => by
    rw [Condition.clausesVia, Condition.relocate, Condition.clauses,
      Test.clauseVia_extract test fits]
  | .allOf children, fits | .anyOf children, fits => by
    rw [Condition.clausesVia, Condition.relocate, Condition.clauses,
      Condition.clausesViaAll_extract children fits]
  | .negation child, fits => by
    rw [Condition.clausesVia, Condition.relocate, Condition.clauses,
      Condition.clausesVia_extract child fits]

theorem Condition.clausesViaAll_extract : ∀ children : List (Condition Test),
    Condition.AllEverywhere (Location.Fits schema layout) children →
    Condition.clausesViaAll (Location.extract column) column children =
      Condition.clausesAll column (Condition.relocateAll Location.inDocument children)
  | [], _ => by rw [Condition.clausesViaAll, Condition.relocateAll, Condition.clausesAll]
  | child :: rest, fits => by
    rw [Condition.clausesViaAll, Condition.relocateAll, Condition.clausesAll,
      Condition.clausesVia_extract child fits.1, Condition.clausesViaAll_extract rest fits.2]

end

end

mutual

/-- The accessor does not matter to the arguments. -/
theorem Test.args_clauseVia (accessor : String → String) (column : String) : ∀ test : Test,
    (test.clauseVia accessor column).args = (test.clause column).args
  | .present _ _ | .hasType _ _ | .hasLength _ _ => by rw [Test.clauseVia]
  | .isNull _ | .equals _ _ | .compares _ _ _ | .memberOf _ _ | .leavesRemainder _ _ _
  | .text _ _ _ => by rw [Test.clauseVia, Test.clause]
  | .scan place number body => by
    rw [Test.clauseVia, Condition.clause_scan]
    split
    · rfl
    · exact Condition.args_clausesVia accessor column body

theorem Condition.args_clausesVia (accessor : String → String) (column : String) :
    ∀ c : Condition Test, (c.clausesVia accessor column).args = (c.clauses column).args
  | .const _ => by rw [Condition.clausesVia, Condition.clauses]
  | .leaf test => by
    rw [Condition.clausesVia, Condition.clauses, Condition.args, Condition.args,
      Test.args_clauseVia accessor column test]
  | .allOf children | .anyOf children => by
    rw [Condition.clausesVia, Condition.clauses, Condition.args, Condition.args,
      Condition.argsAll_clausesViaAll accessor column children]
  | .negation child => by
    rw [Condition.clausesVia, Condition.clauses, Condition.args, Condition.args,
      Condition.args_clausesVia accessor column child]

theorem Condition.argsAll_clausesViaAll (accessor : String → String) (column : String) :
    ∀ children : List (Condition Test),
      Condition.argsAll (Condition.clausesViaAll accessor column children) =
        Condition.argsAll (Condition.clausesAll column children)
  | [] => by rw [Condition.clausesViaAll, Condition.clausesAll]
  | child :: rest => by
    rw [Condition.clausesViaAll, Condition.clausesAll, Condition.argsAll, Condition.argsAll,
      Condition.args_clausesVia accessor column child,
      Condition.argsAll_clausesViaAll accessor column rest]

end

/-! ## Texts and constants -/

/-- There is a blank in the text, as there is in every text of a condition but the constants. -/
def Sql.HasBlank (text : String) : Prop := ' ' ∈ text.toList

instance (text : String) : Decidable (Sql.HasBlank text) :=
  inferInstanceAs (Decidable (' ' ∈ text.toList))

namespace Sql.HasBlank

theorem followed {a : String} (h : HasBlank a) (b : String) : HasBlank (a ++ b) := by
  rw [HasBlank, String.toList_append]
  exact List.mem_append_left _ h

theorem preceded {b : String} (h : HasBlank b) (a : String) : HasBlank (a ++ b) := by
  rw [HasBlank, String.toList_append]
  exact List.mem_append_right _ h

/-- A separator with a blank stands between two texts. -/
theorem joinWith {separator : String} (h : HasBlank separator) {texts : List String}
    (several : 2 ≤ texts.length) : HasBlank (Pushdown.joinWith separator texts) := by
  rcases texts with _ | ⟨first, _ | ⟨second, rest⟩⟩
  · cases several
  · cases several.not_gt (Nat.lt_succ_self 1)
  · exact (h.preceded first).followed (Pushdown.joinWith separator (second :: rest))

end Sql.HasBlank

open Sql (HasBlank)

theorem Test.hasBlank_clause (column : String) (test : Test) :
    HasBlank (test.clause column).sql := by
  cases test with
  | hasType place names =>
      rw [Test.clause, typeTestSql.eq_def]
      split
      · have sign : HasBlank " = " := by decide
        exact (sign.preceded _).followed _
      · have opening : HasBlank " IN (" := by decide
        exact ((opening.preceded _).followed _).followed _
  | present place expected =>
      cases expected <;> exact HasBlank.preceded (by decide) _
  | text place test operand =>
      cases test with
      | equal | lowerEqual | equalIgnoringCase => exact HasBlank.preceded (by decide) _
      | like | lowerLike | lowerLikeLower =>
          have escape : HasBlank escapeClause := by decide
          exact escape.preceded _
  | compares place comparison operand =>
      have operand : HasBlank " ?" := by decide
      exact operand.preceded _
  | scan place number body =>
      have select : HasBlank "EXISTS(SELECT 1 FROM " := by decide
      rw [Condition.clause_scan]
      split
      · exact (((select.followed _).followed _).followed _).followed _
      · exact (((((select.followed _).followed _).followed _).followed _).followed _).followed _
  | isNull | equals | memberOf | hasLength | leavesRemainder =>
      exact HasBlank.preceded (by decide) _

/-- Only the constant false has the text of the constant false. -/
theorem Condition.Normal.isFalse_of_sql {c : Condition Clause}
    (normal : c.Normal fun clause => HasBlank clause.sql) (text : c.sql = "1=0") :
    c.isFalse = true := by
  have noBlank : ¬ HasBlank c.sql := by
    rw [text]
    decide
  cases normal with
  | const value =>
      cases value with
      | false => rfl
      | true => exact absurd text (by decide)
  | proper proper =>
      exfalso
      apply noBlank
      cases proper with
      | leaf good => exact good
      | allOf many =>
          rw [Condition.sql, Condition.sqlAll_eq]
          exact HasBlank.joinWith (by decide) (by rwa [List.length_map])
      | anyOf many =>
          have parts : HasBlank (Pushdown.joinWith " OR " ((Condition.sqlAll _).map
              fun part => "(" ++ part ++ ")")) :=
            HasBlank.joinWith (by decide)
              (by rwa [List.length_map, Condition.sqlAll_eq, List.length_map])
          rw [Condition.sql]
          exact (parts.preceded "(").followed ")"
      | negation =>
          rw [Condition.sql]
          split
          · have coalesce : HasBlank "NOT COALESCE(" := by decide
            exact (coalesce.followed _).followed _
          · have not : HasBlank "NOT (" := by decide
            exact (not.followed _).followed _

/-! ## Two layouts -/

namespace CompiledQuery

variable {schema : Schema} {first second : Layout} {move : Location → Location}
  {P : Location → Prop}

/-- A selector leaves the same residual, and its condition is the same on other places. -/
theorem ofSelector_relocated (relocation : Relocation schema first second move P)
    (selector : Selector) (state : PushState) :
    let here := ((ofSelector schema first selector).run state).1
    let there := ((ofSelector schema second selector).run state).1
    here.pushed.Relocated move P there.pushed ∧ here.residual = there.residual ∧
      here.declined = there.declined := by
  obtain ⟨pushed, declined, residual⟩ := @ofSelector_twins schema first second 0 selector state
  rw [PushState.raise_zero] at pushed declined residual
  have related := Condition.Relocated.of_singleton (relocation.each pushed)
  have isFalse := Condition.isFalse_relocate move
    ((ofSelector schema first selector).run state).1.pushed
  rw [← related.moved] at isFalse
  exact ⟨related, (residual isFalse).symm, declined.symm⟩

theorem normal_pushed (schema : Schema) (layout : Layout) (selector : Selector)
    (state : PushState) :
    ((ofSelector schema layout selector).run state).1.pushed.Normal fun _ => True := by
  have stored : (Setting.undecided schema layout .null).Stored := False.elim
  have uncached : (Setting.undecided schema layout .null).Uncached state := False.elim
  obtain ⟨_, _, divides⟩ := ofSelector_divides stored selector False.elim uncached
  exact divides.tells.readable.imp fun _ _ => trivial

theorem isMatchAll_eq (query : CompiledQuery) : query.isMatchAll = query.pushed.isTrue := by
  rw [isMatchAll, fragment?]
  cases query.pushed.isTrue <;> rfl

/-- A query fetches nothing by its text exactly when its condition is the constant false. -/
theorem matchesNothing_eq {query : CompiledQuery} (normal : query.pushed.Normal fun _ => True) :
    query.matchesNothing = query.pushed.isFalse := by
  have clauses : (query.pushed.clauses query.column).Normal fun clause =>
      HasBlank clause.sql := by
    rw [Condition.clauses_eq_map]
    exact (normal.imp fun test _ => test.hasBlank_clause query.column).map_leaves
  have isFalse : (query.pushed.clauses query.column).isFalse = query.pushed.isFalse := by
    rw [Condition.clauses_eq_map, Condition.isFalse_map]
  rw [matchesNothing, fragment?]
  by_cases always : query.pushed.isTrue = true
  · rw [if_pos always, Condition.isTrue_iff.mp always]
    rfl
  · rw [if_neg always, Option.any_some, Bool.eq_iff_iff, beq_iff_eq, ← isFalse]
    constructor
    · exact clauses.isFalse_of_sql
    · intro constant
      rw [Condition.isFalse_iff.mp constant]
      rfl

/-- Text and arguments of a query are those of its condition over the column of documents. -/
theorem written (schema : Schema) (layout : Layout) (selector : Selector) (state : PushState) :
    let query := ((ofSelector schema layout selector).run state).1
    let clauses := query.pushed.clauses layout.documentColumn
    query.whereSql = clauses.sql ∧ query.args = clauses.args := by
  intro query clauses
  have column : query.column = layout.documentColumn := by
    unfold query
    rw [ofSelector_run]
  unfold clauses
  rw [← column]
  exact query.whereSql_and_args

/-- The layout only decides how values are accessed. With the declared strings and numbers at the
top kept in columns of their own, a selector leaves the same residual as over whole documents, as
many conjuncts are declined, every document or no document is fetched in the same cases, and the
same arguments are bound. The text is the same but for the columns of fields: where it has the
column of a field, the other text extracts the field from the document at the path of its key. -/
theorem layouts_differ_in_accessors (schema : Schema) (column : String) (selector : Selector)
    (state : PushState) :
    let json := ((ofSelector schema (.jsonColumn column) selector).run state).1
    let columns := ((ofSelector schema (.columns column) selector).run state).1
    let textVia (accessor : String → String) := (columns.pushed.clausesVia accessor column).sql
    json.residual = columns.residual ∧ json.declined = columns.declined ∧
    json.isMatchAll = columns.isMatchAll ∧ json.matchesNothing = columns.matchesNothing ∧
    json.args = columns.args ∧
    columns.whereSql = textVia Sql.quoteIdentifier ∧
    json.whereSql = textVia (fun field => "json_extract(" ++ column ++ ", " ++
      Sql.literal ("$" ++ PathStep.text (.key field)) ++ ")") ∧
    columns.pushed.Everywhere fun place => ∀ field ∈ place.ownColumn,
      ∃ declared, schema.fields.find? field = some declared ∧
        (declared.type = .string ∨ declared.type = .number) := by
  intro json columns textVia
  obtain ⟨⟨moved, fits⟩, residual, declined⟩ := ofSelector_relocated
    (Location.relocation_inDocument schema (.columns column) column) selector state
  have viaColumns : columns.pushed.clausesVia Sql.quoteIdentifier column =
      columns.pushed.clauses column := columns.pushed.clausesVia_quoteIdentifier column
  have viaDocument : columns.pushed.clausesVia (Location.extract column) column =
      json.pushed.clauses column :=
    (Condition.clausesVia_extract column columns.pushed fits).trans
      (congrArg (Condition.clauses column) moved.symm)
  obtain ⟨jsonText, jsonArgs⟩ := written schema (.jsonColumn column) selector state
  obtain ⟨columnsText, columnsArgs⟩ := written schema (.columns column) selector state
  have args : json.args = columns.args := by
    refine jsonArgs.trans (Eq.trans ?_ columnsArgs.symm)
    exact (congrArg Condition.args viaDocument).symm.trans
      (Condition.args_clausesVia (Location.extract column) column columns.pushed)
  refine ⟨residual.symm, declined.symm, ?matchAll, ?nothing, args, ?columns, ?document, ?own⟩
  case matchAll => rw [isMatchAll_eq, isMatchAll_eq, moved, Condition.isTrue_relocate]
  case nothing =>
    rw [matchesNothing_eq (normal_pushed _ _ selector state),
      matchesNothing_eq (normal_pushed _ _ selector state), moved, Condition.isFalse_relocate]
  case columns => exact columnsText.trans (congrArg Condition.sql viaColumns.symm)
  case document => exact jsonText.trans (congrArg Condition.sql viaDocument.symm)
  case own =>
    refine Condition.Everywhere.imp (fun place fits field own => ?_) columns.pushed fits
    obtain ⟨mirrored, -⟩ := fits field own
    rw [Layout.mirrors, Bool.and_eq_true, Option.any_eq_true] at mirrored
    obtain ⟨-, declared, found, type⟩ := mirrored
    refine ⟨declared, found, ?_⟩
    revert type
    cases declared.type <;> simp [Location.fitsColumn]

/-- The value is read from the column of its field, and its type from the document. -/
example :
    let schema : Schema := { version := 1, fields := [("a?", ⟨.string, false⟩)], indexes := [] }
    let selector : Selector := .field ⟨["a?"]⟩ [.equals (.string "x"), .hasKind [.null]]
    let whereSql (layout : Layout) : String :=
      ((ofSelector schema layout selector).run {}).1.whereSql
    whereSql (.columns "d") = "\"a?\" = ? AND json_type(d, '$.\"a?\"') = 'null'" ∧
      whereSql (.jsonColumn "d") =
        "json_extract(d, '$.\"a?\"') = ? AND json_type(d, '$.\"a?\"') = 'null'" := by
  decide

end CompiledQuery

end Pushdown
