import Pushdown.Config.Basic
import Pushdown.Proofs.Query.Hygiene

/-!
# Columns that scans capture

In the source and the body of a scan the column of documents is the only name that is not qualified.
It denotes the row outside unless the rows of the scan have a column of that name, in letters of
either case. A valid configuration may name the column of documents so, and then every text with a
scan reads a column of the wrong rows.
-/

namespace Pushdown

open Sql (Occurrence occurrences aliases inScan isRowColumn)

variable {document : String}

/-- A name of the text is captured if it stands in a scan and is the name of one of the columns that
the rows of a scan have. -/
def Sql.Occurrence.Captured (o : Occurrence) : Prop :=
  inScan o.scopes = true ∧ ∃ name ∈ o.reference?, isRowColumn name = true

theorem Sql.not_vocabulary_of_isRowColumn {name : String} (row : isRowColumn name = true) :
    Sql.vocabulary.contains name = false := by
  have none : Sql.vocabulary.all (fun word => !isRowColumn word) = true := by decide +kernel
  rw [Bool.eq_false_iff]
  intro known
  simpa [row] using List.all_eq_true.mp none name (List.contains_iff_mem.mp known)

/-- Where the column of documents is read in a scan it is captured by its name. -/
theorem Sql.Occurrence.Reads.captured {o : Occurrence} (reads : o.Reads document)
    (plain : Sql.isIdentifier document = true) (row : isRowColumn document = true) :
    o.Captured := by
  obtain ⟨inside, before, lexeme⟩ := reads
  have unqualified := Sql.isQualified_of_continues (Sql.continues_of_isIdentifier plain).2
  refine ⟨inside, document, ?_, row⟩
  rw [reference?, lexeme, before]
  dsimp only
  rw [unqualified, Sql.not_vocabulary_of_isRowColumn row]
  rfl

theorem Config.plain_of_validate {config : Config} (valid : config.validate = .ok ()) :
    Sql.isIdentifier config.layout.documentColumn = true := by
  rw [validate] at valid
  split at valid
  · next plain => exact plain
  · cases valid

namespace CompiledQuery

/-- In the scans of a compiled text the column of documents is the only unqualified name, whatever
valid configuration the text is compiled for. So no name is captured, unless the rows of scans have
a column named like that of documents; and if they have, then every text with a scan has a name that
is captured. -/
theorem column_captured {config : Config} (valid : config.validate = .ok ()) (schema : Schema)
    (selector : Selector) (state : PushState) :
    let column := config.layout.documentColumn
    let text := ((ofSelector schema config.layout selector).run state).1.whereSql
    (∀ o ∈ occurrences text, inScan o.scopes = true →
      o.lexeme ≠ .mark '"' ∧ ∀ name ∈ o.reference?, name = column) ∧
    ((∃ o ∈ occurrences text, o.Captured) → isRowColumn column = true) ∧
    (isRowColumn column = true → (∃ scan, scanName scan ∈ aliases text) →
      ∃ o ∈ occurrences text, o.Captured) := by
  intro column text
  have plain := config.plain_of_validate valid
  have account := (@ofSelector_twins schema config.layout config.layout 0 selector state).1.account
    plain
  have written : text = _ := (whereSql_and_args _).1
  rw [written]
  refine ⟨?_, ?_, ?_⟩
  · intro o occurs inside
    exact ⟨(account.sound o occurs).unquoted inside, (account.sound o occurs).outer inside⟩
  · rintro ⟨o, occurs, inside, name, given, row⟩
    rwa [(account.sound o occurs).outer inside name given] at row
  · rintro row ⟨scan, introduced⟩
    -- A text that introduces names reads the column of documents in a scan.
    obtain ⟨o, occurs, reads⟩ := account.reads fun none => by
      have counted := account.introduced scan
      rw [none, List.count_nil, List.count_eq_zero] at counted
      exact counted introduced
    exact ⟨o, occurs, reads.captured plain row⟩

/-- The scan for an item of an array reads the column of documents in its source. -/
theorem column_captured_array :
    let schema : Schema :=
      { version := 0, fields := [("a", ⟨.array .number, false⟩)], indexes := [] }
    let config : Config := { layout := .jsonColumn "Key" }
    let selector : Selector := .field ⟨["a"]⟩ [.equals (.ofNat 1)]
    let query := ((ofSelector schema config.layout selector).run {}).1
    config.validate = .ok () ∧ scanName 1 ∈ aliases query.whereSql ∧
      isRowColumn config.layout.documentColumn = true ∧
      ∃ o ∈ occurrences query.whereSql, o.Captured := by
  intro schema config selector query
  have valid : config.validate = .ok () := by decide
  have introduced : scanName 1 ∈ aliases query.whereSql := by decide +kernel
  have row : isRowColumn config.layout.documentColumn = true := by decide
  obtain ⟨-, -, captured⟩ := column_captured valid schema selector {}
  exact ⟨valid, introduced, row, captured row ⟨1, introduced⟩⟩

/-- A column of documents that is named like one of the rows is valid, and captured. -/
theorem value_captured :
    let schema : Schema :=
      { version := 0, fields := [("a", ⟨.array .number, false⟩)], indexes := [] }
    let config : Config := { layout := .jsonColumn "value" }
    let query := compile schema config.layout (.object [("a", .ofNat 1)])
    config.validate = .ok () ∧
      query.whereSql =
        "EXISTS(SELECT 1 FROM json_each(value, '$.a') AS j1 WHERE j1.value = ?)" ∧
      ∃ o ∈ occurrences query.whereSql, inScan o.scopes = true ∧ o.reference? = some "value" ∧
        isRowColumn "value" = true := by
  decide +kernel

end CompiledQuery

end Pushdown
