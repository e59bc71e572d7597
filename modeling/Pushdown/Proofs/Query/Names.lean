import Pushdown.Proofs.Query.Execution
import Pushdown.Proofs.Query.Layouts

/-!
# Names of columns and tables

SQL text reads a name in one of two ways. A word of letters, digits and underscores runs as far as
it can, and it is a name unless the language reserves it, in letters of either case. A double quote
begins a name that runs up to the first double quote that is not written twice.

What is written for a name is read as that name and nothing else, wherever it stands, with one
exception: a plain identifier is written as it is, also where it is a reserved word. So a column of
a field and the table of a statement are read as they are meant exactly if they are not named by a
reserved word.
-/

namespace Pushdown

namespace Sql

/-! ## Reading names -/

/-- The words that cannot be names of columns and tables, in lower case. -/
def reservedWords : List String :=
  ["add", "all", "alter", "and", "as", "autoincrement", "between", "case", "check", "collate",
    "commit", "constraint", "create", "default", "deferrable", "delete", "distinct", "drop", "else",
    "escape", "except", "exists", "foreign", "from", "group", "having", "in", "index", "insert",
    "intersect", "into", "is", "isnull", "join", "limit", "not", "nothing", "notnull", "null", "on",
    "or", "order", "primary", "references", "returning", "select", "set", "table", "then", "to",
    "transaction", "union", "unique", "update", "using", "values", "when", "where"]

/-- A word in a list of reserved words, in letters of either case. -/
def isReserved (reserved : List String) (word : String) : Bool :=
  reserved.contains (TextPattern.lowered word)

def isBareReserved (reserved : List String) (name : String) : Bool :=
  isIdentifier name && isReserved reserved name

/-- The name up to the first double quote that is not written twice, and the text behind it. -/
def readQuoted : List Char → Option (List Char × List Char)
  | [] => none
  | '"' :: '"' :: rest => (readQuoted rest).map fun read => ('"' :: read.1, read.2)
  | '"' :: rest => some ([], rest)
  | c :: rest => (readQuoted rest).map fun read => (c :: read.1, read.2)

/-- The name that a text begins with, and the text behind it. A text that begins with a reserved
word, a digit or another mark begins with no name. -/
def readName? (reserved : List String) : List Char → Option (String × List Char)
  | [] => none
  | c :: rest =>
    if c = '"' then (readQuoted rest).map fun read => (String.ofList read.1, read.2)
    else if beginsIdentifier c then
      let word := String.ofList (c :: rest.takeWhile continuesIdentifier)
      if isReserved reserved word then none else some (word, rest.dropWhile continuesIdentifier)
    else none

/-- A name that ends before the text is neither continued by it nor closed by another quote. -/
def EndsName (text : List Char) : Prop :=
  ∀ c ∈ text.head?, continuesIdentifier c = false ∧ c ≠ '"'

/-- The text is read as one name, whatever follows it. -/
def ReadsAs (reserved : List String) (text name : String) : Prop :=
  ∀ rest, EndsName rest → readName? reserved (text.toList ++ rest) = some (name, rest)

variable {reserved : List String} {name : String}

theorem endsName_nil : EndsName [] := by
  intro c first
  cases first

/-! ## Words -/

theorem EndsName.takeWhile {rest : List Char} (ends : EndsName rest) {word : List Char}
    (continues : ∀ c ∈ word, continuesIdentifier c = true) :
    (word ++ rest).takeWhile continuesIdentifier = word ∧
      (word ++ rest).dropWhile continuesIdentifier = rest := by
  rw [List.takeWhile_append_of_pos continues, List.dropWhile_append_of_pos continues]
  cases rest with
  | nil => exact ⟨List.append_nil word, rfl⟩
  | cons c rest =>
      have stops : ¬continuesIdentifier c = true := Bool.eq_false_iff.mp (ends c rfl).1
      rw [List.takeWhile_cons_of_neg stops, List.dropWhile_cons_of_neg stops, List.append_nil]
      exact ⟨rfl, rfl⟩

/-- A plain identifier is read to its end, and is a name unless it is reserved. -/
theorem readName?_word (plain : isIdentifier name = true) {rest : List Char}
    (ends : EndsName rest) :
    readName? reserved (name.toList ++ rest) =
      if isReserved reserved name then none else some (name, rest) := by
  rw [isIdentifier] at plain
  cases text : name.toList with
  | nil =>
      rw [text] at plain
      cases plain
  | cons first word =>
      rw [text, Bool.and_eq_true, List.all_eq_true] at plain
      obtain ⟨begins, continues⟩ := plain
      have notQuote : first ≠ '"' := by
        rintro rfl
        cases begins
      have whole : String.ofList (first :: word) = name := by rw [← text, String.ofList_toList]
      obtain ⟨taken, left⟩ := ends.takeWhile continues
      rw [List.cons_append, readName?, if_neg notQuote, if_pos begins, taken, left, whole]

/-! ## Quoted names -/

theorem readQuoted_doubled {rest : List Char} (ends : EndsName rest) (text : List Char) :
    readQuoted (doubled '"' text ++ '"' :: rest) = some (text, rest) := by
  induction text with
  | nil =>
      cases rest with
      | nil => rfl
      | cons c rest => simp [doubled, readQuoted, (ends c rfl).2]
  | cons c text ih =>
      rw [doubled, List.flatMap_cons, List.append_assoc]
      rw [doubled] at ih
      by_cases quote : c = '"' <;> simp [quote, readQuoted, ih]

/-- What stands between double quotes is read as the name, up to the closing quote. -/
theorem readName?_quoted (name : String) {rest : List Char} (ends : EndsName rest) :
    readName? reserved ((String.ofList ('"' :: doubled '"' name.toList ++ ['"'])).toList ++ rest) =
      some (name, rest) := by
  have text : (String.ofList ('"' :: doubled '"' name.toList ++ ['"'])).toList ++ rest =
      '"' :: (doubled '"' name.toList ++ '"' :: rest) := by simp
  rw [text, readName?, if_pos rfl, readQuoted_doubled ends, Option.map_some, String.ofList_toList]

/-! ## Written names -/

/-- What is written for a name is read as the name, but for a plain identifier that is reserved. -/
theorem readName?_quoteIdentifier (reserved : List String) (name : String) {rest : List Char}
    (ends : EndsName rest) :
    readName? reserved ((quoteIdentifier name).toList ++ rest) =
      if isBareReserved reserved name then none else some (name, rest) := by
  rw [quoteIdentifier]
  by_cases plain : isIdentifier name = true
  · rw [if_pos plain, readName?_word plain ends, isBareReserved, plain, Bool.true_and]
  · rw [if_neg plain, readName?_quoted name ends, isBareReserved, Bool.eq_false_iff.mpr plain,
      Bool.false_and]
    rfl

/-- Only a plain identifier that is reserved is not read as the name that it is written for. -/
theorem readName?_quoteIdentifier_iff (reserved : List String) (name : String) {rest : List Char}
    (ends : EndsName rest) :
    readName? reserved ((quoteIdentifier name).toList ++ rest) = some (name, rest) ↔
      isBareReserved reserved name = false := by
  rw [readName?_quoteIdentifier reserved name ends]
  split
  · next reserves => simp [reserves]
  · next free => simp [free]

theorem readsAs_quoteIdentifier_iff (reserved : List String) (name : String) :
    ReadsAs reserved (quoteIdentifier name) name ↔
      isBareReserved reserved name = false := by
  constructor
  · intro reads
    exact (readName?_quoteIdentifier_iff reserved name endsName_nil).mp (reads [] endsName_nil)
  · intro free rest ends
    exact (readName?_quoteIdentifier_iff reserved name ends).mpr free

/-! ## Texts behind a name -/

def beginsBlank (text : String) : Bool := text.toList.head?.all (· == ' ')

theorem beginsBlank_append {a b : String} (front : beginsBlank a = true)
    (back : beginsBlank b = true) : beginsBlank (a ++ b) = true := by
  rw [beginsBlank, String.toList_append]
  cases text : a.toList with
  | nil => exact back
  | cons c rest =>
      rw [beginsBlank, text] at front
      exact front

theorem beginsBlank_of_head {a : String} (blank : a.toList.head? = some ' ') (b : String) :
    beginsBlank (a ++ b) = true := by
  rw [beginsBlank, String.toList_append, List.head?_append, blank]
  rfl

/-- No name runs on into a blank. -/
theorem endsName_of_beginsBlank {text : String} (begins : beginsBlank text = true) :
    EndsName text.toList := by
  intro c first
  rw [Option.mem_def] at first
  rw [beginsBlank, first, Option.all_some, beq_iff_eq] at begins
  rw [begins]
  decide

/-- Behind the projection and `FROM` the text is read as the table. -/
def ReadsTable (reserved : List String) (text projection table : String) : Prop :=
  ∃ rest behind, text = "SELECT " ++ projection ++ " FROM " ++ rest ∧
    readName? reserved rest.toList = some (table, behind)

end Sql

open Sql (ReadsAs ReadsTable beginsBlank beginsBlank_append isBareReserved)

/-! ## Tables -/

namespace Select

variable (select : Select)

/-- In a statement the table stands between `FROM` and a blank or the end. -/
theorem fragment_table : ∃ rest, beginsBlank rest = true ∧
    select.fragment.sql =
      "SELECT " ++ select.projection ++ " FROM " ++ (Sql.quoteIdentifier select.table ++ rest) := by
  have ordering : beginsBlank select.ordering = true := by
    rw [Select.ordering]
    split
    · decide
    · exact Sql.beginsBlank_of_head (by decide) _
  have windowed : beginsBlank select.windowed.sql = true := by
    rw [Select.windowed]
    split
    · decide
    · rw [Window.fragment]
      split
      · show beginsBlank " LIMIT ?" = true
        decide
      · show beginsBlank " LIMIT ? OFFSET ?" = true
        decide
  have behind := beginsBlank_append ordering windowed
  rw [Select.fragment, Select.filtered]
  cases select.condition with
  | none => exact ⟨_, behind, by simp only [String.append_assoc]⟩
  | some condition =>
      have filtering := Sql.beginsBlank_of_head (a := " WHERE ") (by decide) condition.sql
      exact ⟨_, beginsBlank_append filtering behind, by simp only [String.append_assoc]⟩

/-- A statement is read with its table, unless that is named by a bare reserved word. -/
theorem readsTable_iff (reserved : List String) :
    ReadsTable reserved select.fragment.sql select.projection select.table ↔
      isBareReserved reserved select.table = false := by
  obtain ⟨rest, begins, text⟩ := select.fragment_table
  have reads := Sql.readName?_quoteIdentifier_iff reserved select.table
    (Sql.endsName_of_beginsBlank begins)
  have written := Sql.readName?_quoteIdentifier reserved select.table
    (Sql.endsName_of_beginsBlank begins)
  rw [← String.toList_append] at reads written
  constructor
  · rintro ⟨given, behind, same, read⟩
    rw [text, String.append_right_inj] at same
    rw [← same, written] at read
    exact Bool.eq_false_iff.mpr (Option.ite_none_left_eq_some.mp read).1
  · intro free
    exact ⟨_, rest.toList, text, reads.mpr free⟩

end Select

/-! ## Columns and tables -/

/-- Whatever words are reserved, what is written for a name is read as that name and nothing else
exactly if the name is not a bare reserved word. This is so of any name, of the column of a place
that a path is resolved to, which is then a declared field, and of the table in the statements of a
plan. -/
theorem names_read_iff (reserved : List String) :
    (∀ name, ReadsAs reserved (Sql.quoteIdentifier name) name ↔
      isBareReserved reserved name = false) ∧
    (∀ schema layout scope segments, ∀ place ∈ Location.resolve? schema layout scope segments,
      ∀ field ∈ place.ownColumn, layout.mirrors schema field = true ∧
        (ReadsAs reserved (place.value layout.documentColumn) field ↔
          isBareReserved reserved field = false)) ∧
    (∀ (plan : Plan) table,
      (ReadsTable reserved (plan.selectStatement table).sql plan.documentColumn table ↔
        isBareReserved reserved table = false) ∧
      (ReadsTable reserved (plan.countStatement table).sql (plan.counting table).projection table ↔
        isBareReserved reserved table = false)) := by
  have names := Sql.readsAs_quoteIdentifier_iff reserved
  refine ⟨names, ?_, ?_⟩
  · intro schema layout scope segments place resolved field own
    refine ⟨(Location.fits_resolve? resolved field own).1, ?_⟩
    rw [Location.value, Option.mem_def.mp own]
    exact names field
  · intro plan table
    rw [← plan.select_fragment, ← plan.counting_fragment]
    exact ⟨(plan.select table).readsTable_iff reserved,
      (plan.counting table).readsTable_iff reserved⟩

/-- A column with a blank in its name and a table with a quote are read, the one in a test and the
other in the statement for counting. -/
theorem names_read_iff_quoted :
    let schema : Schema :=
      { version := 0, fields := [("group by", ⟨.string, false⟩)], indexes := [] }
    let plan := Plan.ofQuery schema (.columns "doc") ⟨"users", .object [], [], none, none⟩
      (CompiledQuery.compile schema (.columns "doc") (.object []))
    ∃ place ∈ Location.resolve? schema (.columns "doc") .document ["group by"],
      "group by" ∈ place.ownColumn ∧
        ReadsAs Sql.reservedWords (place.value "doc") "group by" ∧
        ReadsTable Sql.reservedWords (plan.countStatement "\"order\"").sql "COUNT(*)"
          "\"order\"" := by
  intro schema plan
  obtain ⟨-, columns, tables⟩ := names_read_iff Sql.reservedWords
  refine ⟨_, rfl, rfl, ?_, ?_⟩
  · exact (columns schema (.columns "doc") .document ["group by"] _ rfl "group by" rfl).2.mpr
      (by decide)
  · exact (tables plan "\"order\"").2.mpr (by decide)

/-- A field that is named by a reserved word is written as that word. -/
theorem order_not_read :
    let schema : Schema := { version := 0, fields := [("order", ⟨.number, false⟩)], indexes := [] }
    let query := CompiledQuery.compile schema (.columns "doc") (.object [("order", .ofNat 5)])
    query.whereSql = "order = ?" ∧ "order" ≠ "" ∧
      ¬ReadsAs Sql.reservedWords (Sql.quoteIdentifier "order") "order" := by
  intro schema query
  refine ⟨by decide +kernel, by decide, ?_⟩
  rw [Sql.readsAs_quoteIdentifier_iff]
  decide

end Pushdown
