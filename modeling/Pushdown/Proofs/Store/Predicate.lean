import Pushdown.Proofs.Store.Calculation
import Pushdown.Proofs.Store.Row

/-!
# Predicates of SQL

A test of one value is written as a predicate of SQL over operands: what the store reads at a place,
a literal, or a placeholder with the argument that is bound to it. A predicate has a text, the
arguments of its placeholders in their order, and a truth value in the current rows. The truth value
follows from the values of the operands, and they from the same paths, literals and arguments that
the text and the list of arguments are made of.

What the store reads at a place is the column of a field, a column of the current row of a scan, or
a function of the document and the text of a path.
-/

namespace Pushdown

/-! ## Comparisons of texts -/

/-- A side of a comparison: the stored text, the bound one, or one of them in lower case. -/
inductive TextOperand where
  | stored
  | bound
  | lower (operand : TextOperand)

namespace TextOperand

def sql (value : String) : TextOperand → String
  | .stored => value
  | .bound => "?"
  | .lower operand => "lower(" ++ operand.sql value ++ ")"

/-- The text that an operand stands for. In lower case letters of ASCII become small. -/
def text (stored bound : String) : TextOperand → String
  | .stored => stored
  | .bound => bound
  | .lower operand => TextPattern.lowered (operand.text stored bound)

end TextOperand

inductive TextComparison where
  | equals (left right : TextOperand)
  /-- Equality up to the case of letters of ASCII. -/
  | equalsIgnoringCase (left right : TextOperand)
  /-- The left text is like the right one, in which the backslash takes the meaning from the next
  character. -/
  | like (left right : TextOperand)

namespace TextComparison

def sql (value : String) : TextComparison → String
  | .equals left right => left.sql value ++ " = " ++ right.sql value
  | .equalsIgnoringCase left right =>
    left.sql value ++ " = " ++ right.sql value ++ " COLLATE NOCASE"
  | .like left right => left.sql value ++ " LIKE " ++ right.sql value ++ " ESCAPE '\\'"

def holds (stored bound : String) : TextComparison → Bool
  | .equals left right => left.text stored bound == right.text stored bound
  | .equalsIgnoringCase left right =>
    TextPattern.lowered (left.text stored bound) == TextPattern.lowered (right.text stored bound)
  | .like left right => isLike (left.text stored bound) (right.text stored bound)

end TextComparison

namespace TextTest

def comparison : TextTest → TextComparison
  | .equal => .equals .stored .bound
  | .lowerEqual => .equals (.lower .stored) .bound
  | .equalIgnoringCase => .equalsIgnoringCase .stored .bound
  | .like => .like .stored .bound
  | .lowerLike => .like (.lower .stored) .bound
  | .lowerLikeLower => .like (.lower .stored) (.lower .bound)

/-- A test is written as its comparison. -/
theorem comparison_sql (value : String) (test : TextTest) :
    test.comparison.sql value = test.sql value := by
  have escape : escapeClause = " ESCAPE '\\'" := by decide
  cases test <;>
    simp [comparison, TextComparison.sql, TextOperand.sql, TextTest.sql, escape,
      String.append_assoc]

/-- A store answers a test of a text with the truth of its comparison. -/
theorem comparison_holds (store : Store) (text operand : String) (test : TextTest) :
    store.textTest (.text text) operand test = some (test.comparison.holds text operand) := by
  cases test with
  | equal => exact Argument.equal?_text text operand
  | lowerEqual | equalIgnoringCase | like | lowerLike | lowerLikeLower => rfl

end TextTest

namespace Sql

/-! ## Operands -/

/-- A path in SQL: a literal, the path of the current row of a scan, or one appended to another. -/
inductive Path where
  | literal (text : String)
  | fullKey (scan : Nat)
  | append (first second : Path)

namespace Path

def sql : Path → String
  | .literal text => Sql.literal text
  | .fullKey scan => scanName scan ++ ".fullkey"
  | .append first second => first.sql ++ " || " ++ second.sql

def text (rows : Rows) : Path → String
  | .literal text => text
  | .fullKey scan => (rows scan).path
  | .append first second => first.text rows ++ second.text rows

end Path

/-- A function that reads a document at a path. -/
inductive JsonFunction where
  | extract
  | typeName
  | arrayLength

namespace JsonFunction

def name : JsonFunction → String
  | .extract => "json_extract"
  | .typeName => "json_type"
  | .arrayLength => "json_array_length"

end JsonFunction

def typeText : Json → String
  | .null => "null"
  | .bool true => "true"
  | .bool false => "false"
  | .number n => if n.isReal then "real" else "integer"
  | .string _ => "text"
  | .array _ => "array"
  | .object _ => "object"

/-- The number of items that the store counts in a value. -/
def itemCount : Json → Nat
  | .array items => items.length
  | _ => 0

/-- What a function gives for the value at a path, NULL where there is none. -/
def JsonFunction.apply : JsonFunction → Option Json → Argument
  | _, none => .null
  | .extract, some v => .ofJson v
  | .typeName, some v => .text (typeText v)
  | .arrayLength, some v => .integer (itemCount v)

/-- What the store reads: the column of a field, the value or the type of the current row of a scan,
or what a function gives for the document. -/
inductive Accessor where
  | column (field : String)
  | rowValue (scan : Nat)
  | rowType (scan : Nat)
  | call (function : JsonFunction) (path : Path)

namespace Accessor

def sql (column : String) : Accessor → String
  | .column field => quoteIdentifier field
  | .rowValue scan => scanName scan ++ ".value"
  | .rowType scan => scanName scan ++ ".type"
  | .call function path => function.name ++ "(" ++ column ++ ", " ++ path.sql ++ ")"

def value (document : Json) (rows : Rows) : Accessor → Argument
  | .column field => .ofMissing (document.child? field)
  | .rowValue scan => .ofJson (rows scan).value
  | .rowType scan => .text (typeText (rows scan).value)
  | .call function path => function.apply (document.atPath? (path.text rows))

end Accessor

inductive Operand where
  | read (accessor : Accessor)
  | literal (text : String)
  /-- A placeholder with its argument. -/
  | bound (value : Argument)
  | lower (operand : Operand)

namespace Operand

def sql (column : String) : Operand → String
  | .read accessor => accessor.sql column
  | .literal text => Sql.literal text
  | .bound _ => "?"
  | .lower operand => "lower(" ++ operand.sql column ++ ")"

def args : Operand → List Argument
  | .read _ | .literal _ => []
  | .bound value => [value]
  | .lower operand => operand.args

def value (store : Store) (document : Json) (rows : Rows) : Operand → Argument
  | .read accessor => accessor.value document rows
  | .literal text => .text text
  | .bound value => value
  | .lower operand =>
    match store.textOf? (operand.value store document rows) with
    | none => .null
    | some text => .text (TextPattern.lowered text)

end Operand

/-! ## Predicates -/

/-- How two values may stand to each other. -/
inductive Relation where
  | equal
  | less
  | atMost
  | greater
  | atLeast

namespace Relation

def sign : Relation → String
  | .equal => "="
  | .less => "<"
  | .atMost => "<="
  | .greater => ">"
  | .atLeast => ">="

/-- Whether a value that stands in an order to another is in the relation to it. -/
def holds : Relation → Ordering → Bool
  | .equal, order => order == .eq
  | .less, order => order == .lt
  | .atMost, order => order != .gt
  | .greater, order => order == .gt
  | .atLeast, order => order != .lt

end Relation

/-- A predicate over one stored value. -/
inductive Predicate where
  | isNull (x : Accessor)
  | isNotNull (x : Accessor)
  | compares (relation : Relation) (x y : Operand)
  | equalsIgnoringCase (x y : Operand)
  | like (x y : Operand)
  /-- The value is one of some literals. -/
  | isOneOf (x : Accessor) (texts : List String)
  /-- The value is an item of an array. The text of the array is bound, and the store reads it back
  as the same items. -/
  | isItemOf (x : Accessor) (items : List Json)
  | leavesRemainder (x : Accessor) (divisor remainder : Int)

namespace Predicate

def sql (column : String) : Predicate → String
  | .isNull x => x.sql column ++ " IS NULL"
  | .isNotNull x => x.sql column ++ " IS NOT NULL"
  | .compares relation x y => x.sql column ++ " " ++ relation.sign ++ " " ++ y.sql column
  | .equalsIgnoringCase x y => x.sql column ++ " = " ++ y.sql column ++ " COLLATE NOCASE"
  | .like x y => x.sql column ++ " LIKE " ++ y.sql column ++ " ESCAPE '\\'"
  | .isOneOf x texts => x.sql column ++ " IN (" ++ joinWith ", " (texts.map Sql.literal) ++ ")"
  | .isItemOf x _ => x.sql column ++ " IN (SELECT value FROM json_each(?))"
  | .leavesRemainder x divisor _ => (Arithmetic.remainder divisor).sql (x.sql column) ++ " = ?"

def args : Predicate → List Argument
  | .isNull _ | .isNotNull _ | .isOneOf _ _ => []
  | .compares _ x y | .equalsIgnoringCase x y | .like x y => x.args ++ y.args
  | .isItemOf _ items => [.text (Json.array items).compact]
  | .leavesRemainder _ divisor remainder =>
    (Arithmetic.remainder divisor).args ++ [.integer remainder]

def nullable : Predicate → Bool
  | .isNull _ | .isNotNull _ => false
  | _ => true

def clause (column : String) (predicate : Predicate) : Clause :=
  ⟨predicate.sql column, predicate.args, predicate.nullable⟩

/-- The truth value in the current rows. A pattern is put to the text that the store reads a value
as, and remainders are left to the store. -/
def truth (store : Store) (document : Json) (rows : Rows) : Predicate → Option Bool
  | .isNull x => some (x.value document rows == .null)
  | .isNotNull x => some (x.value document rows != .null)
  | .compares relation x y =>
    ((x.value store document rows).compare? (y.value store document rows)).map relation.holds
  | .equalsIgnoringCase x y =>
    match x.value store document rows, y.value store document rows with
    | .text a, .text b => some (TextPattern.lowered a == TextPattern.lowered b)
    | a, b => a.equal? b
  | .like x y =>
    (store.textOf? (x.value store document rows)).bind fun text =>
      (store.textOf? (y.value store document rows)).map fun pattern => isLike text pattern
  | .isOneOf x texts => (x.value document rows).memberOf? (texts.map .text)
  | .isItemOf x items => (x.value document rows).memberOf? (items.map .ofJson)
  | .leavesRemainder x divisor remainder =>
    store.remainder (x.value document rows) divisor remainder

/-- A predicate that is not nullable is never NULL. -/
theorem truth_ne_none {predicate : Predicate} (h : predicate.nullable = false) (store : Store)
    (document : Json) (rows : Rows) : predicate.truth store document rows ≠ none := by
  cases predicate with
  | isNull | isNotNull => simp [truth]
  | compares | equalsIgnoringCase | like | isOneOf | isItemOf | leavesRemainder => cases h

end Predicate

end Sql

/-! ## What is read at a location -/

namespace Location

variable (place : Location)

def sqlPath : Sql.Path :=
  match place.origin, place.steps with
  | .document, steps => .literal ("$" ++ stepsText steps)
  | .item scan, [] => .fullKey scan
  | .item scan, steps => .append (.fullKey scan) (.literal (stepsText steps))

def typeAccessor : Sql.Accessor :=
  match place.origin, place.steps with
  | .item scan, [] => .rowType scan
  | _, _ => .call .typeName place.sqlPath

def valueAccessor : Sql.Accessor :=
  match place.ownColumn with
  | some field => .column field
  | none =>
    match place.origin, place.steps with
    | .item scan, [] => .rowValue scan
    | _, _ => .call .extract place.sqlPath

def lengthAccessor : Sql.Accessor := .call .arrayLength place.sqlPath

section

variable (column : String)

theorem sqlPath_sql : place.sqlPath.sql = place.pathExpression := by
  obtain ⟨origin, steps, _, _, _, _⟩ := place
  cases origin with
  | document => rfl
  | item scan =>
      cases steps with
      | nil => rfl
      | cons step rest =>
          have joined : ".fullkey || " = ".fullkey" ++ " || " := rfl
          change scanName scan ++ ".fullkey" ++ " || " ++ _ = scanName scan ++ ".fullkey || " ++ _
          rw [joined, ← String.append_assoc]
          rfl

theorem call_sql (function : Sql.JsonFunction) :
    (Sql.Accessor.call function place.sqlPath).sql column = place.call function.name column := by
  rw [Sql.Accessor.sql, sqlPath_sql, call]

theorem typeAccessor_sql : place.typeAccessor.sql column = place.typeName column := by
  have called := place.call_sql column .typeName
  obtain ⟨origin, steps, _, _, _, _⟩ := place
  cases origin with
  | document => exact called
  | item scan =>
      cases steps with
      | nil => rfl
      | cons step rest => exact called

theorem valueAccessor_sql : place.valueAccessor.sql column = place.value column := by
  have called := place.call_sql column .extract
  obtain ⟨origin, steps, own, _, _, _⟩ := place
  cases own with
  | some field => rfl
  | none =>
      cases origin with
      | document => exact called
      | item scan =>
          cases steps with
          | nil => rfl
          | cons step rest => exact called

theorem lengthAccessor_sql : place.lengthAccessor.sql column = place.length column :=
  place.call_sql column .arrayLength

end

section

variable (document : Json) (rows : Rows)

/-- The value at a location as the store reads it. -/
def stored : Argument := .ofMissing (place.value? document rows)

theorem sqlPath_text : place.sqlPath.text rows = place.path rows := by
  obtain ⟨origin, steps, _, _, _, _⟩ := place
  cases origin with
  | document => rfl
  | item scan =>
      cases steps with
      | nil => exact String.append_empty.symm
      | cons step rest => rfl

theorem call_value (function : Sql.JsonFunction) :
    (Sql.Accessor.call function place.sqlPath).value document rows =
      function.apply (place.node? document rows) := by
  rw [Sql.Accessor.value, sqlPath_text, node?]

theorem typeAccessor_value : place.typeAccessor.value document rows =
    Sql.JsonFunction.apply .typeName (place.typed? document rows) := by
  have called := place.call_value document rows .typeName
  obtain ⟨origin, steps, _, _, _, _⟩ := place
  cases origin with
  | document => exact called
  | item scan =>
      cases steps with
      | nil => rfl
      | cons step rest => exact called

theorem valueAccessor_value :
    place.valueAccessor.value document rows = place.stored document rows := by
  have extracted (v? : Option Json) : Sql.JsonFunction.apply .extract v? = .ofMissing v? := by
    cases v? <;> rfl
  have called := (place.call_value document rows .extract).trans (extracted _)
  obtain ⟨origin, steps, own, _, _, _⟩ := place
  cases own with
  | some field => rfl
  | none =>
      cases origin with
      | document => exact called
      | item scan =>
          cases steps with
          | nil => rfl
          | cons step rest => exact called

theorem lengthAccessor_value : place.lengthAccessor.value document rows =
    Sql.JsonFunction.apply .arrayLength (place.node? document rows) :=
  place.call_value document rows .arrayLength

end

end Location

/-! ## Predicates of tests -/

def Sql.Predicate.hasType (x : Sql.Accessor) : List TypeName → Sql.Predicate
  | [name] => .compares .equal (.read x) (.literal name.spelling)
  | names => .isOneOf x (names.map TypeName.spelling)

def Comparison.relation : Comparison → Sql.Relation
  | .gt => .greater
  | .gte => .atLeast
  | .lt => .less
  | .lte => .atMost

def TextOperand.operand (x : Sql.Accessor) (bound : String) : TextOperand → Sql.Operand
  | .stored => .read x
  | .bound => .bound (.text bound)
  | .lower operand => .lower (operand.operand x bound)

def TextComparison.predicate (x : Sql.Accessor) (bound : String) :
    TextComparison → Sql.Predicate
  | .equals left right => .compares .equal (left.operand x bound) (right.operand x bound)
  | .equalsIgnoringCase left right =>
    .equalsIgnoringCase (left.operand x bound) (right.operand x bound)
  | .like left right => .like (left.operand x bound) (right.operand x bound)

/-- The text of a predicate for a comparison with a placeholder. -/
theorem Sql.Predicate.sql_compares_bound (relation : Sql.Relation) (x : Sql.Accessor)
    (operand : Argument) (column : String) :
    (Sql.Predicate.compares relation (.read x) (.bound operand)).sql column =
      x.sql column ++ " " ++ relation.sign ++ " ?" := by
  have mark : " ?" = " " ++ "?" := rfl
  rw [mark, ← String.append_assoc]
  rfl

theorem Sql.Predicate.sql_equals_bound (x : Sql.Accessor) (operand : Argument) (column : String) :
    (Sql.Predicate.compares .equal (.read x) (.bound operand)).sql column =
      x.sql column ++ " = ?" := by
  have joined : " = ?" = " " ++ ("=" ++ " ?") := rfl
  rw [Sql.Predicate.sql_compares_bound, joined, ← String.append_assoc, ← String.append_assoc]
  rfl

theorem Sql.Predicate.sql_hasType (x : Sql.Accessor) (names : List TypeName) (column : String) :
    (Sql.Predicate.hasType x names).sql column = typeTestSql (x.sql column) names := by
  have equals : " = " = " " ++ ("=" ++ " ") := rfl
  obtain _ | ⟨name, _ | ⟨next, rest⟩⟩ := names
  · rfl
  · rw [typeTestSql, equals, ← String.append_assoc, ← String.append_assoc]
    rfl
  · change _ ++ " IN (" ++ joinWith ", " (List.map _ (List.map _ (name :: next :: rest))) ++ ")" = _
    rw [List.map_map]
    rfl

theorem TextOperand.operand_sql (x : Sql.Accessor) (bound column : String)
    (operand : TextOperand) :
    (operand.operand x bound).sql column = operand.sql (x.sql column) := by
  induction operand with
  | stored | bound => rfl
  | lower operand ih => rw [TextOperand.operand, Sql.Operand.sql, ih, TextOperand.sql]

theorem TextComparison.predicate_sql (x : Sql.Accessor) (bound column : String)
    (comparison : TextComparison) :
    (comparison.predicate x bound).sql column = comparison.sql (x.sql column) := by
  have equals : " = " = " " ++ ("=" ++ " ") := rfl
  cases comparison <;>
    simp only [TextComparison.predicate, Sql.Predicate.sql, TextOperand.operand_sql,
      TextComparison.sql, Sql.Relation.sign, equals, String.append_assoc]

/-- The test for a remainder is written as the expression for it. -/
theorem Test.clause_leavesRemainder (column : String) (place : Location)
    (divisor remainder : Int) :
    (Test.leavesRemainder place divisor remainder).clause column =
      ⟨(Arithmetic.remainder divisor).sql (place.value column) ++ " = ?",
        (Arithmetic.remainder divisor).args ++ [.integer remainder], true⟩ := by
  have opening : " - (CAST(" = " - " ++ ("(" ++ "CAST(") := rfl
  have middle : " / ? AS INTEGER) * ?)) = ?" =
      " / " ++ ("?" ++ (" AS INTEGER)" ++ (" * " ++ ("?" ++ (")" ++ (")" ++ " = ?")))))) := rfl
  simp only [Test.clause, remainderSql, Arithmetic.remainder, Arithmetic.sql, Arithmetic.args,
    opening, middle, String.append_assoc, List.nil_append, List.cons_append]

end Pushdown
