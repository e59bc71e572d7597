import Pushdown.Proofs.Query.Sorting
import Pushdown.Sql.Fragment

/-!
# Statements and stores

The parts of a statement run one after another: the condition drops rows, the terms order them, and
the window takes some of them. A store knows which documents a condition is true of and how a term
orders them. It sorts stably, so there is only one order that its rows can have, and without terms
they keep the order of the table.
-/

namespace Pushdown

/-! ## Statements -/

/-- A window on rows, which a negative limit leaves open. -/
structure Window where
  limit : Int
  offset : Option Int

namespace Window

def fragment (window : Window) : Fragment :=
  match window.offset with
  | none => ⟨" LIMIT ?", [.integer window.limit]⟩
  | some offset => ⟨" LIMIT ? OFFSET ?", [.integer window.limit, .integer offset]⟩

def rows (window : Window) (given : List Json) : List Json :=
  let rest := given.drop (window.offset.getD 0).toNat
  if window.limit < 0 then rest else rest.take window.limit.toNat

def rowsIn (window : Option Window) (given : List Json) : List Json :=
  match window with
  | none => given
  | some window => window.rows given

end Window

structure Select where
  projection : String
  table : String
  condition : Option Fragment
  terms : List String
  window : Option Window

namespace Select

def filtered (select : Select) : Fragment :=
  let head := "SELECT " ++ select.projection ++ " FROM " ++ Sql.quoteIdentifier select.table
  match select.condition with
  | none => ⟨head, []⟩
  | some condition => ⟨head ++ " WHERE " ++ condition.sql, condition.args⟩

def ordering (select : Select) : String :=
  match select.terms with
  | [] => ""
  | terms => " ORDER BY " ++ joinWith ", " terms

def windowed (select : Select) : Fragment :=
  match select.window with
  | none => ⟨"", []⟩
  | some window => window.fragment

def fragment (select : Select) : Fragment where
  sql := select.filtered.sql ++ select.ordering ++ select.windowed.sql
  args := select.filtered.args ++ select.windowed.args

end Select

/-! ## Stores -/

/-- The order by several orders, the first being the most significant. -/
def lexicographic {α : Type} : List (α → α → Ordering) → α → α → Ordering
  | [], _, _ => .eq
  | first :: rest, a, b => (first a b).then (lexicographic rest a b)

/-- Keys in groups order as all of them together. -/
theorem lexicographic_keys (keys : String → List SortSpec) (terms : List String) :
    lexicographic (terms.map fun term => compareDocuments (keys term)) =
      compareDocuments (terms.flatMap keys) := by
  funext a b
  induction terms with
  | nil => rfl
  | cons term rest ih =>
    rw [List.flatMap_cons, compareDocuments_append, ← ih]
    rfl

/-- A store that holds documents and runs statements. -/
structure Engine where
  /-- Whether a condition is true of a document. -/
  accepts : Fragment → Json → Bool
  /-- The order of documents by a term. -/
  compare : String → Json → Json → Ordering
  /-- Documents in the order of terms. -/
  sorted : List String → List Json → List Json
  /-- Documents are sorted stably, the first term being the most significant. -/
  stable : ∀ terms documents,
    StablySorted (lexicographic (terms.map compare)) documents (sorted terms documents)

namespace Engine

variable (engine : Engine)

def matching (condition : Option Fragment) (table : List Json) : List Json :=
  table.filter fun document => condition.all (engine.accepts · document)

/-- The rows that a statement selects from a table, before the window. -/
def ordered (select : Select) (table : List Json) : List Json :=
  engine.sorted select.terms (engine.matching select.condition table)

def rows (select : Select) (table : List Json) : List Json :=
  Window.rowsIn select.window (engine.ordered select table)

theorem sorted_nil (documents : List Json) : engine.sorted [] documents = documents := by
  have kept : StablySorted (compareDocuments []) documents (engine.sorted [] documents) :=
    (engine.stable [] documents).congr fun _ _ _ _ => rfl
  have still : StablySorted (compareDocuments []) documents documents :=
    .refl (List.pairwise_of_forall fun _ _ => rfl)
  exact kept.unique still

theorem length_ordered (select : Select) (table : List Json) :
    (engine.ordered select table).length ≤ table.length := by
  have same := (engine.stable select.terms (engine.matching select.condition table)).rearranged
  rw [ordered, same.length_eq]
  exact List.length_filter_le _ _

/-- A store whose terms stand for sort keys. -/
def ofKeys (accepts : Fragment → Json → Bool) (keys : String → List SortSpec) : Engine where
  accepts
  compare term := compareDocuments (keys term)
  sorted terms := sortDocuments (terms.flatMap keys)
  stable := by
    intro terms documents
    rw [lexicographic_keys]
    exact sortDocuments_sorted _ documents

end Engine

end Pushdown
