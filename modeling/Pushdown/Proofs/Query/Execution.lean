import Pushdown.Proofs.Query.Statement
import Pushdown.Proofs.Store.Path
import Pushdown.Query.Plan

/-!
# Running plans

What a plan leaves out of its statement it does in memory with the rows that come back. Wherever
filtering, sorting, skipping and limiting run, the answer is the same: the documents that the
matcher accepts, sorted, without the skipped ones and up to the limit.

Two things are asked of the store. Its conditions accept, together with the residual, what the
matcher accepts, and its terms order documents as the sort keys do.
-/

namespace Pushdown

/-! ## The statements of a plan -/

/-- A number of documents, cut down to a signed word. -/
def cutToWord (n : Nat) : Int := min n greatestSigned

def Pagination.window? (pagination : Pagination) : Option Window :=
  match pagination.sqlLimit, pagination.sqlOffset with
  | none, none => none
  | limit, offset => some {
      limit := match limit with
        | some n => cutToWord n
        | none => -1
      offset := offset.map cutToWord }

namespace Plan

def select (plan : Plan) (table : String) : Select where
  projection := plan.documentColumn
  table
  condition := plan.compiled.fragment?
  terms := plan.orderBy.getD []
  window := plan.pagination.window?

def counting (plan : Plan) (table : String) : Select where
  projection := match plan.count with
    | .sql => "COUNT(*)"
    | .materialize => plan.documentColumn
  table
  condition := plan.compiled.fragment?
  terms := []
  window := none

variable (plan : Plan) (table : String)

theorem select_fragment : (plan.select table).fragment = plan.selectStatement table := by
  have filtered : (plan.select table).filtered =
      plan.filteredSelect table plan.documentColumn := by
    rw [filteredSelect]
    rfl
  have ordering : (plan.select table).ordering = plan.orderClause := by
    rw [Select.ordering, select, orderClause]
    rcases plan.orderBy with _ | (_ | ⟨term, terms⟩) <;> rfl
  have windowed : (plan.select table).windowed = plan.windowClause := by
    rw [Select.windowed, select, Pagination.window?, windowClause]
    cases plan.pagination.sqlLimit <;> cases plan.pagination.sqlOffset <;> rfl
  rw [Select.fragment, filtered, ordering, windowed]
  rfl

theorem counting_fragment : (plan.counting table).fragment = plan.countStatement table := by
  have plain (projection : String) :
      Select.fragment ⟨projection, table, plan.compiled.fragment?, [], none⟩ =
        plan.filteredSelect table projection := by
    rw [Select.fragment, filteredSelect]
    cases plan.compiled.fragment? <;>
      simp [Select.filtered, Select.ordering, Select.windowed]
  rw [counting, plain, countStatement]
  cases plan.count <;> rfl

end Plan

/-! ## Running a plan -/

namespace Engine

variable (engine : Engine)

/-- The number of matches that is found with the statement for counting: the number that the store
answers with, which is that of the selected rows, or the number of fetched documents that count. -/
def count (plan : Plan) (name : String) (table : List Json) : Nat :=
  let rows := engine.rows (plan.counting name) table
  match plan.count with
  | .sql => rows.length
  | .materialize => plan.countRows rows

/-- What a plan relies on, for documents that conform to the schema. -/
structure Agrees (schema : Schema) (layout : Layout) (query : Query) (compiled : CompiledQuery) :
    Prop where
  /-- The condition and the residual accept together what the matcher accepts. -/
  accepts : ∀ document, schema.conforms document = true →
    (compiled.fragment?.all (engine.accepts · document) && compiled.residualAccepts document) =
      (Selector.ofJson query.selector).accepts document
  /-- The term of a sort key orders as the key does. -/
  orders : ∀ spec ∈ query.sort, ∀ term, Plan.orderTerm? schema layout spec = some term →
    ∀ a b, schema.conforms a = true → schema.conforms b = true →
      engine.compare term a b = spec.compare a b

end Engine

/-! ## Answers -/

def paged (skip limit : Option Nat) (documents : List Json) : List Json :=
  let rest := documents.drop (skip.getD 0)
  match limit with
  | none => rest
  | some limit => rest.take limit

/-- The documents of a table that a query asks for. -/
def Query.answer (query : Query) (table : List Json) : List Json :=
  let accepted := table.filter (Selector.ofJson query.selector).accepts
  paged query.skip query.limit (sortDocuments query.sort accepted)

/-! ### Windows -/

namespace Window

variable {documents : List Json} (few : (documents.length : Int) ≤ greatestSigned)
include few

/-- Offsets and limits that are cut down to a word still reach to the end of a table. -/
theorem drop_cut (n : Nat) : documents.drop (cutToWord n).toNat = documents.drop n := by
  rw [cutToWord]
  rcases Int.le_total n greatestSigned with small | large
  · rw [Int.min_eq_left small, Int.toNat_natCast]
  · rw [Int.min_eq_right large, List.drop_of_length_le (by omega),
      List.drop_of_length_le (by omega)]

theorem take_cut (n : Nat) : documents.take (cutToWord n).toNat = documents.take n := by
  rw [cutToWord]
  rcases Int.le_total n greatestSigned with small | large
  · rw [Int.min_eq_left small, Int.toNat_natCast]
  · rw [Int.min_eq_right large, List.take_of_length_le (by omega),
      List.take_of_length_le (by omega)]

theorem drop_offset (skip : Option Nat) :
    documents.drop ((skip.map cutToWord).getD 0).toNat = documents.drop (skip.getD 0) := by
  cases skip with
  | none => rfl
  | some n => exact drop_cut few n

theorem rows_open (skip : Option Nat) :
    rows ⟨-1, skip.map cutToWord⟩ documents = paged skip none documents := by
  show documents.drop _ = documents.drop _
  exact drop_offset few skip

theorem rows_bounded (skip : Option Nat) (limit : Nat) :
    rows ⟨cutToWord limit, skip.map cutToWord⟩ documents =
      paged skip (some limit) documents := by
  have notNegative : ¬ cutToWord limit < 0 := by
    have most : (0 : Int) ≤ greatestSigned := by decide
    rw [cutToWord]
    omega
  have fewer : ((documents.drop (skip.getD 0)).length : Int) ≤ greatestSigned := by
    rw [List.length_drop]
    omega
  rw [rows, if_neg notNegative, drop_offset few]
  exact take_cut fewer limit

/-- The window that a plan asks the store for is the page that the query asks for. -/
theorem rows_inSql (skip limit : Option Nat) :
    rowsIn (Pagination.inSql skip limit).window? documents = paged skip limit documents := by
  -- To skip nothing is not to skip.
  have offset : paged (skip.filter (0 < ·)) limit documents = paged skip limit documents := by
    rcases skip with _ | _ | n <;> rfl
  rw [← offset, Pagination.window?, Pagination.inSql]
  cases limit with
  | none =>
    cases skip.filter (0 < ·) with
    | none => rfl
    | some n => exact rows_open few (some n)
  | some limit => exact rows_bounded few (skip.filter (0 < ·)) limit

end Window

/-! ### Order and residual -/

/-- Terms that each order as their key order all together as the keys do. -/
theorem Engine.lexicographic_terms {engine : Engine} {schema : Schema} {layout : Layout}
    {a b : Json} : ∀ {sort : List SortSpec} {terms : List String},
      Plan.orderTerms? schema layout sort = some terms →
      (∀ spec ∈ sort, ∀ term, Plan.orderTerm? schema layout spec = some term →
        engine.compare term a b = spec.compare a b) →
      lexicographic (terms.map engine.compare) a b = compareDocuments sort a b
  | [], _, addressed, _ => by
    cases addressed
    rfl
  | spec :: rest, terms, addressed, orders => by
    rw [Plan.orderTerms?, List.mapM_cons] at addressed
    obtain ⟨term, first, others⟩ := Option.bind_eq_some_iff.mp addressed
    obtain ⟨following, later, ends⟩ := Option.bind_eq_some_iff.mp others
    cases ends
    have head : engine.compare term a b = spec.compare a b :=
      orders spec List.mem_cons_self term first
    have tail : lexicographic (following.map engine.compare) a b = compareDocuments rest a b :=
      Engine.lexicographic_terms later fun spec member =>
        orders spec (List.mem_cons_of_mem _ member)
    show (engine.compare term a b).then _ = (spec.compare a b).then _
    rw [head, tail]

section Agreement

variable {engine : Engine} {schema : Schema} {layout : Layout} {query : Query}
  {compiled : CompiledQuery} (agrees : engine.Agrees schema layout query compiled)
  {table : List Json} (conform : ∀ document ∈ table, schema.conforms document = true)
include agrees conform

/-- The residual accepts of the fetched documents those that the matcher accepts. -/
theorem Engine.matching_accepted :
    (engine.matching compiled.fragment? table).filter compiled.residualAccepts =
      table.filter (Selector.ofJson query.selector).accepts := by
  rw [Engine.matching, List.filter_filter]
  apply List.filter_congr
  intro document member
  rw [← agrees.accepts document (conform document member), Bool.and_comm]

/-- Documents that the store sorts before the residual drops some are sorted as those that are
left. -/
theorem Engine.sorted_accepted {terms : List String}
    (addressed : Plan.orderTerms? schema layout query.sort = some terms) :
    (engine.sorted terms (engine.matching compiled.fragment? table)).filter
        compiled.residualAccepts =
      sortDocuments query.sort (table.filter (Selector.ofJson query.selector).accepts) := by
  have within : ∀ document ∈ engine.matching compiled.fragment? table,
      schema.conforms document = true := by
    intro document member
    exact conform document (List.mem_of_mem_filter member)
  have inStore : StablySorted (compareDocuments query.sort)
      (engine.matching compiled.fragment? table)
      (engine.sorted terms (engine.matching compiled.fragment? table)) := by
    apply (engine.stable terms _).congr
    intro a left b right
    apply Engine.lexicographic_terms addressed
    intro spec member term written
    exact agrees.orders spec member term written a b (within a left) (within b right)
  have left := inStore.filter compiled.residualAccepts
  rw [Engine.matching_accepted agrees conform] at left
  exact left.unique (sortDocuments_sorted query.sort _)

end Agreement

/-! ### Plans -/

theorem CompiledQuery.filter_residual {compiled : CompiledQuery}
    (complete : compiled.hasResidual = false) (documents : List Json) :
    documents.filter compiled.residualAccepts = documents := by
  rw [hasResidual, Option.isSome_eq_false_iff, Option.isNone_iff_eq_none] at complete
  apply List.filter_eq_self.mpr
  intro document _
  rw [residualAccepts, complete]
  rfl

namespace Plan

/-- What is done with fetched documents before some are skipped. -/
def arrange (plan : Plan) (rows : List Json) : List Json :=
  let accepted := rows.filter plan.compiled.residualAccepts
  if plan.sortsInMemory then sortDocuments plan.sort accepted else accepted

theorem finish_eq (plan : Plan) (rows : List Json) :
    plan.finish rows =
      paged (some plan.pagination.memorySkip) plan.pagination.memoryLimit (plan.arrange rows) := by
  rfl

variable {engine : Engine} {schema : Schema} {layout : Layout} {query : Query}
  {compiled : CompiledQuery} (agrees : engine.Agrees schema layout query compiled)
  {table : List Json} (conform : ∀ document ∈ table, schema.conforms document = true)
include agrees conform

/-- Whether the store sorts or the plan does, accepted documents end in the order of the query. -/
theorem arrange_ordered (name : String) :
    let plan := Plan.ofQuery schema layout query compiled
    plan.arrange (engine.ordered (plan.select name) table) =
      sortDocuments query.sort (table.filter (Selector.ofJson query.selector).accepts) := by
  intro plan
  cases addressed : orderTerms? schema layout query.sort with
  | some terms =>
    have order : plan.orderBy = some terms := addressed
    have inStore : plan.sortsInMemory = false := by
      rw [sortsInMemory, order, Option.isNone_some, Bool.and_false]
    rw [arrange, inStore]
    show List.filter _ (engine.sorted (plan.orderBy.getD []) _) = _
    rw [order]
    exact Engine.sorted_accepted agrees conform addressed
  | none =>
    have order : plan.orderBy = none := addressed
    have keys : query.sort ≠ [] := by
      intro empty
      rw [empty] at addressed
      cases addressed
    have inMemory : plan.sortsInMemory = true := by
      rw [sortsInMemory, order]
      show (!query.sort.isEmpty && true) = true
      rw [Bool.and_true, Bool.not_eq_true', List.isEmpty_eq_false_iff]
      exact keys
    rw [arrange, inMemory]
    show sortDocuments query.sort (List.filter _ (engine.sorted (plan.orderBy.getD []) _)) = _
    rw [order, Option.getD_none, engine.sorted_nil]
    exact congrArg _ (Engine.matching_accepted agrees conform)

/-- Documents are skipped and limited after the residual and the order, wherever that happens. -/
theorem finish_rows (few : (table.length : Int) ≤ greatestSigned) (name : String) :
    let plan := Plan.ofQuery schema layout query compiled
    plan.finish (engine.rows (plan.select name) table) = query.answer table := by
  intro plan
  have arranged : plan.arrange (engine.ordered (plan.select name) table) =
      sortDocuments query.sort (table.filter (Selector.ofJson query.selector).accepts) :=
    arrange_ordered agrees conform name
  by_cases later : (compiled.hasResidual || plan.orderBy.isNone) = true
  · have pagination : plan.pagination = .inMemory query.skip query.limit := if_pos later
    have fetched : engine.rows (plan.select name) table =
        engine.ordered (plan.select name) table := by
      rw [Engine.rows, select, pagination]
      rfl
    rw [finish_eq, fetched, arranged, pagination]
    rfl
  · have pagination : plan.pagination = .inSql query.skip query.limit := if_neg later
    rw [Bool.or_eq_true, not_or, Bool.not_eq_true, Bool.not_eq_true] at later
    obtain ⟨complete, inStore⟩ := later
    -- Nothing is left to do with the rows that come back.
    have unchanged (rows : List Json) : plan.arrange rows = rows := by
      have stays : plan.sortsInMemory = false := by
        rw [sortsInMemory, inStore, Bool.and_false]
      rw [arrange, stays]
      exact CompiledQuery.filter_residual complete rows
    have length := engine.length_ordered (plan.select name) table
    have fetched : engine.rows (plan.select name) table =
        paged query.skip query.limit (engine.ordered (plan.select name) table) := by
      rw [← Window.rows_inSql (by omega), Engine.rows, select, pagination]
    rw [unchanged] at arranged
    rw [finish_eq, fetched, unchanged, arranged, pagination]
    rfl

/-- A count is that of all documents that the matcher accepts. -/
theorem count_rows (name : String) :
    let plan := Plan.ofQuery schema layout query compiled
    engine.count plan name table =
      table.countP (Selector.ofJson query.selector).accepts := by
  intro plan
  have fetched : engine.rows (plan.counting name) table =
      engine.matching compiled.fragment? table := engine.sorted_nil _
  have accepted := Engine.matching_accepted agrees conform
  rw [Engine.count, fetched, List.countP_eq_length_filter, ← accepted]
  by_cases residual : compiled.hasResidual = true
  · have strategy : plan.count = .materialize := if_pos residual
    rw [strategy]
    exact List.countP_eq_length_filter
  · have strategy : plan.count = .sql := if_neg residual
    rw [strategy, CompiledQuery.filter_residual (Bool.not_eq_true _ ▸ residual)]

/-- Wherever sorting, skipping and limiting run, a plan gives the answer to its query, and its count
is the number of all documents that the matcher accepts. -/
theorem answers_query (few : (table.length : Int) ≤ greatestSigned) (name : String) :
    let plan := Plan.ofQuery schema layout query compiled
    (plan.select name).fragment = plan.selectStatement name ∧
    plan.finish (engine.rows (plan.select name) table) = query.answer table ∧
    (plan.counting name).fragment = plan.countStatement name ∧
    engine.count plan name table =
      table.countP (Selector.ofJson query.selector).accepts := by
  intro plan
  refine ⟨select_fragment plan name, ?_, counting_fragment plan name, ?_⟩
  · exact finish_rows agrees conform few name
  · exact count_rows agrees conform name

end Plan

/-! ### A query for users -/

namespace Users

def schema : Schema := { version := 1, fields := [("age", ⟨.number, false⟩)], indexes := [] }

/-- The second oldest of the users who are older than one and have no tags. -/
def query : Query where
  collection := "users"
  selector := .object [("age", .object [("$gt", .ofNat 1)]), ("tags", .array [])]
  sort := [⟨"age", .descending⟩]
  skip := some 1
  limit := some 1

/-- A store that knows what the plan for the query asks of it. -/
def engine : Engine := .ofKeys
  (fun fragment document =>
    fragment == ⟨"json_extract(data, '$.age') > ?", [.integer 1]⟩ &&
      SortKey.compare (.ofValue (document.lookup? ["age"])) (.number (.ofInt 1)) == .gt)
  (fun term => if term == "json_extract(data, '$.age') DESC" then query.sort else [])

def user (age : Nat) (tags : Json) : Json := .object [("age", .ofNat age), ("tags", tags)]

def table : List Json :=
  [user 3 (.array []), user 1 (.array []), user 5 (.array []), user 7 .null, user 6 (.array [])]

def compiled : CompiledQuery := .compile schema .standard query.selector

/-- A conforming document has a number as its age, or null, or no age. -/
theorem age_cases {document : Json} (conforms : schema.conforms document = true) :
    document.lookup? ["age"] = none ∨ document.lookup? ["age"] = some .null ∨
      ∃ n, document.lookup? ["age"] = some (.number n) := by
  cases document with
  | object members =>
    have declared : Fields.find? "age" schema.fields = some ⟨.number, false⟩ := rfl
    obtain ⟨typed, -⟩ := FieldType.acceptsMembers_find conforms declared
    have read : (Json.object members).lookup? ["age"] = Json.member? "age" members := by
      show (Json.member? "age" members).bind some = _
      exact Option.bind_fun_some _
    rw [read]
    cases found : Json.member? "age" members with
    | none => exact .inl rfl
    | some value =>
      have accepted := typed value found
      cases value with
      | null => exact .inr (.inl rfl)
      | number n => exact .inr (.inr ⟨n, rfl⟩)
      | bool | string | array | object => cases accepted
  | null | bool | number | string | array => cases conforms

theorem agrees : engine.Agrees schema .standard query compiled := by
  constructor
  · intro document conforms
    have fragment : compiled.fragment? =
        some ⟨"json_extract(data, '$.age') > ?", [.integer 1]⟩ := by rfl
    have residual : compiled.residual =
        some (.field ⟨["tags"]⟩ [.equals (.array [])]) := by rfl
    have selector : Selector.ofJson query.selector = .allOf
        [.field ⟨["age"]⟩ [.compares .gt (.ofNat 1)], .field ⟨["tags"]⟩ [.equals (.array [])]] := by
      rfl
    have older : (SortKey.compare (.ofValue (document.lookup? ["age"]))
        (.number (.ofInt 1)) == .gt) =
          anyCandidate (document.lookup? ["age"]) (comparesTo .gt (.ofNat 1)) := by
      rcases age_cases conforms with missing | null | ⟨n, number⟩
      · rw [missing]
        rfl
      · rw [null]
        rfl
      · rw [number]
        have compared : Json.compare? (.number n) (.ofNat 1) = some (n.compare (.ofInt 1)) := by
          rw [Number.compare_eq]
          exact Number.compare?_eq n (.ofInt 1)
        show (n.compare (.ofInt 1) == .gt) = comparesTo .gt (.ofNat 1) (.number n)
        rw [comparesTo, compared]
        rfl
    rw [CompiledQuery.residualAccepts, fragment, residual, selector]
    simp [engine, Engine.ofKeys, Selector.accepts, Selector.acceptAll, Operator.holdAll,
      Operator.holds, older]
  · intro spec member term written a b _ _
    obtain rfl := List.mem_singleton.mp member
    cases written
    show (SortSpec.compare _ a b).then .eq = _
    exact Ordering.then_eq

theorem answer_table : query.answer table = [user 5 (.array [])] := by
  have accepted : table.filter (Selector.ofJson query.selector).accepts =
      [user 3 (.array []), user 5 (.array []), user 6 (.array [])] := by
    rfl
  have sorted : sortDocuments query.sort
        [user 3 (.array []), user 5 (.array []), user 6 (.array [])] =
      [user 6 (.array []), user 5 (.array []), user 3 (.array [])] := by
    apply (sortDocuments_sorted query.sort _).unique
    constructor
    · exact List.reverse_perm [_, _, _]
    · simp only [List.pairwise_cons]
      decide
    · intro x member
      rcases member with _ | ⟨_, _ | ⟨_, _ | ⟨_, none⟩⟩⟩
      · rfl
      · rfl
      · rfl
      · cases none
  rw [Query.answer, accepted, sorted]
  rfl

end Users

namespace Plan

/-- The store sorts before the residual drops documents, and skipping and limiting wait for it. -/
theorem answers_query_residual :
    let plan := Plan.ofQuery Users.schema .standard Users.query Users.compiled
    (plan.select "users").fragment.sql = "SELECT data FROM users WHERE " ++
        "json_extract(data, '$.age') > ? ORDER BY json_extract(data, '$.age') DESC" ∧
      Users.engine.Agrees Users.schema .standard Users.query Users.compiled ∧
      (∀ document ∈ Users.table, Users.schema.conforms document = true) ∧
      (Users.table.length : Int) ≤ greatestSigned ∧
      plan.finish (Users.engine.rows (plan.select "users") Users.table) =
        [Users.user 5 (.array [])] ∧
      Users.engine.count plan "users" Users.table = 3 := by
  intro plan
  have conform : ∀ document ∈ Users.table, Users.schema.conforms document = true :=
    List.all_eq_true.mp (by decide)
  have few : (Users.table.length : Int) ≤ greatestSigned := by decide
  obtain ⟨-, fetched, -, counted⟩ := answers_query Users.agrees conform few "users"
  refine ⟨by decide, Users.agrees, conform, few, ?_, ?_⟩
  · rw [fetched]
    exact Users.answer_table
  · rw [counted]
    rfl

end Plan

end Pushdown
