import Pushdown.Proofs.Condition.Counting
import Pushdown.Proofs.Query.Layouts

/-!
# Counting question marks

The placeholders of a text are counted with one flag, which says whether a character stands between
single quotes. Keys stand between single quotes, in which each of theirs is written twice, so the
count passes over them. The flag does not know of the double quotes around names. A question mark in
the name of a column is counted unless it stands between single quotes of the name, and a single
quote without a partner turns the flag around for the rest of the text. So the count agrees with the
arguments of all fragments just if no field with a column of its own has such a name.
-/

namespace Pushdown

/-! ## The flag -/

/-- Behind a text with an odd number of single quotes the flag is turned around. -/
theorem countPlaceholders_append (quoted : Bool) (front back : List Char) :
    countPlaceholders quoted (front ++ back) = countPlaceholders quoted front +
      countPlaceholders (if front.count '\'' % 2 = 0 then quoted else !quoted) back := by
  induction front generalizing quoted with
  | nil => simp [countPlaceholders]
  | cons c front ih =>
      rw [List.cons_append, countPlaceholders, countPlaceholders]
      by_cases quote : c = '\''
      · have turned : (front.count '\'' + 1) % 2 = 0 ↔ ¬ front.count '\'' % 2 = 0 := by omega
        rw [if_pos quote, if_pos quote, ih, quote, List.count_cons_self]
        by_cases even : front.count '\'' % 2 = 0 <;> simp [turned, even]
      · rw [if_neg quote, if_neg quote, List.count_cons_of_ne quote, ih]
        split <;> omega

/-- Where there are no quotes every question mark is counted. -/
theorem countPlaceholders_plain {text : List Char} (plain : ∀ c ∈ text, Sql.isQuote c = false) :
    text.count '\'' % 2 = 0 ∧ countPlaceholders false text = text.count '?' := by
  induction text with
  | nil => exact ⟨rfl, rfl⟩
  | cons c text ih =>
      rw [List.forall_mem_cons] at plain
      obtain ⟨paired, counted⟩ := ih plain.2
      have noQuote : c ≠ '\'' := by
        rintro rfl
        cases plain.1
      constructor
      · rw [List.count_cons_of_ne noQuote, paired]
      · rw [countPlaceholders, if_neg noQuote, counted, List.count_cons]
        by_cases mark : c = '?' <;> simp [mark]

/-- Between single quotes nothing is counted, where each single quote is written twice. -/
theorem countPlaceholders_doubled (text : List Char) :
    countPlaceholders true (Sql.doubled '\'' text) = 0 ∧
      (Sql.doubled '\'' text).count '\'' % 2 = 0 := by
  induction text with
  | nil => exact ⟨rfl, rfl⟩
  | cons c text ih =>
      rw [Sql.doubled] at ih
      rw [Sql.doubled, List.flatMap_cons]
      split
      · constructor
        · simpa [countPlaceholders] using ih.1
        · rw [List.count_append, Nat.add_mod, ih.2]
          rfl
      · next other => simpa [countPlaceholders, other, List.count_cons_of_ne other] using ih

/-- Double quotes do not matter to the flag, nor does their number. -/
theorem countPlaceholders_doubled_other (quoted : Bool) (text : List Char) :
    countPlaceholders quoted (Sql.doubled '"' text) = countPlaceholders quoted text ∧
      (Sql.doubled '"' text).count '\'' = text.count '\'' := by
  induction text generalizing quoted with
  | nil => exact ⟨rfl, rfl⟩
  | cons c text ih =>
      rw [Sql.doubled] at ih
      rw [Sql.doubled, List.flatMap_cons]
      split
      · next double =>
        subst double
        simpa [countPlaceholders] using ih quoted
      · obtain ⟨-, quotes⟩ := ih quoted
        constructor
        · rw [List.singleton_append, countPlaceholders, countPlaceholders, (ih _).1, (ih _).1]
        · rw [List.singleton_append, List.count_cons, List.count_cons, quotes]

namespace Sql

/-- The single quotes of a text stand in pairs, and a number of question marks is counted outside
the pairs. -/
structure Counted (text : String) (count : Nat) : Prop where
  paired : text.toList.count '\'' % 2 = 0
  placeholders : placeholderCount text = count

instance (text : String) (count : Nat) : Decidable (Counted text count) :=
  decidable_of_iff (text.toList.count '\'' % 2 = 0 ∧ placeholderCount text = count)
    ⟨fun h => ⟨h.1, h.2⟩, fun h => ⟨h.paired, h.placeholders⟩⟩

namespace Counted

theorem append {a b : String} {m n : Nat} (first : Counted a m) (second : Counted b n) :
    Counted (a ++ b) (m + n) := by
  constructor
  · rw [String.toList_append, List.count_append, Nat.add_mod, first.paired, second.paired]
  · rw [placeholderCount, String.toList_append, countPlaceholders_append, if_pos first.paired]
    exact congrArg₂ (· + ·) first.placeholders second.placeholders

theorem of_code {text : String} {n : Nat} (code : IsCode text n) : Counted text n := by
  obtain ⟨plain, count⟩ := code
  obtain ⟨paired, placeholders⟩ := countPlaceholders_plain plain
  exact ⟨paired, placeholders.trans count⟩

theorem literal (text : String) : Counted (Sql.literal text) 0 := by
  obtain ⟨nothing, paired⟩ := countPlaceholders_doubled text.toList
  constructor
  · rw [Sql.literal, String.toList_ofList]
    simp only [List.count_append, List.count_cons_self, List.count_nil, List.cons_append]
    omega
  · rw [placeholderCount, Sql.literal, String.toList_ofList, List.cons_append, countPlaceholders,
      if_pos rfl, countPlaceholders_append, Bool.not_false, nothing, if_pos paired]
    rfl

/-- Placeholders are counted with the flag. -/
theorem tally : Tally Counted where
  append := append
  code := of_code
  literal := literal

end Counted

/-- A name is counted as it is, with or without the double quotes around it. -/
theorem counted_quoteIdentifier {name : String} {count : Nat} :
    Counted (quoteIdentifier name) count ↔ Counted name count := by
  obtain ⟨same, quotes⟩ := countPlaceholders_doubled_other false name.toList
  rw [quoteIdentifier]
  split
  · rfl
  · have paired : (String.ofList ('"' :: doubled '"' name.toList ++ ['"'])).toList.count '\'' =
        name.toList.count '\'' := by
      rw [String.toList_ofList]
      simp [quotes]
    have counted : placeholderCount (String.ofList ('"' :: doubled '"' name.toList ++ ['"'])) =
        placeholderCount name := by
      have passes (quoted : Bool) (rest : List Char) :
          countPlaceholders quoted ('"' :: rest) = countPlaceholders quoted rest := by
        simp [countPlaceholders]
      rw [placeholderCount, String.toList_ofList, List.cons_append, passes,
        countPlaceholders_append, same, passes, countPlaceholders, Nat.add_zero, placeholderCount]
    constructor
    · exact fun h => ⟨paired ▸ h.paired, counted ▸ h.placeholders⟩
    · exact fun h => ⟨paired.symm ▸ h.paired, counted.trans h.placeholders⟩

end Sql

open Sql (Counted)

variable {schema : Schema} {layout : Layout}

/-! ## Fields with columns of their own -/

/-- A field with a column of its own is resolved to a place with that column. -/
theorem Location.resolve?_mirrored {field : String}
    (mirrored : layout.mirrors schema field = true) :
    ∃ place, resolve? schema layout .document [field] = some place ∧
      place.ownColumn = some field ∧ (place.declared = .string ∨ place.declared = .number) := by
  rw [Layout.mirrors, Bool.and_eq_true, Bool.and_eq_true, Option.any_eq_true] at mirrored
  obtain ⟨⟨columns, addressable⟩, declared, found, type⟩ := mirrored
  have key : PathStep.key? field = some (.key field) := if_pos addressable
  have string_or_number : declared.type = .string ∨ declared.type = .number := by
    revert type
    cases declared.type <;> simp [fitsColumn]
  refine ⟨_, by rw [resolve?, key, found]; rfl, ?_, string_or_number⟩
  simp [columns, type]

namespace CompiledQuery

/-- The fragment of a field with one operator that is pushed as a test. -/
theorem fragment?_field {field : String} {place : Location}
    (resolved : Location.resolve? schema layout .document [field] = some place)
    {operator : Operator} {test : Test}
    (pushed : operator.push schema layout place = pure (.leaf test)) :
    let clause := test.clause layout.documentColumn
    ((ofSelector schema layout (.field ⟨[field]⟩ [operator])).run {}).1.fragment? =
      some ⟨clause.sql, clause.args⟩ := by
  intro clause
  have condition : (Selector.field ⟨[field]⟩ [operator]).push schema layout .document =
      pure (.leaf test) := by
    simp [Selector.push, Operator.pushAll, resolved, pushed]
    rfl
  rw [ofSelector_run]
  simp only [Selector.conjuncts, List.length_singleton, Nat.lt_irrefl, if_false, divide_cons,
    condition]
  rfl

/-- A test for null and one for equality are written with the name of the column. -/
theorem fragments_mirrored {field : String} (mirrored : layout.mirrors schema field = true) :
    ∃ (null equal : Selector) (argument : Argument),
      ((ofSelector schema layout null).run {}).1.fragment? =
        some ⟨Sql.quoteIdentifier field ++ " IS NULL", []⟩ ∧
      ((ofSelector schema layout equal).run {}).1.fragment? =
        some ⟨Sql.quoteIdentifier field ++ " = ?", [argument]⟩ := by
  obtain ⟨place, resolved, own, type⟩ := Location.resolve?_mirrored mirrored
  have value : place.value layout.documentColumn = Sql.quoteIdentifier field := by
    rw [Location.value, own]
  have null : Operator.push schema layout place (.equals .null) =
      pure (.leaf (.isNull place)) := by
    rcases type with string | number <;>
      simp [Operator.push, pushEquals, pushNull, someItem, *] <;> rfl
  have nullFragment := fragment?_field resolved null
  rw [Test.clause, value] at nullFragment
  rcases type with string | number
  · have equal : Operator.push schema layout place (.equals (.string "")) =
        pure (.leaf (.equals place (.text ""))) := by
      simp [Operator.push, pushEquals, valueOrItem, someItem, equalsScalar, textGuard, string]
      rfl
    have equalFragment := fragment?_field resolved equal
    rw [Test.clause, value] at equalFragment
    exact ⟨_, _, _, nullFragment, equalFragment⟩
  · have equal : Operator.push schema layout place (.equals (.ofNat 0)) =
        pure (.leaf (.equals place (.integer 0))) := by
      simp [Operator.push, pushEquals, valueOrItem, someItem, equalsScalar, numberGuard, number]
      rfl
    have equalFragment := fragment?_field resolved equal
    rw [Test.clause, value] at equalFragment
    exact ⟨_, _, _, nullFragment, equalFragment⟩

/-- The fragment of a condition at fitting places is counted right, where the columns are. -/
theorem placeholders_of_fits (plain : Sql.isIdentifier layout.documentColumn = true)
    (columns : ∀ field, layout.mirrors schema field = true → Counted field 0) {c : Condition Test}
    (fits : c.Everywhere (Location.Fits schema layout)) :
    (c.clauses layout.documentColumn).fragment.placeholders =
      (c.clauses layout.documentColumn).fragment.args.length := by
  have own : c.Everywhere (Location.ColumnCounts Counted) := by
    refine Condition.Everywhere.imp (fun place fits field given => ?_) c fits
    exact Sql.counted_quoteIdentifier.mpr (columns field (fits field given).1)
  have column : Counted layout.documentColumn 0 := .of_code (.identifier plain)
  exact (Condition.counts Counted.tally column c own).placeholders

/-- The placeholders that are counted in a fragment are as many as its arguments, for every
selector, if and only if the name of each field with a column of its own has its single quotes in
pairs and no question mark outside of them. Over whole documents there are no such columns, so the
condition holds whatever the names of fields are. -/
theorem placeholders_eq_args_iff (schema : Schema) (layout : Layout)
    (plain : Sql.isIdentifier layout.documentColumn = true) :
    (∀ (selector : Selector) (state : PushState),
      (∀ fragment ∈ ((ofSelector schema layout selector).run state).1.fragment?,
        fragment.placeholders = fragment.args.length) ∧
      (∀ fragment, ((PushOutcome.ofSelector schema layout selector).run state).1 = .sql fragment →
        fragment.placeholders = fragment.args.length)) ↔
    ∀ field, layout.mirrors schema field = true →
      field.toList.count '\'' % 2 = 0 ∧ placeholderCount field = 0 := by
  have relocation := Location.relocation_inDocument schema layout ""
  constructor
  · intro counted field mirrored
    obtain ⟨null, equal, argument, nullFragment, equalFragment⟩ := fragments_mirrored mirrored
    have none := (counted null {}).1 _ nullFragment
    have one := (counted equal {}).1 _ equalFragment
    rw [Fragment.placeholders, placeholderCount, String.toList_append, countPlaceholders_append]
      at none one
    suffices name : Counted (Sql.quoteIdentifier field) 0 by
      have name := Sql.counted_quoteIdentifier.mp name
      exact ⟨name.paired, name.placeholders⟩
    have nothing : placeholderCount (Sql.quoteIdentifier field) = 0 :=
      Nat.eq_zero_of_add_eq_zero_right none
    refine ⟨?_, nothing⟩
    -- With the flag turned around the placeholder behind the name is not counted.
    by_contra odd
    rw [← placeholderCount, nothing, if_neg odd] at one
    cases one
  · intro names selector state
    have columns : ∀ field, layout.mirrors schema field = true → Counted field 0 :=
      fun field mirrored => ⟨(names field mirrored).1, (names field mirrored).2⟩
    constructor
    · intro fragment given
      rw [fragment?, Option.mem_def, Option.ite_none_left_eq_some, Option.some.injEq] at given
      rw [← given.2]
      exact placeholders_of_fits plain columns
        (ofSelector_relocated relocation selector state).1.good
    · intro fragment given
      have pushed := ((selector.push_relocated relocation .document).ensures
        fun _ _ related => related.good) state trivial
      have outcome : ((PushOutcome.ofSelector schema layout selector).run state).1 =
          PushOutcome.ofCondition layout.documentColumn
            ((selector.push schema layout .document).run state).1 := rfl
      rw [outcome] at given
      cases result : ((selector.push schema layout .document).run state).1 with
      | none =>
          rw [result] at given
          cases given
      | some c =>
          rw [result] at given
          have written : fragment = (c.clauses layout.documentColumn).fragment := by
            rw [PushOutcome.ofCondition] at given
            split at given <;> cases given
            rfl
          rw [written]
          exact placeholders_of_fits plain columns (pushed.2 c result)

/-- A question mark in the name of a column is not counted between single quotes of the name. -/
theorem placeholders_eq_args_iff_paired :
    let schema : Schema := { version := 0, fields := [("'?'", ⟨.number, false⟩)], indexes := [] }
    let layout : Layout := .columns "doc"
    let query := ((ofSelector schema layout (.field ⟨["'?'"]⟩ [.equals (.ofNat 5)])).run {}).1
    let fragment : Fragment := ⟨"\"'?'\" = ?", [.integer 5]⟩
    Sql.isIdentifier layout.documentColumn = true ∧
      (∀ field, layout.mirrors schema field = true →
        field.toList.count '\'' % 2 = 0 ∧ placeholderCount field = 0) ∧
      query.fragment? = some fragment ∧ fragment.placeholders = fragment.args.length := by
  intro schema layout query fragment
  have plain : Sql.isIdentifier layout.documentColumn = true := by decide
  have names : ∀ field, layout.mirrors schema field = true →
      field.toList.count '\'' % 2 = 0 ∧ placeholderCount field = 0 := by
    intro field mirrored
    have only : "'?'" = field := by
      by_contra other
      have absent : schema.fields.find? field = none := if_neg other
      rw [Layout.mirrors, absent, Option.any_none, Bool.and_false] at mirrored
      cases mirrored
    subst only
    decide
  have given : query.fragment? = some fragment := by decide
  have counted := (placeholders_eq_args_iff schema layout plain).mpr names
    (.field ⟨["'?'"]⟩ [.equals (.ofNat 5)]) {}
  exact ⟨plain, names, given, counted.1 fragment given⟩

/-- The question mark in the name of a column is counted, although it is no placeholder. -/
theorem placeholders_ne_args_marked :
    let schema : Schema := { version := 0, fields := [("a?", ⟨.number, false⟩)], indexes := [] }
    let query := compile schema (.columns "doc") (.object [("a?", .ofNat 5)])
    let fragment : Fragment := ⟨"\"a?\" = ?", [.integer 5]⟩
    Sql.isIdentifier "doc" = true ∧ query.fragment? = some fragment ∧
      fragment.placeholders = 2 ∧ fragment.args.length = 1 := by
  decide

/-- Behind a single quote without a partner no placeholder is counted. -/
example :
    let schema : Schema := { version := 0, fields := [("it's", ⟨.string, false⟩)], indexes := [] }
    let query := compile schema (.columns "doc") (.object [("it's", .string "x")])
    let fragment : Fragment := ⟨"\"it's\" = ?", [.text "x"]⟩
    query.fragment? = some fragment ∧ fragment.placeholders = 0 := by
  decide

end CompiledQuery

end Pushdown
