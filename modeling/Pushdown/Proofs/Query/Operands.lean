import Pushdown.Proofs.Query.Parallel
import Pushdown.Proofs.Selector.Operands

/-!
# Operand values never reach the text

A selector and the same selector with other operands are compiled to the same text with as many
arguments, and leave as much to the matcher. The text therefore holds nothing of the operands, and a
statement that was prepared for one selector serves for the other.
-/

namespace Pushdown

open Condition (SameOutline)

namespace CompiledQuery

variable {schema : Schema} {layout : Layout}

/-- What can be seen of a compiled query apart from the values of its arguments. -/
structure SameText (first second : CompiledQuery) : Prop where
  sql : first.fragment?.map Fragment.sql = second.fragment?.map Fragment.sql
  whereSql : first.whereSql = second.whereSql
  args : first.args.length = second.args.length
  declined : first.declined = second.declined
  hasResidual : first.hasResidual = second.hasResidual

/-- A residual is left by whether something was declined beside a condition that can be true. -/
theorem isSome_residualOf {c d : Condition Test} (isFalse : c.isFalse = d.isFalse)
    {as bs : List Selector} (count : as.length = bs.length) :
    (residualOf c as).isSome = (residualOf d bs).isSome := by
  unfold residualOf
  rw [isFalse]
  split
  · rfl
  · cases as <;> cases bs <;> first | rfl | cases count

/-- Selectors alike are divided into conditions of one outline and as many declined conjuncts. -/
theorem ofSelector_alike {a b : Selector} (h : Selector.Alike SameOutline schema layout a b) :
    let first := ((ofSelector schema layout a).run {}).1
    let second := ((ofSelector schema layout b).run {}).1
    SameOutline first.pushed second.pushed ∧ first.column = second.column ∧
      first.declined = second.declined ∧ first.hasResidual = second.hasResidual := by
  have push (a b : Selector) (h : Selector.Alike SameOutline schema layout a b) :=
    h.push SameOutline.congruence .document
  obtain ⟨pushed, declined, -⟩ := divide_parallel push h.conjuncts .fresh
  have outline := SameOutline.congruence.all pushed
  have count := declined.length_eq
  exact ⟨outline, rfl, count, isSome_residualOf outline.isFalse count⟩

theorem whereSql_eq (query : CompiledQuery) :
    query.whereSql = (query.fragment?.map Fragment.sql).getD "1=1" := by
  rw [whereSql]
  cases query.fragment? <;> rfl

theorem length_args (query : CompiledQuery) :
    query.args.length = (query.fragment?.map fun fragment => fragment.args.length).getD 0 := by
  rw [args]
  cases query.fragment? <;> rfl

theorem SameText.ofOutline {first second : CompiledQuery}
    (outline : SameOutline first.pushed second.pushed) (column : first.column = second.column)
    (declined : first.declined = second.declined)
    (hasResidual : first.hasResidual = second.hasResidual) : SameText first second := by
  obtain ⟨text, count⟩ := Condition.fragment_outline (outline first.column)
  have always : first.pushed.isTrue = second.pushed.isTrue := outline.isTrue
  have sql : first.fragment?.map Fragment.sql = second.fragment?.map Fragment.sql := by
    rw [fragment?, fragment?, always, ← column]
    split
    · rfl
    · exact congrArg some text
  have args : (first.fragment?.map fun fragment => fragment.args.length) =
      second.fragment?.map fun fragment => fragment.args.length := by
    rw [fragment?, fragment?, always, ← column]
    split
    · rfl
    · exact congrArg some count
  constructor
  · exact sql
  · rw [whereSql_eq, whereSql_eq, sql]
  · rw [length_args, length_args, args]
  · exact declined
  · exact hasResidual

/-- A selector with other operands compiles to the same text, with as many arguments, as many
declined conjuncts, and a residual where the other has one. -/
theorem compile_rebound (schema : Schema) (layout : Layout) {v w : Json}
    (h : Selector.Rebound v w) :
    SameText (compile schema layout v) (compile schema layout w) := by
  obtain ⟨outline, column, declined, hasResidual⟩ := ofSelector_alike (h.alike schema layout)
  exact .ofOutline outline column declined hasResidual

/-- A longer list, other bounds and another pattern. -/
theorem compile_rebound_nested :
    let v : Json := .object [
      ("$or", .array [
        .object [("age", .object [("$in", .array [.ofNat 1, .string "a", .null])])],
        .object [("tags", .object [("$elemMatch", .object [("$gt", .ofNat 3)])])]]),
      ("name", .string "Ada")]
    let w : Json := .object [
      ("$or", .array [
        .object [("age", .object [("$in", .array [.null, .string "b", .ofNat 2, .ofNat 7])])],
        .object [("tags", .object [("$elemMatch", .object [("$gt", .ofNat 300)])])]]),
      ("name", .string "x' OR '1'='1")]
    Selector.Rebound v w ∧
      ∀ schema layout, SameText (compile schema layout v) (compile schema layout w) := by
  intro v w
  have members : Json.SameClasses [.ofNat 1, .string "a", .null]
      [.null, .string "b", .ofNat 2, .ofNat 7] := by
    intro c
    simp only [List.map_cons, List.map_nil, List.mem_cons, List.not_mem_nil, or_false,
      Json.ofNat, Json.ofInt, ValueClass.ofJson]
    tauto
  have age : Selector.ReboundMember "age"
      (.object [("$in", .array [.ofNat 1, .string "a", .null])])
      (.object [("$in", .array [.null, .string "b", .ofNat 2, .ofNat 7])]) :=
    .operators (by decide) (by decide) (.cons (.isIn members) (.nil _ _))
  have tags : Selector.ReboundMember "tags"
      (.object [("$elemMatch", .object [("$gt", .ofNat 3)])])
      (.object [("$elemMatch", .object [("$gt", .ofNat 300)])]) := by
    apply Selector.ReboundMember.operators (by decide) (by decide)
    refine .cons (.element (by decide) (.cons ?_ (.nil _ _))) (.nil _ _)
    exact .compares .gt (.number _ _)
  have rebound : Selector.Rebound v w := by
    refine .object (.cons ?_ (.cons ?_ .nil))
    · have either : Selector.ReboundMember Connective.anyOf.key _ _ :=
        .connective (by decide)
          (.cons (.object (.cons age .nil)) (.cons (.object (.cons tags .nil)) .nil))
      exact either
    · exact .equals (by decide) (.string _ _)
  exact ⟨rebound, fun schema layout => compile_rebound schema layout rebound⟩

end CompiledQuery

end Pushdown
