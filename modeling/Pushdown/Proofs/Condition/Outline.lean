import Pushdown.Proofs.Condition.NormalForm
import Pushdown.Proofs.Push.Parallel

/-!
# Outlines of conditions

The outline of a clause keeps its text and forgets the values of its arguments, but not their
number. The text of a condition and the number of its arguments follow from the outlines of its
leaves, also where the text asks whether a leaf can be NULL. Conditions with the same outline in
every column are a congruence, scans included.
-/

namespace Pushdown

/-- The clause without the values of its arguments. -/
def Clause.outline (clause : Clause) : Clause :=
  { clause with args := clause.args.map fun _ => .null }

namespace Condition

mutual

theorem nullable_outline : ∀ c : Condition Clause, nullable (c.map Clause.outline) = nullable c
  | .const _ | .negation _ | .leaf _ => rfl
  | .allOf children => anyNullable_outline children
  | .anyOf children => anyNullable_outline children

theorem anyNullable_outline : ∀ children : List (Condition Clause),
    anyNullable (mapAll Clause.outline children) = anyNullable children
  | [] => rfl
  | child :: rest => by
    rw [mapAll, anyNullable, anyNullable, nullable_outline child, anyNullable_outline rest]

end

mutual

theorem sql_outline : ∀ c : Condition Clause, sql (c.map Clause.outline) = sql c
  | .const true | .const false | .leaf _ => rfl
  | .allOf children => by rw [map, sql, sql, sqlAll_outline children]
  | .anyOf children => by rw [map, sql, sql, sqlAll_outline children]
  | .negation child => by rw [map, sql, sql, nullable_outline child, sql_outline child]

theorem sqlAll_outline : ∀ children : List (Condition Clause),
    sqlAll (mapAll Clause.outline children) = sqlAll children
  | [] => rfl
  | child :: rest => by rw [mapAll, sqlAll, sqlAll, sql_outline child, sqlAll_outline rest]

end

mutual

theorem args_outline : ∀ c : Condition Clause,
    args (c.map Clause.outline) = (args c).map fun _ => .null
  | .const _ | .leaf _ => rfl
  | .allOf children => by rw [map, args, args, argsAll_outline children]
  | .anyOf children => by rw [map, args, args, argsAll_outline children]
  | .negation child => by rw [map, args, args, args_outline child]

theorem argsAll_outline : ∀ children : List (Condition Clause),
    argsAll (mapAll Clause.outline children) = (argsAll children).map fun _ => .null
  | [] => rfl
  | child :: rest => by
    rw [mapAll, argsAll, argsAll, args_outline child, argsAll_outline rest, List.map_append]

end

/-- Conditions with the same outline have the same text and as many arguments. -/
theorem fragment_outline {c d : Condition Clause}
    (h : c.map Clause.outline = d.map Clause.outline) :
    c.sql = d.sql ∧ c.args.length = d.args.length := by
  constructor
  · rw [← sql_outline c, ← sql_outline d, h]
  · have lengths := congrArg List.length (congrArg args h)
    rwa [args_outline, args_outline, List.length_map, List.length_map] at lengths

/-! ## Conditions over tests -/

mutual

theorem clauses_eq_map (column : String) : ∀ c : Condition Test,
    c.clauses column = c.map (Test.clause column)
  | .const _ | .leaf _ => by rw [clauses, map]
  | .allOf children => by rw [clauses, map, clausesAll_eq_map column children]
  | .anyOf children => by rw [clauses, map, clausesAll_eq_map column children]
  | .negation child => by rw [clauses, map, clauses_eq_map column child]

theorem clausesAll_eq_map (column : String) : ∀ children : List (Condition Test),
    clausesAll column children = mapAll (Test.clause column) children
  | [] => by rw [clausesAll, mapAll]
  | child :: rest => by
    rw [clausesAll, mapAll, clauses_eq_map column child, clausesAll_eq_map column rest]

end

def outline (column : String) (c : Condition Test) : Condition Clause :=
  (c.clauses column).map Clause.outline

def SameOutline (c d : Condition Test) : Prop := ∀ column, c.outline column = d.outline column

theorem outline_all (column : String) (children : List (Condition Test)) :
    outline column (all children) = all (children.map (outline column)) := by
  unfold outline
  simp only [clauses_eq_map, map_all, List.map_map]
  rfl

theorem outline_any (column : String) (children : List (Condition Test)) :
    outline column (any children) = any (children.map (outline column)) := by
  unfold outline
  simp only [clauses_eq_map, map_any, List.map_map]
  rfl

theorem outline_negate (column : String) (c : Condition Test) :
    outline column (negate c) = negate (outline column c) := by
  unfold outline
  simp only [clauses_eq_map, map_negate]

theorem isFalse_outline (column : String) (c : Condition Test) :
    (outline column c).isFalse = c.isFalse := by
  rw [outline, clauses_eq_map, isFalse_map, isFalse_map]

theorem isTrue_outline (column : String) (c : Condition Test) :
    (outline column c).isTrue = c.isTrue := by
  rw [outline, clauses_eq_map, isTrue_map, isTrue_map]

/-- The clause of a scan, whose body is left out where it is always true. -/
theorem clause_scan (column : String) (place : Location) (number : Nat) (body : Condition Test) :
    Test.clause column (.scan place number body) =
      existsClause (place.rows column) (scanName number)
        (if body.isTrue then none else some (body.clauses column).fragment) := by
  rw [Test.clause]
  split
  · next always =>
    have isTrue : body.isTrue = true := by
      rw [← isTrue_map (Test.clause column), ← clauses_eq_map, always]
      rfl
    rw [if_pos isTrue]
  · next notAlways =>
    have notTrue : ¬ body.isTrue = true := by
      intro isTrue
      rw [isTrue_iff.mp isTrue, clauses] at notAlways
      exact notAlways rfl
    rw [if_neg notTrue]

theorem outline_existsClause (source rowName : String) {a b : Option Fragment}
    (h : a.map (fun fragment => (fragment.sql, fragment.args.length)) =
      b.map (fun fragment => (fragment.sql, fragment.args.length))) :
    (existsClause source rowName a).outline = (existsClause source rowName b).outline := by
  cases a with
  | none =>
      cases b with
      | none => rfl
      | some _ => cases h
  | some a =>
      cases b with
      | none => cases h
      | some b =>
          obtain ⟨sql, args⟩ := Prod.mk.inj (Option.some.inj h)
          unfold existsClause Clause.outline
          dsimp only
          rw [sql, List.map_const', List.map_const', args]

namespace SameOutline

theorem refl (c : Condition Test) : SameOutline c c := fun _ => rfl

theorem isFalse {c d : Condition Test} (h : SameOutline c d) : c.isFalse = d.isFalse := by
  rw [← isFalse_outline "" c, h "", isFalse_outline]

theorem isTrue {c d : Condition Test} (h : SameOutline c d) : c.isTrue = d.isTrue := by
  rw [← isTrue_outline "" c, h "", isTrue_outline]

theorem leaf {a b : Test} (h : ∀ column, (a.clause column).outline = (b.clause column).outline) :
    SameOutline (.leaf a) (.leaf b) := by
  intro column
  rw [outline, outline, clauses, clauses, map, map, h column]

theorem map_outline {cs ds : List (Condition Test)} (h : List.Forall₂ SameOutline cs ds)
    (column : String) : cs.map (outline column) = ds.map (outline column) := by
  induction h with
  | nil => rfl
  | cons first _ ih => rw [List.map_cons, List.map_cons, first column, ih]

theorem scan {c d : Condition Test} (place : Location) (number : Nat) (h : SameOutline c d) :
    SameOutline (Condition.scan place number c) (Condition.scan place number d) := by
  unfold Condition.scan
  rw [h.isFalse]
  split
  · exact refl _
  · apply leaf
    intro column
    rw [clause_scan, clause_scan]
    apply outline_existsClause
    obtain ⟨sql, args⟩ := fragment_outline (h column)
    rw [h.isTrue]
    split
    · rfl
    · simp only [Option.map_some, fragment, sql, args]

/-- Conditions with the same outline are a congruence. -/
theorem congruence : Congruence SameOutline where
  refl := refl
  all h column := by rw [outline_all, outline_all, map_outline h]
  any h column := by rw [outline_any, outline_any, map_outline h]
  negate h column := by rw [outline_negate, outline_negate, h column]
  scan place number h := h.scan place number

end SameOutline

end Condition

end Pushdown
