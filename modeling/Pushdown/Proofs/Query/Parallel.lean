import Pushdown.Proofs.Push.Parallel
import Pushdown.Proofs.Query.Division

/-!
# Dividing twice

Two selectors alike have conjuncts alike. Conjuncts that are pushed in parallel are divided in the
same way: those on the one side correspond to those on the other, and the conditions are related.
For one selector the result is one compiled query, so a compilation does not depend on what the
pattern cache holds, and it leaves the cache faithful.
-/

namespace Pushdown

open Push (Parallel)

variable {R : Condition Test → Condition Test → Prop} {schema : Schema} {layout : Layout}

/-! ## Conjuncts -/

theorem Operator.AlikeAll.length_eq {as bs : List Operator}
    (h : Operator.AlikeAll R schema layout as bs) : as.length = bs.length := by
  induction as generalizing bs with
  | nil =>
      cases h
      rfl
  | cons a as ih =>
      cases h with
      | cons first rest => rw [List.length_cons, List.length_cons, ih rest]

/-- One condition for each operator of a field. -/
theorem Operator.AlikeAll.fields (path : FieldPath) {as bs : List Operator}
    (h : Operator.AlikeAll R schema layout as bs) :
    List.Forall₂ (Selector.Alike R schema layout)
      (as.map fun operator => .field path [operator])
      (bs.map fun operator => .field path [operator]) := by
  induction as generalizing bs with
  | nil =>
      cases h
      exact .nil
  | cons a as ih =>
      cases h with
      | cons first rest => exact .cons (.field path (.cons first .nil)) (ih rest)

mutual

theorem Selector.Alike.conjuncts : ∀ {a b : Selector}, Selector.Alike R schema layout a b →
    List.Forall₂ (Selector.Alike R schema layout) a.conjuncts b.conjuncts
  | _, _, .const value => .cons (.const value) .nil
  | _, _, .anyOf h => .cons (.anyOf h) .nil
  | _, _, .noneOf h => .cons (.noneOf h) .nil
  | _, _, .allOf h => by
    rw [Selector.conjuncts, Selector.conjuncts]
    exact h.conjuncts
  | _, _, .field path h => by
    rw [Selector.conjuncts, Selector.conjuncts, h.length_eq]
    split
    · exact h.fields path
    · exact .cons (.field path h) .nil

theorem Selector.AlikeAll.conjuncts : ∀ {as bs : List Selector},
    Selector.AlikeAll R schema layout as bs →
    List.Forall₂ (Selector.Alike R schema layout) (Selector.conjunctsAll as)
      (Selector.conjunctsAll bs)
  | _, _, .nil => .nil
  | _, _, .cons first rest => by
    rw [Selector.conjunctsAll, Selector.conjunctsAll]
    exact List.rel_append first.conjuncts rest.conjuncts

end

/-! ## The two sides -/

namespace CompiledQuery

/-- Conjuncts that are pushed in parallel are divided in parallel. -/
theorem divide_parallel {schema' : Schema} {layout' : Layout} {S : Selector → Selector → Prop}
    (push : ∀ a b, S a b → Parallel R (a.push schema layout .document)
      (b.push schema' layout' .document)) {as bs : List Selector} (h : List.Forall₂ S as bs)
    {s t : PushState} (alike : s.Alike t) :
    List.Forall₂ R ((divide schema layout as).run s).1.1 ((divide schema' layout' bs).run t).1.1 ∧
      List.Forall₂ S ((divide schema layout as).run s).1.2
        ((divide schema' layout' bs).run t).1.2 ∧
      ((divide schema layout as).run s).2.Alike ((divide schema' layout' bs).run t).2 := by
  induction h generalizing s t with
  | nil => exact ⟨.nil, .nil, alike⟩
  | cons first rest ih =>
      obtain ⟨results, left⟩ := push _ _ first s t alike
      obtain ⟨pushed, declined, after⟩ := ih left
      simp only [divide_cons]
      revert results
      generalize ((Selector.push schema layout .document _).run s).1 = result
      generalize ((Selector.push schema' layout' .document _).run t).1 = result'
      rintro (related | _)
      · exact ⟨.cons related pushed, declined, after⟩
      · exact ⟨pushed, .cons first declined, after⟩

theorem ofSelector_run (selector : Selector) (s : PushState) :
    (ofSelector schema layout selector).run s =
      let divided := (divide schema layout selector.conjuncts).run s
      ({ pushed := .all divided.1.1
         column := layout.documentColumn
         residual := residualOf (.all divided.1.1) divided.1.2
         declined := divided.1.2.length }, divided.2) := rfl

/-- The compiled form of a selector does not depend on what a faithful pattern cache holds, and the
cache stays faithful. -/
theorem ofSelector_faithful (schema : Schema) (layout : Layout) (selector : Selector)
    {s t : PushState} (alike : s.Alike t) :
    ((ofSelector schema layout selector).run s).1 =
        ((ofSelector schema layout selector).run t).1 ∧
      ((ofSelector schema layout selector).run s).2.Faithful := by
  have push : ∀ a b : Selector, a = b → Parallel Eq (a.push schema layout .document)
      (b.push schema layout .document) := by
    rintro a _ rfl
    exact (Selector.Alike.refl .eq a).push .eq .document
  have same : List.Forall₂ Eq selector.conjuncts selector.conjuncts :=
    List.forall₂_same.mpr fun _ _ => rfl
  obtain ⟨pushed, declined, after⟩ := divide_parallel push same alike
  rw [List.forall₂_eq_eq_eq] at pushed declined
  rw [ofSelector_run, ofSelector_run]
  dsimp only
  rw [pushed, declined]
  exact ⟨rfl, after.left⟩

end CompiledQuery

end Pushdown
