import Pushdown.Cache.Pattern

/-!
# What caches hold

A cache only holds what was put into it. A property of entries is therefore kept by lookups, by the
loss of old entries and by clearing, and an insertion keeps it if the new entry has the property. Of
the cache of patterns the property is that each form is the form of every regular expression with
the key of its entry, since the form depends on the pattern and the meaningful options only.
-/

namespace Pushdown

namespace Lru

variable {κ ν : Type}

/-- Every entry has a property. -/
def Every (P : κ → ν → Prop) (cache : Lru κ ν) : Prop :=
  ∀ entry ∈ cache.entries, P entry.1 entry.2

variable {P : κ → ν → Prop}

theorem every_empty (capacity : Nat) : Every P (.empty capacity) := by
  intro entry mem
  cases mem

theorem every_clear (cache : Lru κ ν) : Every P cache.clear := by
  intro entry mem
  cases mem

namespace Every

variable [DecidableEq κ] {cache : Lru κ ν}

/-- A value that is found has the property for the key that it was looked up under. -/
theorem find? (h : cache.Every P) {key : κ} {value : ν} (found : cache.find? key = some value) :
    P key value := by
  unfold Lru.find? at found
  obtain ⟨entry, first, rfl⟩ := Option.map_eq_some_iff.mp found
  have same : entry.1 = key := by simpa using List.find?_some first
  rw [← same]
  exact h entry (List.mem_of_find?_eq_some first)

theorem cons_without (h : cache.Every P) {key : κ} {value : ν} (good : P key value) :
    ∀ entry ∈ (key, value) :: cache.without key, P entry.1 entry.2 := by
  intro entry mem
  obtain rfl | mem := List.mem_cons.mp mem
  · exact good
  · exact h entry (List.mem_filter.mp mem).1

theorem insert (h : cache.Every P) {key : κ} {value : ν} (good : P key value) :
    (cache.insert key value).Every P := by
  intro entry mem
  exact h.cons_without good entry (List.mem_of_mem_take mem)

/-- A lookup keeps the property, and what it returns has it. -/
theorem get (h : cache.Every P) (key : κ) :
    (cache.get key).2.Every P ∧ ∀ value, (cache.get key).1 = some value → P key value := by
  unfold Lru.get
  cases found : cache.find? key with
  | none => exact ⟨h, fun value eq => by cases eq⟩
  | some value =>
      have good := h.find? found
      refine ⟨h.cons_without good, ?_⟩
      rintro _ ⟨⟩
      exact good

/-- The value that is returned has the property, whether it was found or inserted. -/
theorem getOrInsert (h : cache.Every P) {key : κ} {value : ν} (good : P key value) :
    P key (cache.getOrInsert key value).1 ∧ (cache.getOrInsert key value).2.2.Every P := by
  obtain ⟨kept, returned⟩ := h.get key
  unfold Lru.getOrInsert
  split
  · next found rest eq =>
    rw [eq] at kept returned
    exact ⟨returned found rfl, kept⟩
  · next rest eq =>
    rw [eq] at kept
    exact ⟨good, kept.insert good⟩

end Every

end Lru

/-! ## Patterns -/

theorem RegularExpression.hasOption_iff_mem_flags (expression : RegularExpression) {letter : Char}
    (meaningful : letter ∈ ['i', 'm', 's', 'x']) :
    Regex.hasOption expression.options letter = true ↔ letter ∈ expression.flags.toList := by
  rw [flags, String.toList_ofList, List.mem_filter, and_iff_right meaningful]

/-- Regular expressions with the same meaningful options have each of them or have it not. -/
theorem RegularExpression.hasOption_eq {a b : RegularExpression} (h : a.flags = b.flags)
    {letter : Char} (meaningful : letter ∈ ['i', 'm', 's', 'x']) :
    Regex.hasOption a.options letter = Regex.hasOption b.options letter := by
  rw [Bool.eq_iff_iff, a.hasOption_iff_mem_flags meaningful, b.hasOption_iff_mem_flags meaningful,
    h]

/-- The form of a regular expression depends on its pattern and its meaningful options only. -/
theorem TextPattern.ofRegex_eq {a b : RegularExpression} (pattern : a.pattern = b.pattern)
    (flags : a.flags = b.flags) : ofRegex a = ofRegex b := by
  have option {letter : Char} (meaningful : letter ∈ ['i', 'm', 's', 'x']) :=
    RegularExpression.hasOption_eq flags meaningful
  have semantic : a.hasSemanticFlags = b.hasSemanticFlags := by
    simp only [RegularExpression.hasSemanticFlags, List.any_cons, List.any_nil]
    rw [option (by decide), option (by decide), option (by decide)]
  have folding : a.caseInsensitive = b.caseInsensitive := option (by decide)
  unfold ofRegex
  rw [pattern, semantic, folding]

namespace PatternCache

/-- Each form is the form of every regular expression with the key of its entry. -/
def Faithful (cache : PatternCache) : Prop :=
  cache.Every fun key form => ∀ field expression version,
    keyOf field expression version = key → form = .ofRegex expression

theorem ofRegex_of_keyOf (field : String) (expression : RegularExpression) (version : Nat) :
    ∀ field' expression' version',
      keyOf field' expression' version' = keyOf field expression version →
        TextPattern.ofRegex expression = TextPattern.ofRegex expression' := by
  intro field' expression' version' same
  exact TextPattern.ofRegex_eq (congrArg PatternKey.pattern same).symm
    (congrArg PatternKey.flags same).symm

/-- A form from a faithful cache is the form of the regular expression at hand. -/
theorem Faithful.classify {cache : PatternCache} (h : cache.Faithful) (field : String)
    (expression : RegularExpression) (version : Nat) :
    (cache.classify field expression version).1 = .ofRegex expression ∧
      (cache.classify field expression version).2.2.Faithful := by
  obtain ⟨returned, kept⟩ := Lru.Every.getOrInsert h (ofRegex_of_keyOf field expression version)
  exact ⟨returned field expression version rfl, kept⟩

end PatternCache

end Pushdown
