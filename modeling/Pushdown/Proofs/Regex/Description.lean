import Pushdown.Proofs.Regex.Literal

/-!
# What text patterns describe

A text pattern describes the texts that equal, begin with, end with or contain its literal. Where
case is ignored, a capital letter of ASCII and its small letter count as the same character, and no
others do. This is said here without lower case, escapes or regular expressions; what folds texts,
writes `LIKE` patterns or runs an automaton is measured against it.
-/

namespace Pushdown

/-! ## Characters and texts alike -/

/-- A character is a capital letter of ASCII, and another one its small letter. -/
def IsCapitalOf (c d : Char) : Prop :=
  65 ≤ c.toNat ∧ c.toNat ≤ 90 ∧ d.toNat = c.toNat + 32

def SameChar (ignoreCase : Bool) (c d : Char) : Prop :=
  c = d ∨ ignoreCase = true ∧ (IsCapitalOf c d ∨ IsCapitalOf d c)

def SameText (ignoreCase : Bool) (a b : String) : Prop :=
  List.Forall₂ (SameChar ignoreCase) a.toList b.toList

/-- Texts are described by what they are made of. -/
def TextPattern.Describes (ignoreCase : Bool) (text : String) : TextPattern → Prop
  | .exact literal => SameText ignoreCase literal text
  | .starts literal => ∃ part after, text = part ++ after ∧ SameText ignoreCase literal part
  | .ends literal => ∃ before part, text = before ++ part ∧ SameText ignoreCase literal part
  | .contains literal =>
    ∃ before part after, text = before ++ part ++ after ∧ SameText ignoreCase literal part
  | .irreducible => False

namespace TextPattern

variable {ignoreCase : Bool}

theorem sameChar_iff (c d : Char) :
    SameChar ignoreCase c d ↔ foldedChar ignoreCase c = foldedChar ignoreCase d := by
  rw [SameChar, foldedChar, foldedChar]
  cases ignoreCase with
  | false => simp
  | true =>
      simp only [if_true, true_and, IsCapitalOf, ← Char.toNat_inj, toNat_toLower]
      split <;> split <;> omega

/-- Texts with the same characters are the same text when folded. -/
theorem sameText_iff (a b : String) :
    SameText ignoreCase a b ↔ folded ignoreCase a = folded ignoreCase b := by
  have same : SameChar ignoreCase =
      fun c d => foldedChar ignoreCase c = foldedChar ignoreCase d := by
    funext c d
    exact propext (sameChar_iff c d)
  rw [SameText, same, folded_eq_map, folded_eq_map, ← List.forall₂_eq_eq_eq,
    List.forall₂_map_left_iff, List.forall₂_map_right_iff]

/-- Parts of a folded text are folded parts of the text. -/
theorem append_eq_folded {text : String} {front back : List Char} :
    front ++ back = folded ignoreCase text ↔ ∃ before after, text = before ++ after ∧
      folded ignoreCase before = front ∧ folded ignoreCase after = back := by
  rw [folded_eq_map, eq_comm, List.map_eq_append_iff]
  constructor
  · rintro ⟨before, after, whole, rfl, rfl⟩
    refine ⟨String.ofList before, String.ofList after, ?_, ?_, ?_⟩
    · rw [← String.toList_inj, String.toList_append, String.toList_ofList, String.toList_ofList,
        whole]
    · rw [folded_eq_map, String.toList_ofList]
    · rw [folded_eq_map, String.toList_ofList]
  · rintro ⟨before, after, rfl, rfl, rfl⟩
    exact ⟨before.toList, after.toList, String.toList_append, (folded_eq_map _ _).symm,
      (folded_eq_map _ _).symm⟩

/-- A pattern accepts what it describes. -/
theorem accepts_iff_describes (text : String) (pattern : TextPattern) :
    pattern.accepts ignoreCase text = true ↔ pattern.Describes ignoreCase text := by
  cases pattern with
  | irreducible => simp [accepts, Describes]
  | exact literal => rw [accepts, Describes, beq_iff_eq, sameText_iff]
  | starts literal =>
      simp only [accepts, Describes, sameText_iff, List.isPrefixOf_iff_prefix]
      constructor
      · rintro ⟨back, whole⟩
        obtain ⟨part, after, split, same, -⟩ := append_eq_folded.mp whole
        exact ⟨part, after, split, same.symm⟩
      · rintro ⟨part, after, split, same⟩
        exact ⟨_, append_eq_folded.mpr ⟨part, after, split, same.symm, rfl⟩⟩
  | ends literal =>
      simp only [accepts, Describes, sameText_iff, List.isSuffixOf_iff_suffix]
      constructor
      · rintro ⟨front, whole⟩
        obtain ⟨before, part, split, -, same⟩ := append_eq_folded.mp whole
        exact ⟨before, part, split, same.symm⟩
      · rintro ⟨before, part, split, same⟩
        exact ⟨_, append_eq_folded.mpr ⟨before, part, split, rfl, same.symm⟩⟩
  | contains literal =>
      have inside : (contains literal).accepts ignoreCase text = true ↔
          folded ignoreCase literal <:+: folded ignoreCase text := by
        simp only [accepts, List.any_eq_true, List.mem_tails, List.isPrefixOf_iff_prefix]
        rw [List.infix_iff_prefix_suffix]
        exact exists_congr fun _ => and_comm
      rw [inside]
      simp only [Describes, sameText_iff]
      constructor
      · rintro ⟨front, back, whole⟩
        obtain ⟨start, after, split, begins, -⟩ := append_eq_folded.mp whole
        obtain ⟨before, part, again, -, same⟩ := append_eq_folded.mp begins.symm
        exact ⟨before, part, after, again ▸ split, same.symm⟩
      · rintro ⟨before, part, after, split, same⟩
        have begins := append_eq_folded.mpr ⟨before, part, rfl, rfl, same.symm⟩
        exact ⟨_, _, append_eq_folded.mpr ⟨before ++ part, after, split, begins.symm, rfl⟩⟩

instance (text : String) (pattern : TextPattern) : Decidable (pattern.Describes ignoreCase text) :=
  decidable_of_iff _ (accepts_iff_describes text pattern)

/-- Only letters of ASCII count in both cases. -/
example : (contains "é_B").Describes true "Dé_b" ∧ ¬ (contains "é").Describes true "DÉ" := by decide

/-- A regular expression with a reducible form matches the texts that the form describes, and no
others: those that equal, begin with, end with or contain its literal, up to the case of ASCII
letters where it ignores case. -/
theorem matchesIn_iff_describes (expression : RegularExpression)
    (reducible : ofRegex expression ≠ .irreducible) (text : String) :
    expression.matchesIn text = true ↔
      (ofRegex expression).Describes expression.caseInsensitive text := by
  rw [← accepts_ofRegex reducible, accepts_iff_describes]

set_option maxRecDepth 2000 in
/-- An anchored letter whose case is ignored: only the end of a text is its end. -/
theorem matchesIn_iff_describes_anchored :
    ∃ expression, RegularExpression.ofPattern? "A$" "gi" = some expression ∧
      ofRegex expression = .ends "A" ∧ ofRegex expression ≠ .irreducible ∧
      expression.matchesIn "Éa" = true ∧ expression.matchesIn "a\n" = false := by
  have accepted : (RegularExpression.ofPattern? "A$" "gi").map
      (fun expression => (ofRegex expression, expression.caseInsensitive)) =
        some (.ends "A", true) := by
    decide
  obtain ⟨expression, built, known⟩ := Option.map_eq_some_iff.mp accepted
  obtain ⟨form, ignoresCase⟩ := Prod.mk.inj known
  have reducible : ofRegex expression ≠ .irreducible := by
    rw [form]
    nofun
  have means := matchesIn_iff_describes expression reducible
  rw [form, ignoresCase] at means
  refine ⟨expression, built, form, reducible, ?_, ?_⟩
  · exact (means _).mpr (by decide)
  · exact Bool.eq_false_iff.mpr (mt (means _).mp (by decide))

end TextPattern

end Pushdown
