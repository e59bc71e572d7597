import Pushdown.Proofs.Store.Value
import Pushdown.Sql.Push

/-!
# Text patterns in the store

A text pattern asks that a text equals, begins with, ends with or contains a literal. The test that
is written for a pattern, with the literal escaped for `LIKE` and folded where an index holds folded
texts, gives just this answer for every text. Folding changes ASCII letters only, so it commutes
with escaping.
-/

namespace Pushdown

/-! ## Letters in lower case -/

theorem toNat_toLower (c : Char) :
    c.toLower.toNat = if 65 ≤ c.toNat ∧ c.toNat ≤ 90 then c.toNat + 32 else c.toNat := by
  unfold Char.toLower
  have upper : (c.val ≥ 'A'.val ∧ c.val ≤ 'Z'.val) ↔ 65 ≤ c.toNat ∧ c.toNat ≤ 90 := by
    simp only [ge_iff_le, UInt32.le_iff_toNat_le]
    rfl
  split
  · next isUpper =>
    rw [if_pos (upper.mp isUpper)]
    have small : c.val.toNat ≤ 90 := (upper.mp isUpper).2
    change (c.val + 32).toNat = c.val.toNat + 32
    rw [UInt32.toNat_add]
    change (c.val.toNat + 32) % 4294967296 = _
    omega
  · next notUpper => rw [if_neg fun h => notUpper (upper.mpr h)]

/-- Only a character that is no letter is in lower case what it was before. -/
theorem toLower_eq_iff {c d : Char}
    (noLetter : d.toNat < 65 ∨ (90 < d.toNat ∧ d.toNat < 97) ∨ 122 < d.toNat) :
    c.toLower = d ↔ c = d := by
  rw [← Char.toNat_inj, ← Char.toNat_inj, toNat_toLower]
  split <;> omega

namespace TextPattern

theorem likeChars_cons (c : Char) (literal : List Char) :
    likeChars (c :: literal) =
      if c = '%' ∨ c = '_' ∨ c = escapeMark then escapeMark :: c :: likeChars literal
      else c :: likeChars literal := by
  unfold likeChars
  rw [List.flatMap_cons]
  split <;> rfl

end TextPattern

namespace LikePart

theorem ofPattern?_ordinary {c : Char} (rest : List Char)
    (ordinary : ¬ (c = '%' ∨ c = '_' ∨ c = TextPattern.escapeMark)) :
    ofPattern? (c :: rest) = (ofPattern? rest).map (.char c :: ·) := by
  rw [TextPattern.escapeMark] at ordinary
  rw [ofPattern?.eq_def]
  split <;> simp_all

/-- An escaped literal stands for its own characters. -/
theorem ofPattern?_likeChars (literal rest : List Char) :
    ofPattern? (TextPattern.likeChars literal ++ rest) =
      (ofPattern? rest).map (literal.map .char ++ ·) := by
  induction literal with
  | nil => simp [TextPattern.likeChars]
  | cons c literal ih =>
      rw [TextPattern.likeChars_cons]
      split
      · rw [TextPattern.escapeMark, List.cons_append, List.cons_append, ofPattern?, ih]
        cases ofPattern? rest <;> rfl
      · next ordinary =>
        rw [List.cons_append, ofPattern?_ordinary _ ordinary, ih]
        cases ofPattern? rest <;> rfl

theorem fits_any (text : List Char) : fits [.any] text = true := by
  simp [fits]

theorem fits_chars (literal : List Char) (parts : List LikePart) (text : List Char) :
    fits (literal.map .char ++ parts) text =
      (literal.isPrefixOf text && fits parts (text.drop literal.length)) := by
  induction literal generalizing text with
  | nil => simp
  | cons c literal ih =>
      cases text with
      | nil => rfl
      | cons d text =>
          change (c == d && fits (literal.map .char ++ parts) text) = _
          rw [ih]
          simp [List.isPrefixOf, Bool.and_assoc]

theorem fits_literal (literal text : List Char) :
    fits (literal.map .char) text = (literal == text) := by
  have all := fits_chars literal [] text
  rw [List.append_nil] at all
  rw [all, Bool.eq_iff_iff]
  simp only [fits, Bool.and_eq_true, List.isPrefixOf_iff_prefix, List.isEmpty_iff,
    List.drop_eq_nil_iff, beq_iff_eq]
  constructor
  · rintro ⟨before, short⟩
    exact before.eq_of_length_le short
  · rintro rfl
    simp

end LikePart

namespace TextPattern

/-- The characters of a text that count, letters in lower case when case is ignored. -/
def folded (ignoreCase : Bool) (text : String) : List Char :=
  if ignoreCase then text.toList.map Char.toLower else text.toList

/-- Whether a text is what a pattern asks for. -/
def accepts (ignoreCase : Bool) (text : String) : TextPattern → Bool
  | .exact literal => folded ignoreCase literal == folded ignoreCase text
  | .starts literal => (folded ignoreCase literal).isPrefixOf (folded ignoreCase text)
  | .ends literal => (folded ignoreCase literal).isSuffixOf (folded ignoreCase text)
  | .contains literal =>
    (folded ignoreCase text).tails.any (folded ignoreCase literal).isPrefixOf
  | .irreducible => false

def likeOf (literal : List Char) : TextPattern → List Char
  | .starts _ => likeChars literal ++ ['%']
  | .ends _ => '%' :: likeChars literal
  | .contains _ => '%' :: likeChars literal ++ ['%']
  | _ => []

/-- A form other than equality asks of a text what `LIKE` asks. -/
theorem fits_likeOf (literal : String) (ignoreCase : Bool) (text : String) (pattern : TextPattern)
    (form : pattern = .starts literal ∨ pattern = .ends literal ∨ pattern = .contains literal) :
    ((LikePart.ofPattern? (pattern.likeOf (folded ignoreCase literal))).any fun parts =>
      LikePart.fits parts (folded ignoreCase text)) = pattern.accepts ignoreCase text := by
  have percent (rest : List Char) :
      LikePart.ofPattern? ('%' :: rest) = (LikePart.ofPattern? rest).map (.any :: ·) := rfl
  have close : LikePart.ofPattern? ['%'] = some [.any] := rfl
  have last : LikePart.ofPattern? (likeChars (folded ignoreCase literal)) =
      some ((folded ignoreCase literal).map .char) := by
    have whole := LikePart.ofPattern?_likeChars (folded ignoreCase literal) []
    rw [List.append_nil] at whole
    rw [whole]
    simp [LikePart.ofPattern?]
  obtain rfl | rfl | rfl := form
  · rw [likeOf, LikePart.ofPattern?_likeChars, close, Option.map_some, Option.any_some,
      LikePart.fits_chars, LikePart.fits_any, Bool.and_true, accepts]
  · rw [likeOf, percent, last, Option.map_some, Option.any_some, accepts]
    change (folded ignoreCase text).tails.any (LikePart.fits _) = _
    rw [Bool.eq_iff_iff, List.any_eq_true, List.isSuffixOf_iff_suffix]
    simp only [LikePart.fits_literal, List.mem_tails, beq_iff_eq]
    constructor
    · rintro ⟨_, suffix, rfl⟩
      exact suffix
    · intro suffix
      exact ⟨_, suffix, rfl⟩
  · rw [likeOf, List.cons_append, percent, LikePart.ofPattern?_likeChars, close, Option.map_some,
      Option.map_some, Option.any_some, accepts]
    change (folded ignoreCase text).tails.any (LikePart.fits _) = _
    congr 1
    funext rest
    rw [LikePart.fits_chars, LikePart.fits_any, Bool.and_true]

theorem likeChars_toLower (literal : List Char) :
    (likeChars literal).map Char.toLower = likeChars (literal.map Char.toLower) := by
  have special (c : Char) :
      (c.toLower = '%' ∨ c.toLower = '_' ∨ c.toLower = escapeMark) ↔
        (c = '%' ∨ c = '_' ∨ c = escapeMark) := by
    rw [escapeMark, toLower_eq_iff (by decide), toLower_eq_iff (by decide),
      toLower_eq_iff (by decide)]
  induction literal with
  | nil => rfl
  | cons c literal ih =>
      rw [List.map_cons, likeChars_cons, likeChars_cons]
      split
      · next h =>
        rw [if_pos ((special c).mpr h), ← ih]
        rfl
      · next h =>
        rw [if_neg fun same => h ((special c).mp same), ← ih]
        rfl

theorem toList_like (literal : String) (pattern : TextPattern)
    (form : pattern = .starts literal ∨ pattern = .ends literal ∨ pattern = .contains literal) :
    (pattern.like?.getD "").toList = pattern.likeOf literal.toList := by
  rcases form with rfl | rfl | rfl <;>
    simp [like?, likeEscape, likeOf, String.toList_append]

theorem likeOf_toLower (literal : List Char) (pattern : TextPattern) :
    (pattern.likeOf literal).map Char.toLower = pattern.likeOf (literal.map Char.toLower) := by
  have percent : Char.toLower '%' = '%' := by decide
  cases pattern <;> simp [likeOf, likeChars_toLower, percent]

/-- The test for a pattern answers for a text what the pattern asks. -/
theorem textTest_answer (store : Store) {pattern : TextPattern} (reducible : pattern ≠ .irreducible)
    (ignoreCase lowerIndex : Bool) (text : String) :
    store.textTest (.text text) (textTest pattern ignoreCase lowerIndex).2
        (textTest pattern ignoreCase lowerIndex).1 = some (pattern.accepts ignoreCase text) := by
  have lower (a b : String) : (lowered a == lowered b) =
      (b.toList.map Char.toLower == a.toList.map Char.toLower) := by
    rw [Bool.eq_iff_iff, beq_iff_eq, beq_iff_eq, lowered, lowered, String.ofList_inj, eq_comm]
  have like {literal : String}
      (form : pattern = .starts literal ∨ pattern = .ends literal ∨ pattern = .contains literal) :
      isLike text (pattern.like?.getD "") = pattern.accepts false text := by
    rw [← fits_likeOf literal false text pattern form, isLike, toList_like literal pattern form]
    rfl
  have likeLower {literal : String}
      (form : pattern = .starts literal ∨ pattern = .ends literal ∨ pattern = .contains literal) :
      isLike (lowered text) (lowered (pattern.like?.getD "")) = pattern.accepts true text := by
    rw [← fits_likeOf literal true text pattern form, isLike, lowered, lowered,
      String.toList_ofList, String.toList_ofList, toList_like literal pattern form, likeOf_toLower]
    rfl
  cases pattern with
  | irreducible => exact absurd rfl reducible
  | exact literal =>
      cases ignoreCase
      · change (Argument.text text).equal? (.text literal) = some (literal.toList == text.toList)
        rw [Argument.equal?_text, Bool.beq_eq_decide_eq, Bool.beq_eq_decide_eq]
        simp only [String.toList_inj, eq_comm]
      · cases lowerIndex <;> exact congrArg some (lower text literal)
  | starts literal =>
      cases ignoreCase
      · exact congrArg some (like (.inl rfl))
      · cases lowerIndex <;> exact congrArg some (likeLower (.inl rfl))
  | ends literal =>
      cases ignoreCase
      · exact congrArg some (like (.inr (.inl rfl)))
      · cases lowerIndex <;> exact congrArg some (likeLower (.inr (.inl rfl)))
  | contains literal =>
      cases ignoreCase
      · exact congrArg some (like (.inr (.inr rfl)))
      · cases lowerIndex <;> exact congrArg some (likeLower (.inr (.inr rfl)))

end TextPattern

end Pushdown
