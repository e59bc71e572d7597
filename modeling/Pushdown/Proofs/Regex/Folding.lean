import Pushdown.Proofs.Store.Like
import Pushdown.Regex.CharSet

/-!
# Folding of ASCII letters

Simple case folding reaches beyond ASCII, lower case in SQL does not. The two agree on a character
of ASCII unless it is the letter `k` or `s`, which fold with a sign and a letter beyond ASCII. All
rows of pairs that begin in ASCII are rows of its capital letters.
-/

namespace Pushdown.Unicode

/-- The letters of ASCII that fold with a code point beyond ASCII. -/
def foldsBeyond (c : Nat) : Prop := c = 75 ∨ c = 83 ∨ c = 107 ∨ c = 115

theorem foldOrbits_ascii {orbit : List Nat} (listed : orbit ∈ foldOrbits) {c : Nat}
    (member : c ∈ orbit) (ascii : c < 128) : foldsBeyond c := by
  have all : ∀ orbit ∈ foldOrbits, ∀ c ∈ orbit, c < 128 → c = 75 ∨ c = 83 ∨ c = 107 ∨ c = 115 := by
    decide
  exact all orbit listed c member ascii

theorem foldRows_ascii {row : FoldRow} (listed : row ∈ foldRows) (ascii : row.first < 128) :
    row.distance = 32 ∧ 65 ≤ row.first ∧ row.last ≤ 90 := by
  have all : ∀ row ∈ foldRows, row.first < 128 →
      row.distance = 32 ∧ 65 ≤ row.first ∧ row.last ≤ 90 := by
    decide +kernel
  exact all row listed ascii

theorem FoldRow.starts_iff {row : FoldRow} (c : Nat) :
    row.starts c = true ↔
      row.first ≤ c ∧ c ≤ row.last ∧ (c - row.first) % row.step = 0 := by
  simp [FoldRow.starts, and_assoc]

/-- The capital letters other than `K` and `S` begin pairs with the small letters. -/
theorem exists_foldRow {c : Nat} (low : 65 ≤ c) (high : c ≤ 90) (plain : ¬ foldsBeyond c) :
    ∃ row ∈ foldRows, row.starts c = true ∧ row.distance = 32 := by
  have other : c ≠ 75 ∧ c ≠ 83 := by
    unfold foldsBeyond at plain
    omega
  have found : c ≤ 74 ∨ (76 ≤ c ∧ c ≤ 82) ∨ 84 ≤ c := by omega
  obtain first | second | third := found
  · refine ⟨⟨0x41, 0x4a, 1, 32⟩, .head _, ?_, rfl⟩
    rw [FoldRow.starts_iff]
    dsimp only
    omega
  · refine ⟨⟨0x4c, 0x52, 1, 32⟩, .tail _ (.head _), ?_, rfl⟩
    rw [FoldRow.starts_iff]
    dsimp only
    omega
  · refine ⟨⟨0x54, 0x5a, 1, 32⟩, .tail _ (.tail _ (.head _)), ?_, rfl⟩
    rw [FoldRow.starts_iff]
    dsimp only
    omega

theorem mem_foldPartners {c x : Nat} :
    c ∈ foldPartners x ↔ ∃ row ∈ foldRows,
      (row.starts x = true ∧ c = x + row.distance) ∨
      (row.distance ≤ x ∧ row.starts c = true ∧ c = x - row.distance) := by
  unfold foldPartners
  rw [List.mem_flatMap]
  refine exists_congr fun row => and_congr_right fun _ => ?_
  rw [List.mem_append]
  refine or_congr ?_ ?_
  · split <;> simp_all
  · split
    · next h =>
      rw [List.mem_singleton]
      constructor
      · rintro rfl
        exact ⟨h.1, h.2, rfl⟩
      · exact fun h => h.2.2
    · next h =>
      constructor
      · intro found
        cases found
      · rintro ⟨fits, starts, rfl⟩
        exact absurd ⟨fits, starts⟩ h

/-- A code point folds with a character of ASCII other than `k` and `s` just when the two are the
same in lower case. -/
theorem mem_foldOrbit {c x : Nat} (ascii : c < 128) (plain : ¬ foldsBeyond c) :
    c ∈ foldOrbit x ↔
      c = x ∨ (65 ≤ c ∧ c ≤ 90 ∧ x = c + 32) ∨ (65 ≤ x ∧ x ≤ 90 ∧ c = x + 32) := by
  have plainOther (same : (65 ≤ c ∧ c ≤ 90 ∧ x = c + 32) ∨ (65 ≤ x ∧ x ≤ 90 ∧ c = x + 32)) :
      ¬ foldsBeyond x := by
    unfold foldsBeyond at plain ⊢
    omega
  unfold foldOrbit
  split
  · next orbit found =>
    have listed : orbit ∈ foldOrbits := List.mem_of_find?_eq_some found
    have member : x ∈ orbit := by simpa using List.find?_some found
    constructor
    · intro inside
      exact absurd (foldOrbits_ascii listed inside ascii) plain
    · rintro (rfl | same)
      · exact member
      · have small : x < 128 := by omega
        exact absurd (foldOrbits_ascii listed member small) (plainOther same)
  · rw [List.mem_cons, mem_foldPartners]
    apply or_congr_right
    constructor
    · rintro ⟨row, listed, ⟨starts, rfl⟩ | ⟨fits, starts, same⟩⟩
      · rw [FoldRow.starts_iff] at starts
        have bounds := foldRows_ascii listed (by omega)
        omega
      · rw [FoldRow.starts_iff] at starts
        have bounds := foldRows_ascii listed (by omega)
        omega
    · rintro (⟨low, high, rfl⟩ | ⟨low, high, rfl⟩)
      · obtain ⟨row, listed, starts, distance⟩ := exists_foldRow low high plain
        exact ⟨row, listed, .inr ⟨by omega, starts, by omega⟩⟩
      · obtain ⟨row, listed, starts, distance⟩ :=
          exists_foldRow low high (plainOther (.inr ⟨low, high, rfl⟩))
        exact ⟨row, listed, .inl ⟨starts, by omega⟩⟩

end Pushdown.Unicode

namespace Pushdown.Regex.CharSet

open Pushdown.Unicode

theorem holds_single (c : Char) (x : Nat) : (single c).holds x = (c.toNat == x) := by
  rw [Bool.eq_iff_iff, beq_iff_eq]
  simp only [single, holds, Ranges.holds, List.any_cons, List.any_nil, Bool.or_false,
    Bool.and_eq_true, decide_eq_true_eq]
  omega

/-- A folded character of ASCII other than `k` and `s` holds of what is the same in lower case. -/
theorem holds_folded_single {c : Char} (ascii : c.toNat < 128) (plain : ¬ foldsBeyond c.toNat)
    (d : Char) : (folded (single c)).holds d.toNat = (c.toLower == d.toLower) := by
  have orbit : (folded (single c)).holds d.toNat = true ↔ c.toNat ∈ foldOrbit d.toNat := by
    simp only [holds, List.any_eq_true, holds_single, beq_iff_eq]
    constructor
    · rintro ⟨_, member, rfl⟩
      exact member
    · intro member
      exact ⟨_, member, rfl⟩
  rw [Bool.eq_iff_iff, orbit, mem_foldOrbit ascii plain, beq_iff_eq, ← Char.toNat_inj,
    toNat_toLower, toNat_toLower]
  split <;> split <;> omega

end Pushdown.Regex.CharSet
