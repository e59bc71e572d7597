import Mathlib.Data.List.Lex
import Mathlib.Tactic.SplitIfs
import Pushdown.Document.Order

/-!
# The order of texts by their bytes

UTF-8 keeps the order of characters. The leading byte of a longer code is greater than that of any
shorter one, and codes of one length hold the digits of the character to the base 64, the greatest
first. Texts that compare by characters therefore compare in the same way by their bytes.
-/

namespace Pushdown

theorem byte_lt_iff {m n : Nat} (hm : m < 256) (hn : n < 256) :
    UInt8.ofNat m < UInt8.ofNat n ↔ m < n := by
  rw [UInt8.lt_iff_toNat_lt, UInt8.toNat_ofNat_of_lt' hm, UInt8.toNat_ofNat_of_lt' hn]

theorem byte_eq_iff {m n : Nat} (hm : m < 256) (hn : n < 256) :
    UInt8.ofNat m = UInt8.ofNat n ↔ m = n := by
  rw [← UInt8.toNat_inj, UInt8.toNat_ofNat_of_lt' hm, UInt8.toNat_ofNat_of_lt' hn]

/-- The code of a lesser character is the lesser one, whatever follows the two. -/
theorem utf8EncodeChar_append_lt {c d : Char} (less : c < d) (xs ys : List UInt8) :
    String.utf8EncodeChar c ++ xs < String.utf8EncodeChar d ++ ys := by
  have less : c.val.toNat < d.val.toNat := less
  have bound : d.val.toNat < 1114112 := by
    have valid : d.val.toNat.isValidChar := d.valid
    unfold Nat.isValidChar at valid
    omega
  unfold String.utf8EncodeChar
  generalize c.val.toNat = m at *
  generalize d.val.toNat = n at *
  -- Digits to the base 64: where the leading ones agree, the next ones decide.
  have fourth : m / 64 < n / 64 ∨ m / 64 = n / 64 ∧ m % 64 < n % 64 := by omega
  have third : m / 64 < n / 64 →
      m / 4096 < n / 4096 ∨ m / 4096 = n / 4096 ∧ m / 64 % 64 < n / 64 % 64 := by omega
  have second : m / 4096 < n / 4096 →
      m / 262144 < n / 262144 ∨ m / 262144 = n / 262144 ∧ m / 4096 % 64 < n / 4096 % 64 := by
    omega
  have first : m / 262144 % 8 = m / 262144 ∧ n / 262144 % 8 = n / 262144 := by omega
  dsimp only
  split_ifs <;>
    simp (disch := omega) only [List.cons_append, List.nil_append, List.cons_lt_cons_iff,
      byte_lt_iff, byte_eq_iff] <;>
    omega

/-- The comparison of lists of bytes, the first difference deciding, is their order. -/
theorem compare_bytes_of_lt {xs ys : List UInt8} (less : xs < ys) : compare xs ys = .lt := by
  induction less with
  | nil => rfl
  | rel less =>
      rw [List.compare_cons_cons, Std.compare_eq_lt.mpr less]
      rfl
  | cons _ ih =>
      rw [List.compare_cons_cons, Std.compare_self]
      exact ih

namespace Json

def bytes (text : String) : List UInt8 := text.toUTF8.data.toList

theorem bytes_eq (text : String) : bytes text = text.toList.flatMap String.utf8EncodeChar := by
  rw [bytes, String.toUTF8_eq_toByteArray, ← String.utf8Encode_toList, List.utf8Encode,
    List.data_toByteArray]

/-- Different texts have different bytes. -/
theorem bytes_injective : Function.Injective bytes := by
  intro a b same
  rw [bytes, bytes, Array.toList_inj] at same
  rw [← String.toByteArray_inj, ← String.toUTF8_eq_toByteArray, ← String.toUTF8_eq_toByteArray]
  exact ByteArray.ext same

/-- Texts keep their order when they are read as bytes. -/
theorem flatMap_utf8EncodeChar_lt {cs ds : List Char} (less : cs < ds) :
    cs.flatMap String.utf8EncodeChar < ds.flatMap String.utf8EncodeChar := by
  induction less with
  | @nil d ds =>
      -- No code is empty, so a text that has ended is still the lesser one.
      obtain ⟨byte, rest, code⟩ := List.exists_cons_of_ne_nil (@String.utf8EncodeChar_ne_nil d)
      rw [List.flatMap_nil, List.flatMap_cons, code]
      exact List.nil_lt_cons _ _
  | rel less => exact utf8EncodeChar_append_lt less _ _
  | cons _ ih => exact List.append_left_lt ih

theorem bytes_lt {a b : String} (less : a < b) : bytes a < bytes b := by
  rw [bytes_eq, bytes_eq]
  exact flatMap_utf8EncodeChar_lt less

/-- The order of two texts is that of their bytes. -/
theorem compareText_eq_bytes (a b : String) : compareText a b = compare (bytes a) (bytes b) := by
  unfold compareText
  split
  · next less => exact (compare_bytes_of_lt (bytes_lt less)).symm
  · next notLess =>
      split
      · next same =>
          rw [same, Std.compare_self]
      · next differ =>
          have greater : b < a :=
            Std.lt_of_le_of_ne (Std.not_lt.mp notLess) (Ne.symm differ)
          rw [Std.OrientedOrd.eq_swap, compare_bytes_of_lt (bytes_lt greater)]
          rfl

end Json

end Pushdown
