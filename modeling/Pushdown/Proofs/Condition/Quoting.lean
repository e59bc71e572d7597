import Mathlib.Algebra.GroupWithZero.Nat
import Mathlib.Data.List.Forall2
import Pushdown.Document.Path
import Pushdown.Sql.Identifier

/-!
# Quotes and placeholders in SQL text

SQL text has string literals between single quotes and names between double quotes, and a quote that
is written twice between quotes of its kind stands for itself. `scan` separates such text from the
code around it. A placeholder is a question mark in the code.

`Takes` says that a text ends outside quotes and has a number of placeholders. Texts of this kind
can be put together, since each of them begins where the one before has closed its quotes. `Tally`
says just this of any way to count placeholders: the counts of texts that are put together are
added, code is counted by its question marks, and a literal has none.
-/

namespace Pushdown.Sql

/-- A character that begins a literal or a name. -/
def isQuote (c : Char) : Bool := c = '\'' || c = '"'

/-- What a part of SQL text belongs to. -/
inductive Region where
  | code
  /-- Text between two of a quote. -/
  | quoted (quote : Char)
deriving DecidableEq, Repr

/-- The region in which a text ends that begins in a given region, and the characters of its
code. -/
def scan : Region → List Char → Region × List Char
  | region, [] => (region, [])
  | .code, c :: rest =>
    if isQuote c then scan (.quoted c) rest else ((scan .code rest).1, c :: (scan .code rest).2)
  | .quoted quote, [c] => if c = quote then (.code, []) else (.quoted quote, [])
  | .quoted quote, c :: d :: rest =>
    if c = quote then
      if d = quote then scan (.quoted quote) rest else scan .code (d :: rest)
    else scan (.quoted quote) (d :: rest)

/-- The text has no quotes, and a number of question marks. -/
structure IsCode (text : String) (count : Nat) : Prop where
  plain : ∀ c ∈ text.toList, isQuote c = false
  placeholders : text.toList.count '?' = count

instance (text : String) (count : Nat) : Decidable (IsCode text count) :=
  decidable_of_iff (text.toList.any isQuote = false ∧ text.toList.count '?' = count)
    ⟨fun h => ⟨by simpa using h.1, h.2⟩, fun h => ⟨by simpa using h.plain, h.placeholders⟩⟩

/-- A text ends outside quotes and has a number of placeholders. -/
structure Takes (text : String) (count : Nat) : Prop where
  closed : (scan .code text.toList).1 = .code
  placeholders : (scan .code text.toList).2.count '?' = count

instance (text : String) (count : Nat) : Decidable (Takes text count) :=
  decidable_of_iff _ ⟨fun h => ⟨h.1, h.2⟩, fun h => And.intro h.closed h.placeholders⟩

/-- Question marks and quotes of the other kind stand for themselves between quotes. -/
example : Takes "\"a?\"\"'\" = ? AND 'b?''\"' = ?" 2 := by decide

/-! ## One character after the other -/

namespace Region

/-- The region behind a character. A quote that is written twice leaves its region and enters it
again, which comes to the same as staying inside. -/
def next : Region → Char → Region
  | .code, c => if isQuote c then .quoted c else .code
  | .quoted quote, c => if c = quote then .code else .quoted quote

/-- What a character adds to the code. -/
def kept : Region → Char → List Char
  | .code, c => if isQuote c then [] else [c]
  | .quoted _, _ => []

/-- A region between quotes is between two of a character that is one. -/
def Proper : Region → Prop
  | .code => True
  | .quoted quote => isQuote quote = true

theorem Proper.code : Region.code.Proper := trivial

theorem Proper.next {region : Region} (proper : region.Proper) (c : Char) :
    (region.next c).Proper := by
  cases region with
  | code =>
      rw [Region.next]
      split
      · next quote => exact quote
      · trivial
  | quoted quote =>
      rw [Region.next]
      split
      · trivial
      · exact proper

end Region

theorem scan_cons {region : Region} (proper : region.Proper) (c : Char) (rest : List Char) :
    scan region (c :: rest) =
      ((scan (region.next c) rest).1, region.kept c ++ (scan (region.next c) rest).2) := by
  cases region with
  | code =>
      rw [scan, Region.next, Region.kept]
      split <;> rfl
  | quoted quote =>
      have isQuote : isQuote quote = true := proper
      cases rest with
      | nil =>
          simp only [scan, Region.next, Region.kept]
          split <;> rfl
      | cons d rest =>
          rw [scan, Region.next, Region.kept]
          split
          · split
            · next again => rw [again, scan, if_pos isQuote, List.nil_append]
            · rfl
          · rfl

theorem scan_append {region : Region} (proper : region.Proper) (front back : List Char) :
    scan region (front ++ back) =
      ((scan (scan region front).1 back).1,
        (scan region front).2 ++ (scan (scan region front).1 back).2) := by
  induction front generalizing region with
  | nil => simp [scan]
  | cons c front ih =>
      rw [List.cons_append, scan_cons proper, scan_cons proper, ih (proper.next c),
        List.append_assoc]

/-- Text without quotes is code. -/
theorem scan_code {text : List Char} (plain : ∀ c ∈ text, isQuote c = false) :
    scan .code text = (.code, text) := by
  induction text with
  | nil => rfl
  | cons c text ih =>
      rw [List.forall_mem_cons] at plain
      rw [scan, if_neg (Bool.eq_false_iff.mp plain.1), ih plain.2]

/-- Between quotes, text in which the quote is written twice stays there. -/
theorem scan_doubled {quote : Char} (inside : (Region.quoted quote).Proper) (text : List Char) :
    scan (.quoted quote) (doubled quote text) = (.quoted quote, []) := by
  induction text with
  | nil => rfl
  | cons c text ih =>
      have step : scan (.quoted quote) (if c = quote then [quote, quote] else [c]) =
          (.quoted quote, []) := by
        split
        · simp [scan]
        · next other => simp [scan, other]
      rw [doubled, List.flatMap_cons, scan_append inside, step]
      exact ih

/-! ## Code -/

/-- The characters of a plain identifier. -/
theorem continues_of_isIdentifier {name : String} (plain : isIdentifier name = true) :
    name.toList ≠ [] ∧ ∀ c ∈ name.toList, continuesIdentifier c = true := by
  rw [isIdentifier] at plain
  cases text : name.toList with
  | nil =>
      rw [text] at plain
      cases plain
  | cons first rest =>
      rw [text] at plain
      obtain ⟨begins, continues⟩ := Bool.and_eq_true_iff.mp plain
      rw [List.all_eq_true] at continues
      refine ⟨List.cons_ne_nil first rest, List.forall_mem_cons.mpr ⟨?_, continues⟩⟩
      rw [beginsIdentifier, Bool.or_eq_true] at begins
      rw [continuesIdentifier, Char.isAlphanum, Bool.or_eq_true, Bool.or_eq_true]
      exact begins.imp_left .inl

namespace IsCode

/-- A character of a plain identifier is neither a quote nor a question mark. -/
theorem of_continues {text : String} (continues : ∀ c ∈ text.toList, continuesIdentifier c = true) :
    IsCode text 0 := by
  constructor
  · intro c member
    by_contra quote
    rw [Bool.not_eq_false, isQuote, Bool.or_eq_true, decide_eq_true_eq, decide_eq_true_eq] at quote
    have continues := continues c member
    rcases quote with rfl | rfl <;> cases continues
  · rw [List.count_eq_zero]
    intro member
    cases continues '?' member

theorem identifier {name : String} (plain : isIdentifier name = true) : IsCode name 0 :=
  .of_continues (continues_of_isIdentifier plain).2

end IsCode

/-! ## Counting -/

/-- A way to count placeholders. It adds the counts of texts that are put together, counts the
question marks of code, and finds none in a literal. -/
structure Tally (T : String → Nat → Prop) : Prop where
  append : ∀ {a b : String} {m n : Nat}, T a m → T b n → T (a ++ b) (m + n)
  code : ∀ {text : String} {n : Nat}, IsCode text n → T text n
  literal : ∀ text : String, T (Sql.literal text) 0

namespace Tally

variable {T : String → Nat → Prop} (tally : Tally T) {a b text : String} {m n : Nat}

include tally

/-- A text without placeholders comes first. -/
theorem after (second : T b n) (first : T a 0) : T (a ++ b) n :=
  Nat.zero_add n ▸ tally.append first second

/-- A text is followed by code with a given number of placeholders. -/
theorem followed (first : T a m) (b : String) (n : Nat) (code : IsCode b n) : T (a ++ b) (m + n) :=
  tally.append first (tally.code code)

/-- A text is preceded by code without placeholders. -/
theorem preceded (second : T b n) (a : String) (code : IsCode a 0) : T (a ++ b) n :=
  tally.after second (tally.code code)

theorem parenthesised (inner : T text n) : T ("(" ++ text ++ ")") n :=
  tally.followed (tally.preceded inner "(" (by decide)) ")" 0 (by decide)

/-- Texts with a separator between each two. -/
theorem joinWith {separator : String} (between : IsCode separator 0) {texts : List String}
    {counts : List Nat} (each : List.Forall₂ T texts counts) :
    T (Pushdown.joinWith separator texts) counts.sum := by
  induction each with
  | nil =>
      have empty : IsCode "" 0 := by decide
      exact tally.code empty
  | @cons text count texts counts first rest ih =>
      cases texts with
      | nil =>
          cases rest
          exact first
      | cons second others =>
          rw [Pushdown.joinWith, List.sum_cons]
          exact tally.append (tally.followed first separator 0 between) ih
          intro none
          cases none

/-- Texts without placeholders have none together. -/
theorem joinWith_closed {separator : String} (between : IsCode separator 0) {texts : List String}
    (each : ∀ text ∈ texts, T text 0) : T (Pushdown.joinWith separator texts) 0 := by
  have counted : List.Forall₂ T texts (texts.map fun _ => 0) := by
    rw [List.forall₂_map_right_iff, List.forall₂_same]
    exact each
  have none : (texts.map fun _ => 0).sum = 0 := by simp
  exact none ▸ tally.joinWith between counted

end Tally

/-! ## Texts and their placeholders -/

namespace Takes

theorem append {a b : String} {m n : Nat} (first : Takes a m) (second : Takes b n) :
    Takes (a ++ b) (m + n) := by
  have both := scan_append .code a.toList b.toList
  rw [first.closed] at both
  constructor
  · rw [String.toList_append, both, second.closed]
  · rw [String.toList_append, both, List.count_append, first.placeholders, second.placeholders]

/-- A text is followed by another one with a given number of placeholders. -/
theorem followed {a : String} {m : Nat} (first : Takes a m) (b : String) (n : Nat)
    (second : Takes b n) : Takes (a ++ b) (m + n) :=
  first.append second

/-- A text is preceded by another one without placeholders. -/
theorem preceded {b : String} {n : Nat} (second : Takes b n) (a : String)
    (first : Takes a 0) : Takes (a ++ b) n :=
  Nat.zero_add n ▸ first.append second

theorem of_code {text : String} {n : Nat} (code : IsCode text n) : Takes text n := by
  have whole := scan_code code.plain
  constructor
  · rw [whole]
  · rw [whole]
    exact code.placeholders

/-- Text between quotes, in which the quote is written twice. -/
theorem quoted {quote : Char} (isQuote : isQuote quote = true) (text : List Char) :
    Takes (String.ofList (quote :: doubled quote text ++ [quote])) 0 := by
  have inside : (Region.quoted quote).Proper := isQuote
  have whole : scan .code (quote :: doubled quote text ++ [quote]) = (.code, []) := by
    rw [List.cons_append, scan, if_pos isQuote, scan_append inside, scan_doubled inside]
    simp [scan]
  constructor
  · rw [String.toList_ofList, whole]
  · rw [String.toList_ofList, whole]
    rfl

theorem literal (text : String) : Takes (Sql.literal text) 0 := quoted rfl text.toList

theorem identifier {name : String} (plain : isIdentifier name = true) : Takes name 0 :=
  of_code (.identifier plain)

/-- A name is closed, whatever characters it has. -/
theorem quoteIdentifier (name : String) : Takes (Sql.quoteIdentifier name) 0 := by
  rw [Sql.quoteIdentifier]
  split
  · next plain => exact identifier plain
  · exact quoted rfl name.toList

/-- Placeholders are counted outside quotes. -/
theorem tally : Tally Takes where
  append := append
  code := of_code
  literal := literal

end Takes

end Pushdown.Sql
