import Pushdown.Proofs.Condition.Quoting
import Pushdown.Proofs.Number.Numeral
import Pushdown.Sql.Location

/-!
# Words and marks of SQL text

Outside quotes SQL text consists of words and of single marks. A word is a run of letters, digits,
underscores and points, so a qualified name is one word. What stands between quotes is passed over
like a blank, but the double quote that begins a name is a mark.

`Lexes` says what a text consists of, provided that it ends outside quotes. Such texts are put
together where no word of the one runs into a word of the other.
-/

namespace Pushdown.Sql

/-- A part of SQL text outside quotes. -/
inductive Lexeme where
  | word (text : String)
  | mark (c : Char)
deriving DecidableEq, Repr

def inWord (c : Char) : Bool := continuesIdentifier c || c = '.'

/-- The character that is read in a region: a blank for what is between quotes, and for a quote
unless a name begins with it. -/
def Region.shown : Region → Char → Char
  | .code, c => if c = '\'' then ' ' else c
  | .quoted _, _ => ' '

/-- A text with blanks for all that is quoted. -/
def blanked : Region → List Char → List Char
  | _, [] => []
  | region, c :: rest => region.shown c :: blanked (region.next c) rest

/-- The word that ends behind some characters, if there are any. -/
def wordOf : List Char → List Lexeme
  | [] => []
  | c :: rest => [.word (String.ofList (c :: rest))]

/-- The words and marks of a text without quotes, which begins within a word. -/
def split (word : List Char) : List Char → List Lexeme
  | [] => wordOf word
  | c :: rest =>
    if inWord c then split (word ++ [c]) rest
    else wordOf word ++ (if c = ' ' then [] else [.mark c]) ++ split [] rest

def lexemes (text : String) : List Lexeme := split [] (blanked .code text.toList)

example : lexemes "lower(\"a b\") = ? AND j1.value<'x'" =
    [.word "lower", .mark '(', .mark '"', .mark ')', .mark '=', .mark '?', .word "AND",
      .word "j1.value", .mark '<'] := by
  decide +kernel

/-! ## Texts put together -/

theorem split_append (word front back : List Char)
    (apart : ∀ c ∈ back.head?, inWord c = false) :
    split word (front ++ back) = split word front ++ split [] back := by
  induction front generalizing word with
  | nil =>
      cases back with
      | nil => rw [List.append_nil, split, split, wordOf, List.append_nil]
      | cons c back =>
          have ends : inWord c = false := apart c rfl
          rw [List.nil_append, split, split, split]
          simp [ends, wordOf]
  | cons c front ih =>
      rw [List.cons_append, split, split]
      split
      · exact ih (word ++ [c])
      · rw [ih [], List.append_assoc _ _ (split [] back)]

/-- The last character of the front ends its last word. -/
theorem split_append_of_last (word front back : List Char) (c : Char) (ends : inWord c = false) :
    split word (front ++ [c] ++ back) = split word (front ++ [c]) ++ split [] back := by
  have single : ∀ d ∈ [c].head?, inWord d = false := by
    rintro _ ⟨⟩
    exact ends
  have before : ∀ d ∈ (c :: back).head?, inWord d = false := by
    rintro _ ⟨⟩
    exact ends
  have mark : split [] (c :: back) = split [] [c] ++ split [] back := by
    simp only [split, ends]
    simp [wordOf]
  rw [List.append_assoc, List.singleton_append, split_append word front _ before, mark,
    split_append word front _ single, List.append_assoc]

theorem blanked_append (region : Region) (front back : List Char) :
    blanked region (front ++ back) =
      blanked region front ++ blanked (front.foldl Region.next region) back := by
  induction front generalizing region with
  | nil => rfl
  | cons c front ih =>
      rw [List.cons_append, blanked, blanked, ih, List.foldl_cons, List.cons_append]

/-- The region behind a text, character by character. -/
theorem scan_fst {region : Region} (proper : region.Proper) (text : List Char) :
    (scan region text).1 = text.foldl Region.next region := by
  induction text generalizing region with
  | nil => rw [scan, List.foldl_nil]
  | cons c text ih => rw [scan_cons proper, List.foldl_cons, ih (proper.next c)]

/-- Blanks and quotes belong to no word. -/
theorem inWord_shown {region : Region} {c : Char} (other : inWord c = false) :
    inWord (region.shown c) = false := by
  cases region with
  | quoted => rfl
  | code =>
      rw [Region.shown]
      split
      · rfl
      · exact other

def beginsApart (text : String) : Bool := text.toList.head?.all fun c => !inWord c

def endsApart (text : String) : Bool := text.toList.getLast?.all fun c => !inWord c

theorem endsApart_append {a b : String} (ends : endsApart b = true) (some : b.toList ≠ []) :
    endsApart (a ++ b) = true := by
  rw [endsApart, String.toList_append, List.getLast?_append_of_ne_nil _ some]
  exact ends

/-- The text ends outside quotes and consists of the lexemes. -/
structure Lexes (text : String) (list : List Lexeme) : Prop where
  closed : (scan .code text.toList).1 = .code
  lexemes : lexemes text = list

instance (text : String) (list : List Lexeme) : Decidable (Lexes text list) :=
  decidable_of_iff _ ⟨fun h => ⟨h.1, h.2⟩, fun h => And.intro h.closed h.lexemes⟩

namespace Lexes

theorem append {a b : String} {l m : List Lexeme} (first : Lexes a l) (second : Lexes b m)
    (apart : beginsApart b = true ∨ endsApart a = true) : Lexes (a ++ b) (l ++ m) := by
  have closed := first.closed
  rw [scan_fst .code] at closed
  constructor
  · rw [String.toList_append, scan_append .code, first.closed, second.closed]
  · rw [← first.lexemes, ← second.lexemes, Sql.lexemes, String.toList_append, blanked_append,
      closed]
    obtain begins | ends := apart
    · refine split_append [] _ _ ?_
      rw [beginsApart] at begins
      cases text : b.toList with
      | nil => exact fun _ impossible => by cases impossible
      | cons c rest =>
          rw [text, List.head?_cons, Option.all_some, Bool.not_eq_true'] at begins
          rintro _ ⟨⟩
          exact inWord_shown begins
    · rw [endsApart] at ends
      rcases List.eq_nil_or_concat a.toList with empty | ⟨front, c, text⟩
      · rw [Sql.lexemes, empty]
        rfl
      · rw [text, List.concat_eq_append, List.getLast?_append, List.getLast?_singleton,
          Option.some_or, Option.all_some, Bool.not_eq_true'] at ends
        rw [Sql.lexemes, text, List.concat_eq_append, blanked_append]
        exact split_append_of_last [] _ _ _ (inWord_shown ends)

end Lexes

/-! ## Words -/

theorem split_word {text : List Char} (word : List Char) (plain : ∀ c ∈ text, inWord c = true) :
    split word text = wordOf (word ++ text) := by
  induction text generalizing word with
  | nil => rw [split, List.append_nil]
  | cons c text ih =>
      rw [List.forall_mem_cons] at plain
      rw [split, if_pos plain.1, ih _ plain.2, List.append_assoc, List.singleton_append]

theorem isQuote_of_inWord {c : Char} (inside : inWord c = true) : isQuote c = false := by
  by_contra quote
  rw [Bool.not_eq_false, isQuote, Bool.or_eq_true, decide_eq_true_eq, decide_eq_true_eq] at quote
  rcases quote with rfl | rfl <;> cases inside

theorem blanked_code {text : List Char} (plain : ∀ c ∈ text, isQuote c = false) :
    blanked .code text = text := by
  induction text with
  | nil => rfl
  | cons c text ih =>
      rw [List.forall_mem_cons] at plain
      have shown : Region.code.shown c = c := by
        apply if_neg
        rintro rfl
        cases plain.1
      rw [blanked, shown, Region.next, plain.1]
      exact congrArg (c :: ·) (ih plain.2)

/-- Characters of words without any other are one word. -/
theorem Lexes.word {text : String} (some : text.toList ≠ [])
    (plain : ∀ c ∈ text.toList, inWord c = true) : Lexes text [.word text] := by
  have code : ∀ c ∈ text.toList, isQuote c = false := fun c member =>
    isQuote_of_inWord (plain c member)
  constructor
  · rw [scan_code code]
  · rw [Sql.lexemes, blanked_code code, split_word [] plain, List.nil_append]
    cases h : text.toList with
    | nil => exact absurd h some
    | cons c rest => rw [wordOf, ← h, String.ofList_toList]

theorem inWord_of_continues {c : Char} (continues : continuesIdentifier c = true) :
    inWord c = true := by
  rw [inWord, continues, Bool.true_or]

theorem Lexes.identifier {name : String} (plain : isIdentifier name = true) :
    Lexes name [.word name] := by
  obtain ⟨some, continues⟩ := continues_of_isIdentifier plain
  exact .word some fun c member => inWord_of_continues (continues c member)

/-- The characters of the name of a scan. -/
theorem continues_scanName (scan : Nat) :
    ∀ c ∈ (scanName scan).toList, continuesIdentifier c = true := by
  intro c member
  rw [scanName, String.toList_append, List.mem_append] at member
  obtain letter | digit := member
  · cases List.mem_singleton.mp letter
    decide
  · rw [decimalText, String.toList_ofList] at digit
    simp [continuesIdentifier, Char.isAlphanum, isDigit_of_mem_decimalDigits digit]

/-- The name of a scan is one word, also with a column of its rows. -/
theorem Lexes.scanName (scan : Nat) (column : String)
    (plain : column.toList.all inWord = true) :
    Lexes (Pushdown.scanName scan ++ column) [.word (Pushdown.scanName scan ++ column)] := by
  apply Lexes.word
  · rw [String.toList_append, Pushdown.scanName, String.toList_append]
    exact List.cons_ne_nil _ _
  · rw [String.toList_append]
    refine List.forall_mem_append.mpr ⟨?_, List.all_eq_true.mp plain⟩
    exact fun c member => inWord_of_continues (continues_scanName scan c member)

/-! ## Quotes -/

/-- Between quotes, text in which the quote is written twice is read as blanks, and as marks where
the quote begins names. -/
theorem blanked_doubled {quote : Char} (isQuote : isQuote quote = true) (text : List Char) :
    (doubled quote text).foldl Region.next (.quoted quote) = .quoted quote ∧
      ∀ c ∈ blanked (.quoted quote) (doubled quote text), c = ' ' ∨ quote = '"' ∧ c = '"' := by
  induction text with
  | nil => exact ⟨rfl, List.forall_mem_nil _⟩
  | cons c text ih =>
      have step : (if c = quote then [quote, quote] else [c]).foldl Region.next (.quoted quote) =
          .quoted quote ∧ ∀ d ∈ blanked (.quoted quote) (if c = quote then [quote, quote] else [c]),
            d = ' ' ∨ quote = '"' ∧ d = '"' := by
        split
        · rw [Sql.isQuote, Bool.or_eq_true, decide_eq_true_eq, decide_eq_true_eq] at isQuote
          obtain rfl | rfl := isQuote <;>
            exact ⟨by decide, by simp [blanked, Region.next, Region.shown]⟩
        · next other => simp [Region.next, blanked, Region.shown, other]
      rw [doubled, List.flatMap_cons, List.foldl_append, blanked_append, step.1]
      exact ⟨ih.1, List.forall_mem_append.mpr ⟨step.2, ih.2⟩⟩

theorem split_blank {text : List Char} {P : Prop} (blank : ∀ c ∈ text, c = ' ' ∨ P ∧ c = '"') :
    ∀ lexeme ∈ split [] text, P ∧ lexeme = .mark '"' := by
  induction text with
  | nil => exact List.forall_mem_nil _
  | cons c text ih =>
      rw [List.forall_mem_cons] at blank
      obtain ⟨rfl | ⟨begins, rfl⟩, blank⟩ := blank
      · exact ih blank
      · exact List.forall_mem_cons.mpr ⟨⟨begins, rfl⟩, ih blank⟩

/-- Text between quotes, in which the quote is written twice, has marks only where names begin. -/
theorem Lexes.quoted {quote : Char} (isQuote : isQuote quote = true) (text : List Char) :
    ∃ list, Lexes (String.ofList (quote :: doubled quote text ++ [quote])) list ∧
      ∀ lexeme ∈ list, quote = '"' ∧ lexeme = .mark '"' := by
  obtain ⟨inside, blank⟩ := blanked_doubled isQuote text
  have opened : Region.code.next quote = .quoted quote := if_pos isQuote
  refine ⟨_, ⟨(Takes.quoted isQuote text).closed, rfl⟩, ?_⟩
  rw [Sql.lexemes, String.toList_ofList, List.cons_append]
  apply split_blank
  rw [blanked, opened, blanked_append, inside, List.forall_mem_cons, List.forall_mem_append]
  refine ⟨?_, blank, List.forall_mem_singleton.mpr (.inl rfl)⟩
  rw [Sql.isQuote, Bool.or_eq_true, decide_eq_true_eq, decide_eq_true_eq] at isQuote
  obtain rfl | rfl := isQuote <;> decide

theorem Lexes.literal (text : String) : Lexes (Sql.literal text) [] := by
  obtain ⟨list, lexes, marks⟩ := Lexes.quoted (show isQuote '\'' = true from rfl) text.toList
  have none : list = [] := by
    apply List.eq_nil_iff_forall_not_mem.mpr
    intro lexeme member
    cases (marks lexeme member).1
  exact none ▸ lexes

/-- Of a list of literals only the commas are read. -/
theorem Lexes.literals (texts : List String) :
    ∃ n, Lexes (joinWith ", " (texts.map Sql.literal)) (List.replicate n (.mark ',')) := by
  induction texts with
  | nil => exact ⟨0, by decide⟩
  | cons text rest ih =>
      cases rest with
      | nil => exact ⟨0, .literal text⟩
      | cons second others =>
          obtain ⟨n, commas⟩ := ih
          have comma : Lexes ", " [.mark ','] := by decide
          refine ⟨n + 1, ?_⟩
          rw [List.map_cons, List.map_cons, joinWith, ← List.map_cons]
          · exact ((Lexes.literal text).append comma (.inl rfl)).append commas
              (.inr (endsApart_append rfl (by decide)))
          · intro none
            cases none

theorem beginsApart_literal (text : String) : beginsApart (literal text) = true := by
  rw [beginsApart, literal, String.toList_ofList]
  rfl

/-- A name that is no plain identifier has marks only. -/
theorem Lexes.quotedName {name : String} (other : isIdentifier name = false) :
    ∃ list, Lexes (quoteIdentifier name) list ∧ ∀ lexeme ∈ list, lexeme = .mark '"' := by
  rw [quoteIdentifier, if_neg (Bool.eq_false_iff.mp other)]
  obtain ⟨list, lexes, marks⟩ := Lexes.quoted (show isQuote '"' = true from rfl) name.toList
  exact ⟨list, lexes, fun lexeme member => (marks lexeme member).2⟩

end Pushdown.Sql
