import Mathlib.Data.List.DropRight
import Pushdown.Proofs.Json.Text

/-!
# Written JSON is read back

`Reads` says that a text is read as a tree wherever it stands: whatever follows it, as long as no
numeral can run on into that, and with all fuel that covers the text twice. The texts of containers
are put together from the texts of their parts, with any blanks between them, so what is read does
not depend on how a value was laid out.

The indented text of a value whose numbers are integers is read back as the value. Other numbers are
left out, because a decimal is not always read as the number that it was written for.
-/

namespace Pushdown

namespace Syntax

/-! ## Blanks -/

def AllBlank (text : List Char) : Prop := ∀ c ∈ text, isBlank c = true

theorem skipBlanks_append {blanks : List Char} (blank : AllBlank blanks) (text : List Char) :
    skipBlanks (blanks ++ text) = skipBlanks text := List.dropWhile_append_of_pos blank

theorem skipBlanks_cons {c : Char} (dark : isBlank c = false) (text : List Char) :
    skipBlanks (c :: text) = c :: text :=
  List.dropWhile_cons_of_neg (Bool.eq_false_iff.mp dark)

theorem skipBlanks_skipBlanks (text : List Char) :
    skipBlanks (skipBlanks text) = skipBlanks text := List.dropWhile_idempotent isBlank text

/-- Only what stands behind leading blanks is read. -/
theorem readValue_congr {a b : List Char} (same : skipBlanks a = skipBlanks b) (fuel : Nat) :
    readValue fuel a = readValue fuel b := by
  cases fuel with
  | zero => rw [readValue, readValue]
  | succ fuel => rw [readValue, readValue, same]

theorem readItems_congr {a b : List Char} (same : skipBlanks a = skipBlanks b) (fuel : Nat) :
    readItems fuel a = readItems fuel b := by
  cases fuel with
  | zero => rw [readItems, readItems]
  | succ fuel => rw [readItems, readItems, readValue_congr same]

theorem readMembers_congr {a b : List Char} (same : skipBlanks a = skipBlanks b) (fuel : Nat) :
    readMembers fuel a = readMembers fuel b := by
  cases fuel with
  | zero => rw [readMembers, readMembers]
  | succ fuel => rw [readMembers, readMembers, same]

/-! ## What a text is read as -/

/-- A text that no value runs on into: it is empty or begins with a blank or with the mark behind a
part of a container. -/
def EndsValue (text : List Char) : Prop :=
  ∀ c ∈ text.head?, isBlank c = true ∨ c = ',' ∨ c = ']' ∨ c = '\x7d'

/-- The text is read as a tree, wherever it stands. -/
def Reads (text : List Char) (tree : Syntax) : Prop :=
  ∀ fuel rest, 2 * text.length ≤ fuel → EndsValue rest →
    readValue fuel (text ++ rest) = some (tree, rest)

/-- The text is read as the items of an array, up to its closing bracket. -/
def ReadsItems (text : List Char) (items : List Syntax) : Prop :=
  ∀ fuel rest, 2 * text.length < fuel → readItems fuel (text ++ rest) = some (items, rest)

/-- The text is read as the members of an object, up to its closing brace. -/
def ReadsMembers (text : List Char) (members : List (Option String × Syntax)) : Prop :=
  ∀ fuel rest, 2 * text.length < fuel → readMembers fuel (text ++ rest) = some (members, rest)

def ReadsString (written : List Char) (text : String) : Prop :=
  ∃ body, written = '"' :: body ∧ ∀ rest, readString (body ++ rest) = some (some text, rest)

variable {text texts written blanks : List Char} {key : String} {tree : Syntax}
  {items : List Syntax} {members : List (Option String × Syntax)}

theorem EndsValue.of_head {c : Char} (h : isBlank c = true ∨ c = ',' ∨ c = ']' ∨ c = '\x7d')
    (rest : List Char) : EndsValue (c :: rest) := by
  rintro _ ⟨⟩
  exact h

/-- Blanks and a mark behind a value. -/
theorem EndsValue.of_blanks (blank : AllBlank blanks) {c : Char}
    (mark : c = ',' ∨ c = ']' ∨ c = '\x7d') (rest : List Char) :
    EndsValue (blanks ++ c :: rest) := by
  cases blanks with
  | nil => exact .of_head (.inr mark) rest
  | cons b blanks => exact .of_head (.inl (blank b List.mem_cons_self)) _

/-! ## Scalars -/

theorem Reads.blank (reads : Reads text tree) (blank : AllBlank blanks) :
    Reads (blanks ++ text) tree := by
  intro fuel rest enough ends
  rw [List.length_append] at enough
  rw [List.append_assoc, readValue_congr (skipBlanks_append blank _)]
  exact reads fuel rest (by omega) ends

/-- The first character of a value takes one unit of fuel and leaves enough for the parts. -/
theorem Reads.of_cons {c : Char}
    (step : ∀ fuel rest, 2 * text.length < fuel → EndsValue rest →
      readValue (fuel + 1) (c :: (text ++ rest)) = some (tree, rest)) : Reads (c :: text) tree := by
  intro fuel rest enough ends
  rw [List.length_cons] at enough
  obtain ⟨fuel, rfl⟩ := Nat.exists_eq_add_one.mpr (show 0 < fuel by omega)
  exact step fuel rest (by omega) ends

theorem reads_null : Reads ['n', 'u', 'l', 'l'] .null := .of_cons fun _ _ _ _ => rfl

theorem reads_true : Reads ['t', 'r', 'u', 'e'] (.bool true) := .of_cons fun _ _ _ _ => rfl

theorem reads_false : Reads ['f', 'a', 'l', 's', 'e'] (.bool false) := .of_cons fun _ _ _ _ => rfl

theorem reads_emptyArray : Reads ['[', ']'] (.array []) := .of_cons fun _ _ _ _ => rfl

theorem reads_emptyObject : Reads ['\x7b', '\x7d'] (.object []) := .of_cons fun _ _ _ _ => rfl

theorem readValue_quote (fuel : Nat) (rest : List Char) :
    readValue (fuel + 1) ('"' :: rest) =
      (readString rest).bind fun read => some (.string read.1, read.2) := rfl

theorem ReadsString.reads (string : ReadsString written key) : Reads written (.string key) := by
  obtain ⟨body, rfl, read⟩ := string
  refine .of_cons fun fuel rest _ _ => ?_
  rw [readValue_quote, read, Option.bind_some]

/-- A string whose characters are spelled by an escape. -/
theorem readsString_escaped {escape : Char → List Char} (spells : ∀ c, Spells (escape c) c)
    (text : String) : ReadsString ('"' :: text.toList.flatMap escape ++ ['"']) text := by
  refine ⟨text.toList.flatMap escape ++ ['"'], rfl, fun rest => ?_⟩
  rw [List.append_assoc]
  exact readString_escaped spells text rest

/-! ## Integers -/

theorem le_ofDigitChars (digits : List Char) (value : Nat) :
    value ≤ Nat.ofDigitChars 10 digits value := by
  induction digits generalizing value with
  | nil => exact Nat.le_refl value
  | cons c digits ih =>
      rw [Nat.ofDigitChars_cons]
      exact Nat.le_trans (by omega) (ih _)

/-- Digits that fit 64 bits are gathered without loss. -/
theorem gather_eq {digits : List Char} {value : Nat}
    (fits : Nat.ofDigitChars 10 digits value ≤ greatestUnsigned) :
    gather value digits = (Nat.ofDigitChars 10 digits value, 0) := by
  induction digits generalizing value with
  | nil => rfl
  | cons c digits ih =>
      rw [Nat.ofDigitChars_cons] at fits ⊢
      rw [gather, digitValue, if_pos (Nat.le_trans (le_ofDigitChars digits _) fits)]
      exact ih fits

/-- Only zero begins with the digit zero. -/
theorem head_decimalDigits {n : Nat} (positive : 0 < n) : (decimalDigits n).head? ≠ some '0' := by
  induction n using Nat.strongRecOn with
  | ind n ih =>
    rw [decimalDigits]
    by_cases small : n < 10
    · have all : ∀ n < 10, 0 < n → [Nat.digitChar n].head? ≠ some '0' := by decide
      rw [Nat.toDigits_of_lt_base small]
      exact all n small positive
    · rw [Nat.toDigits_of_base_le (by decide) (by omega),
        List.head?_append_of_ne_nil _ (Nat.toDigits_ne_nil)]
      exact ih (n / 10) (by omega) (by omega)

theorem decimalDigits_zero : decimalDigits 0 = ['0'] := rfl

/-- Digits are split from a text that goes on with something else. -/
theorem spanDigits_append {digits rest : List Char} (areDigits : ∀ c ∈ digits, c.isDigit = true)
    (ends : ∀ c ∈ rest.head?, c.isDigit = false) :
    spanDigits (digits ++ rest) = (digits, rest) := by
  rw [spanDigits, List.span_eq_takeWhile_dropWhile, List.takeWhile_append_of_pos areDigits,
    List.dropWhile_append_of_pos areDigits]
  cases rest with
  | nil => rw [List.takeWhile_nil, List.dropWhile_nil, List.append_nil]
  | cons c rest =>
      have other : ¬c.isDigit = true := Bool.eq_false_iff.mp (ends c rfl)
      rw [List.takeWhile_cons_of_neg other, List.dropWhile_cons_of_neg other, List.append_nil]

/-- What cannot belong to a numeral of digits stands behind a value. -/
theorem EndsValue.ends {rest : List Char} (ends : EndsValue rest) :
    ∀ c ∈ rest.head?, c.isDigit = false ∧ c ≠ '.' ∧ c ≠ 'e' ∧ c ≠ 'E' := by
  intro c first
  rcases ends c first with blank | rfl | rfl | rfl
  · rw [isBlank] at blank
    simp only [Bool.or_eq_true, decide_eq_true_eq] at blank
    rcases blank with ((rfl | rfl) | rfl) | rfl <;> decide
  · decide
  · decide
  · decide

/-- The digits of a number have no zero in front. -/
theorem decimalDigits_shape (n : Nat) (more : List Char) (c : Char) :
    decimalDigits n ≠ '0' :: c :: more := by
  intro digits
  cases n with
  | zero =>
      rw [decimalDigits_zero] at digits
      cases digits
  | succ n =>
      apply head_decimalDigits (Nat.succ_pos n)
      rw [digits, List.head?_cons]

/-- The digits of a number are read as a numeral without fraction and exponent. -/
theorem readNumeral_digits (negative : Bool) (n : Nat) {rest : List Char} (ends : EndsValue rest) :
    readNumeral negative (decimalDigits n ++ rest) =
      some (wholeNumeral? negative (decimalDigits n), rest) := by
  have digits : ∀ c ∈ decimalDigits n, c.isDigit = true := fun c => isDigit_of_mem_decimalDigits
  have mark {c : Char} (h : c = '.' ∨ c = 'e' ∨ c = 'E') (more : List Char) : rest ≠ c :: more := by
    rintro rfl
    have other := (ends.ends c rfl).2
    rcases h with rfl | rfl | rfl
    · exact other.1 rfl
    · exact other.2.1 rfl
    · exact other.2.2 rfl
  unfold readNumeral
  rw [spanDigits_append digits fun c first => (ends.ends c first).1]
  split
  · next none => exact absurd (Prod.mk.inj none).1 (decimalDigits_ne_nil n)
  · next zero => exact absurd (Prod.mk.inj zero).1 (decimalDigits_shape n _ _)
  dsimp only [Option.bind_eq_bind, Option.bind_some]
  split
  · exact absurd rfl (mark (.inl rfl) _)
  split
  · exact absurd rfl (mark (.inr (.inl rfl)) _)
  · exact absurd rfl (mark (.inr (.inr rfl)) _)
  · rfl

/-- The digits of a number that fits 64 bits are a whole number with a sign. -/
theorem wholeNumeral?_digits {i : Int} (fits : FitsWord i) :
    wholeNumeral? (decide (i < 0)) (decimalDigits i.natAbs) = some (.integer i fits) := by
  have read : Nat.ofDigitChars 10 (decimalDigits i.natAbs) 0 = i.natAbs :=
    Nat.ofDigitChars_ten_toDigits
  have small : i.natAbs ≤ greatestUnsigned := by
    have := fits
    simp only [FitsWord, leastSigned, greatestUnsigned] at this ⊢
    omega
  have gathered : gather 0 (decimalDigits i.natAbs) = (i.natAbs, 0) := by
    rw [gather_eq (by rw [read]; exact small), read]
  have signed : (if decide (i < 0) = true then -(i.natAbs : Int) else i.natAbs) = i := by
    by_cases negative : i < 0
    · rw [if_pos (decide_eq_true negative)]
      omega
    · rw [if_neg (by simpa using negative)]
      omega
  have notMinusZero : ¬(decide (i < 0) = true ∧ i.natAbs = 0) := by
    rw [decide_eq_true_eq]
    omega
  unfold wholeNumeral?
  rw [gathered]
  dsimp only
  rw [dif_pos ⟨signed.symm ▸ fits, rfl, notMinusZero⟩]
  simp only [signed]

theorem readValue_minus (fuel : Nat) (rest : List Char) :
    readValue (fuel + 1) ('-' :: rest) =
      (readNumeral true rest).bind fun read => some (.number read.1, read.2) := rfl

theorem readValue_digit (fuel : Nat) {c : Char} (digit : c.isDigit = true) (rest : List Char) :
    readValue (fuel + 1) (c :: rest) =
      (readNumeral false (c :: rest)).bind fun read => some (.number read.1, read.2) := by
  have other {d : Char} (letter : d.isDigit = false) : c ≠ d := by
    rintro rfl
    rw [digit] at letter
    cases letter
  have dark : isBlank c = false := by
    rw [isBlank, decide_eq_false (other (by decide)), decide_eq_false (other (by decide)),
      decide_eq_false (other (by decide)), decide_eq_false (other (by decide))]
    rfl
  rw [readValue, skipBlanks_cons dark]
  split
  · next eq => exact absurd (List.cons.inj eq).1 (other (by decide))
  · next eq => exact absurd (List.cons.inj eq).1 (other (by decide))
  · next eq => exact absurd (List.cons.inj eq).1 (other (by decide))
  · next eq => exact absurd (List.cons.inj eq).1 (other (by decide))
  · next eq => exact absurd (List.cons.inj eq).1 (other (by decide))
  · next eq => exact absurd (List.cons.inj eq).1 (other (by decide))
  · next eq => exact absurd (List.cons.inj eq).1 (other (by decide))
  · rfl

/-- The numeral of an integer is read as the integer. -/
theorem reads_integer {i : Int} (fits : FitsWord i) :
    Reads (integerDigits i) (.number (some (.integer i fits))) := by
  have read (rest : List Char) (ends : EndsValue rest) :
      readNumeral (decide (i < 0)) (decimalDigits i.natAbs ++ rest) =
        some (some (.integer i fits), rest) := by
    rw [readNumeral_digits _ _ ends, wholeNumeral?_digits fits]
  rw [integerDigits]
  split
  · next negative =>
    rw [decide_eq_true negative] at read
    refine .of_cons fun fuel rest _ ends => ?_
    rw [readValue_minus, read rest ends, Option.bind_some]
  · next positive =>
    obtain ⟨c, more, shape⟩ := List.exists_cons_of_ne_nil (decimalDigits_ne_nil i.natAbs)
    have digit : c.isDigit = true := isDigit_of_mem_decimalDigits (shape ▸ List.mem_cons_self)
    rw [decide_eq_false positive] at read
    rw [shape] at read ⊢
    refine .of_cons fun fuel rest _ ends => ?_
    rw [readValue_digit fuel digit, ← List.cons_append, read rest ends, Option.bind_some]

/-! ## Arrays -/

/-- No value begins with a closing bracket. -/
theorem readValue_close {text behind : List Char} (close : skipBlanks text = ']' :: behind)
    (fuel : Nat) : readValue fuel text = none := by
  cases fuel with
  | zero => rw [readValue]
  | succ fuel =>
      rw [readValue, close]
      rfl

/-- Items that were read stand in an array. -/
theorem readValue_array {fuel : Nat} {text rest : List Char}
    (read : readItems fuel text = some (items, rest)) :
    readValue (fuel + 1) ('[' :: text) = some (.array items, rest) := by
  have notEmpty (behind : List Char) : skipBlanks text ≠ ']' :: behind := by
    intro close
    cases fuel with
    | zero =>
        rw [readItems] at read
        cases read
    | succ fuel =>
        rw [readItems, readValue_close close] at read
        cases read
  rw [readValue, skipBlanks_cons (by decide)]
  split <;> try (next eq => exact absurd (List.cons.inj eq).1 (by decide))
  · next eq =>
    obtain ⟨-, rfl⟩ := List.cons.inj eq
    split
    · next close => exact absurd close (notEmpty _)
    · rw [readItems_congr (skipBlanks_skipBlanks text), read]
      rfl
  · next other _ _ => exact (other text rfl).elim

theorem ReadsItems.reads (reads : ReadsItems texts items) :
    Reads ('[' :: texts) (.array items) :=
  .of_cons fun fuel rest enough _ => readValue_array (reads fuel rest enough)

/-- The last item of an array. -/
theorem Reads.lastItem (reads : Reads text tree) (blank : AllBlank blanks) :
    ReadsItems (text ++ (blanks ++ [']'])) [tree] := by
  intro fuel rest enough
  rw [List.length_append] at enough
  obtain ⟨fuel, rfl⟩ := Nat.exists_eq_add_one.mpr (show 0 < fuel by omega)
  have ends := EndsValue.of_blanks blank (.inr (.inl rfl)) rest
  rw [List.append_assoc, List.append_assoc, List.singleton_append, readItems,
    reads fuel _ (by omega) ends, Option.bind_eq_bind, Option.bind_some]
  dsimp only
  rw [skipBlanks_append blank, skipBlanks_cons (by decide)]
  rfl

/-- An item of an array in front of others. -/
theorem ReadsItems.cons (reads : Reads text tree) (others : ReadsItems texts items) :
    ReadsItems (text ++ ',' :: texts) (tree :: items) := by
  intro fuel rest enough
  rw [List.length_append, List.length_cons] at enough
  obtain ⟨fuel, rfl⟩ := Nat.exists_eq_add_one.mpr (show 0 < fuel by omega)
  have ends : EndsValue (',' :: (texts ++ rest)) := .of_head (.inr (.inl rfl)) _
  rw [List.append_assoc, List.cons_append, readItems, reads fuel _ (by omega) ends,
    Option.bind_eq_bind, Option.bind_some]
  dsimp only
  rw [skipBlanks_cons (by decide)]
  show (readItems fuel (texts ++ rest)).bind (fun read => some (tree :: read.1, read.2)) = _
  rw [others fuel rest (by omega), Option.bind_some]

/-! ## Objects -/

/-- Members that were read stand in an object. -/
theorem readValue_object {fuel : Nat} {text rest : List Char}
    (read : readMembers fuel text = some (members, rest)) :
    readValue (fuel + 1) ('\x7b' :: text) = some (.object members, rest) := by
  have notEmpty (behind : List Char) : skipBlanks text ≠ '\x7d' :: behind := by
    intro close
    cases fuel with
    | zero =>
        rw [readMembers] at read
        cases read
    | succ fuel =>
        rw [readMembers, close] at read
        cases read
  rw [readValue, skipBlanks_cons (by decide)]
  split <;> try (next eq => exact absurd (List.cons.inj eq).1 (by decide))
  · next eq =>
    obtain ⟨-, rfl⟩ := List.cons.inj eq
    split
    · next close => exact absurd close (notEmpty _)
    · rw [readMembers_congr (skipBlanks_skipBlanks text), read]
      rfl
  · next other _ => exact (other text rfl).elim

theorem ReadsMembers.reads (reads : ReadsMembers texts members) :
    Reads ('\x7b' :: texts) (.object members) :=
  .of_cons fun fuel rest enough _ => readValue_object (reads fuel rest enough)

theorem ReadsMembers.blank (reads : ReadsMembers texts members) (blank : AllBlank blanks) :
    ReadsMembers (blanks ++ texts) members := by
  intro fuel rest enough
  rw [List.length_append] at enough
  rw [List.append_assoc, readMembers_congr (skipBlanks_append blank _)]
  exact reads fuel rest (by omega)

/-- A member is read with what follows it: the end of the object, or further members. -/
theorem readMembers_member {fuel : Nat} {behind rest : List Char}
    (string : ReadsString written key) (value : readValue fuel text = some (tree, behind))
    (after : skipBlanks behind = '\x7d' :: rest ∧ members = [] ∨
      ∃ next, skipBlanks behind = ',' :: next ∧ readMembers fuel next = some (members, rest)) :
    readMembers (fuel + 1) (written ++ ':' :: text) = some ((some key, tree) :: members, rest) := by
  obtain ⟨body, rfl, read⟩ := string
  rw [List.cons_append, readMembers, skipBlanks_cons (by decide)]
  split
  · next eq =>
    obtain ⟨-, rfl⟩ := List.cons.inj eq
    rw [read, Option.bind_eq_bind, Option.bind_some]
    dsimp only
    rw [skipBlanks_cons (by decide)]
    split
    · next eq =>
      obtain ⟨-, rfl⟩ := List.cons.inj eq
      rw [value, Option.bind_eq_bind, Option.bind_some]
      dsimp only
      rcases after with ⟨close, rfl⟩ | ⟨next, comma, others⟩
      · rw [close]
        rfl
      · rw [comma]
        show (readMembers fuel next).bind
          (fun read => some ((some key, tree) :: read.1, read.2)) = _
        rw [others, Option.bind_some]
    · next other => exact (other _ rfl).elim
  · next other => exact (other _ rfl).elim

/-- The last member of an object. -/
theorem Reads.lastMember (reads : Reads text tree) (string : ReadsString written key)
    (blank : AllBlank blanks) :
    ReadsMembers (written ++ ':' :: (text ++ (blanks ++ ['\x7d']))) [(some key, tree)] := by
  intro fuel rest enough
  simp only [List.length_append, List.length_cons] at enough
  obtain ⟨fuel, rfl⟩ := Nat.exists_eq_add_one.mpr (show 0 < fuel by omega)
  have ends := EndsValue.of_blanks blank (.inr (.inr rfl)) rest
  have closes : skipBlanks (blanks ++ '\x7d' :: rest) = '\x7d' :: rest := by
    rw [skipBlanks_append blank, skipBlanks_cons (by decide)]
  simp only [List.append_assoc, List.cons_append, List.nil_append]
  exact readMembers_member string (reads fuel _ (by omega) ends) (.inl ⟨closes, rfl⟩)

/-- A member of an object in front of others. -/
theorem ReadsMembers.cons (string : ReadsString written key) (reads : Reads text tree)
    (others : ReadsMembers texts members) :
    ReadsMembers (written ++ ':' :: (text ++ ',' :: texts)) ((some key, tree) :: members) := by
  intro fuel rest enough
  simp only [List.length_append, List.length_cons] at enough
  obtain ⟨fuel, rfl⟩ := Nat.exists_eq_add_one.mpr (show 0 < fuel by omega)
  have ends : EndsValue (',' :: (texts ++ rest)) := .of_head (.inr (.inl rfl)) _
  have comma : skipBlanks (',' :: (texts ++ rest)) = ',' :: (texts ++ rest) :=
    skipBlanks_cons (by decide) _
  simp only [List.append_assoc, List.cons_append]
  exact readMembers_member string (reads fuel _ (by omega) ends)
    (.inr ⟨_, comma, others fuel rest (by omega)⟩)

/-! ## Whole texts -/

/-- A text that is read as a tree is the text of that tree. -/
theorem Reads.parse? (reads : Reads text tree) (blank : AllBlank blanks) :
    parse? (String.ofList (text ++ blanks)) = some tree := by
  have ends : EndsValue blanks := fun c first => .inl (blank c (List.mem_of_mem_head? first))
  have nothing : skipBlanks blanks = [] := List.dropWhile_eq_nil_iff.mpr blank
  have read := reads (2 * (text ++ blanks).length + 2) blanks
    (by rw [List.length_append]; omega) ends
  rw [Syntax.parse?, String.toList_ofList, Option.bind_eq_bind, read, Option.bind_some]
  dsimp only
  rw [nothing]
  rfl

/-! ## Trees of values -/

mutual

/-- The tree of a value stands for a value. It need not be the same, because the members of a value
may stand in another order. -/
theorem isSome_json?_ofJson : ∀ value : Json, (ofJson value).json?.isSome = true
  | .null | .bool _ | .number _ | .string _ => rfl
  | .array items => by
      rw [ofJson, json?, Option.isSome_map]
      exact isSome_jsonItems?_ofItems items
  | .object members => by
      rw [ofJson, json?, Option.isSome_map]
      exact isSome_jsonMembers?_ofMembers members

theorem isSome_jsonItems?_ofItems :
    ∀ items : List Json, (jsonItems? (ofItems items)).isSome = true
  | [] => rfl
  | item :: rest => by
      obtain ⟨value, read⟩ := Option.isSome_iff_exists.mp (isSome_json?_ofJson item)
      obtain ⟨values, others⟩ := Option.isSome_iff_exists.mp (isSome_jsonItems?_ofItems rest)
      rw [ofItems, jsonItems?, read, others]
      rfl

theorem isSome_jsonMembers?_ofMembers :
    ∀ members : List (String × Json), (jsonMembers? (ofMembers members)).isSome = true
  | [] => rfl
  | (key, item) :: rest => by
      obtain ⟨value, read⟩ := Option.isSome_iff_exists.mp (isSome_json?_ofJson item)
      obtain ⟨values, others⟩ := Option.isSome_iff_exists.mp (isSome_jsonMembers?_ofMembers rest)
      rw [ofMembers, jsonMembers?, read, others]
      rfl

end

/-- Members are read back in their order when each of their values is. -/
theorem jsonMembers?_ofMembers {members : List (String × Json)}
    (same : ∀ member ∈ members, (ofJson member.2).json? = some member.2) :
    jsonMembers? (ofMembers members) = some members := by
  induction members with
  | nil => rfl
  | cons member rest ih =>
      rw [ofMembers, jsonMembers?, same member List.mem_cons_self,
        ih fun other mem => same other (List.mem_cons_of_mem _ mem)]
      rfl

/-- The depth of an object is bounded by that of the values of its members. -/
theorem depthMembers_ofMembers_le_iff {members : List (String × Json)} {depth : Nat} :
    depthMembers (ofMembers members) ≤ depth ↔
      ∀ member ∈ members, (ofJson member.2).depth ≤ depth := by
  induction members with
  | nil => simp [ofMembers, depthMembers]
  | cons member rest ih =>
      rw [ofMembers, depthMembers, Nat.max_le, ih, List.forall_mem_cons]

theorem depthItems_ofItems_le_iff {items : List Json} {depth : Nat} :
    depthItems (ofItems items) ≤ depth ↔ ∀ item ∈ items, (ofJson item).depth ≤ depth := by
  induction items with
  | nil => simp [ofItems, depthItems]
  | cons item rest ih => rw [ofItems, depthItems, Nat.max_le, ih, List.forall_mem_cons]

end Syntax

namespace Json

open Syntax (Reads ReadsItems ReadsMembers AllBlank)

/-! ## Indented text -/

mutual

/-- All numbers in the value are integers. -/
def Integral : Json → Prop
  | .number n => n.isReal = false
  | .array items => IntegralItems items
  | .object members => IntegralMembers members
  | _ => True

def IntegralItems : List Json → Prop
  | [] => True
  | item :: rest => Integral item ∧ IntegralItems rest

def IntegralMembers : List (String × Json) → Prop
  | [] => True
  | (_, value) :: rest => Integral value ∧ IntegralMembers rest

end

theorem allBlank_lineBreak (level : Nat) : AllBlank (lineBreak level) := by
  intro c mem
  obtain rfl | space := List.mem_cons.mp mem
  · decide
  · rw [List.eq_of_mem_replicate space]
    decide

theorem allBlank_space : AllBlank [' '] := by
  intro c mem
  obtain rfl := List.mem_singleton.mp mem
  decide

theorem allBlank_nil : AllBlank [] := by
  intro c mem
  cases mem

theorem readsString_quoted (text : String) : Syntax.ReadsString (quoted text) text :=
  Syntax.readsString_escaped Syntax.spells_escapeChar text

mutual

/-- The indented text of a value is read as the value. -/
theorem reads_indentedChars (level : Nat) : ∀ value : Json, value.Integral →
    Reads (value.indentedChars level) (.ofJson value)
  | .null, _ => by
      simp only [indentedChars, compactChars]
      exact Syntax.reads_null
  | .bool true, _ => by
      simp only [indentedChars, compactChars]
      exact Syntax.reads_true
  | .bool false, _ => by
      simp only [indentedChars, compactChars]
      exact Syntax.reads_false
  | .number (.integer i fits), _ => by
      simp only [indentedChars, compactChars]
      exact Syntax.reads_integer fits
  | .number (.real x), integral => by
      rw [Integral] at integral
      cases integral
  | .string text, _ => by
      simp only [indentedChars, compactChars]
      exact (readsString_quoted text).reads
  | .array [], _ => by
      simp only [indentedChars, compactChars]
      exact Syntax.reads_emptyArray
  | .object [], _ => by
      simp only [indentedChars, compactChars]
      exact Syntax.reads_emptyObject
  | .array (item :: rest), integral => by
      rw [Integral, IntegralItems] at integral
      have first := (reads_indentedChars (level + 1) item integral.1).blank
        (allBlank_lineBreak (level + 1))
      have items := readsItems_indentedItems level first rest integral.2
      rw [indentedChars, Syntax.ofJson, Syntax.ofItems]
      simpa only [List.cons_append] using items.reads
  | .object ((key, value) :: rest), integral => by
      rw [Integral, IntegralMembers] at integral
      have first := (reads_indentedChars (level + 1) value integral.1).blank allBlank_space
      have members := readsMembers_indentedMembers level (readsString_quoted key) first rest
        integral.2
      have indented := members.blank (allBlank_lineBreak (level + 1))
      rw [indentedChars, Syntax.ofJson, Syntax.ofMembers]
      simpa only [List.cons_append, List.append_assoc, List.nil_append] using indented.reads

/-- Behind the text of an item the further items of an array are read. -/
theorem readsItems_indentedItems (level : Nat) {text : List Char} {tree : Syntax}
    (reads : Reads text tree) : ∀ items : List Json, IntegralItems items →
    ReadsItems (text ++ indentedItems level items) (tree :: Syntax.ofItems items)
  | [], _ => by
      rw [indentedItems, Syntax.ofItems]
      exact reads.lastItem (allBlank_lineBreak level)
  | item :: rest, integral => by
      rw [IntegralItems] at integral
      have next := (reads_indentedChars (level + 1) item integral.1).blank
        (allBlank_lineBreak (level + 1))
      have others := readsItems_indentedItems level next rest integral.2
      rw [indentedItems, Syntax.ofItems]
      simpa only [List.cons_append, List.append_assoc] using others.cons reads

/-- Behind the text of a member the further members of an object are read. -/
theorem readsMembers_indentedMembers (level : Nat) {written text : List Char} {key : String}
    {tree : Syntax} (string : Syntax.ReadsString written key) (reads : Reads text tree) :
    ∀ members : List (String × Json), IntegralMembers members →
    ReadsMembers (written ++ ':' :: (text ++ indentedMembers level members))
      ((some key, tree) :: Syntax.ofMembers members)
  | [], _ => by
      rw [indentedMembers, Syntax.ofMembers]
      exact reads.lastMember string (allBlank_lineBreak level)
  | (nextKey, value) :: rest, integral => by
      rw [IntegralMembers] at integral
      have next := (reads_indentedChars (level + 1) value integral.1).blank allBlank_space
      have others := readsMembers_indentedMembers level (readsString_quoted nextKey) next rest
        integral.2
      have indented := others.blank (allBlank_lineBreak (level + 1))
      rw [indentedMembers, Syntax.ofMembers]
      simpa only [List.cons_append, List.append_assoc, List.nil_append] using
        indented.cons string reads

end

/-- The tree of an indented text is that of the value that was written. -/
theorem parse?_indented {value : Json} (integral : value.Integral) :
    Syntax.parse? value.indented = some (.ofJson value) := by
  have reads := (reads_indentedChars 0 value integral).parse? allBlank_nil
  rwa [List.append_nil] at reads

end Json

end Pushdown
