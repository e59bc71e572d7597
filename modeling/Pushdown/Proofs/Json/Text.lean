import Pushdown.Json.Printer
import Pushdown.Json.Syntax
import Pushdown.Proofs.Number.Numeral

/-!
# Compact text tells values apart

A written string is read back up to its closing quote, whatever follows it. The first character of
the text of a value tells what kind of value it is, and no character of a numeral can follow a
value, so the text shows where each value ends. Two values with the same text, read up to the same
point, are therefore the same value.
-/

namespace Pushdown

namespace Syntax

/-! ## Strings -/

theorem hexValue?_digitChar {d : Nat} (h : d < 16) : hexValue? (Nat.digitChar d) = some d := by
  have all : ∀ d < 16, hexValue? (Nat.digitChar d) = some d := by decide
  exact all d h

/-- Four hexadecimal digits are read as the unit that they were written for. -/
theorem readPieces_hexDigits4 {n : Nat} (small : n < 65536) (rest : List Char) :
    readPieces ('\\' :: 'u' :: (hexDigits4 n ++ rest)) =
      (readPieces rest).map fun read => (.unit n :: read.1, read.2) := by
  have digit (m : Nat) : hexValue? (Nat.digitChar (m % 16)) = some (m % 16) :=
    hexValue?_digitChar (Nat.mod_lt m (by decide))
  have whole : 4096 * (n / 4096 % 16) + 256 * (n / 256 % 16) + 16 * (n / 16 % 16) + n % 16 = n := by
    omega
  simp only [hexDigits4, List.map_cons, List.map_nil, List.cons_append, List.nil_append,
    readPieces, digit, Option.bind_eq_bind, Option.bind_some, whole]
  cases readPieces rest <;> rfl

/-- An escape of one letter is read as the character that it stands for. -/
theorem readPieces_letter {letter c : Char} (notUnit : letter ≠ 'u')
    (h : unescape? letter = some c) (rest : List Char) :
    readPieces ('\\' :: letter :: rest) =
      (readPieces rest).map fun read => (.char c :: read.1, read.2) := by
  rw [readPieces.eq_def]
  split
  · contradiction
  · simp_all
  · simp_all
  · next eq =>
    obtain ⟨rfl, rfl⟩ := List.cons.inj (List.cons.inj eq).2
    rw [h]
    cases readPieces rest <;> rfl
  · next c' rest' notQuote notEscape eq =>
    obtain ⟨rfl, rfl⟩ := List.cons.inj eq
    exact (notEscape letter rest rfl rfl).elim

/-- A character without an escape is read as itself. -/
theorem readPieces_plain {c : Char} (notQuote : c ≠ '"') (notEscape : c ≠ '\\')
    (printable : ¬ c.toNat < 32) (rest : List Char) :
    readPieces (c :: rest) = (readPieces rest).map fun read => (.char c :: read.1, read.2) := by
  rw [readPieces.eq_def]
  split
  · contradiction
  · simp_all
  · simp_all
  · simp_all
  · next eq =>
    obtain ⟨rfl, rfl⟩ := List.cons.inj eq
    rw [if_neg (not_or.mpr ⟨printable, notEscape⟩)]
    cases readPieces rest <;> rfl

/-- What is written is read as one part of a string, which stands for the character. -/
def Spells (written : List Char) (c : Char) : Prop :=
  ∃ piece, (∀ rest, readPieces (written ++ rest) =
    (readPieces rest).map fun read => (piece :: read.1, read.2)) ∧
    ∀ pieces, joinPieces? (piece :: pieces) = (joinPieces? pieces).map (c :: ·)

theorem Spells.letter {letter c : Char} (notUnit : letter ≠ 'u') (h : unescape? letter = some c) :
    Spells ['\\', letter] c := ⟨.char c, readPieces_letter notUnit h, fun _ => rfl⟩

theorem Spells.plain {c : Char} (notQuote : c ≠ '"') (notEscape : c ≠ '\\')
    (printable : ¬ c.toNat < 32) : Spells [c] c :=
  ⟨.char c, readPieces_plain notQuote notEscape printable, fun _ => rfl⟩

/-- Characters below the surrogates can be written as units. -/
theorem Spells.unit {c : Char} (below : c.toNat < 0xD800) :
    Spells ('\\' :: 'u' :: hexDigits4 c.toNat) c := by
  refine ⟨.unit c.toNat, readPieces_hexDigits4 (by omega), fun pieces => ?_⟩
  rw [joinPieces?.eq_def]
  dsimp only
  rw [if_neg (by omega), if_neg (by omega), Char.ofNat_toNat]

theorem spells_escapeChar (c : Char) : Spells (Json.escapeChar c) c := by
  unfold Json.escapeChar
  split
  · next eq => subst eq; exact .letter (by decide) rfl
  split
  · next eq => subst eq; exact .letter (by decide) rfl
  split
  · next eq => subst eq; exact .letter (by decide) rfl
  split
  · next eq => subst eq; exact .letter (by decide) rfl
  split
  · next eq => subst eq; exact .letter (by decide) rfl
  split
  · next eq => subst eq; exact .letter (by decide) rfl
  split
  · next eq => subst eq; exact .letter (by decide) rfl
  split
  · next control => exact .unit (by omega)
  · next notQuote notEscape _ _ _ _ _ printable => exact .plain notQuote notEscape printable

section Escapes

variable {escape : Char → List Char} (spells : ∀ c, Spells (escape c) c)

include spells

theorem readPieces_escaped (text rest : List Char) :
    ∃ pieces, readPieces (text.flatMap escape ++ '"' :: rest) = some (pieces, rest) ∧
      joinPieces? pieces = some text := by
  induction text with
  | nil => exact ⟨[], rfl, rfl⟩
  | cons c text ih =>
      obtain ⟨pieces, read, joined⟩ := ih
      obtain ⟨piece, readPiece, joinedPiece⟩ := spells c
      refine ⟨piece :: pieces, ?_, ?_⟩
      · rw [List.flatMap_cons, List.append_assoc, readPiece, read]
        rfl
      · rw [joinedPiece, joined]
        rfl

/-- A written string is read back up to its closing quote. -/
theorem readString_escaped (text : String) (rest : List Char) :
    readString (text.toList.flatMap escape ++ '"' :: rest) = some (some text, rest) := by
  obtain ⟨pieces, read, joined⟩ := readPieces_escaped spells text.toList rest
  unfold readString
  rw [read, Option.bind_eq_bind, Option.bind_some]
  dsimp only
  rw [joined, Option.map_some, String.ofList_toList]

end Escapes

end Syntax

namespace Json

theorem quoted_append (text : String) (rest : List Char) :
    quoted text ++ rest = '"' :: (text.toList.flatMap escapeChar ++ '"' :: rest) := by
  simp [quoted]

/-- A string and the text after it are determined by their text. -/
theorem quoted_injective {a b : String} {r s : List Char} (h : quoted a ++ r = quoted b ++ s) :
    a = b ∧ r = s := by
  rw [quoted_append, quoted_append] at h
  have read := congrArg Syntax.readString (List.cons.inj h).2
  rw [Syntax.readString_escaped Syntax.spells_escapeChar,
    Syntax.readString_escaped Syntax.spells_escapeChar] at read
  simpa using read

/-! ## Numerals -/

def isNumeralChar (c : Char) : Bool :=
  c.isDigit || c == '-' || c == '+' || c == '.' || c == 'e'

theorem isNumeralChar_digit {c : Char} (h : c.isDigit = true) : isNumeralChar c = true := by
  simp [isNumeralChar, h]

theorem isNumeralChar_of_positional {digits : List Char}
    (areDigits : ∀ c ∈ digits, c.isDigit = true) {point : Int} {c : Char}
    (h : c ∈ Decimal.positional digits point ['.', '0']) : isNumeralChar c = true := by
  have others : isNumeralChar '0' = true ∧ isNumeralChar '.' = true := by decide
  unfold Decimal.positional at h
  split at h
  · simp only [List.mem_append, List.mem_cons, List.not_mem_nil, or_false, List.mem_replicate] at h
    obtain ((rfl | rfl) | ⟨-, rfl⟩) | digit := h
    · exact others.1
    · exact others.2
    · exact others.1
    · exact isNumeralChar_digit (areDigits c digit)
  · split at h
    · simp only [List.mem_append, List.mem_cons] at h
      obtain digit | rfl | digit := h
      · exact isNumeralChar_digit (areDigits c (List.mem_of_mem_take digit))
      · exact others.2
      · exact isNumeralChar_digit (areDigits c (List.mem_of_mem_drop digit))
    · simp only [List.mem_append, List.mem_cons, List.not_mem_nil, or_false,
        List.mem_replicate] at h
      obtain (digit | ⟨-, rfl⟩) | rfl | rfl := h
      · exact isNumeralChar_digit (areDigits c digit)
      · exact others.1
      · exact others.2
      · exact others.1

theorem isNumeralChar_of_scientific {digits : List Char}
    (areDigits : ∀ c ∈ digits, c.isDigit = true) {e : Int} {c : Char}
    (h : c ∈ Decimal.scientific digits e) : isNumeralChar c = true := by
  have mark {c : Char} (h : c = '.' ∨ c = 'e' ∨ c = '-' ∨ c = '+') : isNumeralChar c = true := by
    obtain rfl | rfl | rfl | rfl := h <;> decide
  unfold Decimal.scientific at h
  dsimp only at h
  simp only [List.mem_append, List.mem_cons] at h
  obtain (digit | fraction) | rfl | sign | digit := h
  · exact isNumeralChar_digit (areDigits c (List.mem_of_mem_take digit))
  · split at fraction
    · cases fraction
    · obtain rfl | digit := List.mem_cons.mp fraction
      · exact mark (.inl rfl)
      · exact isNumeralChar_digit (areDigits c (List.mem_of_mem_drop digit))
  · exact mark (.inr (.inl rfl))
  · split at sign
    · exact mark (.inr (.inr (.inl sign)))
    · exact mark (.inr (.inr (.inr sign)))
  · exact isNumeralChar_digit (isDigit_of_mem_decimalDigits digit)

theorem isNumeralChar_of_layOut {d : Decimal} {c : Char} (h : c ∈ d.layOut .json) :
    isNumeralChar c = true := by
  unfold Decimal.layOut NumeralStyle.json at h
  dsimp only at h
  split at h
  · exact isNumeralChar_of_positional (fun _ => isDigit_of_mem_decimalDigits) h
  · exact isNumeralChar_of_scientific (fun _ => isDigit_of_mem_decimalDigits) h

theorem isNumeralChar_of_numeral {n : Number} {c : Char} (h : c ∈ n.numeral) :
    isNumeralChar c = true := by
  cases n with
  | integer i fits =>
      obtain rfl | digit := mem_integerDigits h
      · decide
      · exact isNumeralChar_digit digit
  | real x =>
      obtain sign | layOut := List.mem_append.mp h
      · split at sign
        · obtain rfl := List.mem_singleton.mp sign
          decide
        · cases sign
      · exact isNumeralChar_of_layOut layOut

/-- A numeral begins with a minus sign or a digit. -/
theorem numeral_head (n : Number) :
    ∃ c rest, n.numeral = c :: rest ∧ (c = '-' ∨ c.isDigit = true) := by
  cases n with
  | integer i fits =>
      unfold Number.numeral integerDigits
      obtain ⟨c, rest, eq⟩ := List.exists_cons_of_ne_nil (decimalDigits_ne_nil i.natAbs)
      have digit : c.isDigit = true := isDigit_of_mem_decimalDigits (eq ▸ List.mem_cons_self)
      dsimp only
      split
      · exact ⟨'-', _, rfl, .inl rfl⟩
      · exact ⟨c, rest, eq, .inr digit⟩
  | real x =>
      obtain ⟨c, rest, eq, digit⟩ := Decimal.layOut_head x.shortest
      unfold Number.numeral Binary64.numeral
      dsimp only
      split
      · exact ⟨'-', _, rfl, .inl rfl⟩
      · exact ⟨c, rest, eq, .inr digit⟩

def EndsNumeral (text : List Char) : Prop := ∀ c ∈ text.head?, isNumeralChar c = false

theorem EndsNumeral.takeWhile {r : List Char} (h : EndsNumeral r) {numeral : List Char}
    (chars : ∀ c ∈ numeral, isNumeralChar c = true) :
    (numeral ++ r).takeWhile isNumeralChar = numeral := by
  rw [List.takeWhile_append_of_pos chars]
  cases r with
  | nil => simp
  | cons c rest =>
      have stop : isNumeralChar c = false := h c rfl
      rw [List.takeWhile_cons_of_neg (by rw [stop]; decide), List.append_nil]

/-- A number and the text after it are determined by their text. -/
theorem numeral_append_injective {m n : Number} {r s : List Char} (endsR : EndsNumeral r)
    (endsS : EndsNumeral s) (h : m.numeral ++ r = n.numeral ++ s) : m = n ∧ r = s := by
  have same := congrArg (List.takeWhile isNumeralChar) h
  rw [endsR.takeWhile fun _ => isNumeralChar_of_numeral,
    endsS.takeWhile fun _ => isNumeralChar_of_numeral] at same
  rw [same] at h
  exact ⟨Number.numeral_injective same, List.append_cancel_left h⟩

/-! ## Values -/

/-- What the first character of the text of a value tells. -/
inductive Lead where
  | null
  | truth (value : Bool)
  | number
  | string
  | array
  | object

def Lead.ofChar (c : Char) : Lead :=
  if c = 'n' then .null
  else if c = 't' then .truth true
  else if c = 'f' then .truth false
  else if c = '"' then .string
  else if c = '[' then .array
  else if c = '\x7b' then .object
  else .number

def lead : Json → Lead
  | .null => .null
  | .bool value => .truth value
  | .number _ => .number
  | .string _ => .string
  | .array _ => .array
  | .object _ => .object

theorem Lead.ofChar_numeral {c : Char} (h : c = '-' ∨ c.isDigit = true) :
    Lead.ofChar c = .number := by
  have other {d : Char} (notSign : d ≠ '-') (notDigit : d.isDigit = false) : c ≠ d := by
    rintro rfl
    obtain sign | digit := h
    · exact notSign sign
    · rw [notDigit] at digit
      cases digit
  unfold ofChar
  rw [if_neg (other (by decide) (by decide)), if_neg (other (by decide) (by decide)),
    if_neg (other (by decide) (by decide)), if_neg (other (by decide) (by decide)),
    if_neg (other (by decide) (by decide)), if_neg (other (by decide) (by decide))]

theorem compactChars_head (v : Json) :
    ∃ c rest, v.compactChars = c :: rest ∧ Lead.ofChar c = v.lead := by
  cases v with
  | null => exact ⟨'n', _, by rw [compactChars]; rfl, rfl⟩
  | bool value =>
      cases value with
      | true => exact ⟨'t', _, by rw [compactChars]; rfl, rfl⟩
      | false => exact ⟨'f', _, by rw [compactChars]; rfl, rfl⟩
  | number n =>
      obtain ⟨c, rest, eq, first⟩ := numeral_head n
      exact ⟨c, rest, by rw [compactChars, eq], Lead.ofChar_numeral first⟩
  | string text => exact ⟨'"', _, by rw [compactChars]; rfl, rfl⟩
  | array items =>
      cases items with
      | nil => exact ⟨'[', _, by rw [compactChars], rfl⟩
      | cons item rest => exact ⟨'[', _, by rw [compactChars]; rfl, rfl⟩
  | object members =>
      cases members with
      | nil => exact ⟨'\x7b', _, by rw [compactChars], rfl⟩
      | cons member rest => exact ⟨'\x7b', _, by rw [compactChars]; rfl, rfl⟩

/-- Values whose texts begin in the same way are of one kind. -/
theorem lead_eq {a b : Json} {r s : List Char}
    (h : a.compactChars ++ r = b.compactChars ++ s) : a.lead = b.lead := by
  obtain ⟨c, restA, eqA, leadA⟩ := compactChars_head a
  obtain ⟨d, restB, eqB, leadB⟩ := compactChars_head b
  rw [eqA, eqB] at h
  rw [← leadA, ← leadB, (List.cons.inj h).1]

/-- The items of an array as they are written after its opening bracket. -/
def itemsText : List Json → List Char
  | [] => [']']
  | item :: rest => compactChars item ++ compactItems rest

theorem compactChars_array (items : List Json) :
    compactChars (.array items) = '[' :: itemsText items := by
  cases items <;> simp [compactChars, itemsText]

def memberText (member : String × Json) : List Char :=
  quoted member.1 ++ ':' :: compactChars member.2

/-- The members of an object as they are written after its opening brace. -/
def membersText : List (String × Json) → List Char
  | [] => ['\x7d']
  | member :: rest => memberText member ++ compactMembers rest

theorem compactChars_object (members : List (String × Json)) :
    compactChars (.object members) = '\x7b' :: membersText members := by
  cases members <;> simp [compactChars, membersText, memberText]

theorem compactMembers_cons (member : String × Json) (rest : List (String × Json)) :
    compactMembers (member :: rest) = ',' :: (memberText member ++ compactMembers rest) := by
  simp [compactMembers, memberText]

theorem endsNumeral_items (items : List Json) (r : List Char) :
    EndsNumeral (compactItems items ++ r) := by
  intro c mem
  cases items <;> rw [compactItems] at mem <;> obtain rfl := Option.some.inj mem <;> decide

theorem endsNumeral_members (members : List (String × Json)) (r : List Char) :
    EndsNumeral (compactMembers members ++ r) := by
  intro c mem
  cases members with
  | nil =>
      rw [compactMembers] at mem
      obtain rfl := Option.some.inj mem
      decide
  | cons member rest =>
      rw [compactMembers_cons] at mem
      obtain rfl := Option.some.inj mem
      decide

/-- The text of a value does not begin with a closing bracket. -/
theorem compactChars_ne_close (v : Json) (r s : List Char) :
    v.compactChars ++ r ≠ ']' :: s := by
  intro h
  obtain ⟨c, rest, eq, first⟩ := compactChars_head v
  rw [eq] at h
  obtain rfl := (List.cons.inj h).1
  cases v with
  | number n =>
      obtain ⟨d, tail, numeral, head⟩ := numeral_head n
      rw [compactChars, numeral] at eq
      obtain rfl := (List.cons.inj eq).1
      exact absurd head (by decide)
  | _ => exact absurd first (by simp [lead, Lead.ofChar])

mutual

/-- A value and the text after it are determined by their text. -/
theorem compactChars_append_injective : ∀ (a b : Json) {r s : List Char}, EndsNumeral r →
    EndsNumeral s → a.compactChars ++ r = b.compactChars ++ s → a = b ∧ r = s
  | .null, b, r, s, _, _, h => by
      have kind := lead_eq h
      cases b <;> cases kind
      exact ⟨rfl, List.append_cancel_left h⟩
  | .bool value, b, r, s, _, _, h => by
      have kind := lead_eq h
      cases b <;> cases kind
      exact ⟨rfl, List.append_cancel_left h⟩
  | .number n, b, r, s, endsR, endsS, h => by
      have kind := lead_eq h
      cases b <;> cases kind
      rw [compactChars, compactChars] at h
      obtain ⟨rfl, rest⟩ := numeral_append_injective endsR endsS h
      exact ⟨rfl, rest⟩
  | .string text, b, r, s, _, _, h => by
      have kind := lead_eq h
      cases b <;> cases kind
      rw [compactChars, compactChars] at h
      obtain ⟨rfl, rest⟩ := quoted_injective h
      exact ⟨rfl, rest⟩
  | .array items, b, r, s, _, _, h => by
      have kind := lead_eq h
      cases b <;> cases kind
      rw [compactChars_array, compactChars_array] at h
      obtain ⟨rfl, rest⟩ := itemsText_injective items _ (List.cons.inj h).2
      exact ⟨rfl, rest⟩
  | .object members, b, r, s, _, _, h => by
      have kind := lead_eq h
      cases b <;> cases kind
      rw [compactChars_object, compactChars_object] at h
      obtain ⟨rfl, rest⟩ := membersText_injective members _ (List.cons.inj h).2
      exact ⟨rfl, rest⟩

/-- The items of an array and the text after it are determined by their text. -/
theorem itemsText_injective : ∀ (as bs : List Json) {r s : List Char},
    itemsText as ++ r = itemsText bs ++ s → as = bs ∧ r = s
  | [], [], r, s, h => ⟨rfl, (List.cons.inj h).2⟩
  | [], b :: bs, r, s, h => by
      rw [itemsText, itemsText, List.append_assoc] at h
      exact absurd h.symm (compactChars_ne_close b _ _)
  | a :: as, [], r, s, h => by
      rw [itemsText, itemsText, List.append_assoc] at h
      exact absurd h (compactChars_ne_close a _ _)
  | a :: as, b :: bs, r, s, h => by
      rw [itemsText, itemsText, List.append_assoc, List.append_assoc] at h
      obtain ⟨rfl, after⟩ := compactChars_append_injective a b (endsNumeral_items as r)
        (endsNumeral_items bs s) h
      obtain ⟨rfl, rest⟩ := compactItems_injective as bs after
      exact ⟨rfl, rest⟩

/-- The same of further items. -/
theorem compactItems_injective : ∀ (as bs : List Json) {r s : List Char},
    compactItems as ++ r = compactItems bs ++ s → as = bs ∧ r = s
  | [], [], r, s, h => ⟨rfl, by simpa [compactItems] using h⟩
  | [], b :: bs, r, s, h => by simp [compactItems] at h
  | a :: as, [], r, s, h => by simp [compactItems] at h
  | a :: as, b :: bs, r, s, h => by
      rw [compactItems, compactItems, List.append_assoc, List.append_assoc] at h
      obtain ⟨rfl, after⟩ := compactChars_append_injective a b (endsNumeral_items as r)
        (endsNumeral_items bs s) (List.cons.inj h).2
      obtain ⟨rfl, rest⟩ := compactItems_injective as bs after
      exact ⟨rfl, rest⟩

/-- A member and the text of the members after it are determined by their text. -/
theorem memberText_injective : ∀ (m n : String × Json) {r s : List Char}, EndsNumeral r →
    EndsNumeral s → memberText m ++ r = memberText n ++ s → m = n ∧ r = s
  | (k, a), (l, b), r, s, endsR, endsS, h => by
      rw [memberText, memberText, List.append_assoc, List.append_assoc] at h
      obtain ⟨rfl, after⟩ := quoted_injective h
      obtain ⟨rfl, rest⟩ := compactChars_append_injective a b endsR endsS (List.cons.inj after).2
      exact ⟨rfl, rest⟩

/-- The members of an object and the text after it are determined by their text. -/
theorem membersText_injective : ∀ (ms ns : List (String × Json)) {r s : List Char},
    membersText ms ++ r = membersText ns ++ s → ms = ns ∧ r = s
  | [], [], r, s, h => ⟨rfl, (List.cons.inj h).2⟩
  | [], n :: ns, r, s, h => by simp [membersText, memberText, quoted] at h
  | m :: ms, [], r, s, h => by simp [membersText, memberText, quoted] at h
  | m :: ms, n :: ns, r, s, h => by
      rw [membersText, membersText, List.append_assoc, List.append_assoc] at h
      obtain ⟨rfl, after⟩ := memberText_injective m n (endsNumeral_members ms r)
        (endsNumeral_members ns s) h
      obtain ⟨rfl, rest⟩ := compactMembers_injective ms ns after
      exact ⟨rfl, rest⟩

/-- The same of further members. -/
theorem compactMembers_injective : ∀ (ms ns : List (String × Json)) {r s : List Char},
    compactMembers ms ++ r = compactMembers ns ++ s → ms = ns ∧ r = s
  | [], [], r, s, h => ⟨rfl, by simpa [compactMembers] using h⟩
  | [], (k, b) :: ns, r, s, h => by simp [compactMembers] at h
  | (k, a) :: ms, [], r, s, h => by simp [compactMembers] at h
  | m :: ms, n :: ns, r, s, h => by
      rw [compactMembers_cons, compactMembers_cons, List.cons_append, List.cons_append,
        List.append_assoc, List.append_assoc] at h
      obtain ⟨rfl, after⟩ := memberText_injective m n (endsNumeral_members ms r)
        (endsNumeral_members ns s) (List.cons.inj h).2
      obtain ⟨rfl, rest⟩ := compactMembers_injective ms ns after
      exact ⟨rfl, rest⟩

end

/-- Values with the same compact text are the same value. -/
theorem compact_injective {a b : Json} (h : a.compact = b.compact) : a = b := by
  have ends : EndsNumeral [] := fun c mem => by cases mem
  have chars : a.compactChars ++ [] = b.compactChars ++ [] := by
    rw [List.append_nil, List.append_nil]
    exact String.ofList_injective h
  exact (compactChars_append_injective a b ends ends chars).1

end Json

end Pushdown
