import Pushdown.Json.Basic

/-!
# The syntax of JSON text

Reading goes in two steps. The first turns text into a syntax tree and checks the grammar only.
The tree keeps what a value does not: the order of members, repeated keys, numerals beyond every
range and strings with half of a surrogate pair. The second step, `json?`, accepts the trees that
stand for values.

A reader of a particular format may look at the tree directly, skip the parts that it does not
know, and accept text whose skipped parts stand for no value.
-/

namespace Pushdown

/-- JSON text as a tree. -/
inductive Syntax where
  | null
  | bool (value : Bool)
  /-- A numeral, with its number unless it is out of range. -/
  | number (value : Option Number)
  /-- A string, with its text unless an escape stands for half of a surrogate pair. -/
  | string (text : Option String)
  | array (items : List Syntax)
  | object (members : List (Option String × Syntax))
deriving Inhabited

namespace Syntax

def isBlank (c : Char) : Bool := c = ' ' || c = '\n' || c = '\t' || c = '\r'

def skipBlanks (text : List Char) : List Char := text.dropWhile isBlank

def digitValue (c : Char) : Nat := c.toNat - '0'.toNat

/-- The value of a hexadecimal digit in either case. -/
def hexValue? (c : Char) : Option Nat :=
  if '0' ≤ c ∧ c ≤ '9' then some (c.toNat - 48)
  else if 'a' ≤ c ∧ c ≤ 'f' then some (c.toNat - 87)
  else if 'A' ≤ c ∧ c ≤ 'F' then some (c.toNat - 55)
  else none

/-! ## Strings -/

/-- A part of a string: a character, or a 16-bit unit given by an escape. -/
inductive Piece where
  | char (c : Char)
  | unit (n : Nat)

/-- The character that a one-letter escape stands for. -/
def unescape? : Char → Option Char
  | '"' => some '"'
  | '\\' => some '\\'
  | '/' => some '/'
  | 'b' => some '\x08'
  | 'f' => some '\x0c'
  | 'n' => some '\n'
  | 'r' => some '\r'
  | 't' => some '\t'
  | _ => none

/-- The parts of a string up to its closing quote, and the text after it. -/
def readPieces : List Char → Option (List Piece × List Char)
  | [] => none
  | '"' :: rest => some ([], rest)
  | '\\' :: 'u' :: a :: b :: c :: d :: rest => do
    let unit := 4096 * (← hexValue? a) + 256 * (← hexValue? b) + 16 * (← hexValue? c) +
      (← hexValue? d)
    let (pieces, rest) ← readPieces rest
    some (.unit unit :: pieces, rest)
  | '\\' :: letter :: rest => do
    let c ← unescape? letter
    let (pieces, rest) ← readPieces rest
    some (.char c :: pieces, rest)
  | c :: rest =>
    if c.toNat < 32 ∨ c = '\\' then none
    else do
      let (pieces, rest) ← readPieces rest
      some (.char c :: pieces, rest)

/-- The characters of a string. A high surrogate must be followed by a low one, and a low one
cannot stand alone. -/
def joinPieces? : List Piece → Option (List Char)
  | [] => some []
  | .char c :: rest => (joinPieces? rest).map (c :: ·)
  | .unit high :: rest =>
    if 0xD800 ≤ high ∧ high ≤ 0xDBFF then
      match rest with
      | .unit low :: rest =>
        if 0xDC00 ≤ low ∧ low ≤ 0xDFFF then
          (joinPieces? rest).map
            (Char.ofNat (0x10000 + 0x400 * (high - 0xD800) + (low - 0xDC00)) :: ·)
        else none
      | _ => none
    else if 0xDC00 ≤ high ∧ high ≤ 0xDFFF then none
    else (joinPieces? rest).map (Char.ofNat high :: ·)

def readString (text : List Char) : Option (Option String × List Char) := do
  let (pieces, rest) ← readPieces text
  some ((joinPieces? pieces).map String.ofList, rest)

/-! ## Numerals -/

/-- Digits gathered into a 64-bit integer until one no longer fits, and the number of digits that
were left out from there on. -/
def gather : Nat → List Char → Nat × Nat
  | value, [] => (value, 0)
  | value, c :: rest =>
    let next := 10 * value + digitValue c
    if next ≤ greatestUnsigned then gather next rest else (value, rest.length + 1)

/-- A numeral with a fraction or an exponent, or whose digits exceed 64 bits. Digits left out of
the whole part raise the exponent; those left out of the fraction are dropped. -/
def realNumeral? (negative : Bool) (whole fraction : List Char) (exponent : Int) :
    Option Binary64 :=
  let (value, omitted) := gather 0 whole
  let (digits, dropped) := gather value fraction
  let kept := fraction.length - dropped
  Binary64.ofDecimal? negative digits (exponent + omitted - kept)

/-- A numeral of digits only: an integer where it fits 64 bits, otherwise a real. The numeral `-0`
is the real negative zero. -/
def wholeNumeral? (negative : Bool) (whole : List Char) : Option Number :=
  let (value, omitted) := gather 0 whole
  let signed : Int := if negative then -value else value
  if h : FitsWord signed ∧ omitted = 0 ∧ ¬(negative ∧ value = 0) then
    some (.integer signed h.1)
  else
    (realNumeral? negative whole [] 0).map .real

def spanDigits (text : List Char) : List Char × List Char := text.span Char.isDigit

def readExponent (text : List Char) : Option (Int × List Char) :=
  let (negative, text) := match text with
    | '+' :: rest => (false, rest)
    | '-' :: rest => (true, rest)
    | rest => (false, rest)
  match spanDigits text with
  | ([], _) => none
  | (digits, rest) =>
    let value : Int := digits.foldl (fun n c => 10 * n + digitValue c) 0
    some (if negative then -value else value, rest)

def readFraction (text : List Char) : Option (List Char × List Char) :=
  match spanDigits text with
  | ([], _) => none
  | (digits, rest) => some (digits, rest)

/-- A numeral after its sign. The whole part has no leading zero. -/
def readNumeral (negative : Bool) (text : List Char) : Option (Option Number × List Char) := do
  let (whole, rest) ← match spanDigits text with
    | ([], _) => none
    | ('0' :: _ :: _, _) => none
    | parts => some parts
  let (fraction, rest) ← match rest with
    | '.' :: rest => (readFraction rest).map fun (digits, rest) => (some digits, rest)
    | rest => some (none, rest)
  let (exponent, rest) ← match rest with
    | 'e' :: rest | 'E' :: rest => (readExponent rest).map fun (e, rest) => (some e, rest)
    | rest => some (none, rest)
  let value :=
    if fraction.isNone && exponent.isNone then wholeNumeral? negative whole
    else (realNumeral? negative whole (fraction.getD []) (exponent.getD 0)).map .real
  some (value, rest)

/-! ## Values -/

mutual

/-- A value after leading blanks, and the text behind it. -/
def readValue : Nat → List Char → Option (Syntax × List Char)
  | 0, _ => none
  | fuel + 1, text =>
    match skipBlanks text with
    | 'n' :: 'u' :: 'l' :: 'l' :: rest => some (.null, rest)
    | 't' :: 'r' :: 'u' :: 'e' :: rest => some (.bool true, rest)
    | 'f' :: 'a' :: 'l' :: 's' :: 'e' :: rest => some (.bool false, rest)
    | '"' :: rest => do
      let (text, rest) ← readString rest
      some (.string text, rest)
    | '[' :: rest =>
      match skipBlanks rest with
      | ']' :: rest => some (.array [], rest)
      | rest => do
        let (items, rest) ← readItems fuel rest
        some (.array items, rest)
    | '\x7b' :: rest =>
      match skipBlanks rest with
      | '\x7d' :: rest => some (.object [], rest)
      | rest => do
        let (members, rest) ← readMembers fuel rest
        some (.object members, rest)
    | '-' :: rest => do
      let (value, rest) ← readNumeral true rest
      some (.number value, rest)
    | rest => do
      let (value, rest) ← readNumeral false rest
      some (.number value, rest)

/-- The items of an array that is not empty, up to its closing bracket. -/
def readItems : Nat → List Char → Option (List Syntax × List Char)
  | 0, _ => none
  | fuel + 1, text => do
    let (item, rest) ← readValue fuel text
    match skipBlanks rest with
    | ']' :: rest => some ([item], rest)
    | ',' :: rest =>
      let (items, rest) ← readItems fuel rest
      some (item :: items, rest)
    | _ => none

def readMembers : Nat → List Char → Option (List (Option String × Syntax) × List Char)
  | 0, _ => none
  | fuel + 1, text =>
    match skipBlanks text with
    | '"' :: rest => do
      let (key, rest) ← readString rest
      match skipBlanks rest with
      | ':' :: rest =>
        let (value, rest) ← readValue fuel rest
        match skipBlanks rest with
        | '\x7d' :: rest => some ([(key, value)], rest)
        | ',' :: rest =>
          let (members, rest) ← readMembers fuel rest
          some ((key, value) :: members, rest)
        | _ => none
      | _ => none
    | _ => none

end

/-- The tree of a whole text. Every step of reading either takes a character or enters a value, so
twice the length of the text is fuel enough. -/
def parse? (text : String) : Option Syntax := do
  let chars := text.toList
  let (tree, rest) ← readValue (2 * chars.length + 2) chars
  if (skipBlanks rest).isEmpty then some tree else none

/-! ## Values of trees -/

mutual

/-- The number of containers around the innermost part. -/
def depth : Syntax → Nat
  | .array items => depthItems items + 1
  | .object members => depthMembers members + 1
  | _ => 0

def depthItems : List Syntax → Nat
  | [] => 0
  | item :: rest => max (depth item) (depthItems rest)

def depthMembers : List (Option String × Syntax) → Nat
  | [] => 0
  | (_, value) :: rest => max (depth value) (depthMembers rest)

end

mutual

/-- The value that a tree stands for, if all its numerals and strings have one. -/
def json? : Syntax → Option Json
  | .null => some .null
  | .bool b => some (.bool b)
  | .number n => n.map .number
  | .string text => text.map .string
  | .array items => (jsonItems? items).map .array
  | .object members => (jsonMembers? members).map Json.ofMembers

def jsonItems? : List Syntax → Option (List Json)
  | [] => some []
  | item :: rest => do some ((← json? item) :: (← jsonItems? rest))

def jsonMembers? : List (Option String × Syntax) → Option (List (String × Json))
  | [] => some []
  | (key, value) :: rest => do some ((← key, ← json? value) :: (← jsonMembers? rest))

end

mutual

def ofJson : Json → Syntax
  | .null => .null
  | .bool b => .bool b
  | .number n => .number (some n)
  | .string text => .string (some text)
  | .array items => .array (ofItems items)
  | .object members => .object (ofMembers members)

def ofItems : List Json → List Syntax
  | [] => []
  | item :: rest => ofJson item :: ofItems rest

def ofMembers : List (String × Json) → List (Option String × Syntax)
  | [] => []
  | (key, value) :: rest => (some key, ofJson value) :: ofMembers rest

end

/-- The greatest depth of text that is read. -/
def maxDepth : Nat := 127

end Syntax

/-- The value of a JSON text, unless the text is malformed or too deep. -/
def Json.parse? (text : String) : Option Json := do
  let tree ← Syntax.parse? text
  if tree.depth ≤ Syntax.maxDepth then tree.json? else none

end Pushdown
