import Pushdown.Regex.Syntax
import Pushdown.Unicode.Category
import Pushdown.Unicode.Property

/-!
# Reading patterns

A pattern is read from left to right into its tree. Text that is no pattern, such as an unclosed
group, a repetition of nothing or an unknown escape, is `none`. Look-around and references back to
groups do not exist, so their spellings are among the refused texts.

In extended mode blanks between the parts of a pattern are skipped, and so are comments from `#` to
the end of the line. The mode is a flag, so a group can turn it on or off for what follows.
-/

namespace Pushdown.Regex

open Pushdown.Unicode

/-! ## Blanks -/

/-- Text after blanks and comments. -/
def skipExtended : Bool → List Char → List Char
  | _, [] => []
  | true, c :: rest => skipExtended (c ≠ '\n') rest
  | false, c :: rest =>
    if whiteSpace.holds c.toNat then skipExtended false rest
    else if c = '#' then skipExtended true rest
    else c :: rest

/-- Text after what extended mode skips; all of it in the ordinary mode. -/
def skip (extended : Bool) (text : List Char) : List Char :=
  if extended then skipExtended false text else text

/-! ## Escapes -/

/-- Characters with a meaning of their own somewhere in a pattern. -/
def isMeta (c : Char) : Bool :=
  ['\\', '.', '+', '*', '?', '(', ')', '|', '[', ']', '\x7b', '\x7d', '^', '$', '#', '&', '-',
    '~'].contains c

/-- Characters that a backslash leaves as they are: all of ASCII but letters, digits and the two
angles. -/
def isEscapable (c : Char) : Bool :=
  isMeta c || (c.toNat < 128 && !c.isAlphanum && c ≠ '<' && c ≠ '>')

def hexValue? (c : Char) : Option Nat :=
  if '0' ≤ c ∧ c ≤ '9' then some (c.toNat - 48)
  else if 'a' ≤ c ∧ c ≤ 'f' then some (c.toNat - 87)
  else if 'A' ≤ c ∧ c ≤ 'F' then some (c.toNat - 55)
  else none

def charOf? (n : Nat) : Option Char :=
  if n.isValidChar then some (Char.ofNat n) else none

/-- The characters before a closing brace, and the text behind it. -/
def readBraced (extended : Bool) : Nat → List Char → Option (List Char × List Char)
  | 0, _ => none
  | fuel + 1, text =>
    match skip extended text with
    | [] => none
    | '\x7d' :: rest => some ([], rest)
    | c :: rest => do
      let (inside, rest) ← readBraced extended fuel rest
      some (c :: inside, rest)

/-- A number of hexadecimal digits, continuing a value. -/
def readHexDigits (extended : Bool) (value : Nat) : Nat → List Char → Option (Nat × List Char)
  | 0, text => some (value, text)
  | count + 1, text =>
    match text with
    | [] => none
    | c :: rest => do
      let digit ← hexValue? c
      readHexDigits extended (16 * value + digit) count (skip extended rest)

/-- A character given by its code point in hexadecimal digits, after the letter of the escape. -/
def readHex (extended : Bool) (count : Nat) (text : List Char) : Option (Atom × List Char) :=
  match skip extended text with
  | [] => none
  | '\x7b' :: rest => do
    let (digits, rest) ← readBraced extended (rest.length + 1) rest
    if digits.isEmpty then none
    else
      let values ← digits.mapM hexValue?
      let c ← charOf? (values.foldl (fun n digit => 16 * n + digit) 0)
      some (.char c false, skip extended rest)
  | text => do
    let (value, rest) ← readHexDigits extended 0 count text
    let c ← charOf? value
    some (.char c (count == 2), rest)

/-- Splits a text at the first occurrence of a separator. -/
def splitAt? (separator : List Char) : List Char → Option (List Char × List Char)
  | [] => none
  | c :: rest =>
    if separator.isPrefixOf (c :: rest) then some ([], (c :: rest).drop separator.length)
    else (splitAt? separator rest).map fun (before, after) => (c :: before, after)

/-- The query between the braces of a Unicode class, and whether it asks for the other characters,
those whose value differs. -/
def propertyQuery (inside : List Char) : PropertyQuery × Bool :=
  match splitAt? ['!', '='] inside with
  | some (property, value) => (.valued property value, true)
  | none => match splitAt? [':'] inside with
    | some (property, value) => (.valued property value, false)
    | none => match splitAt? ['='] inside with
      | some (property, value) => (.valued property value, false)
      | none => (.named inside, false)

/-- A Unicode class after its letter. A negated class of a value that differs is the class of the
value. -/
def readProperty (extended negated : Bool) (text : List Char) : Option (Atom × List Char) :=
  match skip extended text with
  | [] => none
  | '\x7b' :: rest => do
    let (inside, rest) ← readBraced extended (rest.length + 1) rest
    let (query, differs) := propertyQuery inside
    some (.property query (negated != differs), rest)
  | '\\' :: _ => none
  | c :: rest => some (.property (.named [c]) negated, skip extended rest)

def boundary? (name : String) : Option Anchor :=
  if name = "start" then some .wordStart
  else if name = "end" then some .wordEnd
  else if name = "start-half" then some .wordStartHalf
  else if name = "end-half" then some .wordEndHalf
  else none

/-- A word boundary after its letter. Braces that begin with a letter or a hyphen name the kind of
boundary; other braces are left to a repetition. -/
def readBoundary (extended : Bool) (text : List Char) : Option (Atom × List Char) :=
  let named (c : Char) : Bool := c.isAlpha || c = '-'
  match text with
  | '\x7b' :: rest =>
    match skip extended rest with
    | [] => none
    | c :: _ =>
      if named c then do
        let (name, rest) ← readBraced extended (rest.length + 1) rest
        if name.all named then
          let kind ← boundary? (String.ofList name)
          some (.anchor kind, rest)
        else none
      else some (.anchor .wordBoundary, text)
  | _ => some (.anchor .wordBoundary, text)

/-- What a backslash and the following text stand for. -/
def readEscape (extended : Bool) : List Char → Option (Atom × List Char)
  | [] => none
  | 'x' :: rest => readHex extended 2 rest
  | 'u' :: rest => readHex extended 4 rest
  | 'U' :: rest => readHex extended 8 rest
  | 'p' :: rest => readProperty extended false rest
  | 'P' :: rest => readProperty extended true rest
  | 'd' :: rest => some (.letterClass .digit false, rest)
  | 'D' :: rest => some (.letterClass .digit true, rest)
  | 's' :: rest => some (.letterClass .space false, rest)
  | 'S' :: rest => some (.letterClass .space true, rest)
  | 'w' :: rest => some (.letterClass .word false, rest)
  | 'W' :: rest => some (.letterClass .word true, rest)
  | 'a' :: rest => some (.char '\x07' false, rest)
  | 'f' :: rest => some (.char '\x0c' false, rest)
  | 't' :: rest => some (.char '\t' false, rest)
  | 'n' :: rest => some (.char '\n' false, rest)
  | 'r' :: rest => some (.char '\r' false, rest)
  | 'v' :: rest => some (.char '\x0b' false, rest)
  | 'A' :: rest => some (.anchor .textStart, rest)
  | 'z' :: rest => some (.anchor .textEnd, rest)
  | 'b' :: rest => readBoundary extended rest
  | 'B' :: rest => some (.anchor .notWordBoundary, rest)
  | '<' :: rest => some (.anchor .wordStart, rest)
  | '>' :: rest => some (.anchor .wordEnd, rest)
  | c :: rest => if isEscapable c then some (.char c false, rest) else none

/-! ## Bracketed classes -/

/-- The union of items, which is the item itself when there is one. -/
def unionOf : List ClassSet → ClassSet
  | [] => .empty
  | [item] => item
  | items => .union items

/-- A set with the operation that waits for its right side applied. -/
def finishSet (pending : Option (SetOperation × ClassSet)) (items : List ClassSet) : ClassSet :=
  match pending with
  | none => unionOf items.reverse
  | some (kind, left) => .operation kind left (unionOf items.reverse)

/-- An ASCII class after its first bracket, if the text has the form of one and its name is
known. -/
def readAsciiClass? (text : List Char) : Option (ClassSet × List Char) := do
  let rest ← match text with
    | ':' :: rest => some rest
    | _ => none
  let (negated, rest) := match rest with
    | '^' :: rest => (true, rest)
    | rest => (false, rest)
  let name := rest.takeWhile (· ≠ ':')
  match rest.dropWhile (· ≠ ':') with
  | ':' :: ']' :: rest => do
    let kind ← AsciiClass.ofName? (String.ofList name)
    some (.asciiClass kind negated, rest)
  | _ => none

/-- One escape or character inside brackets. -/
def readClassAtom (extended : Bool) : List Char → Option (Atom × List Char)
  | [] => none
  | '\\' :: rest => readEscape extended rest
  | c :: rest => some (.char c false, rest)

/-- The item that an atom stands for inside brackets; a condition is none. -/
def classItem? : Atom → Option ClassSet
  | .char c twoDigit => some (.char c twoDigit)
  | .letterClass kind negated => some (.letterClass kind negated)
  | .property query negated => some (.property query negated)
  | .anchor _ => none

/-- The character behind the next one, over blanks in extended mode. A comment hides its sign and
the blanks behind the sign. -/
def peekBehind (extended : Bool) : List Char → Option Char
  | [] => none
  | _ :: rest =>
    if extended then
      match rest.dropWhile (whiteSpace.holds ·.toNat) with
      | [] => rest.head?
      | '#' :: inside =>
        match inside.dropWhile (whiteSpace.holds ·.toNat) with
        | [] => rest.head?
        | c :: _ => some c
      | c :: _ => some c
    else rest.head?

/-- A single item or a range of characters. A hyphen before the closing bracket or before another
hyphen makes no range. -/
def readClassRange (extended : Bool) (text : List Char) : Option (ClassSet × List Char) := do
  let (first, rest) ← readClassAtom extended text
  let rest := skip extended rest
  match rest with
  | [] => none
  | '-' :: behind =>
    let next := peekBehind extended rest
    if next = some ']' ∨ next = some '-' then
      some (← classItem? first, rest)
    else
      match skip extended behind with
      | [] => none
      | text => do
        let (last, rest) ← readClassAtom extended text
        match first, last with
        | .char low lowTwoDigit, .char high highTwoDigit =>
          if low ≤ high then some (.range low high lowTwoDigit highTwoDigit, rest) else none
        | _, _ => none
  | _ => some (← classItem? first, rest)

/-- The hyphens and the closing bracket that stand for themselves at the start of a class. -/
def readClassStart (extended : Bool) (items : List ClassSet) :
    Nat → List Char → Option (List ClassSet × List Char)
  | 0, _ => none
  | fuel + 1, text =>
    match text with
    | [] => none
    | '-' :: rest =>
      readClassStart extended (.char '-' false :: items) fuel (skip extended rest)
    | ']' :: rest =>
      if items.isEmpty then
        match skip extended rest with
        | [] => none
        | rest => some ([.char ']' false], rest)
      else some (items, text)
    | _ => some (items, text)

mutual

/-- A class after its opening bracket. -/
def readClass (extended : Bool) : Nat → List Char → Option (Bool × ClassSet × List Char)
  | 0, _ => none
  | fuel + 1, text => do
    let text := skip extended text
    let (negated, text) := match text with
      | '^' :: rest => (true, skip extended rest)
      | text => (false, text)
    let (items, rest) ← readClassStart extended [] (text.length + 1) text
    let (set, rest) ← readClassItems extended fuel none items rest
    some (negated, set, rest)

/-- The items of a class up to its closing bracket, with the items read so far in reverse. -/
def readClassItems (extended : Bool) :
    Nat → Option (SetOperation × ClassSet) → List ClassSet → List Char →
      Option (ClassSet × List Char)
  | 0, _, _, _ => none
  | fuel + 1, pending, items, text =>
    match skip extended text with
    | [] => none
    | ']' :: rest => some (finishSet pending items, rest)
    | '[' :: rest =>
      match readAsciiClass? rest with
      | some (item, rest) => readClassItems extended fuel pending (item :: items) rest
      | none => do
        let (negated, set, rest) ← readClass extended fuel rest
        readClassItems extended fuel pending (.bracketed negated set :: items) rest
    | '&' :: '&' :: rest =>
      readClassItems extended fuel (some (.intersection, finishSet pending items)) [] rest
    | '-' :: '-' :: rest =>
      readClassItems extended fuel (some (.difference, finishSet pending items)) [] rest
    | '~' :: '~' :: rest =>
      readClassItems extended fuel (some (.symmetricDifference, finishSet pending items)) [] rest
    | text => do
      let (item, rest) ← readClassRange extended text
      readClassItems extended fuel pending (item :: items) rest

end

/-! ## Repetitions -/

def greatestCount : Nat := 4294967295

/-- A decimal number with blanks around it. It fits 32 bits. -/
def readCount (extended : Bool) (text : List Char) : Option Nat × List Char :=
  let rec digits : Nat → List Char → List Char × List Char
    | 0, text => ([], text)
    | fuel + 1, text =>
      match text with
      | [] => ([], [])
      | c :: rest =>
        if c.isDigit then
          let (more, rest) := digits fuel (skip extended rest)
          (c :: more, rest)
        else ([], text)
  let isBlank (c : Char) : Bool := whiteSpace.holds c.toNat
  let (found, rest) := digits (text.length + 1) (text.dropWhile isBlank)
  let rest := if rest.head?.any isBlank then skip extended (rest.dropWhile isBlank) else rest
  let value := found.foldl (fun n c => 10 * n + (c.toNat - '0'.toNat)) 0
  (if found.isEmpty ∨ greatestCount < value then none else some value, rest)

/-- The counts of a repetition after its opening brace. -/
def readCounts (extended : Bool) (text : List Char) : Option (Nat × Option Nat × List Char) := do
  let (least, rest) := readCount extended (skip extended text)
  let least ← least
  match rest with
  | '\x7d' :: rest => some (least, some least, rest)
  | ',' :: rest =>
    match skip extended rest with
    | '\x7d' :: rest => some (least, none, rest)
    | rest =>
      let (most, rest) := readCount extended rest
      let most ← most
      match rest with
      | '\x7d' :: rest => if least ≤ most then some (least, some most, rest) else none
      | _ => none
  | _ => none

def isRepeatable : Pattern → Bool
  | .empty | .setFlags _ => false
  | _ => true

/-- Whether a question mark makes a repetition prefer few turns, and the text behind the mark. -/
def readLazy : List Char → Bool × List Char
  | '?' :: rest => (true, rest)
  | rest => (false, rest)

/-! ## Groups -/

def flag? : Char → Option Flag
  | 'i' => some .caseInsensitive
  | 'm' => some .multiLine
  | 's' => some .dotMatchesNewline
  | 'U' => some .swapGreed
  | 'u' => some .unicode
  | 'R' => some .crlf
  | 'x' => some .extended
  | _ => none

/-- Flags up to a colon or closing bracket, which stays in the text. The flags behind a hyphen are
turned off; there is at most one hyphen, and a flag follows it. -/
def readFlags (changes : FlagChanges) (negated : Bool) :
    List Char → Option (FlagChanges × List Char)
  | [] => none
  | ':' :: rest => some (changes.reverse, ':' :: rest)
  | ')' :: rest => some (changes.reverse, ')' :: rest)
  | '-' :: rest =>
    if negated then none
    else match rest with
      | ':' :: _ => none
      | ')' :: _ => none
      | rest => readFlags changes true rest
  | c :: rest => do
    let flag ← flag? c
    if (changes.find? flag).isSome then none
    else readFlags ((flag, !negated) :: changes) negated rest

/-- Whether a character can be at the given place of a group name. -/
def isNameChar (c : Char) (first : Bool) : Bool :=
  c = '_' || alphabetic.holds c.toNat ||
    (!first && (c = '.' || c = '[' || c = ']' || numbers.holds c.toNat))

/-- The name of a group up to its closing angle. -/
def readName (text : List Char) : Option (String × List Char) :=
  let name := text.takeWhile (· ≠ '>')
  match text.dropWhile (· ≠ '>'), name with
  | '>' :: rest, first :: others =>
    if isNameChar first true && others.all (isNameChar · false) then
      some (String.ofList name, rest)
    else none
  | _, _ => none

/-- What an opening bracket begins. -/
inductive Opening where
  | setFlags (changes : FlagChanges)
  | group (changes : FlagChanges)
  | capture
  | namedCapture (name : String)

/-- The text behind an opening bracket up to the body of the group. -/
def readOpening (extended : Bool) (text : List Char) : Option (Opening × List Char) :=
  match skip extended text with
  | '?' :: '=' :: _ => none
  | '?' :: '!' :: _ => none
  | '?' :: '<' :: '=' :: _ => none
  | '?' :: '<' :: '!' :: _ => none
  | '?' :: 'P' :: '<' :: rest =>
    (readName rest).map fun (name, rest) => (.namedCapture name, rest)
  | '?' :: '<' :: rest =>
    (readName rest).map fun (name, rest) => (.namedCapture name, rest)
  | '?' :: rest => do
    let (changes, rest) ← readFlags [] false rest
    match rest with
    | ')' :: rest => if changes.isEmpty then none else some (.setFlags changes, rest)
    | _ :: rest => some (.group changes, rest)
    | [] => none
  | rest => some (.capture, rest)

/-! ## Patterns -/

/-- The pattern of parts in a row, which is the part itself when there is one. -/
def concatOf : List Pattern → Pattern
  | [] => .empty
  | [part] => part
  | parts => .concat parts

def alternationOf : List Pattern → Pattern
  | [branch] => branch
  | branches => .alternation branches

/-- Where reading stands: the mode and the names of groups so far, and the rest of the text. -/
structure Place where
  extended : Bool
  names : List String
  rest : List Char

def repeatLast? (least : Nat) (most : Option Nat) (isLazy : Bool) :
    List Pattern → Option (List Pattern)
  | [] => none
  | last :: parts =>
    if isRepeatable last then some (.repetition last least most isLazy :: parts) else none

mutual

/-- The branches of a group or of the whole pattern, up to a closing bracket or the end. -/
def readBranches : Nat → Place → Option (List Pattern × Place)
  | 0, _ => none
  | fuel + 1, place => do
    let (branch, place) ← readParts fuel [] place
    match place.rest with
    | '|' :: rest => do
      let (branches, place) ← readBranches fuel { place with rest }
      some (branch :: branches, place)
    | _ => some ([branch], place)

/-- The body of a group and the place behind its closing bracket. -/
def readGroup : Nat → Place → Option (Pattern × Place)
  | 0, _ => none
  | fuel + 1, place => do
    let (branches, place) ← readBranches fuel place
    match place.rest with
    | ')' :: rest => some (alternationOf branches, { place with rest })
    | _ => none

/-- The parts of a branch, with the parts read so far in reverse. -/
def readParts : Nat → List Pattern → Place → Option (Pattern × Place)
  | 0, _, _ => none
  | fuel + 1, parts, place =>
    match skip place.extended place.rest with
    | [] => some (concatOf parts.reverse, { place with rest := [] })
    | '|' :: rest => some (concatOf parts.reverse, { place with rest := '|' :: rest })
    | ')' :: rest => some (concatOf parts.reverse, { place with rest := ')' :: rest })
    | '(' :: rest => do
      match ← readOpening place.extended rest with
      | (.setFlags changes, rest) =>
        let extended := (changes.find? .extended).getD place.extended
        readParts fuel (.setFlags changes :: parts) { place with extended, rest }
      | (.group changes, rest) => do
        let extended := (changes.find? .extended).getD place.extended
        let (body, behind) ← readGroup fuel { place with extended, rest }
        readParts fuel (.group changes body :: parts) { behind with extended := place.extended }
      | (.capture, rest) => do
        let (body, behind) ← readGroup fuel { place with rest }
        readParts fuel (.capture body :: parts) { behind with extended := place.extended }
      | (.namedCapture name, rest) => do
        if place.names.contains name then none
        else
          let (body, behind) ← readGroup fuel { place with names := name :: place.names, rest }
          readParts fuel (.capture body :: parts) { behind with extended := place.extended }
    | '[' :: rest => do
      let (negated, set, rest) ← readClass place.extended fuel rest
      readParts fuel (.bracketed negated set :: parts) { place with rest }
    | '?' :: rest => do
      let (isLazy, rest) := readLazy rest
      readParts fuel (← repeatLast? 0 (some 1) isLazy parts) { place with rest }
    | '*' :: rest => do
      let (isLazy, rest) := readLazy rest
      readParts fuel (← repeatLast? 0 none isLazy parts) { place with rest }
    | '+' :: rest => do
      let (isLazy, rest) := readLazy rest
      readParts fuel (← repeatLast? 1 none isLazy parts) { place with rest }
    | '\x7b' :: rest => do
      let (least, most, rest) ← readCounts place.extended rest
      let (isLazy, rest) := readLazy (skip place.extended rest)
      readParts fuel (← repeatLast? least most isLazy parts) { place with rest }
    | '\\' :: rest => do
      let (atom, rest) ← readEscape place.extended rest
      readParts fuel (.atom atom :: parts) { place with rest }
    | '.' :: rest => readParts fuel (.dot :: parts) { place with rest }
    | '^' :: rest => readParts fuel (.atom (.anchor .lineStart) :: parts) { place with rest }
    | '$' :: rest => readParts fuel (.atom (.anchor .lineEnd) :: parts) { place with rest }
    | c :: rest => readParts fuel (.atom (.char c false) :: parts) { place with rest }

end

/-- The tree of a pattern. Every step of reading takes a character or enters a group, so twice the
length of the text is fuel enough. -/
def Pattern.parse? (extended : Bool) (text : String) : Option Pattern := do
  let chars := text.toList
  let (branches, place) ← readBranches (2 * chars.length + 2) ⟨extended, [], chars⟩
  let pattern := alternationOf branches
  if place.rest.isEmpty ∧ pattern.depth ≤ Pattern.maxDepth then some pattern else none

end Pushdown.Regex
