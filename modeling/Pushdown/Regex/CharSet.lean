import Pushdown.Regex.Syntax
import Pushdown.Unicode.Age
import Pushdown.Unicode.CaseFolding
import Pushdown.Unicode.Category
import Pushdown.Unicode.GraphemeBreak
import Pushdown.Unicode.Property
import Pushdown.Unicode.Script
import Pushdown.Unicode.SentenceBreak
import Pushdown.Unicode.WordBreak

/-!
# Sets of characters

A set is kept as the expression that describes it, and membership is decided by evaluating the
expression. Case folding closes a set under the letters that fold together; it comes before
negation, so a negated class excludes every case of its letters.
-/

namespace Pushdown.Regex

open Pushdown.Unicode

inductive CharSet where
  | table (ranges : Ranges)
  | union (left right : CharSet)
  | intersection (left right : CharSet)
  | difference (left right : CharSet)
  | symmetricDifference (left right : CharSet)
  | complement (set : CharSet)
  /-- The letters that fold together with a member. -/
  | folded (set : CharSet)
  /-- The members and the ASCII letters of the other case. -/
  | asciiFolded (set : CharSet)
deriving Inhabited

namespace CharSet

/-- The ASCII letter of the other case; any other code point stays. -/
def otherCase (c : Nat) : Nat :=
  if 65 ≤ c ∧ c ≤ 90 then c + 32 else if 97 ≤ c ∧ c ≤ 122 then c - 32 else c

def holds : CharSet → Nat → Bool
  | .table ranges, c => ranges.holds c
  | .union left right, c => left.holds c || right.holds c
  | .intersection left right, c => left.holds c && right.holds c
  | .difference left right, c => left.holds c && !right.holds c
  | .symmetricDifference left right, c => left.holds c != right.holds c
  | .complement set, c => !set.holds c
  | .folded set, c => (foldOrbit c).any set.holds
  | .asciiFolded set, c => set.holds c || set.holds (otherCase c)

def empty : CharSet := .table []

def single (c : Char) : CharSet := .table [(c.toNat, c.toNat)]

/-- The set of all characters but the given ones. -/
def allBut (cs : List Char) : CharSet :=
  .complement (.table (cs.map fun c => (c.toNat, c.toNat)))

/-- The ASCII letters of the other case for the members in some ranges. -/
def otherCases (ranges : Ranges) : Ranges :=
  ((List.range 128).filter fun c => ranges.holds (otherCase c)).map fun c => (c, c)

/-- The code points that fold together with a member of some ranges. -/
def foldedWith (ranges : Ranges) : Ranges :=
  (foldGroups.filter fun group => group.any ranges.holds).flatMap fun group =>
    group.map fun c => (c, c)

/-- The members of a set in ascending ranges that do not touch. -/
def ranges : CharSet → Ranges
  | .table ranges => ranges.ordered
  | .union left right => left.ranges.union right.ranges
  | .intersection left right => left.ranges.intersection right.ranges
  | .difference left right => left.ranges.intersection right.ranges.complement
  | .symmetricDifference left right =>
    (left.ranges.intersection right.ranges.complement).union
      (right.ranges.intersection left.ranges.complement)
  | .complement set => set.ranges.complement
  | .folded set =>
    let members := set.ranges
    members.union (foldedWith members).ordered
  | .asciiFolded set =>
    let members := set.ranges
    members.union (otherCases members).ordered

def ofAsciiClass : AsciiClass → CharSet
  | .alnum => .table [(48, 57), (65, 90), (97, 122)]
  | .alpha => .table [(65, 90), (97, 122)]
  | .ascii => .table [(0, 127)]
  | .blank => .table [(9, 9), (32, 32)]
  | .cntrl => .table [(0, 31), (127, 127)]
  | .digit => .table [(48, 57)]
  | .graph => .table [(33, 126)]
  | .lower => .table [(97, 122)]
  | .print => .table [(32, 126)]
  | .punct => .table [(33, 47), (58, 64), (91, 96), (123, 126)]
  | .space => .table [(9, 13), (32, 32)]
  | .upper => .table [(65, 90)]
  | .word => .table [(48, 57), (65, 90), (95, 95), (97, 122)]
  | .xdigit => .table [(48, 57), (65, 70), (97, 102)]

/-- The word characters: letters, marks, decimal digits, connectors and joiners. -/
def wordRanges : Ranges :=
  alphabetic ++ marks ++ decimalNumbers ++ connectors ++ joinControls

/-- The members of a class with a one-letter escape, among all characters. -/
def ofLetterClass : LetterClass → CharSet
  | .digit => .table decimalNumbers
  | .space => .table whiteSpace
  | .word => .table wordRanges

/-- The members of a class with a one-letter escape, among ASCII. -/
def ofAsciiLetterClass : LetterClass → CharSet
  | .digit => ofAsciiClass .digit
  | .space => ofAsciiClass .space
  | .word => ofAsciiClass .word

/-- A name as it is compared: ASCII only, in lower case, without blanks, underscores, hyphens and
a leading `is`. The name `isc` keeps its first letters. -/
def looseName (name : List Char) : String :=
  let isPrefixed := match name with
    | a :: b :: _ => a.toLower = 'i' && b.toLower = 's'
    | _ => false
  let body := if isPrefixed then name.drop 2 else name
  let kept := (body.filter fun c => c ≠ ' ' && c ≠ '_' && c ≠ '-' && c.toNat < 128).map Char.toLower
  if isPrefixed && kept = ['c'] then "isc" else String.ofList kept

/-- The properties that a value is asked of, by their names, with the code points of a value. -/
def valuedProperties : List (List String × (String → Option Ranges)) := [
  (["generalcategory", "gc"], category?),
  (["script", "sc"], script?),
  (["scriptextensions", "scx"], scriptExtensions?),
  (["age"], age?),
  (["graphemeclusterbreak", "gcb"], graphemeBreak?),
  (["wordbreak", "wb"], wordBreak?),
  (["sentencebreak", "sb"], sentenceBreak?)]

/-- The members of a Unicode class. A name alone is looked for among the properties, the general
categories and the scripts; the category names `cf`, `sc` and `lc` are not taken for properties. -/
def ofProperty? : PropertyQuery → Option CharSet
  | .named name =>
    let name := looseName name
    let binary := if name = "cf" ∨ name = "sc" ∨ name = "lc" then none else property? name
    ((binary.or (category? name)).or (script? name)).map .table
  | .valued property value => do
    let property := looseName property
    let (_, ofValue?) ← valuedProperties.find? fun (names, _) => names.contains property
    (ofValue? (looseName value)).map .table

end CharSet

end Pushdown.Regex
