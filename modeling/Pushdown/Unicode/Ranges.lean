/-!
# Ranges of code points

A set of code points is a list of ranges. Tables write the ranges as hexadecimal words such as
`41-5a` or `aa`, with blanks and line breaks between words.
-/

namespace Pushdown.Unicode

/-- Ranges of code points, each given by its least and its greatest. -/
abbrev Ranges := List (Nat × Nat)

namespace Ranges

def holds (ranges : Ranges) (c : Nat) : Bool :=
  ranges.any fun (low, high) => low ≤ c && c ≤ high

/-- The value of a lower-case hexadecimal digit. -/
def digit (c : Char) : Nat := if c.isDigit then c.toNat - 48 else c.toNat - 87

/-- The number written by hexadecimal digits. -/
def number (digits : List Char) : Nat := digits.foldl (fun n c => 16 * n + digit c) 0

/-- The range written by a word. -/
def ofWord (word : List Char) : Nat × Nat :=
  let low := word.takeWhile (· ≠ '-')
  match word.dropWhile (· ≠ '-') with
  | _ :: high => (number low, number high)
  | [] => (number low, number low)

def isBlank (c : Char) : Bool := c = ' ' || c = '\n'

/-- The words of a text, read from its end. -/
def words (text : List Char) : List (List Char) :=
  text.foldr (fun c pieces => match pieces with
    | [] => if isBlank c then [] else [[c]]
    | piece :: rest => if isBlank c then [] :: piece :: rest else (c :: piece) :: rest) []

/-- The ranges written in a table. -/
def ofText (text : String) : Ranges :=
  ((words text.toList).filter (!·.isEmpty)).map ofWord

/-- One more range before the others in the order of their starts, where `merged` merges the rest to
what is left of them. -/
def mergeFrom (range : Nat × Nat) (merged : Ranges → Ranges) : Ranges → Ranges
  | [] => range :: merged []
  | next :: rest =>
    if range.1 ≤ next.1 then range :: merged (next :: rest)
    else next :: mergeFrom range merged rest

/-- Ranges of two lists, both with ascending starts, with ascending starts. -/
def merge : Ranges → Ranges → Ranges
  | [], right => right
  | range :: left, right => mergeFrom range (merge left) right

/-- Lists of ranges, two and two of them merged. -/
def mergePairs : List Ranges → List Ranges
  | first :: second :: rest => merge first second :: mergePairs rest
  | lists => lists

/-- All lists of ranges merged in at most `rounds` rounds. Each round halves their number. -/
def mergeAll : Nat → List Ranges → Ranges
  | 0, lists => lists.flatten
  | rounds + 1, lists =>
    match lists with
    | [] => []
    | [ranges] => ranges
    | lists => mergeAll rounds (mergePairs lists)

/-- A range and the ranges behind it, all with ascending starts, those that touch or overlap
joined. -/
def joinFrom (low high : Nat) : Ranges → Ranges
  | [] => [(low, high)]
  | (nextLow, nextHigh) :: rest =>
    if nextLow ≤ high + 1 then joinFrom low (max high nextHigh) rest
    else (low, high) :: joinFrom nextLow nextHigh rest

/-- Ranges with ascending starts, those that touch or overlap joined. -/
def join : Ranges → Ranges
  | [] => []
  | (low, high) :: rest => joinFrom low high rest

/-- The same code points in ascending ranges that do not touch. -/
def ordered (ranges : Ranges) : Ranges :=
  join (mergeAll (ranges.length + 1) (ranges.map fun range => [range]))

/-- The code points in one of two lists of ascending ranges, in ascending ranges. -/
def union (left right : Ranges) : Ranges := join (merge left right)

/-- The ranges between ascending ranges, from `start` on. -/
def gaps (start : Nat) : Ranges → Ranges
  | [] => if start ≤ 0x10ffff then [(start, 0x10ffff)] else []
  | (low, high) :: rest =>
    if start < low then (start, low - 1) :: gaps (high + 1) rest else gaps (high + 1) rest

/-- The code points outside ascending ranges. -/
def complement (ranges : Ranges) : Ranges := gaps 0 ranges

/-- The code points in both of two lists of ascending ranges. -/
def intersection (left right : Ranges) : Ranges :=
  complement (union (complement left) (complement right))

end Ranges

/-- Ranges with the names they are known by, the ranges as a table text. -/
structure NamedRanges where
  names : List String
  text : String

def NamedRanges.ranges (entry : NamedRanges) : Ranges := .ofText entry.text

def NamedRanges.find? (table : List NamedRanges) (name : String) : Option Ranges :=
  (table.find? (·.names.contains name)).map NamedRanges.ranges

end Pushdown.Unicode
