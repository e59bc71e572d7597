/-!
# Regular expressions as trees

The tree follows the text of a pattern and keeps what the text says before any flag is applied.
Flags that a group sets hold for its body; flags set in the middle hold up to the end of the group
around them. The depth of a tree is bounded, and so is every count of a repetition.
-/

namespace Pushdown.Regex

/-- A flag that changes how the pattern behind it is read or what it means. -/
inductive Flag where
  | caseInsensitive
  | multiLine
  | dotMatchesNewline
  | swapGreed
  | unicode
  | crlf
  | extended
deriving DecidableEq, Repr

/-- Flags turned on or off, each at most once. -/
abbrev FlagChanges := List (Flag × Bool)

def FlagChanges.find? (changes : FlagChanges) (flag : Flag) : Option Bool :=
  (List.find? (fun change => change.1 == flag) changes).map (·.2)

/-- A condition on a position that takes no character. -/
inductive Anchor where
  | lineStart
  | lineEnd
  | textStart
  | textEnd
  | wordBoundary
  | notWordBoundary
  | wordStart
  | wordEnd
  | wordStartHalf
  | wordEndHalf
deriving DecidableEq, Repr

/-- The classes with a one-letter escape. -/
inductive LetterClass where
  | digit
  | space
  | word
deriving DecidableEq, Repr

/-- The classes with a name between colons. -/
inductive AsciiClass where
  | alnum
  | alpha
  | ascii
  | blank
  | cntrl
  | digit
  | graph
  | lower
  | print
  | punct
  | space
  | upper
  | word
  | xdigit
deriving DecidableEq, Repr

def AsciiClass.ofName? (name : String) : Option AsciiClass :=
  if name = "alnum" then some .alnum
  else if name = "alpha" then some .alpha
  else if name = "ascii" then some .ascii
  else if name = "blank" then some .blank
  else if name = "cntrl" then some .cntrl
  else if name = "digit" then some .digit
  else if name = "graph" then some .graph
  else if name = "lower" then some .lower
  else if name = "print" then some .print
  else if name = "punct" then some .punct
  else if name = "space" then some .space
  else if name = "upper" then some .upper
  else if name = "word" then some .word
  else if name = "xdigit" then some .xdigit
  else none

/-- A Unicode class as it is asked for: by one name, or by a property and its value. -/
inductive PropertyQuery where
  | named (name : List Char)
  | valued (property value : List Char)
deriving DecidableEq, Repr

/-- A part of a pattern that stands for itself, a class of characters, or a condition. -/
inductive Atom where
  /-- A character. `twoDigit` tells that it was written as `\x` and two digits. -/
  | char (c : Char) (twoDigit : Bool)
  | anchor (a : Anchor)
  | letterClass (kind : LetterClass) (negated : Bool)
  | property (query : PropertyQuery) (negated : Bool)
deriving DecidableEq, Repr

/-- The operations between the sets of a bracketed class. -/
inductive SetOperation where
  | intersection
  | difference
  | symmetricDifference
deriving DecidableEq, Repr

/-- What stands between the brackets of a class. -/
inductive ClassSet where
  | empty
  | char (c : Char) (twoDigit : Bool)
  | range (low high : Char) (lowTwoDigit highTwoDigit : Bool)
  | asciiClass (kind : AsciiClass) (negated : Bool)
  | letterClass (kind : LetterClass) (negated : Bool)
  | property (query : PropertyQuery) (negated : Bool)
  | union (items : List ClassSet)
  | bracketed (negated : Bool) (set : ClassSet)
  | operation (kind : SetOperation) (left right : ClassSet)

inductive Pattern where
  | empty
  | setFlags (changes : FlagChanges)
  | atom (a : Atom)
  | dot
  | bracketed (negated : Bool) (set : ClassSet)
  /-- Turns of a pattern. A repetition that is marked as lazy prefers few of them. -/
  | repetition (body : Pattern) (least : Nat) (most : Option Nat) (isLazy : Bool)
  /-- A group that only sets flags for its body. -/
  | group (changes : FlagChanges) (body : Pattern)
  /-- A group whose part of the text is kept. -/
  | capture (body : Pattern)
  | concat (parts : List Pattern)
  | alternation (branches : List Pattern)

mutual

def ClassSet.depth : ClassSet → Nat
  | .union items => ClassSet.depthItems items + 1
  | .bracketed _ set => ClassSet.depth set + 1
  | .operation _ left right => max (ClassSet.depth left) (ClassSet.depth right) + 1
  | _ => 0

def ClassSet.depthItems : List ClassSet → Nat
  | [] => 0
  | item :: rest => max (ClassSet.depth item) (ClassSet.depthItems rest)

end

mutual

/-- The nesting of a pattern. Single characters, escapes and flags do not count. -/
def Pattern.depth : Pattern → Nat
  | .bracketed _ set => set.depth + 1
  | .repetition body .. => Pattern.depth body + 1
  | .group _ body => Pattern.depth body + 1
  | .capture body => Pattern.depth body + 1
  | .concat parts => Pattern.depthParts parts + 1
  | .alternation branches => Pattern.depthParts branches + 1
  | _ => 0

def Pattern.depthParts : List Pattern → Nat
  | [] => 0
  | part :: rest => max (Pattern.depth part) (Pattern.depthParts rest)

end

/-- The greatest nesting that a pattern may have. -/
def Pattern.maxDepth : Nat := 250

end Pushdown.Regex
