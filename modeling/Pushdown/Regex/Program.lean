import Pushdown.Regex.CharSet

/-!
# Programs of patterns

A program is a pattern with its flags applied. Characters and classes have become sets, and the
anchors have become conditions on the characters around a position. Flags pass through a pattern
from left to right, and a group gives back the flags that it was entered with.

With the Unicode flag off, classes range over ASCII only, and a class that would reach beyond it is
refused, as is the dot.
-/

namespace Pushdown.Regex

/-- The flags that bear on the meaning of a pattern. -/
structure Flags where
  caseInsensitive : Bool
  multiLine : Bool
  dotMatchesNewline : Bool
  swapGreed : Bool
  unicode : Bool
  crlf : Bool
deriving DecidableEq, Repr

def Flags.apply (flags : Flags) (changes : FlagChanges) : Flags where
  caseInsensitive := (changes.find? .caseInsensitive).getD flags.caseInsensitive
  multiLine := (changes.find? .multiLine).getD flags.multiLine
  dotMatchesNewline := (changes.find? .dotMatchesNewline).getD flags.dotMatchesNewline
  swapGreed := (changes.find? .swapGreed).getD flags.swapGreed
  unicode := (changes.find? .unicode).getD flags.unicode
  crlf := (changes.find? .crlf).getD flags.crlf

/-- A side of a position, and what must hold of it for a word to begin or end there. -/
inductive WordCondition where
  | boundary
  | notBoundary
  | start
  | finish
  | startHalf
  | finishHalf
deriving DecidableEq, Repr

/-- A condition on the characters around a position. -/
inductive Look where
  | textStart
  | textEnd
  | lineStart
  | lineEnd
  | crlfLineStart
  | crlfLineEnd
  | word (condition : WordCondition) (unicode : Bool)
deriving DecidableEq, Repr

/-- A program. Neither what a repetition prefers nor the captures bear on which texts match. -/
inductive Program where
  | empty
  | set (chars : CharSet)
  | look (condition : Look)
  | concat (parts : List Program)
  | alternation (branches : List Program)
  | repetition (body : Program) (least : Nat) (most : Option Nat) (isLazy : Bool)
  | capture (body : Program)
deriving Inhabited

/-! ## Sets of classes -/

/-- Whether a set made of ASCII sets stays inside ASCII. Such a set treats all characters beyond
ASCII alike, so one of them tells. -/
def staysAscii (set : CharSet) : Bool := !set.holds 128

/-- A set closed under case if the flag asks for it, and then negated if the class is. -/
def foldAndNegate (flags : Flags) (negated : Bool) (set : CharSet) : CharSet :=
  let closed :=
    if flags.caseInsensitive then (if flags.unicode then .folded set else .asciiFolded set)
    else set
  if negated then .complement closed else closed

/-- A set unless it must stay inside ASCII and does not. -/
def admit? (flags : Flags) (set : CharSet) : Option CharSet :=
  if flags.unicode || staysAscii set then some set else none

/-- Whether a character may stand in a class: beyond ASCII only with the Unicode flag. -/
def admitsChar (flags : Flags) (c : Char) : Bool := flags.unicode || c.toNat < 128

def letterClassSet? (flags : Flags) (kind : LetterClass) (negated : Bool) : Option CharSet :=
  let set := if flags.unicode then .ofLetterClass kind else .ofAsciiLetterClass kind
  admit? flags (if negated then .complement set else set)

def propertySet? (flags : Flags) (query : PropertyQuery) (negated : Bool) : Option CharSet := do
  let set ← CharSet.ofProperty? query
  if flags.unicode then some (foldAndNegate flags negated set) else none

mutual

/-- The set of what stands between brackets. -/
def ClassSet.charSet? (flags : Flags) : ClassSet → Option CharSet
  | .empty => some .empty
  | .char c _ => if admitsChar flags c then some (.single c) else none
  | .range low high _ _ =>
    if admitsChar flags low && admitsChar flags high then
      some (.table [(low.toNat, high.toNat)])
    else none
  | .asciiClass kind negated => admit? flags (foldAndNegate flags negated (.ofAsciiClass kind))
  | .letterClass kind negated => letterClassSet? flags kind negated
  | .property query negated => propertySet? flags query negated
  | .union items => ClassSet.charSets? flags items
  | .bracketed negated set => do
    let set ← ClassSet.charSet? flags set
    admit? flags (foldAndNegate flags negated set)
  | .operation kind left right => do
    let left := foldAndNegate flags false (← ClassSet.charSet? flags left)
    let right := foldAndNegate flags false (← ClassSet.charSet? flags right)
    match kind with
    | .intersection => some (.intersection left right)
    | .difference => some (.difference left right)
    | .symmetricDifference => some (.symmetricDifference left right)

def ClassSet.charSets? (flags : Flags) : List ClassSet → Option CharSet
  | [] => some .empty
  | item :: rest => do
    some (.union (← ClassSet.charSet? flags item) (← ClassSet.charSets? flags rest))

end

/-! ## Patterns as programs -/

/-- The program of a character. Without the Unicode flag two hexadecimal digits mean a byte, and a
byte beyond ASCII is no character. -/
def charProgram? (flags : Flags) (c : Char) (twoDigit : Bool) : Option Program :=
  if !flags.unicode && twoDigit && 128 ≤ c.toNat then none
  else some (.set (foldAndNegate flags false (.single c)))

def anchorLook (flags : Flags) : Anchor → Look
  | .lineStart =>
    if flags.multiLine then (if flags.crlf then .crlfLineStart else .lineStart) else .textStart
  | .lineEnd =>
    if flags.multiLine then (if flags.crlf then .crlfLineEnd else .lineEnd) else .textEnd
  | .textStart => .textStart
  | .textEnd => .textEnd
  | .wordBoundary => .word .boundary flags.unicode
  | .notWordBoundary => .word .notBoundary flags.unicode
  | .wordStart => .word .start flags.unicode
  | .wordEnd => .word .finish flags.unicode
  | .wordStartHalf => .word .startHalf flags.unicode
  | .wordEndHalf => .word .finishHalf flags.unicode

def atomProgram? (flags : Flags) : Atom → Option Program
  | .char c twoDigit => charProgram? flags c twoDigit
  | .anchor a => some (.look (anchorLook flags a))
  | .letterClass kind negated => (letterClassSet? flags kind negated).map .set
  | .property query negated => (propertySet? flags query negated).map .set

def dotProgram? (flags : Flags) : Option Program :=
  if !flags.unicode then none
  else if flags.dotMatchesNewline then some (.set (.allBut []))
  else if flags.crlf then some (.set (.allBut ['\n', '\r']))
  else some (.set (.allBut ['\n']))

mutual

/-- The program of a pattern and the flags behind it. -/
def Pattern.program? (flags : Flags) : Pattern → Option (Program × Flags)
  | .empty => some (.empty, flags)
  | .setFlags changes => some (.empty, flags.apply changes)
  | .atom a => (atomProgram? flags a).map fun program => (program, flags)
  | .dot => (dotProgram? flags).map fun program => (program, flags)
  | .bracketed negated set => do
    let set ← set.charSet? flags
    let set ← admit? flags (foldAndNegate flags negated set)
    some (.set set, flags)
  | .repetition body least most isLazy => do
    let (program, flags) ← Pattern.program? flags body
    some (.repetition program least most (isLazy != flags.swapGreed), flags)
  | .group changes body => do
    let (program, _) ← Pattern.program? (flags.apply changes) body
    some (program, flags)
  | .capture body => do
    let (program, _) ← Pattern.program? flags body
    some (.capture program, flags)
  | .concat parts => do
    let (programs, flags) ← Pattern.programs? flags parts
    some (.concat programs, flags)
  | .alternation branches => do
    let (programs, flags) ← Pattern.programs? flags branches
    some (.alternation programs, flags)

def Pattern.programs? (flags : Flags) : List Pattern → Option (List Program × Flags)
  | [] => some ([], flags)
  | part :: rest => do
    let (program, flags) ← Pattern.program? flags part
    let (programs, flags) ← Pattern.programs? flags rest
    some (program :: programs, flags)

end

end Pushdown.Regex
