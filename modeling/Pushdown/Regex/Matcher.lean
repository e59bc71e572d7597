import Pushdown.Regex.Program

/-!
# Matching

A program relates positions of a text: it leads from a position to each position at which a match
begun at the first one can end. The matcher follows all positions at once, so that it needs no
choice between ways to match and its work is bounded by the length of the text.

A text matches when the program leads from some position to some position.
-/

namespace Pushdown.Regex

/-- Positions of a text in ascending order. -/
abbrev Positions := List Nat

/-- One more position before the others, where `joined` joins the rest to what is left of them. -/
def mergeFrom (i : Nat) (joined : Positions → Positions) : Positions → Positions
  | [] => i :: joined []
  | j :: rest =>
    if i < j then i :: joined (j :: rest)
    else if i = j then i :: joined rest
    else j :: mergeFrom i joined rest

def merge : Positions → Positions → Positions
  | [], right => right
  | i :: left, right => mergeFrom i (merge left) right

/-- The character behind a position. -/
def before? (text : Array Char) (i : Nat) : Option Char := if i = 0 then none else text[i - 1]?

def isWord (unicode : Bool) (c : Char) : Bool :=
  (if unicode then CharSet.ofLetterClass .word else CharSet.ofAsciiLetterClass .word).holds c.toNat

/-- Whether a word condition holds between two sides, each of which is inside a word or not. -/
def WordCondition.holds (condition : WordCondition) (behind ahead : Bool) : Bool :=
  match condition with
  | .boundary => behind != ahead
  | .notBoundary => behind == ahead
  | .start => !behind && ahead
  | .finish => behind && !ahead
  | .startHalf => !behind
  | .finishHalf => !ahead

/-- Whether a condition holds at a position. A line ends before a newline; where carriage returns
count, it ends before either character, but not between the two of a pair. -/
def Look.holds (text : Array Char) (i : Nat) : Look → Bool
  | .textStart => i == 0
  | .textEnd => i == text.size
  | .lineStart => i == 0 || before? text i == some '\n'
  | .lineEnd => i == text.size || text[i]? == some '\n'
  | .crlfLineStart =>
    i == 0 || before? text i == some '\n' ||
      (before? text i == some '\r' && text[i]? != some '\n')
  | .crlfLineEnd =>
    i == text.size || text[i]? == some '\r' ||
      (text[i]? == some '\n' && before? text i != some '\r')
  | .word condition unicode =>
    condition.holds ((before? text i).any (isWord unicode)) (text[i]?.any (isWord unicode))

/-- The positions that a step reaches from `frontier` in any number of turns, together with the
positions `seen` before. Each turn adds a position or ends the search. -/
def closure (step : Positions → Positions) : Nat → Positions → Positions → Positions
  | 0, seen, _ => seen
  | fuel + 1, seen, frontier =>
    match (step frontier).filter (!seen.contains ·) with
    | [] => seen
    | fresh => closure step fuel (merge seen fresh) fresh

/-- The positions after exactly `count` turns of a step. Positions that a turn leaves as they are
stay so. -/
def turns (step : Positions → Positions) : Nat → Positions → Positions
  | 0, positions => positions
  | count + 1, positions =>
    let next := step positions
    if next = positions then positions else turns step count next

/-- The positions after at most `count` turns of a step. -/
def turnsUpTo (step : Positions → Positions) : Nat → Positions → Positions
  | 0, positions => positions
  | count + 1, positions =>
    let next := step positions
    if next = positions then positions else merge positions (turnsUpTo step count next)

mutual

/-- The positions that a program leads to from the given ones. -/
def Program.run (text : Array Char) : Program → Positions → Positions
  | .empty, positions => positions
  | .set chars, positions =>
    (positions.filter fun i => text[i]?.any (chars.holds ·.toNat)).map (· + 1)
  | .look condition, positions => positions.filter fun i => condition.holds text i
  | .concat parts, positions => Program.runAll text parts positions
  | .alternation branches, positions => Program.runAny text branches positions
  | .repetition body least most _, positions =>
    let step := Program.run text body
    let start := turns step least positions
    match most with
    | none => closure step (text.size + 1) start start
    | some most => turnsUpTo step (most - least) start
  | .capture body, positions => Program.run text body positions

def Program.runAll (text : Array Char) : List Program → Positions → Positions
  | [], positions => positions
  | part :: rest, positions => Program.runAll text rest (Program.run text part positions)

def Program.runAny (text : Array Char) : List Program → Positions → Positions
  | [], _ => []
  | branch :: rest, positions =>
    merge (Program.run text branch positions) (Program.runAny text rest positions)

end

def Program.matchesIn (program : Program) (text : String) : Bool :=
  let chars := text.toList.toArray
  !(program.run chars (List.range (chars.size + 1))).isEmpty

end Pushdown.Regex
