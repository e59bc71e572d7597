import Pushdown.Regex.Automaton
import Pushdown.Regex.Outline

/-!
# Sizes of programs

A program is meant for two automata: one reads a text forwards and finds where a match ends, the
other reads it backwards and finds where the match begins. A program is refused if one of them would
be too large. Only the automaton that reads forwards keeps captures.
-/

namespace Pushdown.Regex

namespace Outline

/-! ## Lengths -/

mutual

/-- The least number of characters that a match takes; `none` if a part can never match. -/
def leastLength? : Outline → Option Nat
  | .empty | .look _ => some 0
  | .text chars => some chars.length
  | .set ranges => if ranges.isEmpty then none else some 1
  | .concat parts => do some (← leastLengths? parts).sum
  | .alternation branches => do (← leastLengths? branches).min?
  | .repetition body least _ _ => do some ((← leastLength? body) * least)
  | .capture body => leastLength? body

def leastLengths? : List Outline → Option (List Nat)
  | [] => some []
  | part :: rest => do some ((← leastLength? part) :: (← leastLengths? rest))

end

mutual

/-- Whether every match stands at the edge of the text at which an automaton begins to read, as far
as the shape of the outline tells. -/
def isAnchored (direction : Direction) : Outline → Bool
  | .look condition => condition == (if direction = .forwards then .textStart else .textEnd)
  | .concat parts =>
    let edges := anchors direction parts
    let edges := if direction = .forwards then edges else edges.reverse
    let behind := edges.dropWhile fun (anchored, isEmpty) => isEmpty && !anchored
    behind.head?.any (·.1)
  | .alternation branches => (anchors direction branches).all (·.1)
  | .repetition body least _ _ => 0 < least && isAnchored direction body
  | .capture body => isAnchored direction body
  | .empty | .text _ | .set _ => false

/-- For each outline, whether it is anchored and whether it takes nothing. -/
def anchors (direction : Direction) : List Outline → List (Bool × Bool)
  | [] => []
  | part :: rest => (isAnchored direction part, part.takesNothing) :: anchors direction rest

end

/-! ## Automata -/

def text? : Outline → Option (List Char)
  | .text chars => some chars
  | _ => none

mutual

def part (direction : Direction) : Outline → AutomatonPart
  | .empty | .look _ => .ofStates 1 0
  | .text chars => .ofText chars
  | .set ranges => .ofRanges direction ranges
  | .concat outlines => .inOrder direction (parts direction outlines)
  | .alternation branches =>
    match branches.mapM text? with
    | some texts => .ofTexts direction texts
    | none => .choice (parts direction branches)
  | .repetition body least most _ =>
    let turn := part direction body
    match most with
    | none => turn.atLeast least ((leastLength? body).any (0 < ·))
    | some most =>
      if least = 0 ∧ most = 1 then turn.optional
      else if least = most then turn.copies least
      else turn.between least (most - least)
  | .capture body =>
    let inside := part direction body
    if direction = .forwards then inside.captured else inside

def parts (direction : Direction) : List Outline → List AutomatonPart
  | [] => []
  | outline :: rest => part direction outline :: parts direction rest

end

/-- What stands in front of the part that matches: a state if all matches stand at the edge of the
text, and otherwise states that skip any number of bytes. -/
def lead (direction : Direction) (outline : Outline) : AutomatonPart :=
  if outline.isAnchored direction then .ofStates 1 0
  else (AutomatonPart.ofStates 2 Automaton.rangeBytes).atLeast 0 true

/-- The automaton for an outline. The one that reads forwards keeps where the whole match begins and
ends, and both have a state for a match. -/
def automaton (direction : Direction) (outline : Outline) : Automaton :=
  let inside := outline.part direction
  let whole := if direction = .forwards then inside.captured else inside
  (AutomatonPart.row [outline.lead direction, whole, .ofStates 1 0]).grow .empty

end Outline

/-- Whether both automata of a program are small enough. -/
def Program.isAdmitted (program : Program) : Bool :=
  let outline := program.outline
  [Direction.forwards, .backwards].all fun direction =>
    (outline.automaton direction).bytes ≤ Automaton.maxBytes

end Pushdown.Regex
