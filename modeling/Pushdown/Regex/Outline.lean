import Pushdown.Regex.Program

/-!
# Outlines

The outline of a program is what an automaton for it is built from. Parts are joined as far as the
shape of the program allows: characters in a row become a text, alternatives that are all characters
become a set, alternatives that begin alike share their beginning, and a repetition of what takes no
character shrinks to at most one turn. The texts that match stay the same.
-/

namespace Pushdown.Regex

open Pushdown.Unicode

inductive Outline where
  | empty
  | look (condition : Look)
  /-- A text of one character or more. -/
  | text (chars : List Char)
  /-- A set of characters in ascending ranges, none or more than one character. -/
  | set (ranges : Ranges)
  | concat (parts : List Outline)
  | alternation (branches : List Outline)
  | repetition (body : Outline) (least : Nat) (most : Option Nat) (isLazy : Bool)
  | capture (body : Outline)
deriving Inhabited

namespace Outline

/-! ## Properties -/

mutual

/-- Whether all matches are empty. -/
def takesNothing : Outline → Bool
  | .empty | .look _ => true
  | .text _ | .set _ => false
  | .concat parts => allTakeNothing parts
  | .alternation branches => allTakeNothing branches
  | .repetition body .. => takesNothing body
  | .capture body => takesNothing body

def allTakeNothing : List Outline → Bool
  | [] => true
  | part :: rest => takesNothing part && allTakeNothing rest

end

mutual

/-- Whether two outlines are alike. No capture is like another one. -/
def same : Outline → Outline → Bool
  | .empty, .empty => true
  | .look a, .look b => a == b
  | .text a, .text b => a == b
  | .set a, .set b => a == b
  | .concat as, .concat bs => allSame as bs
  | .alternation as, .alternation bs => allSame as bs
  | .repetition a least most isLazy, .repetition b least' most' isLazy' =>
    least == least' && most == most' && isLazy == isLazy' && same a b
  | _, _ => false

def allSame : List Outline → List Outline → Bool
  | [], [] => true
  | a :: as, b :: bs => same a b && allSame as bs
  | _, _ => false

end

/-! ## Joining -/

/-- The outline of a set. A single character is a text. -/
def ofRanges (ranges : Ranges) : Outline :=
  match ranges with
  | [(low, high)] => if low = high then .text [Char.ofNat low] else .set ranges
  | _ => .set ranges

/-- A part in front of parts in a row. Texts side by side become one. -/
def join (part : Outline) (parts : List Outline) : List Outline :=
  match part, parts with
  | .empty, parts => parts
  | .text front, .text back :: rest => .text (front ++ back) :: rest
  | part, parts => part :: parts

/-- The parts of a part that is itself parts in a row. -/
def partsOf : Outline → List Outline
  | .concat parts => parts
  | part => [part]

def ofParts (parts : List Outline) : Outline :=
  match (parts.flatMap partsOf).foldr join [] with
  | [] => .empty
  | [part] => part
  | parts => .concat parts

/-- The branches of a branch that is itself an alternation. -/
def branchesOf : Outline → List Outline
  | .alternation branches => branches
  | branch => [branch]

/-- The range of a text of one character. -/
def singleRange? : Outline → Option Ranges
  | .text [c] => some [(c.toNat, c.toNat)]
  | _ => none

def setRanges? : Outline → Option Ranges
  | .set ranges => some ranges
  | _ => none

/-- Branches as one set, if all are characters or all are sets. -/
def unionOf? (branches : List Outline) : Option Outline :=
  ((branches.mapM singleRange?).or (branches.mapM setRanges?)).map fun ranges =>
    ofRanges (Ranges.ordered ranges.flatten)

/-- Branches as alternatives, apart from what they begin with. -/
def ofBranchesApart (branches : List Outline) : Outline :=
  match branches.flatMap branchesOf with
  | [branch] => branch
  | branches => (unionOf? branches).getD (.alternation branches)

def commonPrefix : List Outline → List Outline → List Outline
  | a :: as, b :: bs => if same a b then a :: commonPrefix as bs else []
  | _, _ => []

/-- The parts of branches that are all parts in a row. -/
def rows? (branches : List Outline) : Option (List (List Outline)) :=
  branches.mapM fun branch => match branch with
    | .concat parts => some parts
    | _ => none

/-- Branches as alternatives. If all are parts in a row with a common beginning, it stands once in
front of them. -/
def ofBranches (branches : List Outline) : Outline :=
  match rows? (branches.flatMap branchesOf) with
  | some (first :: second :: rest) =>
    let shared := (second :: rest).foldl commonPrefix first
    if shared.isEmpty then ofBranchesApart branches
    else
      let tails := (first :: second :: rest).map fun row => ofParts (row.drop shared.length)
      ofParts (shared ++ [ofBranchesApart tails])
  | _ => ofBranchesApart branches

/-- Turns of an outline. Turns that take no character are all alike, so one of them is enough. -/
def repeated (body : Outline) (least : Nat) (most : Option Nat) (isLazy : Bool) : Outline :=
  let (least, most) :=
    if body.takesNothing then (min least 1, some (min (most.getD 1) 1)) else (least, most)
  if least = 0 ∧ most = some 0 then .empty
  else if least = 1 ∧ most = some 1 then body
  else .repetition body least most isLazy

/-- Ranges without the code points that are no characters. -/
def characters (ranges : Ranges) : Ranges :=
  ranges.intersection [(0, 0xd7ff), (0xe000, 0x10ffff)]

end Outline

mutual

def Program.outline : Program → Outline
  | .empty => .empty
  | .set chars => .ofRanges (Outline.characters chars.ranges)
  | .look condition => .look condition
  | .concat parts => .ofParts (Program.outlines parts)
  | .alternation branches => .ofBranches (Program.outlines branches)
  | .repetition body least most isLazy => .repeated (Program.outline body) least most isLazy
  | .capture body => .capture (Program.outline body)

def Program.outlines : List Program → List Outline
  | [] => []
  | part :: rest => Program.outline part :: Program.outlines rest

end

end Pushdown.Regex
