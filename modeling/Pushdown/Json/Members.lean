import Pushdown.Json.Syntax

/-!
# Reading parts of a syntax tree

A format with fixed members is read from the syntax tree of its text. A member is found by its key,
and the reader of each member says what it accepts. A member may be optional, and then has a
default, or required; in both cases it must not be repeated.
-/

namespace Pushdown

namespace Syntax

/-- The members of an object with their keys, if every key has a text. -/
def keyed? : List (Option String × Syntax) → Option (List (String × Syntax))
  | [] => some []
  | (key, value) :: rest => do some ((← key, value) :: (← keyed? rest))

def valuesOf (key : String) (members : List (String × Syntax)) : List Syntax :=
  (members.filter fun member => member.1 == key).map (·.2)

/-- Reads a member that may be missing but not repeated. -/
def optional? {α : Type} (key : String) (default : α) (read : Syntax → Option α)
    (members : List (String × Syntax)) : Option α :=
  match valuesOf key members with
  | [] => some default
  | [value] => read value
  | _ => none

/-- Reads a member that must be there once. -/
def required? {α : Type} (key : String) (read : Syntax → Option α)
    (members : List (String × Syntax)) : Option α :=
  match valuesOf key members with
  | [value] => read value
  | _ => none

def text? : Syntax → Option String
  | .string text => text
  | _ => none

def bool? : Syntax → Option Bool
  | .bool b => some b
  | _ => none

/-- An integer that is not negative and fits 64 bits. -/
def natural? : Syntax → Option Nat
  | .number (some n) => n.unsigned?
  | _ => none

/-- One of several names: a string, or an object whose only member has the name and is null. -/
def name? : Syntax → Option String
  | .string text => text
  | .object [(key, .null)] => key
  | _ => none

/-- Whether a tree stands for a value and is not deeper than `room`. -/
def isGathered (room : Nat) (tree : Syntax) : Bool := tree.depth ≤ room && tree.json?.isSome

end Syntax

end Pushdown
