import Std.Data.TreeMap

/-!
# Tables of shared states

The states for a set of characters are shared: a state that is asked for again is not added again.
The states added so far are kept in a table with a fixed number of slots. Each state has one slot,
found by a hash of its content, and a state that comes later takes the slot over. A state that has
lost its slot is added again when it is asked for.
-/

namespace Pushdown.Regex

/-- The states that are shared, by their slots, and the number of states of the automaton so far.
The content of a state is a list of numbers. -/
structure StateTable where
  slotCount : Nat
  slots : Std.TreeMap Nat (List Nat × Nat)
  states : Nat

namespace StateTable

def ofStates (slotCount states : Nat) : StateTable := ⟨slotCount, ∅, states⟩

def hashStart : UInt64 := 0xcbf29ce484222325

def hashPrime : UInt64 := 0x100000001b3

/-- A hash of numbers: each is mixed into the bits so far, which are then multiplied by a prime. -/
def hash (content : List Nat) : UInt64 :=
  content.foldl (fun bits n => (bits ^^^ n.toUInt64) * hashPrime) hashStart

def slot (table : StateTable) (content : List Nat) : Nat :=
  (hash content).toNat % table.slotCount

def find? (table : StateTable) (content : List Nat) : Option Nat :=
  match table.slots[table.slot content]? with
  | some (kept, state) => if kept = content then some state else none
  | none => none

/-- The table with a new state, which gets the next number. -/
def add (table : StateTable) (content : List Nat) : StateTable :=
  let slot := table.slot content
  let state := table.states
  { table with slots := table.slots.insert slot (content, state), states := state + 1 }

end StateTable

end Pushdown.Regex
