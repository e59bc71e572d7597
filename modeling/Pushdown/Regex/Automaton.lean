import Pushdown.Regex.ByteSequence
import Pushdown.Regex.StateTable
import Pushdown.Regex.Trie

/-!
# Automata and their sizes

An automaton over bytes is known here by its size alone. It has a state for every byte and every
condition. Where it branches it has a state with a link to each way to go on. Repetitions are
written out. A set of ASCII characters is one state with its ranges, and a set that reaches beyond
ASCII is a graph of byte ranges.

An automaton reads a text forwards or backwards. Forwards, the graph of a set is built from its
ends, so byte sequences that go on alike share states. Backwards, each sequence is followed from its
lead byte, so sequences that begin alike share states.

A part of an automaton is described by what it adds. States are numbered in the order in which they
are added, and the numbers bear on which states a set shares.
-/

namespace Pushdown.Regex

open Pushdown.Unicode

/-- The way in which an automaton reads a text. -/
inductive Direction where
  | forwards
  | backwards
deriving DecidableEq, Repr

/-- The number of states, and the bytes of what states hold beside themselves. -/
structure Automaton where
  states : Nat
  held : Nat

namespace Automaton

def stateBytes : Nat := 32

def linkBytes : Nat := 4

/-- The bytes of a byte range beside others. -/
def rangeBytes : Nat := 8

/-- The greatest size of an automaton: ten mebibytes. -/
def maxBytes : Nat := 10 * 1024 * 1024

def bytes (automaton : Automaton) : Nat := automaton.states * stateBytes + automaton.held

def empty : Automaton := ⟨0, 0⟩

/-- The automaton with more states that hold some bytes. -/
def add (states held : Nat) (automaton : Automaton) : Automaton :=
  ⟨automaton.states + states, automaton.held + held⟩

/-- The automaton after a number of equal steps. The steps end when it has become too large. -/
def iterate (step : Automaton → Automaton) : Nat → Automaton → Automaton
  | 0, automaton => automaton
  | count + 1, automaton =>
    if maxBytes < automaton.bytes then automaton else iterate step count (step automaton)

end Automaton

/-- A part of an automaton: how it grows the automaton, and whether it ends in a branching state. A
branching state at the end needs one more link to whatever follows. -/
structure AutomatonPart where
  grow : Automaton → Automaton
  endsBranching : Bool

namespace AutomatonPart

open Automaton

def ofStates (states held : Nat) : AutomatonPart := ⟨add states held, false⟩

/-- The bytes of the link from the end of a part to what follows. -/
def exitBytes (part : AutomatonPart) : Nat := if part.endsBranching then linkBytes else 0

/-- Adds a part and the link from its end. -/
def growLinked (part : AutomatonPart) (automaton : Automaton) : Automaton :=
  (part.grow automaton).add 0 part.exitBytes

/-- Parts one behind the other, in the order in which they are read. -/
def row : List AutomatonPart → AutomatonPart
  | [] => ofStates 1 0
  | [part] => part
  | part :: rest =>
    let behind := row rest
    ⟨fun automaton => behind.grow (part.growLinked automaton), behind.endsBranching⟩

/-- Parts one behind the other, given in the order of the text. -/
def inOrder (direction : Direction) (parts : List AutomatonPart) : AutomatonPart :=
  row (if direction = .forwards then parts else parts.reverse)

def copies (part : AutomatonPart) : Nat → AutomatonPart
  | 0 => ofStates 1 0
  | count + 1 =>
    ⟨fun automaton => part.grow (iterate part.growLinked count automaton), part.endsBranching⟩

def optional (part : AutomatonPart) : AutomatonPart :=
  ⟨fun automaton => (part.growLinked (automaton.add 1 (2 * linkBytes))).add 1 0, false⟩

/-- At least `least` turns of a part. A part that may take nothing needs two branching states when
no turn is required: one in front of the first turn and one behind each. -/
def atLeast (part : AutomatonPart) (least : Nat) (takesSomething : Bool) : AutomatonPart :=
  match least with
  | 0 =>
    if takesSomething then ⟨fun automaton => part.growLinked (automaton.add 1 linkBytes), true⟩
    else ⟨fun automaton => (part.growLinked automaton).add 3 (4 * linkBytes), false⟩
  | least =>
    ⟨fun automaton => (iterate part.growLinked least automaton).add 1 linkBytes, true⟩

/-- A part that is required `least` times and may then follow `more` times. -/
def between (part : AutomatonPart) (least more : Nat) : AutomatonPart :=
  ⟨fun automaton =>
    iterate (fun automaton => part.growLinked (automaton.add 1 (2 * linkBytes))) more
      (((part.copies least).growLinked automaton).add 1 0), false⟩

/-- A part between two states that keep where it begins and ends. -/
def captured (part : AutomatonPart) : AutomatonPart :=
  ⟨fun automaton => (part.growLinked (automaton.add 1 0)).add 1 0, false⟩

/-- One of several alternatives. The state that branches and the one where the ways meet again are
added behind the second way. -/
def choice : List AutomatonPart → AutomatonPart
  | first :: second :: rest =>
    let way (automaton : Automaton) (part : AutomatonPart) : Automaton :=
      part.growLinked (automaton.add 0 linkBytes)
    ⟨fun automaton => rest.foldl way ((way (way automaton first) second).add 2 0), false⟩
  | parts => row parts

/-! ## Sets of characters -/

/-- The slots for the shared states of a set that is read forwards. -/
def forwardSlots : Nat := 10000

/-- The slots for the shared states of a set that is read backwards. -/
def backwardSlots : Nat := 1000

/-- A table of states together with the bytes that the states hold. -/
structure SetGraph where
  table : StateTable
  held : Nat

/-- The state for sequences of at most `depth` byte ranges that lead to the state `target`: the
states behind it first, then itself. -/
def forwardState (target : Nat) : Nat → List ByteRanges → SetGraph → Nat × SetGraph
  | 0, _, graph => (target, graph)
  | depth + 1, sequences, graph =>
    let (content, graph) := (branches sequences).foldl
      (fun (content, graph) ((low, high), tails) =>
        if tails.all (·.isEmpty) then (content ++ [low, high, target], graph)
        else
          let (next, graph) := forwardState target depth tails graph
          (content ++ [low, high, next], graph))
      (([] : List Nat), graph)
    match graph.table.find? content with
    | some state => (state, graph)
    | none =>
      (graph.table.states, {
        table := graph.table.add content
        held := graph.held + rangeBytes * (content.length / 3) })

/-- The states for sequences, read forwards: the state where they all end, and the graph that leads
to it. -/
def growForwards (sequences : List ByteRanges) (automaton : Automaton) : Automaton :=
  let target := automaton.states
  let table := StateTable.ofStates forwardSlots (target + 1)
  let (_, graph) := forwardState target 4 sequences ⟨table, automaton.held⟩
  ⟨graph.table.states, graph.held⟩

/-- The table with the states of a sequence that leads backwards to the state `target`. -/
def backwardStates (target : Nat) (sequence : ByteRanges) (table : StateTable) : StateTable :=
  (sequence.foldl
    (fun (state, table) (low, high) =>
      match table.find? [state, low, high] with
      | some state => (state, table)
      | none => (table.states, table.add [state, low, high]))
    (target, table)).2

/-- The states for sequences, read backwards: a branching state with a link for each sequence, the
state where they all end, and the states of the sequences. -/
def growBackwards (sequences : List ByteRanges) (automaton : Automaton) : Automaton :=
  let target := automaton.states + 1
  let table := sequences.foldl (fun table sequence => backwardStates target sequence table)
    (StateTable.ofStates backwardSlots (target + 1))
  ⟨table.states, automaton.held + sequences.length * linkBytes⟩

def ofRanges (direction : Direction) (ranges : Ranges) : AutomatonPart :=
  if ranges.all fun range => range.2 < 128 then ofStates 2 (rangeBytes * ranges.length)
  else
    let sequences := ranges.flatMap utf8Sequences
    match direction with
    | .forwards => ⟨growForwards sequences, false⟩
    | .backwards => ⟨growBackwards sequences, false⟩

/-! ## Texts -/

def utf8Bytes (chars : List Char) : List UInt8 := chars.flatMap String.utf8EncodeChar

def ofText (chars : List Char) : AutomatonPart := ofStates (utf8Bytes chars).length 0

/-- Adds what was added at a node, where `count` branches are still open. The open branches are one
state with a link to it, and an end closes them and takes a link. A node with branches has a
branching state of its own. -/
def growTrie (count : Nat) : Trie → Automaton → Automaton
  | .nil, automaton => closeBranches automaton
  | .stop rest, automaton => growTrie 0 rest ((closeBranches automaton).add 0 linkBytes)
  | .branch _ below rest, automaton =>
    growTrie (count + 1) rest
      (if below.isLeaf then automaton else growTrie 0 below (automaton.add 1 0))
where
  /-- Adds the state for the open branches. Only a state for several holds their bytes. -/
  closeBranches (automaton : Automaton) : Automaton :=
    match count with
    | 0 => automaton
    | 1 => automaton.add 1 linkBytes
    | count => automaton.add 1 (linkBytes + count * rangeBytes)

/-- One of several texts. They form a tree in the order in which they are read, and all end in one
state. -/
def ofTexts (direction : Direction) (texts : List (List Char)) : AutomatonPart :=
  let read (chars : List Char) : List UInt8 :=
    if direction = .forwards then utf8Bytes chars else (utf8Bytes chars).reverse
  let tree := Trie.ofTexts (texts.map read)
  ⟨fun automaton => growTrie 0 tree (automaton.add 2 0), false⟩

end AutomatonPart

end Pushdown.Regex
