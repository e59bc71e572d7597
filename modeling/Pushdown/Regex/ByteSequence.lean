import Pushdown.Unicode.Ranges

/-!
# Code points as sequences of byte ranges

UTF-8 writes a code point as one to four bytes. A set of code points is divided into sequences of
byte ranges, such as `e2 80-8f 80-bf`, which an automaton over bytes reads one byte at a time.
Sequences are in the order of their code points, so those that begin alike are neighbours.
-/

namespace Pushdown.Regex

open Pushdown.Unicode

/-- A range of bytes at each place of a sequence. -/
abbrev ByteRanges := List (Nat × Nat)

/-- Sequences of byte ranges for the numbers from `low` to `high`, the last `count` of the bytes
holding six bits each. The first byte is counted from `lead`. -/
def byteSequences (lead : Nat) : Nat → Nat → Nat → List ByteRanges
  | 0, low, high => [[(lead + low, lead + high)]]
  | count + 1, low, high =>
    let block := Nat.pow 64 (count + 1)
    let first := low / block
    let last := high / block
    let behind (byte least greatest : Nat) : List ByteRanges :=
      (byteSequences 128 count least greatest).map ((lead + byte, lead + byte) :: ·)
    if first = last then behind first (low % block) (high % block)
    else
      let cutsFirst := low % block ≠ 0
      let cutsLast := high % block ≠ block - 1
      let start := if cutsFirst then first + 1 else first
      let stop := if cutsLast then last else last + 1
      (if cutsFirst then behind first (low % block) (block - 1) else []) ++
        (if start < stop then
          [(lead + start, lead + stop - 1) :: List.replicate (count + 1) (128, 191)]
        else []) ++
        (if cutsLast then behind last 0 (high % block) else [])

/-- The code points that UTF-8 writes with one to four bytes: the number of bytes behind the first,
the least and the greatest code point, and what the first byte begins with. No byte sequence stands
for a surrogate. -/
def encodedBlocks : List (Nat × Nat × Nat × Nat) := [
  (0, 0, 0x7f, 0), (1, 0x80, 0x7ff, 0xc0), (2, 0x800, 0xd7ff, 0xe0), (2, 0xe000, 0xffff, 0xe0),
  (3, 0x10000, 0x10ffff, 0xf0)]

/-- The sequences of byte ranges for a range of code points. -/
def utf8Sequences (range : Nat × Nat) : List ByteRanges :=
  encodedBlocks.flatMap fun (count, least, greatest, lead) =>
    let low := max range.1 least
    let high := min range.2 greatest
    if low ≤ high then byteSequences lead count low high else []

/-- The first byte ranges of sequences, each once, with what follows it. -/
def branches : List ByteRanges → List ((Nat × Nat) × List ByteRanges)
  | [] => []
  | [] :: rest => branches rest
  | (range :: tail) :: rest =>
    match branches rest with
    | (next, tails) :: others =>
      if range = next then (range, tail :: tails) :: others
      else (range, [tail]) :: (next, tails) :: others
    | [] => [(range, [tail])]

end Pushdown.Regex
