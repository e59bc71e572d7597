import Pushdown.Json.Basic

/-!
# Field paths

A path names a place inside a document by the segments between its dots. Below an object a segment
is a key. Below an array only a segment of digits leads further, to the item at that position, so
that a key never reaches through an array.
-/

namespace Pushdown

/-- The pieces of a text between the occurrences of a separator. There is always one piece. -/
def splitOn (separator : Char) : List Char → List (List Char)
  | [] => [[]]
  | c :: rest =>
    if c = separator then [] :: splitOn separator rest
    else match splitOn separator rest with
      | [] => [[c]]
      | piece :: pieces => (c :: piece) :: pieces

def joinWith (separator : String) : List String → String
  | [] => ""
  | [last] => last
  | first :: rest => first ++ separator ++ joinWith separator rest

/-- A dotted field path as its segments. -/
structure FieldPath where
  segments : List String
deriving DecidableEq, Repr

namespace FieldPath

def ofDotted (text : String) : FieldPath :=
  ⟨(splitOn '.' text.toList).map String.ofList⟩

def dotted (path : FieldPath) : String := joinWith "." path.segments

/-- A segment that can address a position of an array: one to nine digits. -/
def isIndex (segment : String) : Bool :=
  let chars := segment.toList
  !chars.isEmpty && chars.length ≤ 9 && chars.all Char.isDigit

def indexOf (segment : String) : Nat :=
  segment.toList.foldl (fun n c => 10 * n + (c.toNat - '0'.toNat)) 0

end FieldPath

namespace Json

/-- The value one segment below a value. -/
def child? (segment : String) : Json → Option Json
  | .object members => member? segment members
  | .array items => if FieldPath.isIndex segment then items[FieldPath.indexOf segment]? else none
  | _ => none

/-- The value at the end of a path, `none` where the path leads nowhere. -/
def lookup? : List String → Json → Option Json
  | [], value => some value
  | segment :: rest, value => (value.child? segment).bind (lookup? rest)

end Json

end Pushdown
