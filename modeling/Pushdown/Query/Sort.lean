import Pushdown.Document.Order
import Pushdown.Json.Printer
import Pushdown.Query.Basic

/-!
# Sorting documents

Documents are ordered as the store orders the values that it extracts: missing values and nulls
first, then numbers, among them the truth values as zero and one, then texts. Arrays and objects are
extracted as their JSON text. Later keys decide between documents that earlier keys leave equal, and
documents that are equal under all keys keep their order.
-/

namespace Pushdown

/-- What a document is sorted by. -/
inductive SortKey where
  | null
  | number (value : Number)
  | text (value : String)

namespace SortKey

/-- The sort key of a value, which is `none` when missing. -/
def ofValue : Option Json → SortKey
  | none => .null
  | some .null => .null
  | some (.bool value) => .number (.ofInt (if value then 1 else 0))
  | some (.number value) => .number value
  | some (.string value) => .text value
  | some value => .text value.compact

def compare : SortKey → SortKey → Ordering
  | .null, .null => .eq
  | .null, _ => .lt
  | _, .null => .gt
  | .number a, .number b => a.compare b
  | .number _, .text _ => .lt
  | .text _, .number _ => .gt
  | .text a, .text b => Json.compareText a b

end SortKey

/-- The order of two documents by one key. -/
def SortSpec.compare (spec : SortSpec) (a b : Json) : Ordering :=
  spec.direction.apply
    (SortKey.compare (.ofValue (a.lookup? spec.segments)) (.ofValue (b.lookup? spec.segments)))

/-- The order of two documents by several keys. -/
def compareDocuments : List SortSpec → Json → Json → Ordering
  | [], _, _ => .eq
  | spec :: rest, a, b => (spec.compare a b).then (compareDocuments rest a b)

/-- The documents in ascending order of several keys. -/
def sortDocuments (sort : List SortSpec) (documents : List Json) : List Json :=
  documents.mergeSort fun a b => compareDocuments sort a b != .gt

end Pushdown
