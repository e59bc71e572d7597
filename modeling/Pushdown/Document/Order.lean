import Pushdown.Json.Basic

/-!
# Comparison of document values

Only two numbers or two strings compare. Numbers compare by value, whatever kind they are kept in,
and strings by their code points. Equality reaches into arrays and objects and compares numbers by
value there too, so `1` equals `1.0` at any depth.
-/

namespace Pushdown.Json

/-- The order of two strings by code points, which is the order of their UTF-8 bytes. -/
def compareText (a b : String) : Ordering :=
  if a < b then .lt else if a = b then .eq else .gt

/-- The order of two values of one comparable class. -/
def compare? : Json → Json → Option Ordering
  | .number a, .number b => a.compare? b
  | .string a, .string b => some (compareText a b)
  | _, _ => none

mutual

/-- Equality with numbers compared by value. -/
def equal : Json → Json → Bool
  | .null, .null => true
  | .bool a, .bool b => a == b
  | .number a, .number b => a.compare? b == some .eq
  | .string a, .string b => a == b
  | .array a, .array b => equalItems a b
  | .object a, .object b => a.length == b.length && equalMembers a b
  | _, _ => false

def equalItems : List Json → List Json → Bool
  | [], [] => true
  | a :: as, b :: bs => equal a b && equalItems as bs
  | _, _ => false

/-- Every member has an equal one of the same key among `others`. -/
def equalMembers : List (String × Json) → List (String × Json) → Bool
  | [], _ => true
  | (key, a) :: rest, others =>
    (match member? key others with
      | some b => equal a b
      | none => false) && equalMembers rest others

end

end Pushdown.Json
