import Pushdown.Json.Basic

/-!
# JSON text of a value

The compact form has no blanks. The indented form puts every item and member on a line of its own,
two blanks deeper than its container, and writes empty containers as `[]` and `{}`.

In a string only the quote, the backslash and the control characters below the blank are escaped,
the common ones by a letter and the others by four lower-case hexadecimal digits.
-/

namespace Pushdown

/-- The last four hexadecimal digits of a number, in lower case. -/
def hexDigits4 (n : Nat) : List Char :=
  [n / 4096 % 16, n / 256 % 16, n / 16 % 16, n % 16].map Nat.digitChar

namespace Json

def escapeChar (c : Char) : List Char :=
  if c = '"' then ['\\', '"']
  else if c = '\\' then ['\\', '\\']
  else if c = '\x08' then ['\\', 'b']
  else if c = '\t' then ['\\', 't']
  else if c = '\n' then ['\\', 'n']
  else if c = '\x0c' then ['\\', 'f']
  else if c = '\r' then ['\\', 'r']
  else if c.toNat < 32 then '\\' :: 'u' :: hexDigits4 c.toNat
  else [c]

def quoted (text : String) : List Char :=
  '"' :: text.toList.flatMap escapeChar ++ ['"']

mutual

def compactChars : Json → List Char
  | .null => "null".toList
  | .bool true => "true".toList
  | .bool false => "false".toList
  | .number n => n.numeral
  | .string text => quoted text
  | .array [] => ['[', ']']
  | .array (item :: rest) => '[' :: compactChars item ++ compactItems rest
  | .object [] => ['\x7b', '\x7d']
  | .object ((key, value) :: rest) =>
    '\x7b' :: quoted key ++ ':' :: compactChars value ++ compactMembers rest

/-- Further items, each after a comma, and the closing bracket. -/
def compactItems : List Json → List Char
  | [] => [']']
  | item :: rest => ',' :: compactChars item ++ compactItems rest

/-- Further members, each after a comma, and the closing brace. -/
def compactMembers : List (String × Json) → List Char
  | [] => ['\x7d']
  | (key, value) :: rest =>
    ',' :: quoted key ++ ':' :: compactChars value ++ compactMembers rest

end

def compact (value : Json) : String := String.ofList value.compactChars

def lineBreak (level : Nat) : List Char := '\n' :: List.replicate (2 * level) ' '

mutual

/-- The indented form of a value whose own line is at the given level. -/
def indentedChars (level : Nat) : Json → List Char
  | .array (item :: rest) =>
    '[' :: lineBreak (level + 1) ++ indentedChars (level + 1) item ++ indentedItems level rest
  | .object ((key, value) :: rest) =>
    '\x7b' :: lineBreak (level + 1) ++ quoted key ++ ':' :: ' ' ::
      indentedChars (level + 1) value ++ indentedMembers level rest
  | value => compactChars value

def indentedItems (level : Nat) : List Json → List Char
  | [] => lineBreak level ++ [']']
  | item :: rest =>
    ',' :: lineBreak (level + 1) ++ indentedChars (level + 1) item ++ indentedItems level rest

def indentedMembers (level : Nat) : List (String × Json) → List Char
  | [] => lineBreak level ++ ['\x7d']
  | (key, value) :: rest =>
    ',' :: lineBreak (level + 1) ++ quoted key ++ ':' :: ' ' ::
      indentedChars (level + 1) value ++ indentedMembers level rest

end

/-- The text of a value with one item or member per line. -/
def indented (value : Json) : String := String.ofList (value.indentedChars 0)

end Json

end Pushdown
