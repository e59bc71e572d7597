import Pushdown.Json.Printer
import Pushdown.Log.Event
import Pushdown.Unicode.Control

/-!
# Records of a log

A record is written as one JSON object on one line: the event, the severity, and then the fields in
the order of their keys, all values being strings. Fields with the same key are all written, in
their given order.

In a string the quote, the backslash and all control characters are escaped, so that a record never
breaks its line: newline, carriage return and tab by a letter, the other control characters by four
hexadecimal digits.
-/

namespace Pushdown

structure LogRecord where
  severity : Severity
  event : String
  fields : List (String × String)
deriving DecidableEq, Repr

namespace LogRecord

def ofEvent (event : Event) (fields : List (String × String)) : LogRecord :=
  ⟨event.severity, event.name, fields⟩

def escapeChar (c : Char) : List Char :=
  if c = '"' then ['\\', '"']
  else if c = '\\' then ['\\', '\\']
  else if c = '\n' then ['\\', 'n']
  else if c = '\r' then ['\\', 'r']
  else if c = '\t' then ['\\', 't']
  else if isControl c then '\\' :: 'u' :: hexDigits4 c.toNat
  else [c]

def quoted (text : String) : List Char := '"' :: text.toList.flatMap escapeChar ++ ['"']

/-- The fields in the order of their keys. -/
def sortedFields (record : LogRecord) : List (String × String) :=
  record.fields.mergeSort fun a b => a.1 ≤ b.1

/-- A field after the comma that parts it from the one before. -/
def fieldChars (field : String × String) : List Char :=
  ',' :: quoted field.1 ++ ':' :: quoted field.2

/-- The characters of a record without the end of its line. -/
def chars (record : LogRecord) : List Char :=
  '\x7b' :: quoted "event" ++ ':' :: quoted record.event ++
    fieldChars ("severity", record.severity.name) ++
    record.sortedFields.flatMap fieldChars ++ ['\x7d']

def text (record : LogRecord) : String := String.ofList record.chars

def line (record : LogRecord) : String := String.ofList (record.chars ++ ['\n'])

end LogRecord

end Pushdown
