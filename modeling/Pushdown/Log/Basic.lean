import Pushdown.Log.Record

/-!
# Logs

A log keeps the records that were offered to it and reached its minimum severity. Errors and worse
are kept apart from the rest.
-/

namespace Pushdown

/-- What has been written to a log. -/
structure Log where
  minimum : Severity := .info
  /-- The records below the severity of errors, the earliest first. -/
  output : List LogRecord := []
  /-- The records of errors and worse, the earliest first. -/
  errors : List LogRecord := []
deriving Inhabited

namespace Log

def isEnabled (log : Log) (severity : Severity) : Bool := severity.reaches log.minimum

def write (log : Log) (record : LogRecord) : Log :=
  if !log.isEnabled record.severity then log
  else if record.severity.reaches .error then { log with errors := log.errors ++ [record] }
  else { log with output := log.output ++ [record] }

def writeAll (log : Log) (records : List LogRecord) : Log := records.foldl write log

def withMinimum (log : Log) (minimum : Severity) : Log := { log with minimum }

end Log

end Pushdown
