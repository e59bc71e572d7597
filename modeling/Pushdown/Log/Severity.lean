/-!
# Severities

Records of a log are ranked by severity. A log has a minimum, and records below it are not written.
Errors and worse go to a stream of their own.
-/

namespace Pushdown

/-- How severe a record of a log is, from the least to the most. -/
inductive Severity where
  | trace
  | info
  | warn
  | error
  | fatal
deriving DecidableEq, Repr, Inhabited

namespace Severity

def all : List Severity := [.trace, .info, .warn, .error, .fatal]

def rank : Severity → Nat
  | trace => 0
  | info => 1
  | warn => 2
  | error => 3
  | fatal => 4

/-- The name of a severity in a record. -/
def name : Severity → String
  | trace => "TRACE"
  | info => "INFO"
  | warn => "WARN"
  | error => "ERROR"
  | fatal => "FATAL"

/-- The name of a severity in a configuration. -/
def key : Severity → String
  | trace => "trace"
  | info => "info"
  | warn => "warn"
  | error => "error"
  | fatal => "fatal"

def ofKey? (text : String) : Option Severity := all.find? fun severity => severity.key == text

def reaches (severity minimum : Severity) : Bool := minimum.rank ≤ severity.rank

end Severity

end Pushdown
