import Pushdown.Regex.Matcher
import Pushdown.Regex.Reader
import Pushdown.Regex.Size

/-!
# Regular expressions of selectors

A regular expression is a pattern with a text of option letters. Four letters have a meaning: `i`
ignores case, `m` lets the line anchors match at every line, `s` lets the dot match a newline, and
`x` skips blanks and comments. Other letters are kept but mean nothing.
-/

namespace Pushdown

open Regex

def Regex.hasOption (options : String) (letter : Char) : Bool := options.toList.contains letter

/-- The program of a pattern under option letters, unless the pattern is malformed or its automata
would be too large. -/
def Regex.programOf? (pattern options : String) : Option Program := do
  let tree ← Pattern.parse? (hasOption options 'x') pattern
  let flags : Flags := {
    caseInsensitive := hasOption options 'i'
    multiLine := hasOption options 'm'
    dotMatchesNewline := hasOption options 's'
    swapGreed := false
    unicode := true
    crlf := false }
  let (program, _) ← tree.program? flags
  if program.isAdmitted then some program else none

/-- A regular expression whose pattern can be run, with its program. -/
structure RegularExpression where
  pattern : String
  options : String
  program : Program
  program_eq : programOf? pattern options = some program

namespace RegularExpression

def ofPattern? (pattern options : String) : Option RegularExpression :=
  match h : programOf? pattern options with
  | some program => some ⟨pattern, options, program, h⟩
  | none => none

def caseInsensitive (regex : RegularExpression) : Bool := hasOption regex.options 'i'

/-- Whether an option other than `i` bears on the meaning. -/
def hasSemanticFlags (regex : RegularExpression) : Bool :=
  ['m', 's', 'x'].any (hasOption regex.options)

/-- The letters with a meaning, each once and in order. -/
def flags (regex : RegularExpression) : String :=
  String.ofList (['i', 'm', 's', 'x'].filter (hasOption regex.options))

def matchesIn (regex : RegularExpression) (text : String) : Bool :=
  regex.program.matchesIn text

/-- The same pattern with the same meaningful letters. -/
def same (a b : RegularExpression) : Bool := a.pattern == b.pattern && a.flags == b.flags

end RegularExpression

end Pushdown
