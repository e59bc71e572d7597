import Pushdown.Regex.Basic

/-!
# Regular expressions as text patterns

A regular expression without operators is a literal that a text must equal, begin with, end with or
contain, which SQL can tell by `=` and `LIKE`. Every other expression is irreducible and is left to
the matcher.

Of the options only `i` has a form in SQL. SQL folds ASCII letters only, and the letters `k` and `s`
fold together with letters beyond ASCII, so an expression that ignores case must be a literal of
ASCII characters other than these.
-/

namespace Pushdown

/-- What a regular expression asks of a text. -/
inductive TextPattern where
  | exact (literal : String)
  | starts (literal : String)
  | ends (literal : String)
  | contains (literal : String)
  | irreducible
deriving DecidableEq, Repr

namespace TextPattern

def literal? : TextPattern → Option String
  | .exact text => some text
  | .starts text => some text
  | .ends text => some text
  | .contains text => some text
  | .irreducible => none

def form : TextPattern → String
  | .exact _ => "exact"
  | .starts _ => "prefix"
  | .ends _ => "suffix"
  | .contains _ => "contains"
  | .irreducible => "irreducible"

/-- The character that takes the meaning from the next one in a `LIKE` pattern. -/
def escapeMark : Char := '\\'

/-- The characters of a literal in a `LIKE` pattern, the wildcards and the escape mark escaped. -/
def likeChars (literal : List Char) : List Char :=
  literal.flatMap fun c => if c = '%' ∨ c = '_' ∨ c = escapeMark then [escapeMark, c] else [c]

def likeEscape (literal : String) : String := String.ofList (likeChars literal.toList)

/-- The `LIKE` pattern of a form other than equality. -/
def like? : TextPattern → Option String
  | .starts text => some (likeEscape text ++ "%")
  | .ends text => some ("%" ++ likeEscape text)
  | .contains text => some ("%" ++ likeEscape text ++ "%")
  | .exact _ => none
  | .irreducible => none

def isPunctuation (c : Char) : Bool :=
  let n := c.toNat
  (33 ≤ n && n ≤ 47) || (58 ≤ n && n ≤ 64) || (91 ≤ n && n ≤ 96) || (123 ≤ n && n ≤ 126)

/-- The characters that are operators when they are not escaped. -/
def isOperator (c : Char) : Bool :=
  ['.', '+', '*', '?', '(', ')', '|', '[', ']', '\x7b', '\x7d', '^', '$'].contains c

/-- The literal that a pattern without operators stands for. Punctuation may be escaped, but escaped
angles are word boundaries, and any other escape has a meaning of its own. -/
def literalOf? : List Char → Option (List Char)
  | [] => some []
  | '\\' :: c :: rest =>
    if isPunctuation c && c ≠ '<' && c ≠ '>' then (literalOf? rest).map (c :: ·) else none
  | c :: rest => if c = '\\' || isOperator c then none else (literalOf? rest).map (c :: ·)

/-- Whether a text ends inside an escape: in an odd number of backslashes. -/
def endsInEscape (body : List Char) : Bool :=
  (body.reverse.takeWhile (· = '\\')).length % 2 == 1

/-- Whether a pattern is anchored at its start, and the pattern after the anchor. -/
def splitStart : List Char → Bool × List Char
  | '^' :: rest => (true, rest)
  | rest => (false, rest)

/-- Whether a pattern is anchored at its end, and the pattern before the anchor. An escaped dollar
sign is no anchor. -/
def splitEnd (text : List Char) : Bool × List Char :=
  if text.getLast? = some '$' ∧ !endsInEscape text.dropLast then (true, text.dropLast)
  else (false, text)

/-- The form of a pattern, judged by its anchors and its literal. -/
def classify (pattern : String) : TextPattern :=
  let (anchoredStart, rest) := splitStart pattern.toList
  let (anchoredEnd, body) := splitEnd rest
  match literalOf? body with
  | none => .irreducible
  | some chars =>
    let text := String.ofList chars
    match anchoredStart, anchoredEnd with
    | true, true => .exact text
    | true, false => .starts text
    | false, true => .ends text
    | false, false => .contains text

/-- A literal that SQL folds in the same way as the matcher. -/
def isFoldable (literal : String) : Bool :=
  literal.toList.all fun c =>
    c.toNat < 128 && c ≠ 'k' && c ≠ 'K' && c ≠ 's' && c ≠ 'S'

/-- The form of a regular expression, its options taken into account. -/
def ofRegex (expression : RegularExpression) : TextPattern :=
  if expression.hasSemanticFlags then .irreducible
  else
    let pattern := classify expression.pattern
    if expression.caseInsensitive && !pattern.literal?.all isFoldable then .irreducible
    else pattern

/-- A text with its ASCII letters in lower case. -/
def lowered (text : String) : String := String.ofList (text.toList.map Char.toLower)

end TextPattern

end Pushdown
