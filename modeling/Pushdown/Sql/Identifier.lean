/-!
# Names and string literals in SQL

A plain identifier is an ASCII letter or underscore followed by letters, digits and underscores. It
is written as it is; any other name is written between double quotes, a double quote inside being
written twice. String literals do the same with single quotes.
-/

namespace Pushdown.Sql

def beginsIdentifier (c : Char) : Bool := c.isAlpha || c = '_'

def continuesIdentifier (c : Char) : Bool := c.isAlphanum || c = '_'

/-- Whether a name is a plain identifier. -/
def isIdentifier (name : String) : Bool :=
  match name.toList with
  | [] => false
  | first :: rest => beginsIdentifier first && rest.all continuesIdentifier

/-- Text with every occurrence of a character written twice. -/
def doubled (quote : Char) (text : List Char) : List Char :=
  text.flatMap fun c => if c = quote then [quote, quote] else [c]

def literal (text : String) : String :=
  String.ofList ('\'' :: doubled '\'' text.toList ++ ['\''])

/-- A name as an identifier. -/
def quoteIdentifier (name : String) : String :=
  if isIdentifier name then name
  else String.ofList ('"' :: doubled '"' name.toList ++ ['"'])

end Pushdown.Sql
