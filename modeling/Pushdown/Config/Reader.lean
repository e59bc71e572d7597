import Pushdown.Config.Basic
import Pushdown.Json.Members

/-!
# Reading configurations

Every member of a configuration may be missing and has a default then. Members that are not known
are passed over, and known ones must not be repeated. A configuration may also be given as the list
of its values in their order, the last of which may be left out.

A layout is an object whose kind says which member names the column, or the list of its kind and the
column. It is gathered before it is looked at, so its strings, numerals and depth are checked even
where they mean nothing.
-/

namespace Pushdown

namespace Layout

/-- The layout of a kind with the column in the member that the kind names. -/
def ofKind? (kind : String) (column : String → Option String) : Option Layout :=
  if kind = "json_column" then (column "column").map .jsonColumn
  else if kind = "columns" then (column "document_column").map .columns
  else none

/-- Reads a layout that stands at a depth with room for so many levels. -/
def ofSyntax? (room : Nat) (tree : Syntax) : Option Layout :=
  if !tree.isGathered room then none
  else match tree with
    | .object members => do
      let members ← Syntax.keyed? members
      let kind ← Syntax.required? "kind" Syntax.text? members
      ofKind? kind fun key => Syntax.required? key Syntax.text? members
    | .array [kind, column] => do ofKind? (← kind.text?) fun _ => column.text?
    | _ => none

end Layout

namespace Config

def severity? (tree : Syntax) : Option Severity := tree.name?.bind Severity.ofKey?

def layout? (tree : Syntax) : Option Layout := Layout.ofSyntax? (Syntax.maxDepth - 1) tree

def memberNames : List String :=
  ["query_cache_capacity", "regex_cache_capacity", "layout", "log_level"]

def ofMembers? (members : List (String × Syntax)) : Option Config := do
  let standard : Config := {}
  let queryCapacity ←
    Syntax.optional? "query_cache_capacity" standard.queryCapacity Syntax.natural? members
  let patternCapacity ←
    Syntax.optional? "regex_cache_capacity" standard.patternCapacity Syntax.natural? members
  let layout ← Syntax.optional? "layout" standard.layout layout? members
  let logLevel ← Syntax.optional? "log_level" standard.logLevel severity? members
  some { queryCapacity, patternCapacity, layout, logLevel }

def ofSyntax? : Syntax → Option Config
  | .object members => (Syntax.keyed? members).bind ofMembers?
  | .array values =>
    if values.length ≤ memberNames.length then ofMembers? (memberNames.zip values) else none
  | _ => none

/-- The configuration in a text, if it is valid. -/
def ofText (text : String) : Except ConfigError Config := do
  match (Syntax.parse? text).bind ofSyntax? with
  | none => .error .malformed
  | some config =>
    config.validate
    .ok config

/-- What the store says of a file that does not exist. -/
def noSuchFile : String := "No such file or directory (os error 2)"

/-- Loads the configuration at a path, where a text is found or nothing. -/
def load (path : String) (content : Option String) : Except ConfigError Config :=
  match content with
  | none => .error (.unreadable path noSuchFile)
  | some text => ofText text

/-- What a configuration that was loaded offers to the log. -/
def loadedRecord (config : Config) (path : String) : LogRecord :=
  .ofEvent .configLoaded
    [("path", path), ("query_cache_capacity", decimalText config.queryCapacity)]

end Config

end Pushdown
