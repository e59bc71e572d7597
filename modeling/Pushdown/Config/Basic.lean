import Pushdown.Cache.Pattern
import Pushdown.Cache.Query
import Pushdown.Json.Syntax
import Pushdown.Log.Basic
import Pushdown.Sql.Identifier

/-!
# Configurations

A configuration sets the sizes of the caches, the layout of the store and the minimum severity of
the log. The name of the document column goes into SQL as it is, so a valid configuration has a
plain identifier there.
-/

namespace Pushdown

/-- The configuration of a compiler. A cache of capacity zero keeps nothing. -/
structure Config where
  queryCapacity : Nat := QueryCache.standardCapacity
  patternCapacity : Nat := PatternCache.standardCapacity
  layout : Layout := .standard
  logLevel : Severity := .info
deriving DecidableEq, Repr, Inhabited

/-- A failure to load a configuration. -/
inductive ConfigError where
  | unreadable (path reason : String)
  /-- The text is no configuration. -/
  | malformed
  | invalid (field reason : String)
deriving DecidableEq, Repr

namespace ConfigError

def code : ConfigError → String
  | unreadable .. => "DOCSQL_CONFIG_IO"
  | malformed => "DOCSQL_CONFIG_MALFORMED"
  | invalid .. => "DOCSQL_CONFIG_INVALID"

def message : ConfigError → String
  | unreadable path reason => "Failed to read config at " ++ path ++ ": " ++ reason
  | malformed => "Malformed config:"
  | invalid field reason => "Invalid config value for '" ++ field ++ "': " ++ reason

/-- The error for a document column that is no plain identifier. -/
def columnNotPlain (column : String) : ConfigError :=
  invalid "layout" ("document column '" ++ column ++ "' is not a plain identifier")

end ConfigError

namespace Config

def uncached : Config := { queryCapacity := 0, patternCapacity := 0 }

/-- A configuration for a store that keeps declared fields in columns of their own. -/
def columns (documentColumn : String) : Config := { layout := .columns documentColumn }

/-- Checks that the document column is a plain identifier. -/
def validate (config : Config) : Except ConfigError Unit :=
  if Sql.isIdentifier config.layout.documentColumn then .ok ()
  else .error (.columnNotPlain config.layout.documentColumn)

end Config

def Layout.toJson : Layout → Json
  | .jsonColumn column => .object [("kind", .string "json_column"), ("column", .string column)]
  | .columns column => .object [("kind", .string "columns"), ("document_column", .string column)]

/-- The JSON of a configuration, its members in their declared order. -/
def Config.toJson (config : Config) : Json :=
  .object [
    ("query_cache_capacity", .ofNat config.queryCapacity),
    ("regex_cache_capacity", .ofNat config.patternCapacity),
    ("layout", config.layout.toJson),
    ("log_level", .string config.logLevel.key)]

end Pushdown
