import Pushdown.Log.Severity

/-!
# Events

What happens while selectors are compiled is traced. What happens once, such as loading a
configuration, is reported as information.
-/

namespace Pushdown

/-- Something that is reported to the log. -/
inductive Event where
  /-- A selector was compiled and not taken from the cache. -/
  | selectorCompiled
  /-- A compiled query left something to the matcher. -/
  | residualFallback
  /-- A compiled query was taken from the cache. -/
  | queryCacheHit
  /-- A compiled query was not in the cache. -/
  | queryCacheMiss
  /-- A query was planned. -/
  | queryPlanned
  /-- The caches were emptied because a schema changed. -/
  | cachesCleared
  /-- A configuration was loaded. -/
  | configLoaded
  /-- The schemas of a directory were loaded. -/
  | schemasLoaded
deriving DecidableEq, Repr

namespace Event

def all : List Event := [
  .selectorCompiled, .residualFallback, .queryCacheHit, .queryCacheMiss, .queryPlanned,
  .cachesCleared, .configLoaded, .schemasLoaded]

def name : Event → String
  | selectorCompiled => "SELECTOR_COMPILED"
  | residualFallback => "RESIDUAL_FALLBACK"
  | queryCacheHit => "QUERY_CACHE_HIT"
  | queryCacheMiss => "QUERY_CACHE_MISS"
  | queryPlanned => "QUERY_PLANNED"
  | cachesCleared => "CACHES_CLEARED"
  | configLoaded => "CONFIG_LOADED"
  | schemasLoaded => "SCHEMAS_LOADED"

def severity : Event → Severity
  | selectorCompiled => .trace
  | residualFallback => .trace
  | queryCacheHit => .trace
  | queryCacheMiss => .trace
  | queryPlanned => .trace
  | cachesCleared => .info
  | configLoaded => .info
  | schemasLoaded => .info

end Event

end Pushdown
