import Pushdown.Json.Printer

/-!
# Counters of compilation

The counters are 64-bit words and only grow, until they wrap. They tell how often a selector was
compiled, how the caches were used, and how much was left to the matcher.
-/

namespace Pushdown

/-- The counters of a compiler and its caches. -/
structure Metrics where
  selectorsCompiled : UInt64 := 0
  queryCacheHits : UInt64 := 0
  queryCacheMisses : UInt64 := 0
  regexCacheHits : UInt64 := 0
  regexCacheMisses : UInt64 := 0
  /-- Compiled queries that left something to the matcher. -/
  residualFallbacks : UInt64 := 0
  /-- Conditions that were left to the matcher. -/
  declinedLeaves : UInt64 := 0
deriving DecidableEq, Repr, Inhabited

namespace Metrics

/-- One more hit or miss of the pattern cache. -/
def countPattern (hit : Bool) (metrics : Metrics) : Metrics :=
  if hit then { metrics with regexCacheHits := metrics.regexCacheHits + 1 }
  else { metrics with regexCacheMisses := metrics.regexCacheMisses + 1 }

/-- One more compiled selector, of which a number of conditions was declined and something or
nothing was left to the matcher. -/
def countCompiled (declined : UInt64) (hasResidual : Bool) (metrics : Metrics) : Metrics :=
  { metrics with
    selectorsCompiled := metrics.selectorsCompiled + 1
    declinedLeaves := metrics.declinedLeaves + declined
    residualFallbacks := metrics.residualFallbacks + (if hasResidual then 1 else 0) }

def countQueryHit (metrics : Metrics) : Metrics :=
  { metrics with queryCacheHits := metrics.queryCacheHits + 1 }

def countQueryMiss (metrics : Metrics) : Metrics :=
  { metrics with queryCacheMisses := metrics.queryCacheMisses + 1 }

/-- The counters with their names, in the order of the names. -/
def counters (metrics : Metrics) : List (String × UInt64) := [
  ("declined_leaves", metrics.declinedLeaves),
  ("query_cache_hits", metrics.queryCacheHits),
  ("query_cache_misses", metrics.queryCacheMisses),
  ("regex_cache_hits", metrics.regexCacheHits),
  ("regex_cache_misses", metrics.regexCacheMisses),
  ("residual_fallbacks", metrics.residualFallbacks),
  ("selectors_compiled", metrics.selectorsCompiled)]

def text (metrics : Metrics) : String :=
  (Json.object (metrics.counters.map fun (name, count) => (name, .ofNat count.toNat))).compact

/-- The fraction of look-ups of the query cache that were hits, zero when there were none. -/
def hitRatio (metrics : Metrics) : Binary64 :=
  let hits := metrics.queryCacheHits.toNat
  let total := hits + metrics.queryCacheMisses.toNat
  if total = 0 then .zero false
  else (Binary64.ofQuotient? false (hits * Binary64.one) total).getD (.zero false)

end Metrics

end Pushdown
