import Pushdown.Cache.Query
import Pushdown.Config.Basic
import Pushdown.Query.Explain

/-!
# Sessions

A session holds what compilers share: the cache of compiled queries, the cache of patterns and the
counters. Compilers with different layouts may work in one session.

A request answers from the cache where it can and compiles otherwise. A request also offers records
to a log, in the order in which things happened: first what was compiled, then how the cache was
used, then what was planned. Without a cache neither hits nor misses are counted or reported.
-/

namespace Pushdown

/-- The caches and counters that compilers share. -/
structure Session where
  queries : QueryCache CompiledQuery
  patterns : PatternCache
  metrics : Metrics := {}

/-- The answer to a request, the session after it, and what it offers to a log. -/
structure Reply (α : Type) where
  value : α
  session : Session
  records : List LogRecord := []

/-- What the compiled form of a selector is kept under. -/
def QueryKey.ofSelector (schema : Schema) (layout : Layout) (collection : String)
    (selector : Json) : QueryKey where
  version := schema.version
  collection
  layout
  selector := Selector.canonicalText selector

namespace Session

/-- A session with empty caches of the configured sizes. -/
def ofConfig (config : Config) : Session where
  queries := .empty config.queryCapacity
  patterns := .empty config.patternCapacity

def compileAnew (schema : Schema) (layout : Layout) (selector : Json) (session : Session) :
    CompiledQuery × Session :=
  let start : PushState :=
    { patterns := some session.patterns, metrics := some session.metrics }
  let (query, state) :=
    (CompiledQuery.ofSelector schema layout (Selector.ofJson selector)).run start
  let metrics := state.metrics.getD session.metrics
  (query, { session with
    patterns := state.patterns.getD session.patterns
    metrics := metrics.countCompiled (.ofNat query.declined) query.hasResidual })

/-- What a compilation offers to a log. -/
def compiledRecords (schema : Schema) (collection : String) (query : CompiledQuery) :
    List LogRecord :=
  .ofEvent .selectorCompiled
    [("collection", collection), ("schema_version", decimalText schema.version),
      ("sql", query.whereSql)] ::
  match query.residualJson with
  | none => []
  | some residual => [.ofEvent .residualFallback
      [("collection", collection), ("declined", decimalText query.declined),
        ("residual", residual.compact)]]

/-- The compiled form of a selector for a collection, from the cache if it is there. -/
def compile (schema : Schema) (layout : Layout) (collection : String) (selector : Json)
    (session : Session) : Reply CompiledQuery :=
  let key := QueryKey.ofSelector schema layout collection selector
  match session.queries.get key with
  | (some query, queries) => {
      value := query
      session := { session with queries, metrics := session.metrics.countQueryHit }
      records := [.ofEvent .queryCacheHit [("collection", collection)]] }
  | (none, queries) =>
    let (query, compiled) := session.compileAnew schema layout selector
    let records := compiledRecords schema collection query
    if queries.isEnabled then {
      value := query
      session := { compiled with
        queries := queries.insert key query
        metrics := compiled.metrics.countQueryMiss }
      records := records ++ [.ofEvent .queryCacheMiss [("collection", collection)]] }
    else { value := query, session := compiled, records }

def plan (schema : Schema) (layout : Layout) (query : Query) (session : Session) : Reply Plan :=
  let reply := session.compile schema layout query.collection query.selector
  let plan := Plan.ofQuery schema layout query reply.value
  {
    value := plan
    session := reply.session
    records := reply.records ++ [.ofEvent .queryPlanned
      [("collection", query.collection), ("count", plan.count.name),
        ("pagination", plan.pagination.placement)]] }

def explain (schema : Schema) (layout : Layout) (query : Query) (session : Session) :
    Reply Explanation :=
  let reply := session.plan schema layout query
  { value := .ofPlan reply.value, session := reply.session, records := reply.records }

def clearQueries (session : Session) : Session :=
  { session with queries := session.queries.clear }

def clearPatterns (session : Session) : Session :=
  { session with patterns := session.patterns.clear }

/-- Empties both caches because a collection has a new version of its schema. -/
def migrate (collection : String) (version : Nat) (session : Session) : Reply Unit where
  value := ()
  session := session.clearQueries.clearPatterns
  records := [.ofEvent .cachesCleared
    [("collection", collection), ("schema_version", decimalText version)]]

end Session

end Pushdown
