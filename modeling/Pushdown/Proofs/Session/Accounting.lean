import Pushdown.Proofs.Push.Invariant
import Pushdown.Proofs.Query.Residual
import Pushdown.Proofs.Session.Hits

/-!
# The counters account for every request

A request that needs a compiled query finds it in the cache, and a hit is counted, or compiles it.
Then the selector is counted, and what was declined, whether something remains, and a miss if the
cache can hold anything. While a selector is pushed only the uses of the pattern cache are counted,
and a migration counts nothing. So the counters of a run are sums over its requests, modulo the size
of a word, and exact as long as no counter wraps.

What the caches hold at the start does not matter: other compilers may have used them.
-/

namespace Pushdown

/-! ## Receipts -/

/-- What the answer to a request says about the compiled query behind it. -/
structure Receipt where
  /-- The compiled query was taken from the cache. -/
  hit : Bool
  /-- The number of conjuncts that were declined. -/
  declined : Nat
  /-- Something remains for the matcher. -/
  hasResidual : Bool
deriving DecidableEq, Repr

namespace Receipt

def anew (receipts : List Receipt) : List Receipt := receipts.filter (!·.hit)

theorem anew_append (first second : List Receipt) :
    anew (first ++ second) = anew first ++ anew second :=
  List.filter_append ..

/-- Every request is a hit or compiled anew. -/
theorem length_eq (receipts : List Receipt) :
    receipts.length = receipts.countP (·.hit) + (anew receipts).length := by
  rw [List.countP_eq_length_filter]
  exact List.length_eq_length_filter_add _

/-- What holds of a receipt from a cache that can hold something or not: only the former gives hits,
and what was compiled anew leaves something to the matcher only if something was declined. -/
structure Possible (enabled : Bool) (receipt : Receipt) : Prop where
  enabled : receipt.hit = true → enabled = true
  declined : receipt.hit = false → receipt.hasResidual = true → 0 < receipt.declined

variable {enabled : Bool} {receipts : List Receipt}

theorem countP_hit_eq_zero (possible : ∀ receipt ∈ receipts, receipt.Possible false) :
    receipts.countP (·.hit) = 0 := by
  rw [List.countP_eq_zero]
  intro receipt member hit
  cases (possible receipt member).enabled hit

/-- Where something remains, something was declined. -/
theorem countP_hasResidual_le (possible : ∀ receipt ∈ receipts, receipt.Possible enabled) :
    (anew receipts).countP (·.hasResidual) ≤ ((anew receipts).map (·.declined)).sum := by
  have declined : ∀ receipt ∈ anew receipts, receipt.hasResidual = true → 0 < receipt.declined := by
    intro receipt member
    obtain ⟨member, compiled⟩ := List.mem_filter.mp member
    exact (possible receipt member).declined (by simpa using compiled)
  generalize anew receipts = compiled at declined
  induction compiled with
  | nil => exact Nat.le_refl 0
  | cons first rest ih =>
      obtain ⟨here, later⟩ := List.forall_mem_cons.mp declined
      have others := ih later
      rw [List.countP_cons, List.map_cons, List.sum_cons]
      split
      · next remains =>
        have positive := here remains
        omega
      · omega

end Receipt

def Reply.receipt (reply : Reply CompiledQuery) : Receipt :=
  ⟨reply.isHit, reply.value.declined, reply.value.hasResidual⟩

/-! ## Counters -/

namespace Metrics

def withoutPatterns (metrics : Metrics) : Metrics :=
  { metrics with regexCacheHits := 0, regexCacheMisses := 0 }

theorem withoutPatterns_countPattern (hit : Bool) (metrics : Metrics) :
    (metrics.countPattern hit).withoutPatterns = metrics.withoutPatterns := by
  cases hit <;> rfl

/-- The counters moved by what receipts say, modulo the size of a word. The receipts are from a
cache that can hold something or not. -/
structure Accounts (enabled : Bool) (receipts : List Receipt) (before after : Metrics) : Prop where
  hits : after.queryCacheHits = before.queryCacheHits + .ofNat (receipts.countP (·.hit))
  misses : after.queryCacheMisses =
    before.queryCacheMisses + .ofNat (if enabled then (Receipt.anew receipts).length else 0)
  compiled : after.selectorsCompiled =
    before.selectorsCompiled + .ofNat (Receipt.anew receipts).length
  residuals : after.residualFallbacks =
    before.residualFallbacks + .ofNat ((Receipt.anew receipts).countP (·.hasResidual))
  declined : after.declinedLeaves =
    before.declinedLeaves + .ofNat ((Receipt.anew receipts).map (·.declined)).sum

/-- The counters are exactly what receipts say. -/
structure Shows (enabled : Bool) (receipts : List Receipt) (metrics : Metrics) : Prop where
  hits : metrics.queryCacheHits.toNat = receipts.countP (·.hit)
  misses : metrics.queryCacheMisses.toNat = if enabled then (Receipt.anew receipts).length else 0
  compiled : metrics.selectorsCompiled.toNat = (Receipt.anew receipts).length
  residuals : metrics.residualFallbacks.toNat = (Receipt.anew receipts).countP (·.hasResidual)
  declined : metrics.declinedLeaves.toNat = ((Receipt.anew receipts).map (·.declined)).sum

namespace Accounts

variable {enabled : Bool} {first second : List Receipt} {before middle after : Metrics}

theorem nil : Accounts enabled [] before before := by
  constructor <;> simp [Receipt.anew]

theorem append (front : Accounts enabled first before middle)
    (back : Accounts enabled second middle after) :
    Accounts enabled (first ++ second) before after where
  hits := by
    rw [back.hits, front.hits, List.countP_append, UInt64.ofNat_add, UInt64.add_assoc]
  misses := by
    rw [back.misses, front.misses, Receipt.anew_append, List.length_append, UInt64.add_assoc,
      ← UInt64.ofNat_add]
    cases enabled <;> rfl
  compiled := by
    rw [back.compiled, front.compiled, Receipt.anew_append, List.length_append, UInt64.ofNat_add,
      UInt64.add_assoc]
  residuals := by
    rw [back.residuals, front.residuals, Receipt.anew_append, List.countP_append,
      UInt64.ofNat_add, UInt64.add_assoc]
  declined := by
    rw [back.declined, front.declined, Receipt.anew_append, List.map_append, List.sum_append,
      UInt64.ofNat_add, UInt64.add_assoc]

/-- A hit is counted as such only. -/
theorem hit (declined : Nat) (hasResidual : Bool) :
    Accounts enabled [⟨true, declined, hasResidual⟩] before before.countQueryHit := by
  constructor <;> simp [Receipt.anew, countQueryHit]

/-- A selector is counted when it is compiled, and a miss if the cache can hold something. -/
theorem miss {declined : Nat} {hasResidual : Bool}
    (counted : middle.withoutPatterns =
      (before.countCompiled (.ofNat declined) hasResidual).withoutPatterns) :
    Accounts enabled [⟨false, declined, hasResidual⟩] before
      (if enabled then middle.countQueryMiss else middle) := by
  have hits : middle.queryCacheHits = before.queryCacheHits :=
    congrArg (·.queryCacheHits) counted
  have misses : middle.queryCacheMisses = before.queryCacheMisses :=
    congrArg (·.queryCacheMisses) counted
  have compiled : middle.selectorsCompiled = before.selectorsCompiled + 1 :=
    congrArg (·.selectorsCompiled) counted
  have residuals : middle.residualFallbacks =
      before.residualFallbacks + if hasResidual then 1 else 0 :=
    congrArg (·.residualFallbacks) counted
  have declines : middle.declinedLeaves = before.declinedLeaves + .ofNat declined :=
    congrArg (·.declinedLeaves) counted
  cases enabled <;> cases hasResidual <;> constructor <;>
    simp [Receipt.anew, countQueryMiss, hits, misses, compiled, residuals, declines]

/-- Counters that start at zero and do not wrap are exact. -/
theorem shows (h : Accounts enabled first {} after) (few : first.length < 2 ^ 64)
    (fewDeclined : ((Receipt.anew first).map (·.declined)).sum < 2 ^ 64) :
    after.Shows enabled first := by
  have shown {count : UInt64} {n : Nat} (counted : count = 0 + .ofNat n) (small : n < 2 ^ 64) :
      count.toNat = n := by
    rw [counted, UInt64.zero_add]
    exact UInt64.toNat_ofNat_of_lt' small
  -- Every counter but that of declined conjuncts is bounded by the number of receipts.
  have total := Receipt.length_eq first
  have remaining : (Receipt.anew first).countP (·.hasResidual) ≤ (Receipt.anew first).length :=
    List.countP_le_length
  exact {
    hits := shown h.hits (by omega)
    misses := shown h.misses (by split <;> omega)
    compiled := shown h.compiled (by omega)
    residuals := shown h.residuals (by omega)
    declined := shown h.declined fewDeclined }

end Accounts

end Metrics

/-! ## Compilation -/

namespace CompiledQuery

variable {I : PushState → Prop} (inv : Push.Invariant I) (schema : Schema) (layout : Layout)

include inv

/-- Dividing a selector keeps what pushing its conjuncts keeps. -/
theorem divide_keeps (conjuncts : List Selector) {s : PushState} (hs : I s) :
    I ((divide schema layout conjuncts).run s).2 := by
  induction conjuncts generalizing s with
  | nil => exact hs
  | cons conjunct rest ih =>
      have keeps : Push.Keeps I (conjunct.push schema layout .document) :=
        conjunct.push_keeps inv .document
      obtain ⟨first, -⟩ := keeps s hs
      rw [divide_cons]
      dsimp only
      split <;> exact ih first

theorem ofSelector_keeps (selector : Selector) {s : PushState} (hs : I s) :
    I ((ofSelector schema layout selector).run s).2 :=
  divide_keeps inv schema layout selector.conjuncts hs

omit inv

/-- Something remains only if something was declined. -/
theorem declined_pos (selector : Selector) {s : PushState}
    (remains : ((ofSelector schema layout selector).run s).1.hasResidual = true) :
    0 < ((ofSelector schema layout selector).run s).1.declined := by
  rw [ofSelector_run] at remains ⊢
  obtain ⟨residual, found⟩ := Option.isSome_iff_exists.mp remains
  obtain ⟨-, nonempty, -⟩ := residualOf_eq_some_iff.mp found
  exact List.length_pos_iff.mpr nonempty

end CompiledQuery

namespace Session

/-- Pushing moves no counters but those of the pattern cache. -/
theorem invariant_withoutPatterns (counters : Option Metrics) :
    Push.Invariant fun s => s.metrics.map Metrics.withoutPatterns = counters where
  scans _ _ same := same
  patterns s _ hit same := by
    rw [← same, Option.map_map]
    exact Option.map_congr fun metrics _ => metrics.withoutPatterns_countPattern hit

theorem compileAnew_eq (schema : Schema) (layout : Layout) (selector : Json) (session : Session) :
    session.compileAnew schema layout selector =
      let result := (CompiledQuery.ofSelector schema layout (.ofJson selector)).run
        { patterns := some session.patterns, metrics := some session.metrics }
      (result.1, { session with
        patterns := result.2.patterns.getD session.patterns
        metrics := (result.2.metrics.getD session.metrics).countCompiled
          (.ofNat result.1.declined) result.1.hasResidual }) := rfl

/-- Compiling anew counts the selector, what was declined and whether something remains. -/
theorem compileAnew_counts (schema : Schema) (layout : Layout) (selector : Json)
    (session : Session) :
    let compiled := session.compileAnew schema layout selector
    compiled.2.metrics.withoutPatterns =
      (session.metrics.countCompiled (.ofNat compiled.1.declined)
        compiled.1.hasResidual).withoutPatterns := by
  -- The state of pushing carries the counters of the session, and gives them back.
  let start : PushState := { patterns := some session.patterns, metrics := some session.metrics }
  have started : start.metrics.map Metrics.withoutPatterns =
    some session.metrics.withoutPatterns := rfl
  have kept := CompiledQuery.ofSelector_keeps (invariant_withoutPatterns _) schema layout
    (.ofJson selector) started
  obtain ⟨metrics, left, same⟩ := Option.map_eq_some_iff.mp kept
  rw [compileAnew_eq]
  dsimp only
  rw [left, Option.getD_some]
  exact congrArg (Metrics.countCompiled _ _) same

def afterHit (key : QueryKey) (session : Session) : Session :=
  { session with
    queries := (session.queries.get key).2
    metrics := session.metrics.countQueryHit }

/-- The session after a compilation that was no hit: the result is kept and the miss is counted if
the cache can hold something. -/
def afterMiss (key : QueryKey) (query : CompiledQuery) (compiled : Session) : Session :=
  if compiled.queries.isEnabled then
    { compiled with
      queries := compiled.queries.insert key query
      metrics := compiled.metrics.countQueryMiss }
  else compiled

/-- A compilation is a hit when its key is found, and compiles anew otherwise. -/
theorem compile_cases (schema : Schema) (layout : Layout) (collection : String) (selector : Json)
    (session : Session) :
    let key := QueryKey.ofSelector schema layout collection selector
    let anew := session.compileAnew schema layout selector
    let reply := session.compile schema layout collection selector
    (reply.isHit = true ∧ (session.queries.get key).1.isSome = true ∧
      reply.session = session.afterHit key) ∨
    (reply.isHit = false ∧ reply.value = anew.1 ∧ reply.session = anew.2.afterMiss key anew.1) := by
  intro key anew reply
  have isHit : reply.isHit = (session.queries.get key).1.isSome := isHit_compile ..
  rw [isHit]
  unfold reply compile
  dsimp only
  split
  · next query queries found =>
    rw [afterHit, found]
    exact .inl ⟨rfl, rfl, rfl⟩
  · next queries missing =>
    have same := Lru.get_of_missing (congrArg Prod.fst missing)
    rw [missing] at same
    obtain rfl : queries = session.queries := same
    have kept : anew.2.queries = session.queries := rfl
    rw [missing, afterMiss, kept]
    refine .inr ⟨rfl, ?_⟩
    split <;> exact ⟨rfl, rfl⟩

/-! ## Accounts -/

/-- Receipts account for what happened between two sessions: they can come from the cache of
compiled queries, which keeps its capacity, and the counters moved by what they say. -/
structure Accounts (receipts : List Receipt) (before after : Session) : Prop where
  capacity_eq : after.queries.capacity = before.queries.capacity
  fits : after.queries.Fits
  counts : Metrics.Accounts before.queries.isEnabled receipts before.metrics after.metrics
  possible : ∀ receipt ∈ receipts, receipt.Possible before.queries.isEnabled

namespace Accounts

variable {first second : List Receipt} {before middle after : Session}

theorem nil (fits : before.queries.Fits) : Accounts [] before before :=
  ⟨rfl, fits, .nil, List.forall_mem_nil _⟩

theorem append (front : Accounts first before middle) (back : Accounts second middle after) :
    Accounts (first ++ second) before after := by
  have enabled : middle.queries.isEnabled = before.queries.isEnabled :=
    congrArg (· != 0) front.capacity_eq
  obtain ⟨capacity_eq, fits, counts, possible⟩ := back
  rw [enabled] at counts possible
  exact ⟨capacity_eq.trans front.capacity_eq, fits, front.counts.append counts,
    List.forall_mem_append.mpr ⟨front.possible, possible⟩⟩

end Accounts

/-- Only a cache that can hold something gives a hit, and it is counted as such. -/
theorem afterHit_accounts {session : Session} (fits : session.queries.Fits) {key : QueryKey}
    (found : (session.queries.get key).1.isSome = true) (declined : Nat) (hasResidual : Bool) :
    Accounts [⟨true, declined, hasResidual⟩] session (session.afterHit key) where
  capacity_eq := Lru.capacity_get _ _
  fits := fits.get _
  counts := .hit _ _
  possible := by
    refine List.forall_mem_singleton.mpr ⟨fun _ => ?_, nofun⟩
    rw [Lru.isEnabled, bne_iff_ne]
    -- Without capacity the cache is empty, so nothing could have been found.
    intro full
    rw [fits.get_eq_none full] at found
    cases found

/-- What is compiled anew is counted, also if it cannot be kept. -/
theorem afterMiss_accounts (schema : Schema) (layout : Layout) (selector : Json)
    {session : Session} (fits : session.queries.Fits) (key : QueryKey) :
    let anew := session.compileAnew schema layout selector
    Accounts [⟨false, anew.1.declined, anew.1.hasResidual⟩] session
      (anew.2.afterMiss key anew.1) := by
  intro anew
  have kept : anew.2.queries = session.queries := rfl
  have counts : Metrics.Accounts session.queries.isEnabled
      [⟨false, anew.1.declined, anew.1.hasResidual⟩] session.metrics
      (if session.queries.isEnabled then anew.2.metrics.countQueryMiss else anew.2.metrics) :=
    .miss (compileAnew_counts schema layout selector session)
  have possible : ∀ receipt ∈ [(⟨false, anew.1.declined, anew.1.hasResidual⟩ : Receipt)],
      receipt.Possible session.queries.isEnabled :=
    List.forall_mem_singleton.mpr
      ⟨nofun, fun _ => CompiledQuery.declined_pos schema layout (.ofJson selector)⟩
  rw [afterMiss, kept]
  split
  · next enabled =>
    rw [if_pos enabled] at counts
    exact ⟨rfl, Lru.fits_insert _ _ _, counts, possible⟩
  · next disabled =>
    rw [if_neg disabled] at counts
    exact ⟨rfl, fits, counts, possible⟩

/-- A compilation is accounted for by its receipt, whatever the cache holds. -/
theorem compile_accounts (schema : Schema) (layout : Layout) (collection : String)
    (selector : Json) {session : Session} (fits : session.queries.Fits) :
    Accounts [(session.compile schema layout collection selector).receipt] session
      (session.compile schema layout collection selector).session := by
  obtain ⟨hit, found, after⟩ | ⟨missed, value, after⟩ :=
    session.compile_cases schema layout collection selector
  · rw [Reply.receipt, hit, after]
    exact afterHit_accounts fits found _ _
  · rw [Reply.receipt, missed, value, after]
    exact afterMiss_accounts schema layout selector fits _

/-! ## Requests -/

/-- A call to a compiler of a session, or a request to explain the plan for a query. -/
inductive Request where
  | call (call : Call)
  | explain (schema : Schema) (layout : Layout) (query : Query)

namespace Request

def needsQuery : Request → Bool
  | .call (.compile _ _ _ _) => true
  | .call (.plan _ _ _) => true
  | .call (.migrate _ _) => false
  | .explain _ _ _ => true

/-- What the answer to the request in a session says about the compiled query, if one is needed. -/
def receipt? (session : Session) : Request → Option Receipt
  | .call (.compile schema layout collection selector) =>
    let reply := session.compile schema layout collection selector
    some ⟨reply.isHit, reply.value.declined, reply.value.hasResidual⟩
  | .call (.plan schema layout query) =>
    let reply := session.plan schema layout query
    some ⟨reply.isHit, reply.value.compiled.declined, reply.value.compiled.hasResidual⟩
  | .call (.migrate _ _) => none
  | .explain schema layout query =>
    let reply := session.explain schema layout query
    some ⟨reply.isHit, reply.value.declined, reply.value.residual.isSome⟩

def after (session : Session) : Request → Session
  | .call made => (made.perform session).2
  | .explain schema layout query => (session.explain schema layout query).session

section

variable (schema : Schema) (layout : Layout) (query : Query) (session : Session)

/-- Planning is a hit when compiling is. -/
theorem isHit_plan : (session.plan schema layout query).isHit =
    (session.compile schema layout query.collection query.selector).isHit := by
  rw [Reply.isHit, Session.plan, List.any_append]
  exact Bool.or_false _

/-- What is planned shows the compiled query. -/
theorem receipt?_plan : receipt? session (.call (.plan schema layout query)) =
    some (session.compile schema layout query.collection query.selector).receipt := by
  rw [receipt?, isHit_plan]
  rfl

/-- An explanation shows the compiled query. -/
theorem receipt?_explain : receipt? session (.explain schema layout query) =
    some (session.compile schema layout query.collection query.selector).receipt := by
  have remains : (session.explain schema layout query).value.residual.isSome =
      (session.plan schema layout query).value.compiled.hasResidual :=
    Option.isSome_map.trans Option.isSome_map
  rw [← receipt?_plan, receipt?, receipt?, remains]
  rfl

end

/-- A request is accounted for by its receipt. -/
theorem accounts (request : Request) {session : Session} (fits : session.queries.Fits) :
    (request.receipt? session).isSome = request.needsQuery ∧
      Accounts (request.receipt? session).toList session (request.after session) := by
  cases request with
  | explain schema layout query =>
      rw [receipt?_explain]
      exact ⟨rfl, compile_accounts schema layout query.collection query.selector fits⟩
  | call made =>
      cases made with
      | compile schema layout collection selector =>
          exact ⟨rfl, compile_accounts schema layout collection selector fits⟩
      | plan schema layout query =>
          rw [receipt?_plan]
          exact ⟨rfl, compile_accounts schema layout query.collection query.selector fits⟩
      | migrate collection version =>
          exact ⟨rfl, rfl, Lru.fits_clear _, .nil, List.forall_mem_nil _⟩

end Request

/-! ## Runs -/

/-- Requests one after another: the receipts of those that need a compiled query, and the session
after all of them. -/
def serve (session : Session) : List Request → List Receipt × Session
  | [] => ([], session)
  | request :: rest =>
    let (receipts, last) := serve (request.after session) rest
    ((request.receipt? session).toList ++ receipts, last)

/-- A run is accounted for by its receipts, one for each request that needs a compiled query. -/
theorem serve_accounts (requests : List Request) {session : Session}
    (fits : session.queries.Fits) :
    (session.serve requests).1.length = requests.countP Request.needsQuery ∧
      Accounts (session.serve requests).1 session (session.serve requests).2 := by
  induction requests generalizing session with
  | nil => exact ⟨rfl, .nil fits⟩
  | cons request rest ih =>
      obtain ⟨needs, first⟩ := request.accounts fits
      obtain ⟨length, later⟩ := ih first.fits
      refine ⟨?_, first.append later⟩
      rw [serve, List.countP_cons, List.length_append, length, Option.length_toList, needs,
        Nat.add_comm]

/-- From fresh counters and whatever caches, after every run in which no counter wraps: with a cache
each request that needs a compiled query is a hit or a miss, and the misses are what was compiled;
without one there are neither, and every such request was compiled. What was declined and what left
a residual is counted over exactly the requests that were no hits, so there are no more residuals
than compiled selectors, and no more than declined conjuncts. -/
theorem counters_account_for_requests (requests : List Request) {session : Session}
    (fresh : session.metrics = {}) (fits : session.queries.Fits)
    (few : requests.countP Request.needsQuery < 2 ^ 64)
    (fewDeclined : ((Receipt.anew (session.serve requests).1).map (·.declined)).sum < 2 ^ 64) :
    let calls := requests.countP Request.needsQuery
    let receipts := (session.serve requests).1
    let anew := Receipt.anew receipts
    let metrics := (session.serve requests).2.metrics
    receipts.length = calls ∧
    (0 < session.queries.capacity →
      metrics.queryCacheHits.toNat = receipts.countP (·.hit) ∧
      metrics.queryCacheHits.toNat + metrics.queryCacheMisses.toNat = calls ∧
      metrics.selectorsCompiled = metrics.queryCacheMisses) ∧
    (session.queries.capacity = 0 →
      metrics.queryCacheHits = 0 ∧ metrics.queryCacheMisses = 0 ∧
      metrics.selectorsCompiled.toNat = calls) ∧
    metrics.declinedLeaves.toNat = (anew.map (·.declined)).sum ∧
    metrics.residualFallbacks.toNat = anew.countP (·.hasResidual) ∧
    metrics.residualFallbacks ≤ metrics.selectorsCompiled ∧
    metrics.residualFallbacks ≤ metrics.declinedLeaves := by
  intro calls receipts anew metrics
  obtain ⟨length, -, -, counts, possible⟩ := serve_accounts requests fits
  rw [fresh] at counts
  have shows := counts.shows (length ▸ few) fewDeclined
  have total : calls = receipts.countP (·.hit) + anew.length :=
    length.symm.trans (Receipt.length_eq receipts)
  refine ⟨length, ?enabled, ?disabled, shows.declined, shows.residuals, ?compiled, ?declined⟩
  case enabled =>
    intro room
    have enabled : session.queries.isEnabled = true := bne_iff_ne.mpr (Nat.ne_of_gt room)
    have misses := shows.misses
    rw [enabled, if_pos rfl] at misses
    refine ⟨shows.hits, ?_, ?_⟩
    · rw [shows.hits, misses, total]
    · exact UInt64.toNat_inj.mp (shows.compiled.trans misses.symm)
  case disabled =>
    intro full
    have disabled : session.queries.isEnabled = false := bne_eq_false_iff_eq.mpr full
    rw [disabled] at shows possible
    have noHits := Receipt.countP_hit_eq_zero possible
    refine ⟨?_, ?_, ?_⟩
    · exact UInt64.toNat_inj.mp (shows.hits.trans noHits)
    · exact UInt64.toNat_inj.mp shows.misses
    · rw [shows.compiled, total]
      change anew.length = List.countP _ receipts + anew.length
      rw [noHits, Nat.zero_add]
  case compiled =>
    rw [UInt64.le_iff_toNat_le, shows.residuals, shows.compiled]
    exact List.countP_le_length
  case declined =>
    rw [UInt64.le_iff_toNat_le, shows.residuals, shows.declined]
    exact Receipt.countP_hasResidual_le possible

/-- Only one query is kept. A plan finds what was compiled before it, an explanation pushes it out,
and a migration clears the cache. The explained selector is always false, so it leaves no residual,
but what it declines is counted. -/
theorem counters_account_for_requests_evicted :
    let schema : Schema := Schema.empty 1
    let declining : Json := .single "a" (.array [.ofNat 1])
    let never : Json := .object [("a", .array [.ofNat 1]), ("b", .single "$in" (.array []))]
    let compilation : Request := .call (.compile schema .standard "users" declining)
    let requests : List Request := [
      compilation, .call (.plan schema .standard ⟨"users", declining, [], none, some 1⟩),
      .explain schema .standard ⟨"users", never, [], none, none⟩, compilation,
      .call (.migrate "users" 2), compilation]
    let session := start 1 1
    let metrics := (session.serve requests).2.metrics
    session.metrics = {} ∧ session.queries.Fits ∧ requests.countP Request.needsQuery = 5 ∧
      (session.serve requests).1 = [
        ⟨false, 1, true⟩, ⟨true, 1, true⟩, ⟨false, 1, false⟩, ⟨false, 1, true⟩, ⟨false, 1, true⟩] ∧
      metrics.queryCacheHits.toNat + metrics.queryCacheMisses.toNat = 5 ∧
      metrics.selectorsCompiled = metrics.queryCacheMisses ∧
      metrics.declinedLeaves.toNat = 4 ∧ metrics.residualFallbacks.toNat = 3 := by
  intro schema declining never compilation requests session metrics
  have receipts : (session.serve requests).1 = [
      ⟨false, 1, true⟩, ⟨true, 1, true⟩, ⟨false, 1, false⟩, ⟨false, 1, true⟩,
      ⟨false, 1, true⟩] := by
    decide +kernel
  have fits : session.queries.Fits := Lru.fits_empty 1
  have fewDeclined :
      ((Receipt.anew (session.serve requests).1).map (·.declined)).sum < 2 ^ 64 := by
    rw [receipts]
    decide
  obtain ⟨-, enabled, -, declined, residuals, -, -⟩ :=
    counters_account_for_requests requests rfl fits (by decide) fewDeclined
  obtain ⟨-, total, compiled⟩ := enabled Nat.one_pos
  rw [receipts] at declined residuals
  exact ⟨rfl, fits, rfl, receipts, total, compiled, declined, residuals⟩

end Session

end Pushdown
