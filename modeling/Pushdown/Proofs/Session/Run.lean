import Pushdown.Proofs.Json.Text
import Pushdown.Proofs.Query.Parallel
import Pushdown.Session.Basic

/-!
# Caching is invisible

Compilers with any layouts work in one session, each with counters of its own. A session is sound
for the schemas that are in use when every cached query is what compiling anew gives, for all
schemas, layouts, collections and selectors with its key, and the cached patterns are faithful. A
key determines what is compiled: its text determines the selector, and within a collection its
version determines the schema. So each call keeps a session sound and is answered as if nothing was
cached, whatever the calls before it put into the caches, pushed out of them or cleared.
-/

namespace Pushdown

/-- Different selectors have different canonical texts. -/
theorem Selector.canonicalText_injective : Function.Injective Selector.canonicalText := by
  intro a b h
  exact Json.compact_injective h

/-- Schemas that are in use for collections, one for each collection and version. -/
structure Session.Schemas where
  Uses : String → Schema → Prop
  unique : ∀ collection s t, Uses collection s → Uses collection t → s.version = t.version → s = t

/-- What the caches hold agrees with compiling anew under the schemas in use. -/
structure Session.Sound (schemas : Session.Schemas) (session : Session) : Prop where
  queries : session.queries.Every fun key query => ∀ schema layout collection selector,
    schemas.Uses collection schema →
    QueryKey.ofSelector schema layout collection selector = key →
    query = CompiledQuery.compile schema layout selector
  patterns : session.patterns.Faithful

namespace Session

variable {schemas : Schemas}

/-! ## Compilation -/

/-- A key determines the compiled query. -/
theorem compile_of_key {schema schema' : Schema} {layout layout' : Layout}
    {collection collection' : String} {selector selector' : Json}
    (uses : schemas.Uses collection schema) (uses' : schemas.Uses collection' schema')
    (same : QueryKey.ofSelector schema' layout' collection' selector' =
      QueryKey.ofSelector schema layout collection selector) :
    CompiledQuery.compile schema layout selector =
      CompiledQuery.compile schema' layout' selector' := by
  have version : schema'.version = schema.version := congrArg QueryKey.version same
  have sameCollection : collection' = collection := congrArg QueryKey.collection same
  have sameLayout : layout' = layout := congrArg QueryKey.layout same
  have sameSelector : selector' = selector :=
    Selector.canonicalText_injective (congrArg QueryKey.selector same)
  subst sameCollection sameLayout sameSelector
  rw [schemas.unique _ _ _ uses' uses version]

/-- A compilation uses the pattern cache without showing it. -/
theorem compileAnew_sound (schema : Schema) (layout : Layout) (selector : Json) {session : Session}
    (sound : session.Sound schemas) :
    (session.compileAnew schema layout selector).1 =
        CompiledQuery.compile schema layout selector ∧
      (session.compileAnew schema layout selector).2.Sound schemas := by
  have alike : PushState.Alike
      { patterns := some session.patterns, metrics := some session.metrics } {} := by
    refine ⟨rfl, ?_, ?_⟩
    · rintro _ ⟨⟩
      exact sound.patterns
    · rintro _ ⟨⟩
  obtain ⟨query, faithful⟩ :=
    CompiledQuery.ofSelector_faithful schema layout (Selector.ofJson selector) alike
  refine ⟨query, sound.queries, ?_⟩
  unfold compileAnew
  dsimp only
  generalize (CompiledQuery.ofSelector schema layout (Selector.ofJson selector)).run _ = result
    at faithful
  obtain ⟨query, state⟩ := result
  change (state.patterns.getD session.patterns).Faithful
  cases patterns : state.patterns with
  | none => exact sound.patterns
  | some cache => exact faithful cache patterns

/-- A compiled query is the same as one compiled anew, from the cache or not. -/
theorem compile_sound {schema : Schema} (layout : Layout) {collection : String} (selector : Json)
    (uses : schemas.Uses collection schema) {session : Session} (sound : session.Sound schemas) :
    (session.compile schema layout collection selector).value =
        CompiledQuery.compile schema layout selector ∧
      (session.compile schema layout collection selector).session.Sound schemas := by
  obtain ⟨kept, found⟩ := sound.queries.get (QueryKey.ofSelector schema layout collection selector)
  obtain ⟨anew, after⟩ := compileAnew_sound schema layout selector sound
  unfold compile
  dsimp only
  split
  · next query queries hit =>
    rw [hit] at kept found
    exact ⟨found query rfl schema layout collection selector uses rfl, kept, sound.patterns⟩
  · next queries miss =>
    rw [miss] at kept
    split
    · refine ⟨anew, ?_, after.patterns⟩
      refine kept.insert ?_
      intro schema' layout' collection' selector' uses' same
      rw [anew]
      exact compile_of_key uses uses' same
    · exact ⟨anew, after⟩

/-! ## Calls -/

/-- A call to a compiler of a session. -/
inductive Call where
  | compile (schema : Schema) (layout : Layout) (collection : String) (selector : Json)
  | plan (schema : Schema) (layout : Layout) (query : Query)
  | migrate (collection : String) (version : Nat)

inductive Answer where
  | compiled (query : CompiledQuery)
  | planned (plan : Plan)
  | migrated

namespace Call

/-- The collection of a call and the schema that it passes. -/
def source? : Call → Option (String × Schema)
  | .compile schema _ collection _ => some (collection, schema)
  | .plan schema _ query => some (query.collection, schema)
  | .migrate _ _ => none

def perform (session : Session) : Call → Answer × Session
  | .compile schema layout collection selector =>
    let reply := session.compile schema layout collection selector
    (.compiled reply.value, reply.session)
  | .plan schema layout query =>
    let reply := session.plan schema layout query
    (.planned reply.value, reply.session)
  | .migrate collection version => (.migrated, (session.migrate collection version).session)

/-- What the call returns without caches. -/
def anew : Call → Answer
  | .compile schema layout _ selector => .compiled (CompiledQuery.compile schema layout selector)
  | .plan schema layout query =>
    .planned (Plan.ofQuery schema layout query
      (CompiledQuery.compile schema layout query.selector))
  | .migrate _ _ => .migrated

/-- Calls for one collection with one version pass one schema. -/
def Consistent (calls : List Call) : Prop :=
  ∀ a ∈ calls, ∀ b ∈ calls, ∀ collection s t,
    a.source? = some (collection, s) → b.source? = some (collection, t) →
    s.version = t.version → s = t

def Consistent.inUse {calls : List Call} (h : Consistent calls) : Schemas where
  Uses collection schema := ∃ call ∈ calls, call.source? = some (collection, schema)
  unique := by
    rintro collection s t ⟨a, memA, passA⟩ ⟨b, memB, passB⟩ version
    exact h a memA b memB collection s t passA passB version

/-- One call is answered as without caches and keeps the session sound. -/
theorem perform_sound {call : Call}
    (uses : ∀ collection schema, call.source? = some (collection, schema) →
      schemas.Uses collection schema) {session : Session} (sound : session.Sound schemas) :
    (call.perform session).1 = call.anew ∧ (call.perform session).2.Sound schemas := by
  cases call with
  | compile schema layout collection selector =>
      obtain ⟨value, after⟩ := compile_sound layout selector (uses collection schema rfl) sound
      exact ⟨congrArg Answer.compiled value, after⟩
  | plan schema layout query =>
      obtain ⟨value, after⟩ :=
        compile_sound layout query.selector (uses query.collection schema rfl) sound
      let planned (compiled : CompiledQuery) : Answer :=
        .planned (.ofQuery schema layout query compiled)
      exact ⟨congrArg planned value, after⟩
  | migrate collection version => exact ⟨rfl, Lru.every_clear _, Lru.every_clear _⟩

end Call

/-! ## Runs -/

/-- Calls one after another, each with the counters of its compiler. -/
def run (session : Session) : List (Metrics × Call) → List Answer × Session
  | [] => ([], session)
  | (metrics, call) :: rest =>
    let (answer, session) := call.perform { session with metrics }
    let (answers, session) := run session rest
    (answer :: answers, session)

theorem run_sound {calls : List (Metrics × Call)}
    (uses : ∀ call ∈ calls, ∀ collection schema,
      call.2.source? = some (collection, schema) → schemas.Uses collection schema)
    {session : Session} (sound : session.Sound schemas) :
    (session.run calls).1 = calls.map (·.2.anew) ∧ (session.run calls).2.Sound schemas := by
  induction calls generalizing session with
  | nil => exact ⟨rfl, sound⟩
  | cons first rest ih =>
      obtain ⟨metrics, call⟩ := first
      rw [List.forall_mem_cons] at uses
      have start : Sound schemas { session with metrics } := ⟨sound.queries, sound.patterns⟩
      obtain ⟨answer, after⟩ := call.perform_sound uses.1 start
      obtain ⟨answers, last⟩ := ih uses.2 after
      refine ⟨?_, last⟩
      change (call.perform { session with metrics }).1 ::
        ((call.perform { session with metrics }).2.run rest).1 = _
      rw [answer, answers]
      rfl

def start (queryCapacity patternCapacity : Nat) : Session where
  queries := .empty queryCapacity
  patterns := .empty patternCapacity

/-- In every run from empty caches of any capacities, each call is answered as if it were the only
one. Its keys tell selectors apart, and every cached pattern is the form of the regular expressions
that it is found for. -/
theorem run_start_eq_anew (queryCapacity patternCapacity : Nat) (calls : List (Metrics × Call))
    (consistent : Call.Consistent (calls.map (·.2))) :
    ((start queryCapacity patternCapacity).run calls).1 = calls.map (·.2.anew) ∧
      Function.Injective Selector.canonicalText ∧
      ∀ field expression version form,
        ((start queryCapacity patternCapacity).run calls).2.patterns.find?
            (PatternCache.keyOf field expression version) = some form →
          form = .ofRegex expression := by
  have uses : ∀ call ∈ calls, ∀ collection schema, call.2.source? = some (collection, schema) →
      consistent.inUse.Uses collection schema := by
    intro call mem collection schema source
    exact ⟨call.2, List.mem_map_of_mem mem, source⟩
  have sound : (start queryCapacity patternCapacity).Sound consistent.inUse :=
    ⟨Lru.every_empty _, Lru.every_empty _⟩
  obtain ⟨answers, after⟩ := run_sound uses sound
  refine ⟨answers, Selector.canonicalText_injective, ?_⟩
  intro field expression version form found
  exact after.patterns.find? found field expression version rfl

/-- Two compilers with different layouts share a session in which one query and one pattern are
kept, and the schema changes on the way. -/
theorem run_start_eq_anew_migrated :
    let first : Schema := (Schema.empty 1).withField "name" FieldType.string.required
    let second : Schema := (Schema.empty 2).withField "name" FieldType.string.optional
    let selector : Json := .single "name" (.single "$regex" (.string "^a"))
    let calls : List (Metrics × Call) := [
      ({}, .compile first .standard "users" selector),
      ({}, .compile first (.columns "data") "users" selector),
      ({}, .plan first .standard ⟨"users", selector, [], none, some 1⟩),
      ({}, .migrate "users" 2),
      ({}, .compile second .standard "users" selector)]
    Call.Consistent (calls.map (·.2)) ∧
      ((start 1 1).run calls).1 = calls.map (·.2.anew) := by
  intro first second selector calls
  have consistent : Call.Consistent (calls.map (·.2)) := by
    have sources : ∀ call ∈ calls.map (·.2), ∀ collection schema,
        call.source? = some (collection, schema) → schema = first ∨ schema = second := by
      intro call mem collection schema source
      simp only [calls, List.map_cons, List.map_nil, List.mem_cons, List.not_mem_nil, or_false]
        at mem
      obtain rfl | rfl | rfl | rfl | rfl := mem
      · exact .inl (Prod.mk.inj (Option.some.inj source)).2.symm
      · exact .inl (Prod.mk.inj (Option.some.inj source)).2.symm
      · exact .inl (Prod.mk.inj (Option.some.inj source)).2.symm
      · cases source
      · exact .inr (Prod.mk.inj (Option.some.inj source)).2.symm
    have versions : first.version ≠ second.version := by decide
    intro a memA b memB collection s t sourceA sourceB version
    obtain rfl | rfl := sources a memA collection s sourceA <;>
      obtain rfl | rfl := sources b memB collection t sourceB
    · rfl
    · exact absurd version versions
    · exact absurd version.symm versions
    · rfl
  exact ⟨consistent, (run_start_eq_anew 1 1 calls consistent).1⟩

end Session

end Pushdown
