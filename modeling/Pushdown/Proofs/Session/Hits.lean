import Pushdown.Proofs.Cache.Recency
import Pushdown.Proofs.Session.Run

/-!
# Hits of the cache of compiled queries

Every compilation uses its key, whether the query was cached or had to be compiled, and a migration
forgets all keys. Over a whole run the cache therefore holds the keys that were used last since the
last migration, as many as its capacity allows, and a compilation is a hit exactly when fewer other
keys than that were used since the last use of its own. Without capacity nothing is ever a hit.
-/

namespace Pushdown

def Reply.isHit {α : Type} (reply : Reply α) : Bool :=
  reply.records.any fun record => record.event == Event.queryCacheHit.name

namespace Session

/-! ## Compilation -/

theorem any_compiledRecords (schema : Schema) (collection : String) (query : CompiledQuery) :
    (compiledRecords schema collection query).any
      (fun record => record.event == Event.queryCacheHit.name) = false := by
  unfold compiledRecords
  split <;> rfl

/-- A compilation is a hit when its key is found. -/
theorem isHit_compile (schema : Schema) (layout : Layout) (collection : String) (selector : Json)
    (session : Session) :
    (session.compile schema layout collection selector).isHit =
      (session.queries.get (.ofSelector schema layout collection selector)).1.isSome := by
  unfold compile Reply.isHit
  dsimp only
  split
  · next found =>
    rw [found]
    rfl
  · next missing =>
    rw [missing]
    split
    · rw [List.any_append, any_compiledRecords]
      rfl
    · exact any_compiledRecords schema collection _

/-- The cache of compiled queries has a capacity and holds the keys that were used last. -/
structure Recalls (capacity : Nat) (used : List QueryKey) (session : Session) : Prop where
  capacity_eq : session.queries.capacity = capacity
  remembers : session.queries.Remembers used

variable {capacity : Nat} {used : List QueryKey} {session : Session}

/-- A compilation uses its key, whether that is found or not. -/
theorem Recalls.compile (h : session.Recalls capacity used) (schema : Schema) (layout : Layout)
    (collection : String) (selector : Json) :
    (session.compile schema layout collection selector).session.Recalls capacity
      (.ofSelector schema layout collection selector :: used) := by
  unfold Session.compile
  dsimp only
  split
  · next query queries found =>
    have hit : (session.queries.get
        (.ofSelector schema layout collection selector)).1.isSome = true := by
      rw [found]
      rfl
    have kept := h.remembers.get hit
    have capacity := session.queries.capacity_get (.ofSelector schema layout collection selector)
    rw [found] at kept capacity
    exact ⟨capacity.trans h.capacity_eq, kept⟩
  · next queries missing =>
    have miss : (session.queries.get
        (.ofSelector schema layout collection selector)).1 = none := by
      rw [missing]
    have same := Lru.get_of_missing miss
    rw [missing] at same
    obtain rfl : queries = session.queries := same
    split
    · exact ⟨h.capacity_eq, h.remembers.insert _ _⟩
    · next disabled =>
      have full : session.queries.capacity = 0 := by
        simpa [Lru.isEnabled] using disabled
      exact ⟨h.capacity_eq, h.remembers.of_capacity_eq_zero full _⟩

/-! ## Runs -/

/-- The keys that are used after a call, the one used last first: a migration forgets them all. -/
def Call.use (used : List QueryKey) : Call → List QueryKey
  | .compile schema layout collection selector =>
    .ofSelector schema layout collection selector :: used
  | .plan schema layout query =>
    .ofSelector schema layout query.collection query.selector :: used
  | .migrate _ _ => []

/-- The keys that were used since the last migration, the one used last first. -/
def usedKeys (calls : List Call) : List QueryKey := calls.foldl Call.use []

theorem Recalls.perform (h : session.Recalls capacity used) (call : Call) :
    (call.perform session).2.Recalls capacity (call.use used) := by
  cases call with
  | compile schema layout collection selector => exact h.compile schema layout collection selector
  | plan schema layout query => exact h.compile schema layout query.collection query.selector
  | migrate collection version => exact ⟨h.capacity_eq, Lru.remembers_clear _⟩

theorem Recalls.run (h : session.Recalls capacity used) (calls : List (Metrics × Call)) :
    (session.run calls).2.Recalls capacity ((calls.map (·.2)).foldl Call.use used) := by
  induction calls generalizing session used with
  | nil => exact h
  | cons first rest ih =>
      obtain ⟨metrics, call⟩ := first
      have counted : Recalls capacity used { session with metrics } := ⟨h.capacity_eq, h.remembers⟩
      exact ih (counted.perform call)

theorem recalls_start (queryCapacity patternCapacity : Nat) :
    (start queryCapacity patternCapacity).Recalls queryCapacity [] :=
  ⟨rfl, Lru.remembers_empty queryCapacity⟩

/-- After every run from empty caches, a compilation is a hit exactly if the cache can hold
anything, the key was used since the last migration, and fewer distinct other keys than the cache
can hold were used since the last use of the key. The cache holds one query for each distinct key
that was used since the last migration, as far as there is room. -/
theorem isHit_compile_iff (queryCapacity patternCapacity : Nat) (calls : List (Metrics × Call)) :
    let session := ((start queryCapacity patternCapacity).run calls).2
    let used := usedKeys (calls.map (·.2))
    (∀ schema layout collection selector,
      let key := QueryKey.ofSelector schema layout collection selector
      (session.compile schema layout collection selector).isHit = true ↔
        0 < queryCapacity ∧ key ∈ used ∧
          (used.takeWhile (· != key)).toFinset.card < queryCapacity) ∧
      session.queries.size = min queryCapacity used.toFinset.card := by
  intro session used
  have recalls : session.Recalls queryCapacity used :=
    (recalls_start queryCapacity patternCapacity).run calls
  refine ⟨?_, by rw [recalls.remembers.size_eq, recalls.capacity_eq]⟩
  intro schema layout collection selector key
  rw [isHit_compile, recalls.remembers.isSome_get_iff, recalls.capacity_eq]
  constructor
  · rintro ⟨known, recent⟩
    exact ⟨Nat.lt_of_le_of_lt (Nat.zero_le _) recent, known, recent⟩
  · rintro ⟨-, known, recent⟩
    exact ⟨known, recent⟩

end Session

end Pushdown
