import Mathlib.Logic.Basic
import Pushdown.Schema.Registry

/-!
# Versions over the life of a registry

What is derived from a schema is kept under its collection and its version, so a collection should
only ever get a schema of a later version. Registering a schema sees to this, and saving one leaves
the registry as it is. Loading does not look at what is held: it moves a collection back where a
file has an earlier version, or another schema of the same version.

A run of calls therefore moves every collection forward exactly if each load in it finds only files
that do. Then no version of a collection ever stands for two schemas.
-/

namespace Pushdown

/-- The schema may take the place of a held one: its version is later, or it is that schema. -/
def Schema.Follows (schema held : Schema) : Prop := held.version < schema.version ∨ schema = held

namespace Schema.Follows

variable {first second third : Schema}

theorem refl (schema : Schema) : schema.Follows schema := .inr rfl

theorem trans (later : third.Follows second) (earlier : second.Follows first) :
    third.Follows first := by
  obtain newer | rfl := later
  · obtain new | rfl := earlier
    · exact .inl (Nat.lt_trans new newer)
    · exact .inl newer
  · exact earlier

theorem version_le (h : second.Follows first) : first.version ≤ second.version := by
  obtain newer | rfl := h
  · exact Nat.le_of_lt newer
  · exact Nat.le_refl _

/-- One version stands for one schema. -/
theorem eq_of_version (h : second.Follows first) (same : first.version = second.version) :
    first = second := by
  obtain newer | rfl := h
  · exact absurd same (Nat.ne_of_lt newer)
  · rfl

end Schema.Follows

namespace SchemaRegistry

/-- Every collection that was held is held still, with a schema that may take the place of the
former one. -/
def Advances (before after : SchemaRegistry) : Prop :=
  ∀ collection held, before.get? collection = some held →
    ∃ schema, after.get? collection = some schema ∧ schema.Follows held

theorem Advances.refl (registry : SchemaRegistry) : registry.Advances registry :=
  fun _ held found => ⟨held, found, .refl held⟩

theorem Advances.trans {first second third : SchemaRegistry} (earlier : first.Advances second)
    (later : second.Advances third) : first.Advances third := by
  intro collection held found
  obtain ⟨schema, found, follows⟩ := earlier collection held found
  obtain ⟨last, found, again⟩ := later collection schema found
  exact ⟨last, found, again.trans follows⟩

/-! ## Registering -/

theorem get?_put (collection other : String) (schema : Schema) (registry : SchemaRegistry) :
    (registry.put collection schema).get? other =
      if other = collection then some schema else registry.get? other := by
  rw [get?, put, List.find?_cons]
  by_cases same : other = collection
  · subst same
    simp
  · have others : (registry.schemas.filter fun entry => entry.1 != collection).find?
        (fun entry => entry.1 == other) = registry.schemas.find? fun entry => entry.1 == other := by
      rw [List.find?_filter]
      congr 1
      funext entry
      by_cases named : entry.1 = other <;> simp [named, same]
    have here : (collection == other) = false := by simpa using Ne.symm same
    rw [here, if_neg same, others, get?]

/-- A schema is put in the place of one that it may follow. -/
theorem put_advances {collection : String} {schema : Schema} {registry : SchemaRegistry}
    (follows : ∀ held, registry.get? collection = some held → schema.Follows held) :
    registry.Advances (registry.put collection schema) := by
  intro other held found
  rw [get?_put]
  split
  · next same => exact ⟨schema, rfl, follows held (same ▸ found)⟩
  · exact ⟨held, found, .refl held⟩

theorem register_advances {collection : String} {schema : Schema}
    {registry registered : SchemaRegistry}
    (succeeds : registry.register collection schema = .ok registered) :
    registry.Advances registered := by
  rw [register] at succeeds
  cases valid : schema.validate with
  | error fault =>
      rw [valid] at succeeds
      cases succeeds
  | ok =>
      cases found : registry.get? collection with
      | none =>
          simp only [valid, found, bind, Except.bind] at succeeds
          cases succeeds
          apply put_advances
          intro held again
          rw [found] at again
          cases again
      | some held =>
          simp only [valid, found, bind, Except.bind] at succeeds
          split at succeeds
          · cases succeeds
          · next newer =>
            cases succeeds
            apply put_advances
            intro other again
            rw [found] at again
            cases again
            exact .inl (Nat.lt_of_not_le newer)

/-! ## Loading -/

/-- The schemas of files, each with its collection, up to the first file that is at fault. -/
def loaded (directory : SchemaDirectory) : List (String × String) → List (String × Schema)
  | [] => []
  | (fileName, text) :: rest =>
    match collectionOf? fileName with
    | none => loaded directory rest
    | some collection =>
      match Schema.ofText (directory.pathOf fileName) text with
      | .error _ => []
      | .ok schema => (collection, schema) :: loaded directory rest

def lastOf? (collection : String) (entries : List (String × Schema)) : Option Schema :=
  (entries.filter fun entry => entry.1 == collection).getLast?.map (·.2)

theorem lastOf?_cons (collection key : String) (schema : Schema)
    (entries : List (String × Schema)) :
    lastOf? collection ((key, schema) :: entries) =
      (lastOf? collection entries).or (if collection = key then some schema else none) := by
  rw [lastOf?, lastOf?, List.filter_cons]
  by_cases same : collection = key
  · rw [if_pos (beq_iff_eq.mpr same.symm), if_pos same, List.getLast?_cons]
    cases (entries.filter fun entry => entry.1 == collection).getLast? <;> rfl
  · rw [if_neg (mt beq_iff_eq.mp (Ne.symm same)), if_neg same, Option.or_none]

/-- What was loaded for a collection comes before what was held. -/
theorem get?_loadFiles (directory : SchemaDirectory) (files : List (String × String))
    (registry : SchemaRegistry) (collection : String) :
    (loadFiles directory files registry).2.get? collection =
      (lastOf? collection (loaded directory files)).or (registry.get? collection) := by
  induction files generalizing registry with
  | nil => rfl
  | cons file rest ih =>
      obtain ⟨fileName, text⟩ := file
      rw [loadFiles, loaded]
      cases collectionOf? fileName with
      | none => exact ih registry
      | some key =>
          dsimp only
          cases Schema.ofText (directory.pathOf fileName) text with
          | error fault => rfl
          | ok schema =>
              dsimp only
              rw [ih, get?_put, lastOf?_cons]
              cases lastOf? collection (loaded directory rest) with
              | some last => rfl
              | none => split <;> rfl

/-- Every schema that loading puts in the place of a held one may follow it. -/
def LoadsForward (directory : SchemaDirectory) (registry : SchemaRegistry) : Prop :=
  ∀ collection held schema, registry.get? collection = some held →
    lastOf? collection (loaded directory (directory.files.getD [])) = some schema →
    schema.Follows held

/-- Loading moves collections forward exactly if the files do: nothing else is looked at. -/
theorem load_advances_iff (directory : SchemaDirectory) (registry : SchemaRegistry) :
    registry.Advances (registry.load directory).2 ↔ registry.LoadsForward directory := by
  have current (collection : String) : (registry.load directory).2.get? collection =
      (lastOf? collection (loaded directory (directory.files.getD []))).or
        (registry.get? collection) := get?_loadFiles directory _ registry collection
  constructor
  · intro advances collection held schema found last
    obtain ⟨now, found, follows⟩ := advances collection held found
    rw [current, last] at found
    cases found
    exact follows
  · intro forward collection held found
    rw [current, found]
    cases last : lastOf? collection (loaded directory (directory.files.getD [])) with
    | none => exact ⟨held, rfl, .refl held⟩
    | some schema => exact ⟨schema, rfl, forward collection held schema found last⟩

end SchemaRegistry

/-! ## Runs -/

/-- A registry and the directory that it saves to and loads from. -/
structure SchemaStore where
  registry : SchemaRegistry
  directory : SchemaDirectory

/-- A call on a registry, or a change of the directory by others. -/
inductive SchemaCall where
  | register (collection : String) (schema : Schema)
  | save (collection : String) (schema : Schema)
  | load
  /-- The directory gets other files, or there is no directory any more. -/
  | refill (files : Option (List (String × String)))

/-- What a call leaves. A schema that is refused changes nothing. -/
def SchemaCall.perform (store : SchemaStore) : SchemaCall → SchemaStore
  | .register collection schema =>
    match store.registry.register collection schema with
    | .ok registry => { store with registry }
    | .error _ => store
  | .save collection schema =>
    { store with directory := (store.directory.save collection schema).2 }
  | .load => { store with registry := (store.registry.load store.directory).2 }
  | .refill files => { store with directory := { store.directory with files } }

def SchemaStore.LoadsForward (store : SchemaStore) : Prop :=
  store.registry.LoadsForward store.directory

/-- Only loading can move a collection back. -/
theorem SchemaCall.advances_iff (call : SchemaCall) (store : SchemaStore) :
    store.registry.Advances (call.perform store).registry ↔
      (call = .load → store.LoadsForward) := by
  cases call with
  | load =>
      rw [forall_prop_of_true rfl]
      exact SchemaRegistry.load_advances_iff store.directory store.registry
  | save | refill =>
      refine iff_of_true (.refl _) ?_
      intro impossible
      cases impossible
  | register collection schema =>
      refine iff_of_true ?_ ?_
      · rw [perform]
        cases result : store.registry.register collection schema with
        | error => exact .refl _
        | ok registered => exact SchemaRegistry.register_advances result
      · intro impossible
        cases impossible

namespace SchemaStore

def start (directory : SchemaDirectory) : SchemaStore := ⟨{}, directory⟩

def after (store : SchemaStore) (calls : List SchemaCall) : SchemaStore :=
  calls.foldl SchemaCall.perform store

/-- One more call of a run moves collections forward, unless it is a load that does not. -/
theorem after_advances_iff (store : SchemaStore) (calls : List SchemaCall) (n : Nat) :
    (store.after (calls.take n)).registry.Advances (store.after (calls.take (n + 1))).registry ↔
      (calls[n]? = some .load → (store.after (calls.take n)).LoadsForward) := by
  have step : store.after (calls.take (n + 1)) =
      calls[n]?.toList.foldl SchemaCall.perform (store.after (calls.take n)) := by
    rw [after, after, List.take_add_one, List.foldl_append]
  rw [step]
  cases calls[n]? with
  | none =>
      refine iff_of_true (.refl _) ?_
      intro impossible
      cases impossible
  | some call =>
      rw [Option.some.injEq]
      exact call.advances_iff (store.after (calls.take n))

/-- A run of calls moves every collection forward at each call exactly if each of its loads finds
only files that do. In such a run a collection that is held stays held, its version never
decreases, and at one version its schema stays the same. -/
theorem run_advances_iff (directory : SchemaDirectory) (calls : List SchemaCall) :
    let reached (n : Nat) : SchemaStore := (start directory).after (calls.take n)
    let forward : Prop := ∀ n, calls[n]? = some .load → (reached n).LoadsForward
    ((∀ n, (reached n).registry.Advances (reached (n + 1)).registry) ↔ forward) ∧
      (forward → ∀ m n, m ≤ n → ∀ collection held,
        (reached m).registry.get? collection = some held →
          ∃ schema, (reached n).registry.get? collection = some schema ∧
            held.version ≤ schema.version ∧ (held.version = schema.version → held = schema)) := by
  intro reached forward
  have steps : (∀ n, (reached n).registry.Advances (reached (n + 1)).registry) ↔ forward :=
    forall_congr' fun n => after_advances_iff (start directory) calls n
  refine ⟨steps, ?_⟩
  intro loads m n later collection held found
  have advances : (reached m).registry.Advances (reached n).registry := by
    induction later with
    | refl => exact .refl _
    | step _ ih => exact ih.trans (steps.mpr loads _)
  obtain ⟨schema, found, follows⟩ := advances collection held found
  exact ⟨schema, found, follows.version_le, follows.eq_of_version⟩

/-- A later schema is saved and loaded, and the one that was registered first is refused. -/
theorem run_advances_iff_saved :
    let first : Schema := .empty 1
    let second : Schema := .empty 2
    let calls : List SchemaCall :=
      [.register "users" first, .save "users" second, .load, .register "users" first]
    let reached (n : Nat) : SchemaStore := (start ⟨"schemas", none⟩).after (calls.take n)
    let version (n : Nat) : Option Nat := ((reached n).registry.get? "users").map (·.version)
    (∀ n, calls[n]? = some .load → (reached n).LoadsForward) ∧
      (∀ n, (reached n).registry.Advances (reached (n + 1)).registry) ∧
      version 1 = some 1 ∧ version 3 = some 2 ∧ version 4 = some 2 := by
  intro first second calls reached version
  have heldVersions : (reached 2).registry.schemas.all (fun entry => entry.2.version == 1) := by
    decide +kernel
  have loadedVersions : (SchemaRegistry.loaded (reached 2).directory
      ((reached 2).directory.files.getD [])).all (fun entry => entry.2.version == 2) := by
    decide +kernel
  have loads : (reached 2).LoadsForward := by
    intro collection held schema found last
    obtain ⟨entry, foundEntry, rfl⟩ := Option.map_eq_some_iff.mp found
    obtain ⟨file, lastFile, rfl⟩ := Option.map_eq_some_iff.mp last
    have heldVersion := List.all_eq_true.mp heldVersions entry
      (List.mem_of_find?_eq_some foundEntry)
    have fileVersion := List.all_eq_true.mp loadedVersions file
      (List.mem_filter.mp (List.mem_of_getLast? lastFile)).1
    rw [beq_iff_eq] at heldVersion fileVersion
    left
    rw [heldVersion, fileVersion]
    decide
  have forward : ∀ n, calls[n]? = some .load → (reached n).LoadsForward := by
    intro n isLoad
    have third : n = 2 := by
      rcases n with _ | _ | _ | _ | n
      · cases isLoad
      · cases isLoad
      · rfl
      · cases isLoad
      · cases isLoad
    exact third ▸ loads
  exact ⟨forward, (run_advances_iff ⟨"schemas", none⟩ calls).1.mpr forward,
    by decide +kernel, by decide +kernel, by decide +kernel⟩

/-- A file with an earlier version moves a collection back. -/
theorem run_recedes :
    let directory : SchemaDirectory := ⟨"schemas", some [("users.json", "\x7b\"version\": 1\x7d")]⟩
    let calls : List SchemaCall := [.register "users" (.empty 2), .load]
    let version (n : Nat) : Option Nat :=
      (((start directory).after (calls.take n)).registry.get? "users").map (·.version)
    version 1 = some 2 ∧ version 2 = some 1 := by
  decide +kernel

end SchemaStore

end Pushdown
