/-!
# Caches that forget the least recently used entry

The entries of a cache are kept with the most recently used one first. Using an entry moves it to
the front, and an entry that no longer fits is dropped from the end. A cache of capacity zero keeps
nothing.
-/

namespace Pushdown

/-- A bounded cache. -/
structure Lru (κ ν : Type) where
  capacity : Nat
  entries : List (κ × ν)

namespace Lru

variable {κ ν : Type} [DecidableEq κ]

def empty (capacity : Nat) : Lru κ ν := ⟨capacity, []⟩

/-- The cache can keep entries. -/
def isEnabled (cache : Lru κ ν) : Bool := cache.capacity != 0

def size (cache : Lru κ ν) : Nat := cache.entries.length

def find? (key : κ) (cache : Lru κ ν) : Option ν :=
  (cache.entries.find? fun entry => entry.1 == key).map (·.2)

/-- The entries under other keys. -/
def without (key : κ) (cache : Lru κ ν) : List (κ × ν) :=
  cache.entries.filter fun entry => entry.1 != key

/-- Puts a value under a key, as the entry used last. -/
def insert (key : κ) (value : ν) (cache : Lru κ ν) : Lru κ ν :=
  { cache with entries := ((key, value) :: cache.without key).take cache.capacity }

/-- Looks up a key. An entry that is found becomes the one used last. -/
def get (key : κ) (cache : Lru κ ν) : Option ν × Lru κ ν :=
  match cache.find? key with
  | some value => (some value, { cache with entries := (key, value) :: cache.without key })
  | none => (none, cache)

def clear (cache : Lru κ ν) : Lru κ ν := { cache with entries := [] }

/-- Looks up a key and, where it is missing, puts a value under it. The flag tells whether the key
was found. -/
def getOrInsert (key : κ) (value : ν) (cache : Lru κ ν) : ν × Bool × Lru κ ν :=
  match cache.get key with
  | (some found, cache) => (found, true, cache)
  | (none, cache) => (value, false, cache.insert key value)

end Lru

end Pushdown
