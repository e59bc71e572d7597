import Mathlib.Data.Finset.Card
import Pushdown.Cache.Lru

/-!
# The order of last use

A cache remembers the keys that were used last. They stand in the order of their last uses, each
once, and the cache keeps as many of them as its capacity allows. A key is therefore found exactly
when fewer other keys than that have been used since. Whatever is done with a cache, it holds no
more than it has room for.
-/

namespace Pushdown

section Recency

variable {κ : Type} [DecidableEq κ]

/-- The distinct keys of a list in the order of their last uses, where the list begins with the key
that was used last. -/
def recency : List κ → List κ
  | [] => []
  | key :: rest => key :: (recency rest).filter (· != key)

theorem mem_recency {key : κ} {used : List κ} : key ∈ recency used ↔ key ∈ used := by
  induction used with
  | nil => rfl
  | cons latest rest ih =>
      rw [recency, List.mem_cons, List.mem_cons, List.mem_filter, ih, bne_iff_ne]
      by_cases same : key = latest
      · exact iff_of_true (.inl same) (.inl same)
      · rw [and_iff_left same]

theorem nodup_recency (used : List κ) : (recency used).Nodup := by
  induction used with
  | nil => exact List.nodup_nil
  | cons latest rest ih =>
      rw [recency, List.nodup_cons, List.mem_filter, bne_iff_ne]
      exact ⟨fun again => again.2 rfl, ih.filter _⟩

theorem length_recency (used : List κ) : (recency used).length = used.toFinset.card := by
  have same : (recency used).toFinset = used.toFinset := by
    ext key
    rw [List.mem_toFinset, List.mem_toFinset, mem_recency]
  rw [← same, List.toFinset_card_of_nodup (nodup_recency used)]

/-- What stands in front of a key is found before or after another key is removed. -/
theorem takeWhile_filter_bne {key other : κ} (apart : key ≠ other) (l : List κ) :
    (l.filter (· != other)).takeWhile (· != key) =
      (l.takeWhile (· != key)).filter (· != other) := by
  induction l with
  | nil => rfl
  | cons first rest ih =>
      by_cases here : first = key
      · simp [here, apart]
      · by_cases removed : first = other
        · simpa [removed, Ne.symm apart] using ih
        · simpa [here, removed] using ih

/-- The keys in front of a key are those that were used since, in the order of their last uses. -/
theorem takeWhile_recency (key : κ) (used : List κ) :
    (recency used).takeWhile (· != key) = recency (used.takeWhile (· != key)) := by
  induction used with
  | nil => rfl
  | cons latest rest ih =>
      rw [recency, List.takeWhile_cons, List.takeWhile_cons]
      split
      · next other =>
        rw [takeWhile_filter_bne (bne_iff_ne.mp other).symm, ih, recency]
      · rfl

/-- A key is among the first of a list when few enough stand in front of it. -/
theorem mem_take_iff {key : κ} {l : List κ} {n : Nat} :
    key ∈ l.take n ↔ key ∈ l ∧ (l.takeWhile (· != key)).length < n := by
  induction l generalizing n with
  | nil => simp
  | cons first rest ih =>
      cases n with
      | zero => simp
      | succ n =>
          by_cases here : first = key
          · simp [here]
          · simp [here, Ne.symm here, ih]

theorem mem_take_recency {key : κ} {used : List κ} {n : Nat} :
    key ∈ (recency used).take n ↔
      key ∈ used ∧ (used.takeWhile (· != key)).toFinset.card < n := by
  rw [mem_take_iff, mem_recency, takeWhile_recency, length_recency]

/-- Of the keys 1, 2, 1 and 3, used in this order, two are kept: 2 gives way, because 1 was used
again after it. -/
example : (recency [3, 1, 2, 1]).take 2 = [3, 1] := by decide

theorem filter_bne_of_not_mem {key : κ} {l : List κ} (absent : key ∉ l) :
    l.filter (· != key) = l := by
  rw [List.filter_eq_self]
  intro other mem
  exact bne_iff_ne.mpr fun same => absent (same ▸ mem)

/-- A list is shorter once a key that is in it is removed. -/
theorem length_filter_bne_lt {key : κ} {l : List κ} (mem : key ∈ l) :
    (l.filter (· != key)).length < l.length :=
  List.length_filter_lt_length_iff_exists.mpr ⟨key, mem, by simp⟩

/-- Once a key is removed there is room for one fewer, and what is kept is the same whether the key
is removed from all keys or from those that were kept. -/
theorem take_filter_take {l : List κ} (distinct : l.Nodup) (key : κ) (n : Nat) :
    ((l.take (n + 1)).filter (· != key)).take n = (l.filter (· != key)).take n := by
  induction l generalizing n with
  | nil => simp
  | cons first rest ih =>
      obtain ⟨fresh, distinct⟩ := List.nodup_cons.mp distinct
      rw [List.take_succ_cons, List.filter_cons, List.filter_cons]
      split
      · cases n with
        | zero => rw [List.take_zero, List.take_zero]
        | succ n => rw [List.take_succ_cons, List.take_succ_cons, ih distinct]
      · next same =>
        obtain rfl : first = key := by simpa using same
        rw [filter_bne_of_not_mem fresh,
          filter_bne_of_not_mem fun mem => fresh (List.mem_of_mem_take mem), List.take_take,
          Nat.min_self]

end Recency

namespace Lru

variable {κ ν : Type} [DecidableEq κ] {cache : Lru κ ν} {used : List κ}

def keys (cache : Lru κ ν) : List κ := cache.entries.map Prod.fst

theorem keys_without (key : κ) (cache : Lru κ ν) :
    (cache.without key).map Prod.fst = cache.keys.filter (· != key) := by
  rw [without, keys, List.filter_map]
  rfl

theorem isSome_find?_iff {key : κ} : (cache.find? key).isSome = true ↔ key ∈ cache.keys := by
  rw [find?, Option.isSome_map, List.find?_isSome, keys, List.mem_map]
  simp only [beq_iff_eq]

theorem capacity_get (key : κ) (cache : Lru κ ν) : (cache.get key).2.capacity = cache.capacity := by
  rw [get]
  split <;> rfl

/-- The cache holds the keys that were used last, as many as it has room for. -/
def Remembers (cache : Lru κ ν) (used : List κ) : Prop :=
  cache.keys = (recency used).take cache.capacity

theorem remembers_empty (capacity : Nat) : (empty capacity : Lru κ ν).Remembers [] := by
  rw [Remembers, recency, List.take_nil]
  rfl

theorem remembers_clear (cache : Lru κ ν) : cache.clear.Remembers [] := by
  rw [Remembers, recency, List.take_nil]
  rfl

/-- A cache without room holds nothing, whatever was used. -/
theorem Remembers.of_capacity_eq_zero (h : cache.Remembers used) (full : cache.capacity = 0)
    (later : List κ) : cache.Remembers later := by
  rw [Remembers, full, List.take_zero] at h ⊢
  exact h

theorem Remembers.size_eq (h : cache.Remembers used) :
    cache.size = min cache.capacity used.toFinset.card := by
  have keys := congrArg List.length h
  rwa [Lru.keys, List.length_map, List.length_take, length_recency] at keys

/-- A key is found when it was used and fewer others were used since than there is room for. -/
theorem Remembers.isSome_get_iff (h : cache.Remembers used) {key : κ} :
    (cache.get key).1.isSome = true ↔
      key ∈ used ∧ (used.takeWhile (· != key)).toFinset.card < cache.capacity := by
  rw [← mem_take_recency, ← h, ← isSome_find?_iff, Lru.get]
  split
  · next found => rw [found]
  · next missing => rw [missing]

/-- A key is put in front of the others, as far as there is room. -/
theorem Remembers.cons (h : cache.Remembers used) {key : κ} {entries : List (κ × ν)}
    (moved : entries.map Prod.fst =
      (key :: (cache.without key).map Prod.fst).take cache.capacity) :
    Remembers { cache with entries } (key :: used) := by
  rw [Remembers, keys, moved, keys_without, h, recency]
  cases cache.capacity with
  | zero => rfl
  | succ n => rw [List.take_succ_cons, List.take_succ_cons, take_filter_take (nodup_recency used)]

theorem Remembers.insert (h : cache.Remembers used) (key : κ) (value : ν) :
    (cache.insert key value).Remembers (key :: used) := by
  apply h.cons
  rw [List.map_take, List.map_cons]

/-- A key that was found makes room for itself at the front. -/
theorem Remembers.get (h : cache.Remembers used) {key : κ}
    (found : (cache.get key).1.isSome = true) : (cache.get key).2.Remembers (key :: used) := by
  rw [Lru.get] at found ⊢
  split
  · next value entry =>
    have mem : key ∈ cache.keys := isSome_find?_iff.mp (entry ▸ rfl)
    have held : cache.keys.length ≤ cache.capacity := by
      rw [h, List.length_take]
      exact Nat.min_le_left _ _
    have fewer := length_filter_bne_lt mem
    apply h.cons
    rw [List.map_cons, List.take_of_length_le]
    rw [keys_without, List.length_cons]
    omega
  · next missing =>
    rw [missing] at found
    cases found

/-- A key that was not found leaves the cache as it is. -/
theorem get_of_missing {key : κ} (missing : (cache.get key).1 = none) :
    (cache.get key).2 = cache := by
  rw [Lru.get] at missing ⊢
  split
  · next found =>
    rw [found] at missing
    cases missing
  · rfl

/-! ## Room -/

def Fits (cache : Lru κ ν) : Prop := cache.size ≤ cache.capacity

omit [DecidableEq κ] in
theorem fits_empty (capacity : Nat) : (empty capacity : Lru κ ν).Fits := Nat.zero_le _

omit [DecidableEq κ] in
theorem fits_clear (cache : Lru κ ν) : cache.clear.Fits := Nat.zero_le _

theorem fits_insert (key : κ) (value : ν) (cache : Lru κ ν) : (cache.insert key value).Fits :=
  List.length_take_le _ _

/-- A lookup makes no entry more. -/
theorem Fits.get (h : cache.Fits) (key : κ) : (cache.get key).2.Fits := by
  rw [Lru.get]
  split
  · next value found =>
    have mem : key ∈ cache.keys := isSome_find?_iff.mp (found ▸ rfl)
    have fewer := length_filter_bne_lt mem
    rw [← keys_without, List.length_map, keys, List.length_map] at fewer
    exact Nat.le_trans fewer h
  · exact h

/-- A cache without room finds nothing. -/
theorem Fits.get_eq_none (h : cache.Fits) (full : cache.capacity = 0) (key : κ) :
    (cache.get key).1 = none := by
  have nothing : cache.entries = [] :=
    List.length_eq_zero_iff.mp (Nat.le_zero.mp (Nat.le_trans h (Nat.le_of_eq full)))
  rw [Lru.get, find?, nothing]
  rfl

end Lru

end Pushdown
