import Mathlib.Data.List.Basic
import Mathlib.Tactic

/-!
# A bounded cache

A cache keeps at most `capacity` entries in the order they were last used in, and drops the oldest
ones.  What it answers for a key was put there under this key: an invariant of the entries is kept
by looking an entry up, by putting one that satisfies it, and by dropping any.
-/

set_option autoImplicit false

/-- The entries of a cache, the least recently used one first. -/
structure LruCache (κ β : Type) where
  capacity : Nat
  entries : List (κ × β)

namespace LruCache

variable {κ β : Type} [DecidableEq κ]

/-- The cache without an entry. -/
def empty (capacity : Nat) : LruCache κ β := ⟨capacity, []⟩

/-- The value under a key. -/
def find? (cache : LruCache κ β) (k : κ) : Option β := cache.entries.lookup k

/-- Make an entry the most recently used one. -/
def touch (cache : LruCache κ β) (k : κ) : LruCache κ β :=
  match cache.find? k with
  | none => cache
  | some v => { cache with entries := cache.entries.filter (fun e => e.1 ≠ k) ++ [(k, v)] }

/-- Put an entry as the most recently used one, and drop the oldest ones over the capacity. -/
def put (cache : LruCache κ β) (k : κ) (v : β) : LruCache κ β :=
  let entries := cache.entries.filter (fun e => e.1 ≠ k) ++ [(k, v)]
  { cache with entries := entries.drop (entries.length - cache.capacity) }

/-- Drop the entry of a key. -/
def remove (cache : LruCache κ β) (k : κ) : LruCache κ β :=
  { cache with entries := cache.entries.filter fun e => e.1 ≠ k }

/-- Every entry of a cache satisfies a property. -/
def All (P : κ → β → Prop) (cache : LruCache κ β) : Prop := ∀ e ∈ cache.entries, P e.1 e.2

variable {P : κ → β → Prop} {cache : LruCache κ β} {k : κ} {v : β}

omit [DecidableEq κ] in
theorem all_empty (capacity : Nat) : All P (empty capacity : LruCache κ β) := by
  intro e he
  cases he

theorem All.find? (h : All P cache) (hfind : cache.find? k = some v) : P k v := by
  obtain ⟨front, back, hentries, _⟩ := List.lookup_eq_some_iff.mp hfind
  exact h (k, v) (by rw [hentries]; simp)

theorem All.filter_concat (h : All P cache) (hv : P k v) :
    ∀ e ∈ cache.entries.filter (fun e => e.1 ≠ k) ++ [(k, v)], P e.1 e.2 := by
  intro e he
  rcases List.mem_append.mp he with he | he
  · exact h e (List.mem_of_mem_filter he)
  · rw [List.mem_singleton.mp he]
    exact hv

theorem All.touch (h : All P cache) (k : κ) : All P (cache.touch k) := by
  rw [LruCache.touch]
  cases hfind : cache.find? k with
  | none => exact h
  | some v => exact h.filter_concat (h.find? hfind)

theorem All.remove (h : All P cache) (k : κ) : All P (cache.remove k) :=
  fun e he => h e (List.mem_of_mem_filter he)

theorem All.put (h : All P cache) (hv : P k v) : All P (cache.put k v) :=
  fun e he => h.filter_concat hv e (List.mem_of_mem_drop he)

@[simp] theorem capacity_put : (cache.put k v).capacity = cache.capacity := rfl

end LruCache
