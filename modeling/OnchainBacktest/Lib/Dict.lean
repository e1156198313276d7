import Mathlib.Algebra.BigOperators.Group.List.Basic
import Mathlib.Data.Finset.Card
import Mathlib.Data.List.Nodup
import Mathlib.Tactic.Tauto

/-!
# Insertion-ordered dictionaries

A `Dict κ ν` is a finite map that remembers the order in which its keys first came in: the
`dict` of a program that iterates over it.  Setting a key that is there keeps its place, setting a
new one puts it last.

The entries carry the proof that no key is repeated, so every lookup is a membership
(`Dict.get?_eq_some_iff`).  `Dict.sum_set` is how a total over the entries moves when one of them
is set, which is what an accounting argument over a dictionary comes down to.  `Dict.ofItems` files
the items of a list under their keys, and shows by its length whether two of them have the same one
(`Dict.length_keys_ofItems`).
-/

set_option autoImplicit false

namespace Dict

universe u v w

variable {κ : Type u} {ν : Type v} [DecidableEq κ]

/-! ## The list underneath -/

/-- The value stored under a key. -/
def find : List (κ × ν) → κ → Option ν
  | [], _ => none
  | (k', v) :: rest, k => if k' = k then some v else find rest k

/-- Store a value under a key: in place when the key is there, at the end otherwise. -/
def put : List (κ × ν) → κ → ν → List (κ × ν)
  | [], k, v => [(k, v)]
  | (k', v') :: rest, k, v => if k' = k then (k, v) :: rest else (k', v') :: put rest k v

@[simp] theorem find_nil (k : κ) : find ([] : List (κ × ν)) k = none := rfl

theorem find_cons (e : κ × ν) (rest : List (κ × ν)) (k : κ) :
    find (e :: rest) k = if e.1 = k then some e.2 else find rest k := rfl

@[simp] theorem put_nil (k : κ) (v : ν) : put [] k v = [(k, v)] := rfl

theorem put_cons (e : κ × ν) (rest : List (κ × ν)) (k : κ) (v : ν) :
    put (e :: rest) k v = if e.1 = k then (k, v) :: rest else e :: put rest k v := rfl

theorem find_put_self (l : List (κ × ν)) (k : κ) (v : ν) : find (put l k v) k = some v := by
  induction l with
  | nil => simp [find_cons]
  | cons e rest ih =>
    rw [put_cons]
    split
    · simp [find_cons]
    · rename_i hne
      rw [find_cons, if_neg hne, ih]

theorem find_put_of_ne {l : List (κ × ν)} {k k' : κ} (v : ν) (h : k' ≠ k) :
    find (put l k v) k' = find l k' := by
  induction l with
  | nil => simp [find_cons, Ne.symm h]
  | cons e rest ih =>
    rw [put_cons]
    split
    · rename_i he
      rw [find_cons, find_cons, if_neg (Ne.symm h), if_neg (he ▸ Ne.symm h)]
    · rw [find_cons, find_cons, ih]

theorem find_eq_none_iff {l : List (κ × ν)} {k : κ} :
    find l k = none ↔ k ∉ l.map Prod.fst := by
  induction l with
  | nil => simp
  | cons e rest ih =>
    rw [find_cons]
    split
    · rename_i he
      simp [he]
    · rename_i hne
      simp [ih, Ne.symm hne]

theorem find_eq_some_iff {l : List (κ × ν)} (hnd : (l.map Prod.fst).Nodup) {k : κ} {v : ν} :
    find l k = some v ↔ (k, v) ∈ l := by
  induction l with
  | nil => simp
  | cons e rest ih =>
    rw [List.map_cons, List.nodup_cons] at hnd
    rw [find_cons]
    split
    · rename_i he
      constructor
      · intro h
        rw [← Option.some.inj h, ← he]
        exact List.mem_cons_self
      · intro h
        rcases List.mem_cons.mp h with h | h
        · rw [← h]
        · exact absurd (List.mem_map_of_mem (f := Prod.fst) h) (he ▸ hnd.1)
    · rename_i hne
      rw [ih hnd.2, List.mem_cons]
      constructor
      · exact Or.inr
      · rintro (h | h)
        · exact absurd (congrArg Prod.fst h).symm hne
        · exact h

theorem map_fst_put_of_mem {l : List (κ × ν)} {k : κ} (v : ν) (h : k ∈ l.map Prod.fst) :
    (put l k v).map Prod.fst = l.map Prod.fst := by
  induction l with
  | nil => simp at h
  | cons e rest ih =>
    rw [put_cons]
    split
    · rename_i he
      simp [he]
    · rename_i hne
      rw [List.map_cons, List.mem_cons] at h
      have hrest : k ∈ rest.map Prod.fst := h.resolve_left (Ne.symm hne)
      rw [List.map_cons, List.map_cons, ih hrest]

theorem put_of_not_mem {l : List (κ × ν)} {k : κ} (v : ν) (h : k ∉ l.map Prod.fst) :
    put l k v = l ++ [(k, v)] := by
  induction l with
  | nil => rfl
  | cons e rest ih =>
    rw [List.map_cons, List.mem_cons, not_or] at h
    rw [put_cons, if_neg (Ne.symm h.1), ih h.2, List.cons_append]

theorem nodup_put {l : List (κ × ν)} (hnd : (l.map Prod.fst).Nodup) (k : κ) (v : ν) :
    ((put l k v).map Prod.fst).Nodup := by
  by_cases h : k ∈ l.map Prod.fst
  · rwa [map_fst_put_of_mem v h]
  · rw [put_of_not_mem v h, List.map_append]
    exact List.nodup_append.mpr
      ⟨hnd, by simp, fun a ha b hb => by
        rw [List.map_singleton, List.mem_singleton] at hb
        rintro rfl
        rw [hb] at ha
        exact h ha⟩

end Dict

/-- An insertion-ordered finite map, with no key repeated. -/
structure Dict (κ : Type*) (ν : Type*) where
  entries : List (κ × ν)
  nodup : (entries.map Prod.fst).Nodup
  deriving DecidableEq

namespace Dict

universe u v w

variable {κ : Type u} {ν : Type v}

@[ext] theorem ext_entries {d d' : Dict κ ν} (h : d.entries = d'.entries) : d = d' := by
  cases d
  cases d'
  simp_all

/-- The empty dictionary. -/
def empty : Dict κ ν := ⟨[], List.nodup_nil⟩

/-- The keys, in the order they came in. -/
def keys (d : Dict κ ν) : List κ := d.entries.map Prod.fst

@[simp] theorem entries_empty : (empty : Dict κ ν).entries = [] := rfl

theorem nodup_keys (d : Dict κ ν) : d.keys.Nodup := d.nodup

/-! ## Lookup and update -/

variable [DecidableEq κ]

/-- The value under a key. -/
def get? (d : Dict κ ν) (k : κ) : Option ν := find d.entries k

/-- The value under a key, or a default. -/
def getD (d : Dict κ ν) (k : κ) (v : ν) : ν := (d.get? k).getD v

/-- Set the value under a key. -/
def set (d : Dict κ ν) (k : κ) (v : ν) : Dict κ ν :=
  ⟨put d.entries k v, nodup_put d.nodup k v⟩

@[simp] theorem get?_empty (k : κ) : (empty : Dict κ ν).get? k = none := rfl

@[simp] theorem entries_set (d : Dict κ ν) (k : κ) (v : ν) :
    (d.set k v).entries = put d.entries k v := rfl

@[simp] theorem get?_set_self (d : Dict κ ν) (k : κ) (v : ν) : (d.set k v).get? k = some v :=
  find_put_self d.entries k v

theorem get?_set_of_ne (d : Dict κ ν) {k k' : κ} (v : ν) (h : k' ≠ k) :
    (d.set k v).get? k' = d.get? k' := find_put_of_ne v h

theorem get?_set (d : Dict κ ν) (k k' : κ) (v : ν) :
    (d.set k v).get? k' = if k' = k then some v else d.get? k' := by
  split
  · rename_i h
    rw [h, get?_set_self]
  · rename_i h
    exact d.get?_set_of_ne v h

theorem getD_set (d : Dict κ ν) (k k' : κ) (v w : ν) :
    (d.set k v).getD k' w = if k' = k then v else d.getD k' w := by
  rw [getD, get?_set]
  split <;> rfl

@[simp] theorem getD_empty (k : κ) (v : ν) : (empty : Dict κ ν).getD k v = v := rfl

/-- A lookup is a membership. -/
theorem get?_eq_some_iff {d : Dict κ ν} {k : κ} {v : ν} :
    d.get? k = some v ↔ (k, v) ∈ d.entries := find_eq_some_iff d.nodup

theorem get?_eq_none_iff {d : Dict κ ν} {k : κ} : d.get? k = none ↔ k ∉ d.keys :=
  find_eq_none_iff

theorem entries_set_of_new {d : Dict κ ν} {k : κ} (v : ν) (h : d.get? k = none) :
    (d.set k v).entries = d.entries ++ [(k, v)] := put_of_not_mem v (get?_eq_none_iff.mp h)

theorem mem_keys_set {d : Dict κ ν} {k k' : κ} {v : ν} :
    k' ∈ (d.set k v).keys ↔ k' = k ∨ k' ∈ d.keys := by
  have h1 : ∀ d : Dict κ ν, k' ∈ d.keys ↔ d.get? k' ≠ none := fun d => by
    rw [ne_eq, get?_eq_none_iff, not_not]
  rw [h1, h1, get?_set]
  by_cases he : k' = k
  · simp [he]
  · simp [he]

/-- Setting a known key changes its entry in place. -/
theorem split {d : Dict κ ν} {k : κ} {v : ν} (h : d.get? k = some v) (v' : ν) :
    ∃ l l', d.entries = l ++ (k, v) :: l' ∧ (d.set k v').entries = l ++ (k, v') :: l' := by
  obtain ⟨entries, hnd⟩ := d
  simp only [get?, entries_set] at h ⊢
  clear hnd
  induction entries with
  | nil => simp at h
  | cons e rest ih =>
    obtain ⟨k', w⟩ := e
    rw [find_cons] at h
    rw [put_cons]
    split at h
    · rename_i he
      rw [if_pos he]
      have hk : k' = k := he
      have hw : w = v := Option.some.inj h
      rw [hk, hw]
      exact ⟨[], rest, rfl, rfl⟩
    · rename_i hne
      rw [if_neg hne]
      obtain ⟨l, l', h1, h2⟩ := ih h
      exact ⟨(k', w) :: l, l', by rw [h1]; rfl, by rw [h2]; rfl⟩

/-! ## Removal -/

/-- Forget a key. -/
def erase (d : Dict κ ν) (k : κ) : Dict κ ν :=
  ⟨d.entries.filter fun e => e.1 ≠ k, d.nodup.sublist (List.filter_sublist.map Prod.fst)⟩

theorem mem_entries_erase {d : Dict κ ν} {k : κ} {e : κ × ν} :
    e ∈ (d.erase k).entries ↔ e ∈ d.entries ∧ e.1 ≠ k := by
  rw [erase, List.mem_filter, decide_eq_true_iff]

@[simp] theorem get?_erase_self (d : Dict κ ν) (k : κ) : (d.erase k).get? k = none := by
  cases h : (d.erase k).get? k with
  | none => rfl
  | some v => exact absurd rfl (mem_entries_erase.mp (get?_eq_some_iff.mp h)).2

theorem get?_erase_of_ne (d : Dict κ ν) {k k' : κ} (h : k' ≠ k) :
    (d.erase k).get? k' = d.get? k' := by
  refine Option.ext fun v => ?_
  rw [get?_eq_some_iff, get?_eq_some_iff, mem_entries_erase]
  exact and_iff_left h

theorem get?_erase (d : Dict κ ν) (k k' : κ) :
    (d.erase k).get? k' = if k' = k then none else d.get? k' := by
  split
  · rename_i h
    rw [h, get?_erase_self]
  · rename_i h
    exact d.get?_erase_of_ne h

/-- Setting a key twice is setting it to the second value. -/
theorem put_put (l : List (κ × ν)) (k : κ) (v v' : ν) : put (put l k v) k v' = put l k v' := by
  induction l with
  | nil => simp [put_cons]
  | cons e rest ih =>
    rw [put_cons, put_cons]
    split
    · rw [put_cons, if_pos rfl]
    · rename_i hne
      rw [put_cons, if_neg hne, ih]

theorem set_set (d : Dict κ ν) (k : κ) (v v' : ν) : (d.set k v).set k v' = d.set k v' :=
  ext_entries (put_put d.entries k v v')

/-- A key that was new and is forgotten again leaves nothing. -/
theorem erase_set_of_new {d : Dict κ ν} {k : κ} (v : ν) (h : d.get? k = none) :
    (d.set k v).erase k = d := by
  refine ext_entries ?_
  rw [erase]
  dsimp only
  rw [entries_set_of_new v h, List.filter_append, List.filter_cons_of_neg (by simp),
    List.filter_nil, List.append_nil, List.filter_eq_self]
  intro e he
  have hne : e.1 ≠ k := by
    intro heq
    exact (get?_eq_none_iff.mp h) (heq ▸ List.mem_map_of_mem he)
  simpa using hne

/-- Setting a key a filter leaves out does not show. -/
theorem filter_entries_set {d : Dict κ ν} {k : κ} (v : ν) {p : κ → Bool} (h : p k = false) :
    (d.set k v).entries.filter (fun e => p e.1) = d.entries.filter fun e => p e.1 := by
  have hput : ∀ l : List (κ × ν),
      (put l k v).filter (fun e => p e.1) = l.filter fun e => p e.1 := by
    intro l
    induction l with
    | nil => simp [h]
    | cons e rest ih =>
      rw [put_cons]
      split
      · rename_i heq
        simp [heq, h]
      · rw [List.filter_cons, List.filter_cons, ih]
  exact hput d.entries

/-! ## Statements about every entry -/

/-- Every entry after a set is the one set or one that was there under another key. -/
theorem mem_entries_set {d : Dict κ ν} {k : κ} {v : ν} {e : κ × ν} :
    e ∈ (d.set k v).entries ↔ e = (k, v) ∨ (e ∈ d.entries ∧ e.1 ≠ k) := by
  obtain ⟨k', v'⟩ := e
  rw [← get?_eq_some_iff, get?_set]
  split
  · rename_i h
    subst h
    simp [eq_comm]
  · rename_i h
    rw [get?_eq_some_iff]
    simp [h]

/-! ## Totals over the entries -/

section Totals

variable {M : Type w} [AddCommMonoid M]

/-- The total of a weight over the entries. -/
def total (d : Dict κ ν) (f : κ → ν → M) : M := (d.entries.map fun e => f e.1 e.2).sum

omit [DecidableEq κ] in
@[simp] theorem total_empty (f : κ → ν → M) : (empty : Dict κ ν).total f = 0 := rfl

omit [DecidableEq κ] in
private theorem sum_map_append (l l' : List (κ × ν)) (f : κ → ν → M) :
    ((l ++ l').map fun e => f e.1 e.2).sum
      = (l.map fun e => f e.1 e.2).sum + (l'.map fun e => f e.1 e.2).sum := by
  rw [List.map_append, List.sum_append]

/-- A new key adds its weight. -/
theorem total_set_of_new {d : Dict κ ν} {k : κ} (v : ν) (f : κ → ν → M)
    (h : d.get? k = none) : (d.set k v).total f = d.total f + f k v := by
  rw [total, entries_set_of_new v h, sum_map_append]
  simp [total]

/-- **Setting a key swaps its old weight for the new one.** -/
theorem total_set {d : Dict κ ν} {k : κ} {w : ν} (v : ν) (f : κ → ν → M)
    (h : d.get? k = some w) : (d.set k v).total f + f k w = d.total f + f k v := by
  obtain ⟨l, hnd⟩ := d
  simp only [get?, total, entries_set] at h ⊢
  clear hnd
  induction l with
  | nil => simp at h
  | cons e rest ih =>
    rw [find_cons] at h
    rw [put_cons]
    split at h
    · rename_i he
      rw [if_pos he]
      obtain ⟨k', v'⟩ := e
      simp only at he
      subst he
      rw [← Option.some.inj h]
      simp only [List.map_cons, List.sum_cons]
      rw [add_right_comm, add_comm (f k' v), add_right_comm, add_comm (f k' v')]
    · rename_i hne
      rw [if_neg hne]
      simp only [List.map_cons, List.sum_cons]
      rw [add_assoc, ih h, ← add_assoc]

end Totals

/-! ## From a list -/

/-- The items by their keys: of two with one key the later one counts. -/
def ofItems (key : ν → κ) (items : List ν) : Dict κ ν :=
  items.foldl (fun d item => d.set (key item) item) empty

theorem mem_keys_foldl_set (key : ν → κ) (items : List ν) (d : Dict κ ν) {k : κ} :
    k ∈ (items.foldl (fun d item => d.set (key item) item) d).keys ↔
      k ∈ d.keys ∨ k ∈ items.map key := by
  induction items generalizing d with
  | nil => simp
  | cons item rest ih =>
    rw [List.foldl_cons, ih, mem_keys_set, List.map_cons, List.mem_cons]
    tauto

theorem entries_foldl_set {key : ν → κ} (items : List ν) {d : Dict κ ν}
    (hnew : ∀ item ∈ items, key item ∉ d.keys) (hnodup : (items.map key).Nodup) :
    (items.foldl (fun d item => d.set (key item) item) d).entries =
      d.entries ++ items.map fun item => (key item, item) := by
  induction items generalizing d with
  | nil => simp
  | cons item rest ih =>
    rw [List.map_cons, List.nodup_cons] at hnodup
    have hget : d.get? (key item) = none :=
      get?_eq_none_iff.mpr (hnew item List.mem_cons_self)
    rw [List.foldl_cons, ih _ hnodup.2, entries_set_of_new item hget]
    · simp
    · intro other hother hkey
      rcases mem_keys_set.mp hkey with he | hkey
      · exact hnodup.1 (he ▸ List.mem_map_of_mem hother)
      · exact hnew other (List.mem_cons_of_mem _ hother) hkey

/-- Items with different keys are the entries, in their order. -/
theorem entries_ofItems {key : ν → κ} {items : List ν} (hnodup : (items.map key).Nodup) :
    (ofItems key items).entries = items.map fun item => (key item, item) :=
  entries_foldl_set items (fun _ _ => List.not_mem_nil) hnodup

/-- No key is lost exactly when no two items have the same. -/
theorem length_keys_ofItems {key : ν → κ} {items : List ν} :
    (ofItems key items).keys.length = items.length ↔ (items.map key).Nodup := by
  constructor
  · intro hlength
    have hkeys : (ofItems key items).keys.toFinset = (items.map key).toFinset := by
      ext k
      rw [List.mem_toFinset, List.mem_toFinset, ofItems, mem_keys_foldl_set]
      simp [keys]
    have hcard := List.toFinset_card_of_nodup (ofItems key items).nodup_keys
    rw [hkeys, hlength, ← items.length_map key] at hcard
    exact Multiset.toFinset_card_eq_card_iff_nodup.mp hcard
  · intro hnodup
    rw [keys, entries_ofItems hnodup, List.length_map, List.length_map]

theorem get?_ofItems {key : ν → κ} {items : List ν} (hnodup : (items.map key).Nodup) {k : κ}
    {item : ν} : (ofItems key items).get? k = some item ↔ item ∈ items ∧ key item = k := by
  rw [get?_eq_some_iff, entries_ofItems hnodup, List.mem_map]
  constructor
  · rintro ⟨other, hother, he⟩
    obtain ⟨hkey, rfl⟩ := Prod.mk.inj he
    exact ⟨hother, hkey⟩
  · rintro ⟨hitem, rfl⟩
    exact ⟨item, hitem, rfl⟩

end Dict
