import Mathlib.Data.List.Pairwise
import Mathlib.Data.List.Sort
import Mathlib.Data.List.Perm.Basic

/-!
# Queues under distinct keys

A queue holds its items under distinct keys of a linear order and gives them out least key first.
Enqueueing under a key that is taken is refused, so a queue is known by what is in it, in whatever
order that came in (`KeyedQueue.ext_mem`).

Items are taken out up to a threshold: `popThrough due` for a `due` that holds of every key below
one it holds of.  What comes out is what is due, and what stays is what is not
(`mem_popThrough_fst`, `mem_popThrough_snd`).
-/

set_option autoImplicit false

universe u v

/-- A queue of items, least key first. -/
structure KeyedQueue (κ : Type u) (τ : Type v) [LinearOrder κ] where
  items : List (κ × τ)
  sorted : items.Pairwise fun a b => a.1 < b.1

namespace KeyedQueue

variable {κ : Type u} {τ : Type v} [LinearOrder κ]

def empty : KeyedQueue κ τ := ⟨[], List.Pairwise.nil⟩

@[simp] theorem items_empty : (empty : KeyedQueue κ τ).items = [] := rfl

def keys (queue : KeyedQueue κ τ) : List κ := queue.items.map Prod.fst

def length (queue : KeyedQueue κ τ) : Nat := queue.items.length

/-! ## What a queue is known by -/

theorem ext_items {queue queue' : KeyedQueue κ τ} (h : queue.items = queue'.items) :
    queue = queue' := by
  obtain ⟨items, sorted⟩ := queue
  obtain ⟨items', sorted'⟩ := queue'
  obtain rfl : items = items' := h
  rfl

theorem nodup_items (queue : KeyedQueue κ τ) : queue.items.Nodup :=
  queue.sorted.imp fun h heq => (ne_of_lt h) (congrArg Prod.fst heq)

/-- **A queue is known by what is in it.** -/
theorem ext_mem {queue queue' : KeyedQueue κ τ}
    (h : ∀ e, e ∈ queue.items ↔ e ∈ queue'.items) : queue = queue' := by
  have hperm : queue.items.Perm queue'.items :=
    (List.perm_ext_iff_of_nodup queue.nodup_items queue'.nodup_items).mpr h
  refine ext_items (hperm.eq_of_pairwise (fun a b _ _ hab hba => ?_) queue.sorted queue'.sorted)
  exact absurd (hab.trans hba) (lt_irrefl _)

/-! ## Enqueueing -/

/-- Put an entry before the first one with a greater key. -/
def place (key : κ) (item : τ) : List (κ × τ) → List (κ × τ)
  | [] => [(key, item)]
  | e :: rest => if key < e.1 then (key, item) :: e :: rest else e :: place key item rest

theorem mem_place {key : κ} {item : τ} {l : List (κ × τ)} {e : κ × τ} :
    e ∈ place key item l ↔ e = (key, item) ∨ e ∈ l := by
  induction l with
  | nil => simp [place]
  | cons first rest ih =>
    rw [place]
    split
    · simp
    · rw [List.mem_cons, ih, List.mem_cons]
      tauto

theorem sorted_place {key : κ} {item : τ} {l : List (κ × τ)}
    (h : l.Pairwise fun a b => a.1 < b.1) (hnew : key ∉ l.map Prod.fst) :
    (place key item l).Pairwise fun a b => a.1 < b.1 := by
  induction l with
  | nil => exact List.pairwise_singleton _ _
  | cons first rest ih =>
    obtain ⟨hfirst, hrest⟩ := List.pairwise_cons.mp h
    rw [List.map_cons, List.mem_cons, not_or] at hnew
    rw [place]
    split
    · rename_i hlt
      refine List.pairwise_cons.mpr ⟨fun e he => ?_, h⟩
      rcases List.mem_cons.mp he with rfl | he
      · exact hlt
      · exact hlt.trans (hfirst e he)
    · rename_i hge
      refine List.pairwise_cons.mpr ⟨fun e he => ?_, ih hrest hnew.2⟩
      rcases mem_place.mp he with rfl | he
      · exact lt_of_le_of_ne (not_lt.mp hge) (Ne.symm hnew.1)
      · exact hfirst e he

/-- Enqueue an item, unless its key is taken. -/
def enqueue (queue : KeyedQueue κ τ) (key : κ) (item : τ) : Option (KeyedQueue κ τ) :=
  if h : key ∈ queue.keys then none
  else some ⟨place key item queue.items, sorted_place queue.sorted h⟩

theorem enqueue_eq_some {queue queue' : KeyedQueue κ τ} {key : κ} {item : τ}
    (h : queue.enqueue key item = some queue') :
    key ∉ queue.keys ∧ ∀ e, e ∈ queue'.items ↔ e = (key, item) ∨ e ∈ queue.items := by
  rw [enqueue] at h
  split at h
  · cases h
  · rename_i hnew
    obtain rfl := Option.some.inj h
    exact ⟨hnew, fun _ => mem_place⟩

/-- What a queue holds after an item came in. -/
theorem enqueue_perm {queue queue' : KeyedQueue κ τ} {key : κ} {item : τ}
    (h : queue.enqueue key item = some queue') :
    queue'.items.Perm ((key, item) :: queue.items) := by
  obtain ⟨hnew, hmem⟩ := enqueue_eq_some h
  refine (List.perm_ext_iff_of_nodup queue'.nodup_items ?_).mpr fun e => ?_
  · refine List.nodup_cons.mpr ⟨fun hin => hnew ?_, queue.nodup_items⟩
    exact List.mem_map.mpr ⟨_, hin, rfl⟩
  · rw [hmem e, List.mem_cons]

theorem enqueue_isSome {queue : KeyedQueue κ τ} {key : κ} (item : τ) (h : key ∉ queue.keys) :
    ∃ queue', queue.enqueue key item = some queue' := ⟨_, dif_neg h⟩

/-! ## Taking what is due -/

section Due

variable {due : κ → Bool}

/-- Take the items out whose keys are due; the rest stays. -/
def popThrough (queue : KeyedQueue κ τ) (due : κ → Bool) : List (κ × τ) × KeyedQueue κ τ :=
  (queue.items.takeWhile fun e => due e.1,
    ⟨queue.items.dropWhile fun e => due e.1,
      queue.sorted.sublist (List.dropWhile_suffix _).sublist⟩)

theorem takeWhile_sorted {l : List (κ × τ)} (h : l.Pairwise fun a b => a.1 < b.1)
    (hdue : ∀ a b, a ≤ b → due b = true → due a = true) :
    l.takeWhile (fun e => due e.1) = l.filter (fun e => due e.1) ∧
      l.dropWhile (fun e => due e.1) = l.filter (fun e => !due e.1) := by
  induction l with
  | nil => exact ⟨rfl, rfl⟩
  | cons e rest ih =>
    obtain ⟨hfirst, hrest⟩ := List.pairwise_cons.mp h
    by_cases he : due e.1 = true
    · obtain ⟨htake, hdrop⟩ := ih hrest
      simp only [List.takeWhile_cons, List.dropWhile_cons, List.filter_cons, he, if_true, htake,
        hdrop, Bool.not_true, Bool.false_eq_true, if_false, and_self]
    · have hnone : ∀ x ∈ rest, due x.1 = false := by
        intro x hx
        by_contra hdueX
        exact he (hdue e.1 x.1 (hfirst x hx).le (by simpa using hdueX))
      have hfilter : rest.filter (fun x => due x.1) = [] :=
        List.filter_eq_nil_iff.mpr fun x hx => by simp [hnone x hx]
      have hkept : rest.filter (fun x => !due x.1) = rest :=
        List.filter_eq_self.mpr fun x hx => by simp [hnone x hx]
      rw [Bool.not_eq_true] at he
      simp only [List.takeWhile_cons, List.dropWhile_cons, List.filter_cons, he, hfilter, hkept,
        Bool.false_eq_true, if_false, Bool.not_false, if_true, and_self]

/-- **What comes out is what is due**, in the order of the keys. -/
theorem popThrough_fst (queue : KeyedQueue κ τ)
    (hdue : ∀ a b, a ≤ b → due b = true → due a = true) :
    (queue.popThrough due).1 = queue.items.filter fun e => due e.1 :=
  (takeWhile_sorted queue.sorted hdue).1

theorem popThrough_snd (queue : KeyedQueue κ τ)
    (hdue : ∀ a b, a ≤ b → due b = true → due a = true) :
    (queue.popThrough due).2.items = queue.items.filter fun e => !due e.1 :=
  (takeWhile_sorted queue.sorted hdue).2

theorem mem_popThrough_fst {queue : KeyedQueue κ τ}
    (hdue : ∀ a b, a ≤ b → due b = true → due a = true) {e : κ × τ} :
    e ∈ (queue.popThrough due).1 ↔ e ∈ queue.items ∧ due e.1 = true := by
  rw [popThrough_fst queue hdue, List.mem_filter]

theorem mem_popThrough_snd {queue : KeyedQueue κ τ}
    (hdue : ∀ a b, a ≤ b → due b = true → due a = true) {e : κ × τ} :
    e ∈ (queue.popThrough due).2.items ↔ e ∈ queue.items ∧ due e.1 = false := by
  rw [popThrough_snd queue hdue, List.mem_filter, Bool.not_eq_true']

end Due

/-! ## A part of a queue -/

section Part

variable {p : κ → Bool}

/-- The items whose keys have a property. -/
def part (queue : KeyedQueue κ τ) (p : κ → Bool) : KeyedQueue κ τ :=
  ⟨queue.items.filter fun e => p e.1, queue.sorted.filter _⟩

theorem mem_part {queue : KeyedQueue κ τ} {e : κ × τ} :
    e ∈ (queue.part p).items ↔ e ∈ queue.items ∧ p e.1 = true := List.mem_filter

/-- **A part changes with the whole**, by an item that belongs to it. -/
theorem part_enqueue_of {queue queue' : KeyedQueue κ τ} {key : κ} {item : τ}
    (h : queue.enqueue key item = some queue') (hp : p key = true) :
    (queue.part p).enqueue key item = some (queue'.part p) := by
  obtain ⟨hnew, hmem⟩ := enqueue_eq_some h
  have hnew' : key ∉ (queue.part p).keys := fun hin => by
    obtain ⟨e, he, rfl⟩ := List.mem_map.mp hin
    exact hnew (List.mem_map.mpr ⟨e, (mem_part.mp he).1, rfl⟩)
  obtain ⟨placed, hplaced⟩ := enqueue_isSome item hnew'
  rw [hplaced]
  congr 1
  refine ext_mem fun e => ?_
  rw [(enqueue_eq_some hplaced).2 e, mem_part, mem_part, hmem e, or_and_right]
  exact or_congr_left ⟨fun he => ⟨he, he ▸ hp⟩, And.left⟩

/-- An item that does not belong to a part leaves it alone. -/
theorem part_enqueue_of_not {queue queue' : KeyedQueue κ τ} {key : κ} {item : τ}
    (h : queue.enqueue key item = some queue') (hp : p key = false) :
    queue'.part p = queue.part p := by
  refine ext_mem fun e => ?_
  rw [mem_part, mem_part, (enqueue_eq_some h).2 e, or_and_right]
  refine ⟨fun he => he.resolve_left fun hkey => ?_, Or.inr⟩
  rw [hkey.1, hp] at hkey
  exact absurd hkey.2 Bool.false_ne_true

/-- What is due comes out of a part that has all of it. -/
theorem popThrough_part {queue : KeyedQueue κ τ} {due : κ → Bool}
    (hdue : ∀ a b, a ≤ b → due b = true → due a = true) (hp : ∀ k, due k = true → p k = true) :
    (queue.part p).popThrough due =
      ((queue.popThrough due).1, (queue.popThrough due).2.part p) := by
  refine Prod.ext ?_ (ext_mem fun e => ?_)
  · rw [popThrough_fst _ hdue, popThrough_fst _ hdue]
    show (queue.items.filter fun e => p e.1).filter _ = _
    rw [List.filter_filter]
    refine List.filter_congr fun e _ => ?_
    by_cases he : due e.1 = true
    · rw [he, hp e.1 he, Bool.and_self]
    · rw [Bool.eq_false_iff.mpr he, Bool.false_and]
  · rw [mem_popThrough_snd hdue, mem_part, mem_part, mem_popThrough_snd hdue]
    exact and_right_comm

end Part

end KeyedQueue
