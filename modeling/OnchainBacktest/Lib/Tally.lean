import Mathlib.Data.List.Sort
import Mathlib.Tactic
import OnchainBacktest.Lib.Dict

/-!
# Tallies

A tally is a list of amounts under keys.  `Tally.collect` puts it in canonical form: amounts of
the same key are added, zero amounts are dropped, and the keys come in order.  `Tally.amount` is
what a tally holds under one key, whatever its form; collecting does not change it
(`Tally.amount_collect`), and in a collected tally it is the entry found there
(`Tally.lookup_collect`).

Amounts are natural numbers and the order of the keys is any decidable relation.
-/

set_option autoImplicit false

namespace Tally

universe u

variable {κ : Type u} [DecidableEq κ]

/-- What a tally holds under a key. -/
def amount (l : List (κ × Nat)) (k : κ) : Nat :=
  (l.map fun e => if e.1 = k then e.2 else 0).sum

/-- The entry of a tally under a key, zero when there is none. -/
def lookup (l : List (κ × Nat)) (k : κ) : Nat := (Dict.find l k).getD 0

/-- The tally as a dictionary, without zero amounts. -/
def totals (l : List (κ × Nat)) : Dict κ Nat :=
  l.foldl (fun d e => if e.2 ≠ 0 then d.set e.1 (d.getD e.1 0 + e.2) else d) Dict.empty

/-- The canonical form of a tally. -/
def collect (le : κ → κ → Bool) (l : List (κ × Nat)) : List (κ × Nat) :=
  (totals l).entries.insertionSort fun a b => le a.1 b.1 = true

/-! ## Amounts -/

@[simp] theorem amount_nil (k : κ) : amount [] k = 0 := rfl

@[simp] theorem amount_cons (e : κ × Nat) (l : List (κ × Nat)) (k : κ) :
    amount (e :: l) k = (if e.1 = k then e.2 else 0) + amount l k := by
  simp [amount]

theorem amount_perm {l l' : List (κ × Nat)} (h : l.Perm l') (k : κ) :
    amount l k = amount l' k := (h.map _).sum_eq

theorem amount_eq_zero {l : List (κ × Nat)} {k : κ} (h : k ∉ l.map Prod.fst) :
    amount l k = 0 := by
  induction l with
  | nil => rfl
  | cons e rest ih =>
    rw [List.map_cons, List.mem_cons, not_or] at h
    rw [amount_cons, if_neg (Ne.symm h.1), ih h.2]

/-- With no key repeated, the amount is the entry. -/
theorem lookup_eq_amount {l : List (κ × Nat)} (hnd : (l.map Prod.fst).Nodup) (k : κ) :
    lookup l k = amount l k := by
  induction l with
  | nil => rfl
  | cons e rest ih =>
    rw [List.map_cons, List.nodup_cons] at hnd
    rw [lookup, Dict.find, amount_cons]
    split
    · rename_i he
      rw [amount_eq_zero (he ▸ hnd.1)]
      rfl
    · rw [Nat.zero_add]
      exact ih hnd.2

/-! ## Collecting -/

theorem getD_foldl_totals (l : List (κ × Nat)) (d : Dict κ Nat) (k : κ) :
    (l.foldl (fun d e => if e.2 ≠ 0 then d.set e.1 (d.getD e.1 0 + e.2) else d) d).getD k 0
      = d.getD k 0 + amount l k := by
  induction l generalizing d with
  | nil => simp
  | cons e rest ih =>
    rw [List.foldl_cons, ih, amount_cons]
    split
    · rw [Dict.getD_set]
      by_cases hk : k = e.1
      · subst hk
        simp
        omega
      · rw [if_neg hk, if_neg (Ne.symm hk), Nat.zero_add]
    · rename_i hz
      simp [not_not.mp hz]

theorem forall_foldl_totals (l : List (κ × Nat)) (d : Dict κ Nat)
    (h : ∀ e ∈ d.entries, e.2 ≠ 0) :
    ∀ e ∈ (l.foldl (fun d e => if e.2 ≠ 0 then d.set e.1 (d.getD e.1 0 + e.2) else d) d).entries,
      e.2 ≠ 0 := by
  induction l generalizing d with
  | nil => exact h
  | cons a rest ih =>
    rw [List.foldl_cons]
    refine ih _ fun e he => ?_
    split at he
    · rcases Dict.mem_entries_set.mp he with rfl | ⟨he, _⟩
      · simp only [ne_eq, Nat.add_eq_zero_iff, not_and]
        intro _
        assumption
      · exact h e he
    · exact h e he

theorem perm_collect (le : κ → κ → Bool) (l : List (κ × Nat)) :
    (collect le l).Perm (totals l).entries := List.perm_insertionSort _ _

/-- A collected tally repeats no key. -/
theorem nodup_collect (le : κ → κ → Bool) (l : List (κ × Nat)) :
    ((collect le l).map Prod.fst).Nodup :=
  ((perm_collect le l).map Prod.fst).nodup_iff.mpr (totals l).nodup

/-- A collected tally has no zero amount. -/
theorem ne_zero_of_mem_collect {le : κ → κ → Bool} {l : List (κ × Nat)} {e : κ × Nat}
    (h : e ∈ collect le l) : e.2 ≠ 0 :=
  forall_foldl_totals l Dict.empty (by simp) e ((perm_collect le l).mem_iff.mp h)

/-- **Collecting changes no amount.** -/
theorem amount_collect (le : κ → κ → Bool) (l : List (κ × Nat)) (k : κ) :
    amount (collect le l) k = amount l k := by
  rw [amount_perm (perm_collect le l), ← lookup_eq_amount (totals l).nodup]
  have h := getD_foldl_totals l Dict.empty k
  rw [Dict.getD_empty, Nat.zero_add] at h
  exact h

theorem lookup_collect (le : κ → κ → Bool) (l : List (κ × Nat)) (k : κ) :
    lookup (collect le l) k = amount l k := by
  rw [lookup_eq_amount (nodup_collect le l), amount_collect]

/-- A key is in the collected tally exactly when its amount is positive. -/
theorem mem_keys_collect {le : κ → κ → Bool} {l : List (κ × Nat)} {k : κ} :
    k ∈ (collect le l).map Prod.fst ↔ 0 < amount l k := by
  constructor
  · intro h
    obtain ⟨⟨k', n⟩, he, rfl⟩ := List.mem_map.mp h
    have h1 := (Dict.find_eq_some_iff (nodup_collect le l)).mpr he
    have h2 := lookup_collect le l k'
    rw [lookup, h1] at h2
    have h3 := ne_zero_of_mem_collect he
    simp only [Option.getD_some] at h2 h3 ⊢
    omega
  · intro h
    by_contra hk
    have h1 := amount_eq_zero hk
    rw [amount_collect] at h1
    omega

end Tally
