import Mathlib.Algebra.BigOperators.Group.List.Basic
import Mathlib.Data.List.Nodup

/-!
# Journals

A journal is a list of rows that each belong to one key.  `Journal.rowsOf` are the rows of one key;
a sum over the journal is the sum over the keys of the sums over their rows (`Journal.sum_rowsOf`),
so no row is counted for two keys or for none.
-/

set_option autoImplicit false

universe u v w

namespace Journal

variable {ι : Type u} {κ : Type v} [DecidableEq κ] (key : ι → κ)

/-- The rows of one key. -/
def rowsOf (rows : List ι) (k : κ) : List ι := rows.filter fun r => key r = k

@[simp] theorem rowsOf_nil (k : κ) : rowsOf key [] k = [] := rfl

theorem rowsOf_append (rows rows' : List ι) (k : κ) :
    rowsOf key (rows ++ rows') k = rowsOf key rows k ++ rowsOf key rows' k :=
  List.filter_append rows rows'

theorem rowsOf_singleton_self (r : ι) : rowsOf key [r] (key r) = [r] := by simp [rowsOf]

theorem rowsOf_singleton_of_ne {r : ι} {k : κ} (h : key r ≠ k) : rowsOf key [r] k = [] := by
  simp [rowsOf, h]

/-- A key without rows. -/
theorem rowsOf_eq_nil {rows : List ι} {k : κ} (h : ∀ r ∈ rows, key r ≠ k) :
    rowsOf key rows k = [] := by
  rw [rowsOf, List.filter_eq_nil_iff]
  intro r hr
  simp [h r hr]

variable {M : Type w} [AddCommMonoid M]

theorem sum_map_ite_key {keys : List κ} (hnd : keys.Nodup) {k : κ} (hk : k ∈ keys) (a : M) :
    (keys.map fun k' => if k = k' then a else 0).sum = a := by
  induction keys with
  | nil => cases hk
  | cons k' rest ih =>
    rw [List.nodup_cons] at hnd
    rw [List.map_cons, List.sum_cons]
    rcases List.mem_cons.mp hk with rfl | hrest
    · have h0 : (rest.map fun k' => if k = k' then a else 0).sum = 0 := by
        refine List.sum_eq_zero fun x hx => ?_
        obtain ⟨k', hk', rfl⟩ := List.mem_map.mp hx
        rw [if_neg]
        rintro rfl
        exact hnd.1 hk'
      rw [if_pos rfl, h0, add_zero]
    · rw [if_neg, zero_add, ih hnd.2 hrest]
      rintro rfl
      exact hnd.1 hrest

/-- **The rows of all keys are all the rows, each once.** -/
theorem sum_rowsOf {keys : List κ} (hnd : keys.Nodup) (rows : List ι)
    (h : ∀ r ∈ rows, key r ∈ keys) (f : ι → M) :
    (keys.map fun k => ((rowsOf key rows k).map f).sum).sum = (rows.map f).sum := by
  induction rows with
  | nil => simp
  | cons r rest ih =>
    rw [List.map_cons, List.sum_cons, ← ih fun r' hr' => h r' (List.mem_cons_of_mem r hr'),
      ← sum_map_ite_key hnd (h r List.mem_cons_self) (f r), ← List.sum_map_add]
    congr 1
    refine List.map_congr_left fun k _ => ?_
    rw [rowsOf, List.filter_cons]
    by_cases hk : key r = k
    · simp [hk, rowsOf]
    · simp [hk, rowsOf]

end Journal
