import Mathlib.Data.List.Sort
import Mathlib.Order.Defs.LinearOrder

/-!
# Where an ordered list is cut

A list whose items are in order of a key falls into the items before a value, at it and after it.
A position with smaller keys before it and none from it on is the number of smaller keys, and a
slice between two such positions is the list of the items at the value.
-/

set_option autoImplicit false

namespace OrderedSplit

universe u v

variable {α : Type u} {κ : Type v} [LinearOrder κ] {key : α → κ} {l : List α}

/-- A position that separates the items that satisfy a test from those that do not. -/
theorem take_eq_filter {p : α → Bool} {n : Nat} (hbefore : ∀ a ∈ l.take n, p a = true)
    (hafter : ∀ a ∈ l.drop n, p a = false) : l.take n = l.filter p := by
  have hsplit : (l.take n ++ l.drop n).filter p = l.take n := by
    rw [List.filter_append, List.filter_eq_self.mpr hbefore,
      List.filter_eq_nil_iff.mpr fun a ha => by simp [hafter a ha], List.append_nil]
  rw [List.take_append_drop] at hsplit
  exact hsplit.symm

/-- A test that what is before an item passes with it cuts the list in two. -/
theorem eq_filter_append {p : α → Bool} (hp : ∀ a b, key a ≤ key b → p b = true → p a = true)
    (h : l.Pairwise fun a b => key a ≤ key b) :
    l = l.filter p ++ l.filter fun a => !p a := by
  induction h with
  | nil => rfl
  | @cons a l hle _ ih =>
    by_cases ha : p a = true
    · rw [List.filter_cons_of_pos ha, List.filter_cons_of_neg (by simp [ha]), List.cons_append,
        ← ih]
    · have hnone : ∀ b ∈ a :: l, p b = false := by
        intro b hb
        rcases List.mem_cons.mp hb with rfl | hb
        · exact eq_false_of_ne_true ha
        · exact eq_false_of_ne_true fun hpb => ha (hp a b (hle b hb) hpb)
      rw [List.filter_eq_nil_iff.mpr fun b hb => by simp [hnone b hb],
        List.filter_eq_self.mpr fun b hb => by simp [hnone b hb], List.nil_append]

/-- The items at most a value are those below it and then those at it. -/
theorem filter_le_eq_append (h : l.Pairwise fun a b => key a ≤ key b) (k : κ) :
    l.filter (fun a => key a ≤ k)
      = l.filter (fun a => key a < k) ++ l.filter fun a => key a = k := by
  have hlt : ∀ a b : α, key a ≤ key b → decide (key b < k) = true → decide (key a < k) = true :=
    fun a b hab hb => by simpa using hab.trans_lt (by simpa using hb)
  have hsplit := eq_filter_append hlt (h.filter fun a => key a ≤ k)
  rw [List.filter_filter, List.filter_filter] at hsplit
  rw [hsplit]
  congr 1
  · refine List.filter_congr fun a _ => ?_
    by_cases ha : key a < k
    · simp [ha, ha.le]
    · simp [ha]
  · refine List.filter_congr fun a _ => ?_
    rcases lt_trichotomy (key a) k with ha | ha | ha
    · simp [ha, ha.ne]
    · simp [ha]
    · simp [ha.not_ge, ha.ne']

/-- **The slice between the two positions of a value** is the list of the items at it. -/
theorem slice_eq_filter (h : l.Pairwise fun a b => key a ≤ key b) (k : κ) :
    (l.drop (l.filter fun a => key a < k).length).take
        ((l.filter fun a => key a ≤ k).length - (l.filter fun a => key a < k).length)
      = l.filter fun a => key a = k := by
  have hle : ∀ a b : α, key a ≤ key b → decide (key b ≤ k) = true → decide (key a ≤ k) = true :=
    fun a b hab hb => by simpa using hab.trans (by simpa using hb)
  have hsplit := eq_filter_append hle h
  rw [filter_le_eq_append h k] at hsplit
  rw [filter_le_eq_append h k, List.length_append, Nat.add_sub_cancel_left]
  rw [List.append_assoc] at hsplit
  have hdrop := congrArg (List.drop (l.filter fun a => key a < k).length) hsplit
  rw [List.drop_left] at hdrop
  rw [hdrop, List.take_left]

end OrderedSplit
