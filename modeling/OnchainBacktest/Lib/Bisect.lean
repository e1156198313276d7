import Mathlib.Data.List.GetD
import Mathlib.Tactic

/-!
# Bisection of a sorted list

`bisectLeft` and `bisectRight` return where a value would be inserted into a sorted list, before
or after the entries equal to it.  On a sorted list the position is known by what stands on its
two sides, and that is all a caller needs:

* every entry before `bisectLeft l x` is below `x` and every entry from it on is at least `x`;
* every entry before `bisectRight l x` is at most `x` and every entry from it on is above `x`.

An index into the list is read with `l.getD i 0`, as an array of numbers is.
-/

set_option autoImplicit false

namespace Bisect

/-! ## The two insertion points -/

/-- The first position, from `k` on, of an entry that is at least `x`. -/
def bisectLeft (l : List Nat) (x : Nat) (k : Nat) : Nat :=
  k + ((l.drop k).takeWhile (· < x)).length

/-- The first position of an entry above `x`. -/
def bisectRight (l : List Nat) (x : Nat) : Nat :=
  (l.takeWhile (· ≤ x)).length

section TakeWhile

variable {p : Nat → Bool}

theorem getD_of_lt_takeWhile {l : List Nat} {i : Nat}
    (h : i < (l.takeWhile p).length) : p (l.getD i 0) = true := by
  induction l generalizing i with
  | nil => simp at h
  | cons x rest ih =>
    rw [List.takeWhile_cons] at h
    split at h
    · rename_i hx
      cases i with
      | zero => simpa using hx
      | succ i => simpa using ih (by simpa using h)
    · simp at h

theorem getD_length_takeWhile {l : List Nat}
    (h : (l.takeWhile p).length < l.length) :
    p (l.getD (l.takeWhile p).length 0) = false := by
  induction l with
  | nil => simp at h
  | cons x rest ih =>
    rw [List.takeWhile_cons] at h ⊢
    split
    · rename_i hx
      rw [if_pos hx] at h
      simpa using ih (by simpa using h)
    · rename_i hx
      simpa using hx

end TakeWhile

/-! ## Reading a sorted list -/

theorem getD_mono {l : List Nat} (hs : l.Pairwise (· ≤ ·)) {i j : Nat} (hij : i ≤ j)
    (hj : j < l.length) : l.getD i 0 ≤ l.getD j 0 := by
  rcases Nat.eq_or_lt_of_le hij with rfl | hlt
  · exact le_rfl
  · rw [List.getD_eq_getElem _ _ (by omega), List.getD_eq_getElem _ _ hj]
    exact List.pairwise_iff_getElem.mp hs i j (by omega) hj hlt

theorem getD_strictMono {l : List Nat} (hs : l.Pairwise (· < ·)) {i j : Nat} (hij : i < j)
    (hj : j < l.length) : l.getD i 0 < l.getD j 0 := by
  rw [List.getD_eq_getElem _ _ (by omega), List.getD_eq_getElem _ _ hj]
  exact List.pairwise_iff_getElem.mp hs i j (by omega) hj hij

theorem getD_drop (l : List Nat) (k i : Nat) : (l.drop k).getD i 0 = l.getD (k + i) 0 := by
  rw [List.getD_eq_getElem?_getD, List.getD_eq_getElem?_getD, List.getElem?_drop]

/-! ## `bisectLeft` -/

section Left

variable {l : List Nat} {x k : Nat}

theorem le_bisectLeft : k ≤ bisectLeft l x k := Nat.le_add_right _ _

theorem bisectLeft_le (h : k ≤ l.length) : bisectLeft l x k ≤ l.length := by
  have h1 := (List.takeWhile_prefix (l := l.drop k) (· < x)).length_le
  rw [List.length_drop] at h1
  unfold bisectLeft
  omega

/-- Every entry before the insertion point is below the value. -/
theorem lt_of_lt_bisectLeft {i : Nat} (hk : k ≤ i) (h : i < bisectLeft l x k) :
    l.getD i 0 < x := by
  have h1 : i - k < ((l.drop k).takeWhile (· < x)).length := by
    unfold bisectLeft at h
    omega
  have h2 := getD_of_lt_takeWhile h1
  rw [getD_drop, Nat.add_sub_cancel' hk] at h2
  simpa using h2

/-- The entry at the insertion point is at least the value. -/
theorem le_getD_bisectLeft (h : bisectLeft l x k < l.length) :
    x ≤ l.getD (bisectLeft l x k) 0 := by
  have hk : k ≤ bisectLeft l x k := le_bisectLeft
  have h1 : ((l.drop k).takeWhile (· < x)).length < (l.drop k).length := by
    rw [List.length_drop]
    unfold bisectLeft at h hk
    omega
  have h2 := getD_length_takeWhile h1
  rw [getD_drop] at h2
  simpa [bisectLeft] using h2

/-- Every entry from the insertion point on is at least the value. -/
theorem le_getD_of_bisectLeft_le (hs : l.Pairwise (· ≤ ·)) {i : Nat}
    (h : bisectLeft l x k ≤ i) (hi : i < l.length) : x ≤ l.getD i 0 :=
  (le_getD_bisectLeft (Nat.lt_of_le_of_lt h hi)).trans (getD_mono hs h hi)

/-- **An entry of a strictly sorted list is found at its own index.** -/
theorem bisectLeft_getD (hs : l.Pairwise (· < ·)) {i : Nat} (hi : i < l.length) :
    bisectLeft l (l.getD i 0) 0 = i := by
  rcases Nat.lt_trichotomy (bisectLeft l (l.getD i 0) 0) i with h | h | h
  · have h1 := le_getD_bisectLeft (Nat.lt_trans h hi)
    have h2 := getD_strictMono hs h hi
    omega
  · exact h
  · exact absurd (lt_of_lt_bisectLeft (Nat.zero_le _) h) (lt_irrefl _)

/-- A later start never moves the insertion point back. -/
theorem bisectLeft_of_le {i : Nat} (hx : x ≤ l.getD i 0) (hk : k ≤ i) : bisectLeft l x k ≤ i := by
  by_contra h
  have h1 := lt_of_lt_bisectLeft hk (Nat.lt_of_not_le h)
  omega

end Left

/-! ## `bisectRight` -/

section Right

variable {l : List Nat} {x : Nat}

/-- Every entry before the insertion point is at most the value. -/
theorem getD_le_of_lt_bisectRight {i : Nat} (h : i < bisectRight l x) : l.getD i 0 ≤ x := by
  simpa using getD_of_lt_takeWhile h

/-- The entry at the insertion point is above the value. -/
theorem lt_getD_bisectRight (h : bisectRight l x < l.length) :
    x < l.getD (bisectRight l x) 0 := by
  have h1 := getD_length_takeWhile h
  simpa [bisectRight] using h1

/-- The insertion point is at or before every entry above the value. -/
theorem bisectRight_le_of_lt {i : Nat} (hx : x < l.getD i 0) : bisectRight l x ≤ i := by
  by_contra h
  have h1 := getD_le_of_lt_bisectRight (Nat.lt_of_not_le h)
  omega

end Right

end Bisect
