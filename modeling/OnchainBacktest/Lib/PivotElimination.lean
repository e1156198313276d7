import Mathlib.Algebra.BigOperators.Intervals
import Mathlib.Algebra.Field.Basic
import Mathlib.Tactic

/-!
# Elimination with pivots

A linear system of `n` equations in `n` unknowns is a table of coefficients, with the right-hand
sides in column `n`.  One step of the elimination takes a row with a non-zero entry in a column,
exchanges it into place, divides it, and clears the column in all other rows.

A step keeps the solutions (`vanishes_pivoted`), and the columns that are done stay done
(`Cleared.pivoted`).  When all columns are done the solution can be read off
(`Cleared.vanishes_iff`); when a column has no pivot the system has a kernel
(`Cleared.exists_kernel`).
-/

set_option autoImplicit false

universe u

namespace PivotElimination

variable {K : Type u} [Field K] {n column pivot : Nat} {m : Nat → Nat → K}

/-- The rows of a system vanish at unknowns `x` with the right-hand sides taken `t` times: at `t = 1`
this says that `x` is a solution, at `t = 0` that it is in the kernel. -/
def Vanishes (n : Nat) (m : Nat → Nat → K) (t : K) (x : Nat → K) : Prop :=
  ∀ row < n, ∑ j ∈ Finset.range n, m row j * x j = t * m row n

/-- Two rows exchanged. -/
def exchanged (m : Nat → Nat → K) (a b : Nat) : Nat → Nat → K := fun row =>
  if row = a then m b else if row = b then m a else m row

/-- One step of the elimination. -/
def pivoted (m : Nat → Nat → K) (column pivot : Nat) : Nat → Nat → K := fun row j =>
  let s := exchanged m column pivot
  let scaled := s column j / s column column
  if row = column then scaled else s row j - s row column * scaled

/-- The columns before `column` are those of the identity. -/
def Cleared (n column : Nat) (m : Nat → Nat → K) : Prop :=
  ∀ row < n, ∀ j < column, m row j = if row = j then 1 else 0

/-! ## Solutions -/

theorem vanishes_congr {m' : Nat → Nat → K} (h : ∀ row < n, ∀ j ≤ n, m row j = m' row j) (t : K)
    (x : Nat → K) : Vanishes n m t x ↔ Vanishes n m' t x := by
  refine forall₂_congr fun row hrow => ?_
  rw [h row hrow n le_rfl, Finset.sum_congr rfl fun j hj => by
    rw [h row hrow j (Finset.mem_range.mp hj).le]]

theorem vanishes_exchanged (hcolumn : column < n) (hpivot : pivot < n) (t : K) (x : Nat → K) :
    Vanishes n (exchanged m column pivot) t x ↔ Vanishes n m t x := by
  constructor
  · intro h row hrow
    by_cases hc : row = column
    · have hother := h pivot hpivot
      by_cases hsame : pivot = column
      · simpa [exchanged, hsame, hc] using hother
      · simpa [exchanged, hsame, hc] using hother
    · by_cases hp : row = pivot
      · simpa [exchanged, hp] using h column hcolumn
      · simpa [exchanged, hc, hp] using h row hrow
  · intro h row hrow
    by_cases hc : row = column
    · simpa [exchanged, hc] using h pivot hpivot
    · by_cases hp : row = pivot
      · have hne : pivot ≠ column := fun heq => hc (hp.trans heq)
        simpa [exchanged, hp, hne] using h column hcolumn
      · simpa [exchanged, hc, hp] using h row hrow

/-- **A step keeps the solutions.** -/
theorem vanishes_pivoted (hcolumn : column < n) (hpivot : pivot < n) (hne : m pivot column ≠ 0)
    (t : K) (x : Nat → K) : Vanishes n (pivoted m column pivot) t x ↔ Vanishes n m t x := by
  rw [← vanishes_exchanged (m := m) hcolumn hpivot]
  have hdivisor : exchanged m column pivot column column ≠ 0 := by simpa [exchanged] using hne
  generalize hs : exchanged m column pivot = s at hdivisor ⊢
  -- the pivot row is scaled, the others lose a multiple of it
  have hpivotRow : ∑ j ∈ Finset.range n, pivoted m column pivot column j * x j =
      (∑ j ∈ Finset.range n, s column j * x j) / s column column := by
    rw [Finset.sum_div]
    refine Finset.sum_congr rfl fun j _ => ?_
    simp only [pivoted, hs, if_true]
    ring
  have hrow : ∀ row, row ≠ column → ∑ j ∈ Finset.range n, pivoted m column pivot row j * x j =
      ∑ j ∈ Finset.range n, s row j * x j -
        s row column * ((∑ j ∈ Finset.range n, s column j * x j) / s column column) := by
    intro row hrow
    rw [Finset.sum_div, Finset.mul_sum, ← Finset.sum_sub_distrib]
    refine Finset.sum_congr rfl fun j _ => ?_
    simp only [pivoted, hs, if_neg hrow]
    ring
  constructor
  · intro h
    have hfirst : ∑ j ∈ Finset.range n, s column j * x j = t * s column n := by
      have hsum := h column hcolumn
      rw [hpivotRow, div_eq_iff hdivisor] at hsum
      rw [hsum]
      simp only [pivoted, hs, if_true]
      rw [mul_assoc, div_mul_cancel₀ _ hdivisor]
    intro row hlt
    by_cases hc : row = column
    · rw [hc, hfirst]
    · have hsum := h row hlt
      rw [hrow row hc, hfirst] at hsum
      simp only [pivoted, hs, if_neg hc] at hsum
      linear_combination hsum
  · intro h row hlt
    by_cases hc : row = column
    · rw [hc, hpivotRow, h column hcolumn]
      simp only [pivoted, hs, if_true]
      ring
    · rw [hrow row hc, h row hlt, h column hcolumn]
      simp only [pivoted, hs, if_neg hc]
      ring

/-! ## Columns that are done -/

theorem cleared_zero : Cleared n 0 m := fun _ _ j hj => absurd hj (Nat.not_lt_zero j)

/-- **A step does one more column.** -/
theorem Cleared.pivoted (h : Cleared n column m) (hcolumn : column < n) (hpivot : pivot < n)
    (hle : column ≤ pivot) (hne : m pivot column ≠ 0) :
    Cleared n (column + 1) (pivoted m column pivot) := by
  have hdivisor : exchanged m column pivot column column ≠ 0 := by simpa [exchanged] using hne
  intro row hrow j hj
  by_cases hdone : j < column
  · -- in the columns done before, the two rows of the exchange have zeros
    have hzero : exchanged m column pivot column j = 0 := by
      have hentry := h pivot hpivot j hdone
      rw [if_neg (by omega)] at hentry
      simpa [exchanged] using hentry
    have hsame : exchanged m column pivot row j = m row j := by
      rw [exchanged]
      split_ifs with hc hp
      · rw [hc, h pivot hpivot j hdone, h column hcolumn j hdone, if_neg (by omega),
          if_neg (by omega)]
      · rw [hp, h pivot hpivot j hdone, h column hcolumn j hdone, if_neg (by omega),
          if_neg (by omega)]
      · rfl
    rw [PivotElimination.pivoted]
    split_ifs with hc hjr hjr
    · omega
    · rw [hzero, zero_div]
    · rw [hsame, hzero, zero_div, mul_zero, sub_zero, h row hrow j hdone, if_pos hjr]
    · rw [hsame, hzero, zero_div, mul_zero, sub_zero, h row hrow j hdone, if_neg hjr]
  · obtain rfl : j = column := by omega
    rw [PivotElimination.pivoted]
    split_ifs with hc
    · exact div_self hdivisor
    · rw [div_self hdivisor, mul_one, sub_self]

/-- **When all columns are done the solution is the last column.** -/
theorem Cleared.vanishes_iff (h : Cleared n n m) (t : K) (x : Nat → K) :
    Vanishes n m t x ↔ ∀ row < n, x row = t * m row n := by
  refine forall₂_congr fun row hrow => ?_
  have hsum : ∑ j ∈ Finset.range n, m row j * x j = x row := by
    rw [Finset.sum_eq_single row]
    · rw [h row hrow row hrow, if_pos rfl, one_mul]
    · intro j hj hne
      rw [h row hrow j (Finset.mem_range.mp hj), if_neg (Ne.symm hne), zero_mul]
    · intro hnot
      exact absurd (Finset.mem_range.mpr hrow) hnot
  rw [hsum]

/-- **A column without a pivot gives a vector of the kernel.** -/
theorem Cleared.exists_kernel (h : Cleared n column m) (hcolumn : column < n)
    (hnone : ∀ row < n, column ≤ row → m row column = 0) :
    ∃ x : Nat → K, x column = 1 ∧ Vanishes n m 0 x := by
  refine ⟨fun j => if j < column then - m j column else if j = column then 1 else 0, by simp,
    fun row hrow => ?_⟩
  have hafter : ∀ j ∈ Finset.range n, j ∉ Finset.range (column + 1) →
      m row j * (if j < column then - m j column else if j = column then 1 else 0) = 0 := by
    intro j _ hj
    have hlt : column < j := by simpa using hj
    rw [if_neg (by omega), if_neg (by omega), mul_zero]
  have hsubset : Finset.range (column + 1) ⊆ Finset.range n :=
    Finset.range_subset_range.mpr (by omega)
  rw [zero_mul, ← Finset.sum_subset hsubset hafter, Finset.sum_range_succ, if_neg (lt_irrefl _),
    if_pos rfl, mul_one]
  have hterm : ∀ j ∈ Finset.range column,
      m row j * (if j < column then - m j column else if j = column then 1 else 0) =
        if j = row then - m row column else 0 := by
    intro j hj
    have hlt := Finset.mem_range.mp hj
    rw [if_pos hlt, h row hrow j hlt]
    by_cases hsame : row = j
    · rw [if_pos hsame, if_pos hsame.symm, one_mul, hsame]
    · rw [if_neg hsame, if_neg (Ne.symm hsame), zero_mul]
  rw [Finset.sum_congr rfl hterm, Finset.sum_ite_eq']
  by_cases hlt : row < column
  · rw [if_pos (Finset.mem_range.mpr hlt), neg_add_cancel]
  · rw [if_neg (by simpa using hlt), zero_add, hnone row hrow (by omega)]

end PivotElimination
