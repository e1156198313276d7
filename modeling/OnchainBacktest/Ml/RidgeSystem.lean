import Mathlib.Algebra.Order.BigOperators.Ring.Finset
import OnchainBacktest.Lib.PivotElimination

/-!
# Ridge regression

What the exact trainer is for: among all linear forms of the features, the one with the least
squared error on the samples, with a penalty on every weight but the intercept.  The forms that
satisfy the normal equations are those (`NormalEquations.objective_le`).  A form that the equations
do not tell from zero predicts nothing, and with a penalty there is none
(`predict_eq_zero_of_kernel`, `eq_zero_of_kernel`).
-/

set_option autoImplicit false

namespace OnchainBacktest

namespace Ml

/-- What a model is fitted on at one row: a 1 for the intercept before the features, and the
label. -/
structure Sample where
  values : List Int
  value : Int
  deriving DecidableEq

namespace Sample

/-- A value of a sample. -/
def coordinate (s : Sample) (i : Nat) : ℚ := (s.values.getD i 0 : Int)

/-- A linear form at a sample. -/
def predict (s : Sample) (n : Nat) (β : Nat → ℚ) : ℚ :=
  ∑ i ∈ Finset.range n, β i * s.coordinate i

/-- How far a linear form is from the label. -/
def residual (s : Sample) (n : Nat) (β : Nat → ℚ) : ℚ := s.predict n β - s.value

theorem predict_add (s : Sample) (n : Nat) (β δ : Nat → ℚ) :
    s.predict n (fun i => β i + δ i) = s.predict n β + s.predict n δ := by
  simp only [predict, add_mul, Finset.sum_add_distrib]

end Sample

/-- The penalty of a coefficient: the intercept has none. -/
def penalty (ridgeLambda i : Nat) : ℚ := if 0 < i then ridgeLambda else 0

theorem penalty_nonneg (ridgeLambda i : Nat) : 0 ≤ penalty ridgeLambda i := by
  rw [penalty]
  split_ifs <;> positivity

/-- The squared error of a linear form. -/
def squaredError (samples : List Sample) (n : Nat) (β : Nat → ℚ) : ℚ :=
  (samples.map fun s => s.residual n β ^ 2).sum

/-- What a ridge fit makes small. -/
def objective (ridgeLambda : Nat) (samples : List Sample) (n : Nat) (β : Nat → ℚ) : ℚ :=
  squaredError samples n β + ∑ i ∈ Finset.range n, penalty ridgeLambda i * β i ^ 2

/-- The derivatives of the objective vanish. -/
def NormalEquations (ridgeLambda : Nat) (samples : List Sample) (n : Nat) (β : Nat → ℚ) : Prop :=
  ∀ i < n, (samples.map fun s => s.coordinate i * s.residual n β).sum
    + penalty ridgeLambda i * β i = 0

/-- The equations of the system do not tell the form from zero. -/
def InKernel (ridgeLambda : Nat) (samples : List Sample) (n : Nat) (δ : Nat → ℚ) : Prop :=
  ∀ i < n, (samples.map fun s => s.coordinate i * s.predict n δ).sum
    + penalty ridgeLambda i * δ i = 0

section

variable {ridgeLambda n : Nat} {samples : List Sample} {β δ : Nat → ℚ}

theorem squaredError_nonneg (samples : List Sample) (n : Nat) (β : Nat → ℚ) :
    0 ≤ squaredError samples n β := by
  refine List.sum_nonneg fun e he => ?_
  obtain ⟨s, -, rfl⟩ := List.mem_map.mp he
  positivity

/-- A sum over samples of a form's values is a form in the sums of the coordinates. -/
theorem sum_mul_predict (samples : List Sample) (f : Sample → ℚ) (n : Nat) (δ : Nat → ℚ) :
    (samples.map fun s => f s * s.predict n δ).sum =
      ∑ i ∈ Finset.range n, δ i * (samples.map fun s => s.coordinate i * f s).sum := by
  induction samples with
  | nil => simp
  | cons s samples ih =>
    simp only [List.map_cons, List.sum_cons, ih, mul_add, Finset.sum_add_distrib]
    rw [Sample.predict, Finset.mul_sum]
    refine congrArg (· + _) (Finset.sum_congr rfl fun i _ => ?_)
    ring

theorem squaredError_add (samples : List Sample) (n : Nat) (β δ : Nat → ℚ) :
    squaredError samples n (fun i => β i + δ i) = squaredError samples n β
      + 2 * (samples.map fun s => s.residual n β * s.predict n δ).sum
      + (samples.map fun s => s.predict n δ ^ 2).sum := by
  induction samples with
  | nil => simp [squaredError]
  | cons s samples ih =>
    simp only [squaredError, List.map_cons, List.sum_cons] at ih ⊢
    rw [ih, Sample.residual, Sample.predict_add, Sample.residual]
    ring

/-- **A form that satisfies the normal equations has the least objective.** -/
theorem NormalEquations.objective_le (h : NormalEquations ridgeLambda samples n β)
    (β' : Nat → ℚ) : objective ridgeLambda samples n β ≤ objective ridgeLambda samples n β' := by
  obtain ⟨δ, rfl⟩ : ∃ δ : Nat → ℚ, β' = fun i => β i + δ i :=
    ⟨fun i => β' i - β i, by simp⟩
  -- the terms that are linear in the difference are the equations, weighted by it
  have hlinear : (samples.map fun s => s.residual n β * s.predict n δ).sum
      + ∑ i ∈ Finset.range n, penalty ridgeLambda i * β i * δ i = 0 := by
    rw [sum_mul_predict, ← Finset.sum_add_distrib]
    refine Finset.sum_eq_zero fun i hi => ?_
    rw [mul_comm _ (δ i), ← mul_add, h i (Finset.mem_range.mp hi), mul_zero]
  have hsquares : ∑ i ∈ Finset.range n, penalty ridgeLambda i * (β i + δ i) ^ 2 =
      ∑ i ∈ Finset.range n, penalty ridgeLambda i * β i ^ 2
        + 2 * ∑ i ∈ Finset.range n, penalty ridgeLambda i * β i * δ i
        + ∑ i ∈ Finset.range n, penalty ridgeLambda i * δ i ^ 2 := by
    rw [Finset.mul_sum, ← Finset.sum_add_distrib, ← Finset.sum_add_distrib]
    exact Finset.sum_congr rfl fun i _ => by ring
  have herror : 0 ≤ (samples.map fun s => s.predict n δ ^ 2).sum := by
    refine List.sum_nonneg fun e he => ?_
    obtain ⟨s, -, rfl⟩ := List.mem_map.mp he
    positivity
  have hpenalty : 0 ≤ ∑ i ∈ Finset.range n, penalty ridgeLambda i * δ i ^ 2 :=
    Finset.sum_nonneg fun i _ => mul_nonneg (penalty_nonneg _ _) (sq_nonneg _)
  rw [objective, objective, squaredError_add, hsquares]
  linarith

/-! ## The kernel -/

theorem InKernel.squares (h : InKernel ridgeLambda samples n δ) :
    (samples.map fun s => s.predict n δ ^ 2).sum
      + ∑ i ∈ Finset.range n, penalty ridgeLambda i * δ i ^ 2 = 0 := by
  have hsum : (samples.map fun s => s.predict n δ ^ 2).sum =
      ∑ i ∈ Finset.range n, δ i * (samples.map fun s => s.coordinate i * s.predict n δ).sum := by
    rw [← sum_mul_predict]
    simp only [pow_two]
  rw [hsum, ← Finset.sum_add_distrib]
  refine Finset.sum_eq_zero fun i hi => ?_
  have hterm : penalty ridgeLambda i * δ i ^ 2 = δ i * (penalty ridgeLambda i * δ i) := by ring
  rw [hterm, ← mul_add, h i (Finset.mem_range.mp hi), mul_zero]

/-- **A form in the kernel predicts nothing**, and its penalty is nothing. -/
theorem InKernel.vanish (h : InKernel ridgeLambda samples n δ) :
    (∀ s ∈ samples, s.predict n δ = 0) ∧ ∀ i < n, penalty ridgeLambda i * δ i ^ 2 = 0 := by
  have hsquares := h.squares
  have hterms : ∀ e ∈ samples.map fun s => s.predict n δ ^ 2, 0 ≤ e := by
    intro e he
    obtain ⟨s, -, rfl⟩ := List.mem_map.mp he
    positivity
  have hterm : ∀ i ∈ Finset.range n, 0 ≤ penalty ridgeLambda i * δ i ^ 2 :=
    fun i _ => mul_nonneg (penalty_nonneg _ _) (sq_nonneg _)
  have herror := List.sum_nonneg hterms
  have hpenalty := Finset.sum_nonneg hterm
  refine ⟨fun s hs => ?_, fun i hi => ?_⟩
  · have hle := List.single_le_sum hterms _ (List.mem_map_of_mem hs)
    have hzero : s.predict n δ ^ 2 = 0 := le_antisymm (by linarith) (sq_nonneg _)
    exact pow_eq_zero_iff two_ne_zero |>.mp hzero
  · have hzero : ∑ i ∈ Finset.range n, penalty ridgeLambda i * δ i ^ 2 = 0 := by linarith
    exact (Finset.sum_eq_zero_iff_of_nonneg hterm).mp hzero i (Finset.mem_range.mpr hi)

/-- **With a penalty and a sample, nothing but zero is in the kernel.** -/
theorem InKernel.eq_zero (h : InKernel ridgeLambda samples n δ) (hlambda : 0 < ridgeLambda)
    {s : Sample} (hs : s ∈ samples) (hone : s.coordinate 0 = 1) : ∀ i < n, δ i = 0 := by
  obtain ⟨hpredict, hpenalty⟩ := h.vanish
  have hweights : ∀ i < n, 0 < i → δ i = 0 := by
    intro i hi hpos
    have hterm := hpenalty i hi
    rw [penalty, if_pos hpos, mul_eq_zero, pow_eq_zero_iff two_ne_zero] at hterm
    exact hterm.resolve_left (by exact_mod_cast hlambda.ne')
  intro i hi
  by_cases hpos : 0 < i
  · exact hweights i hi hpos
  · obtain rfl : i = 0 := by omega
    have hvalue := hpredict s hs
    rw [Sample.predict, Finset.sum_eq_single 0, hone, mul_one] at hvalue
    · exact hvalue
    · intro j hj hne
      rw [hweights j (Finset.mem_range.mp hj) (by omega), zero_mul]
    · intro hnot
      exact absurd (Finset.mem_range.mpr hi) hnot

end

end Ml

end OnchainBacktest
