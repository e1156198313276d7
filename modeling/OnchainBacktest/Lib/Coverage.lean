import Mathlib.Order.Bounds.Basic
import Mathlib.Data.List.MinMax
import Mathlib.Tactic

/-!
# How far a set of ranges reaches

Half-open ranges of numbers, in any order, that may overlap, nest or leave gaps.  From a start the
ranges reach up to the first number that none of them covers, and `Coverage.sweep` finds it by
jumping, from a number that is covered, to the furthest end of a range that covers it
(`Coverage.sweep_isLeast`).  A jump passes over covered numbers only, and every jump leaves one
range more behind.
-/

set_option autoImplicit false

namespace Coverage

/-- A number is in one of the ranges. -/
def Covered (ranges : List (Nat × Nat)) (n : Nat) : Prop := ∃ r ∈ ranges, r.1 ≤ n ∧ n < r.2

/-- The ends of the ranges that cover a number. -/
def endsAt (ranges : List (Nat × Nat)) (n : Nat) : List Nat :=
  (ranges.filter fun r => r.1 ≤ n && n < r.2).map Prod.snd

/-- The furthest of them; the number itself when there is none. -/
def jump (ranges : List (Nat × Nat)) (n : Nat) : Nat := ((endsAt ranges n).max?).getD n

theorem mem_endsAt {ranges : List (Nat × Nat)} {n last : Nat} :
    last ∈ endsAt ranges n ↔ ∃ first, (first, last) ∈ ranges ∧ first ≤ n ∧ n < last := by
  rw [endsAt, List.mem_map]
  constructor
  · rintro ⟨⟨first, last'⟩, hr, rfl⟩
    simp only [List.mem_filter, Bool.and_eq_true, decide_eq_true_eq] at hr
    exact ⟨first, hr.1, hr.2⟩
  · rintro ⟨first, hr, hn⟩
    exact ⟨(first, last), by simpa using ⟨hr, hn⟩, rfl⟩

/-- A jump stays where it is, or goes to the end of a range that covers the number. -/
theorem jump_cases (ranges : List (Nat × Nat)) (n : Nat) :
    (jump ranges n = n ∧ ¬ Covered ranges n) ∨
      ∃ first, (first, jump ranges n) ∈ ranges ∧ first ≤ n ∧ n < jump ranges n := by
  rw [jump]
  cases hmax : (endsAt ranges n).max? with
  | none =>
    refine Or.inl ⟨rfl, ?_⟩
    rintro ⟨⟨first, last⟩, hr, hn⟩
    have hmem : last ∈ endsAt ranges n := mem_endsAt.mpr ⟨first, hr, hn⟩
    rw [List.max?_eq_none_iff] at hmax
    rw [hmax] at hmem
    exact absurd hmem (by simp)
  | some last =>
    exact Or.inr (mem_endsAt.mp (List.max?_mem hmax))

theorem le_jump (ranges : List (Nat × Nat)) (n : Nat) : n ≤ jump ranges n := by
  rcases jump_cases ranges n with ⟨h, -⟩ | ⟨first, -, -, h⟩
  · exact h.ge
  · exact h.le

/-- A jump passes over covered numbers only. -/
theorem covered_of_lt_jump {ranges : List (Nat × Nat)} {n m : Nat} (hn : n ≤ m)
    (hm : m < jump ranges n) : Covered ranges m := by
  rcases jump_cases ranges n with ⟨h, -⟩ | ⟨first, hr, hfirst, -⟩
  · omega
  · exact ⟨_, hr, hfirst.trans hn, hm⟩

/-- The ranges that end after a number. -/
def ahead (ranges : List (Nat × Nat)) (n : Nat) : List (Nat × Nat) :=
  ranges.filter fun r => n < r.2

/-- A jump leaves a range behind. -/
theorem ahead_jump_lt {ranges : List (Nat × Nat)} {n : Nat} (h : jump ranges n ≠ n) :
    (ahead ranges (jump ranges n)).length < (ahead ranges n).length := by
  rcases jump_cases ranges n with ⟨hstay, -⟩ | ⟨first, hr, -, hlt⟩
  · exact absurd hstay h
  · have hsub : ahead ranges (jump ranges n) = (ahead ranges n).filter
        fun r => jump ranges n < r.2 := by
      rw [ahead, ahead, List.filter_filter]
      refine List.filter_congr fun r _ => ?_
      by_cases hr' : jump ranges n < r.2
      · simp [hr', hlt.trans hr']
      · simp [hr']
    rw [hsub]
    refine List.length_filter_lt_length_iff_exists.mpr ⟨(first, jump ranges n), ?_, by simp⟩
    simpa [ahead] using ⟨hr, hlt⟩

/-- Jump for as long as it goes on. -/
def sweep (ranges : List (Nat × Nat)) (n : Nat) : Nat :=
  if _h : jump ranges n = n then n else sweep ranges (jump ranges n)
termination_by (ahead ranges n).length
decreasing_by exact ahead_jump_lt _h

theorem sweep_of_jump_eq {ranges : List (Nat × Nat)} {n : Nat} (h : jump ranges n = n) :
    sweep ranges n = n := by
  rw [sweep, dif_pos h]

theorem sweep_of_jump_ne {ranges : List (Nat × Nat)} {n : Nat} (h : jump ranges n ≠ n) :
    sweep ranges n = sweep ranges (jump ranges n) := by
  conv_lhs => rw [sweep, dif_neg h]

/-- What a sweep passes over is covered, and where it ends is not. -/
theorem sweep_spec (ranges : List (Nat × Nat)) (n : Nat) :
    n ≤ sweep ranges n ∧ ¬ Covered ranges (sweep ranges n) ∧
      ∀ m, n ≤ m → m < sweep ranges n → Covered ranges m := by
  induction hahead : (ahead ranges n).length using Nat.strong_induction_on generalizing n with
  | _ k ih =>
    by_cases h : jump ranges n = n
    · rw [sweep_of_jump_eq h]
      refine ⟨le_rfl, ?_, fun m hn hm => absurd hm (by omega)⟩
      rcases jump_cases ranges n with ⟨-, hnot⟩ | ⟨first, -, -, hlt⟩
      · exact hnot
      · omega
    · rw [sweep_of_jump_ne h]
      obtain ⟨hle, hnot, hpassed⟩ := ih _ (hahead ▸ ahead_jump_lt h) (jump ranges n) rfl
      refine ⟨(le_jump ranges n).trans hle, hnot, fun m hn hm => ?_⟩
      by_cases hjump : m < jump ranges n
      · exact covered_of_lt_jump hn hjump
      · exact hpassed m (not_lt.mp hjump) hm

/-- **A sweep ends at the least number, from its start on, that is not covered.** -/
theorem sweep_isLeast (ranges : List (Nat × Nat)) (start : Nat) :
    IsLeast {n | start ≤ n ∧ ¬ Covered ranges n} (sweep ranges start) := by
  obtain ⟨hle, hnot, hpassed⟩ := sweep_spec ranges start
  refine ⟨⟨hle, hnot⟩, ?_⟩
  rintro n ⟨hn, huncovered⟩
  by_contra hlt
  exact huncovered (hpassed n hn (not_le.mp hlt))

end Coverage
