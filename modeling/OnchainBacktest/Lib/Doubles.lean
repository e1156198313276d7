import Mathlib.Data.Nat.Log
import Mathlib.Tactic.Ring
import Mathlib.Tactic.Linarith

/-!
# Whole numbers as floating-point numbers

A binary floating-point format keeps a fixed number of leading bits of a whole number and rounds
the rest to nearest, ties to even.  `roundTo p n` is the number that `n` becomes with `p` bits, as a
whole number again: the format is exact below `2 ^ p` (`roundTo_of_lt`), two numbers above it may
become one, and the order of two numbers is never turned around (`roundTo_mono`).
-/

set_option autoImplicit false

namespace Doubles

/-- What the bits that are dropped count. -/
def unit (p n : Nat) : Nat := 2 ^ (n.log2 + 1 - p)

/-- A whole number rounded to `p` bits, to nearest and ties to even. -/
def roundTo (p n : Nat) : Nat :=
  if 2 * (n % unit p n) < unit p n ∨ (2 * (n % unit p n) = unit p n ∧ n / unit p n % 2 = 0) then
    n / unit p n * unit p n
  else (n / unit p n + 1) * unit p n

theorem unit_pos (p n : Nat) : 0 < unit p n := Nat.two_pow_pos _

/-- The format is exact for numbers of no more bits. -/
theorem roundTo_of_lt {p n : Nat} (h : n < 2 ^ p) : roundTo p n = n := by
  rcases Nat.eq_zero_or_pos n with rfl | hn
  · rw [roundTo, Nat.zero_mod, Nat.zero_div, if_pos (Or.inl (unit_pos p 0)), Nat.zero_mul]
  · have hlog : n.log2 < p := (Nat.log2_lt hn.ne').mpr h
    have hunit : unit p n = 1 := by rw [unit, Nat.sub_eq_zero_of_le hlog, pow_zero]
    rw [roundTo, hunit, Nat.mod_one, Nat.div_one, Nat.mul_one, if_pos (Or.inl (by decide))]

theorem floor_le_roundTo (p n : Nat) : n / unit p n * unit p n ≤ roundTo p n := by
  rw [roundTo]
  split_ifs
  · exact le_rfl
  · exact Nat.mul_le_mul_right _ (Nat.le_succ _)

theorem roundTo_le_ceil (p n : Nat) : roundTo p n ≤ (n / unit p n + 1) * unit p n := by
  rw [roundTo]
  split_ifs
  · exact Nat.mul_le_mul_right _ (Nat.le_succ _)
  · exact le_rfl

/-- Numbers with the same unit keep their order. -/
theorem roundTo_le_of_unit_eq {p x y : Nat} (hxy : x ≤ y) (hunit : unit p x = unit p y) :
    roundTo p x ≤ roundTo p y := by
  have hdiv : x / unit p y ≤ y / unit p y := Nat.div_le_div_right hxy
  rcases Nat.lt_or_eq_of_le hdiv with hlt | heq
  · calc roundTo p x ≤ (x / unit p y + 1) * unit p y := hunit ▸ roundTo_le_ceil p x
      _ ≤ y / unit p y * unit p y := Nat.mul_le_mul_right _ hlt
      _ ≤ roundTo p y := floor_le_roundTo p y
  · -- the two numbers differ in the dropped bits alone
    have hmod : x % unit p y ≤ y % unit p y := by
      have hx := Nat.div_add_mod x (unit p y)
      have hy := Nat.div_add_mod y (unit p y)
      rw [heq] at hx
      omega
    rw [roundTo, roundTo, hunit, heq]
    split_ifs with hx hy
    · exact le_rfl
    · exact Nat.mul_le_mul_right _ (Nat.le_succ _)
    · refine absurd ?_ hx
      rcases ‹_ ∨ _› with hhalf | ⟨hhalf, heven⟩
      · exact Or.inl (by omega)
      · by_cases htie : 2 * (x % unit p y) = unit p y
        · exact Or.inr ⟨htie, heven⟩
        · exact Or.inl (by omega)
    · exact le_rfl

/-- A number does not round beyond the next power of two. -/
theorem roundTo_le_pow {p n : Nat} : roundTo p n ≤ 2 ^ (n.log2 + 1) := by
  have hdvd : unit p n ∣ 2 ^ (n.log2 + 1) := pow_dvd_pow 2 (Nat.sub_le _ _)
  obtain ⟨k, hk⟩ := hdvd
  have hlt : n / unit p n < k := by
    rw [Nat.div_lt_iff_lt_mul (unit_pos p n), Nat.mul_comm, ← hk]
    exact Nat.lt_log2_self
  calc roundTo p n ≤ (n / unit p n + 1) * unit p n := roundTo_le_ceil p n
    _ ≤ k * unit p n := Nat.mul_le_mul_right _ hlt
    _ = 2 ^ (n.log2 + 1) := by rw [Nat.mul_comm, ← hk]

/-- A number does not round below the power of two it has reached. -/
theorem pow_le_roundTo {p n : Nat} (hp : 0 < p) (hn : n ≠ 0) : 2 ^ n.log2 ≤ roundTo p n := by
  have hdvd : unit p n ∣ 2 ^ n.log2 := pow_dvd_pow 2 (by omega)
  obtain ⟨k, hk⟩ := hdvd
  have hle : k ≤ n / unit p n := by
    rw [Nat.le_div_iff_mul_le (unit_pos p n), Nat.mul_comm, ← hk]
    exact Nat.log2_self_le hn
  calc 2 ^ n.log2 = k * unit p n := by rw [Nat.mul_comm, ← hk]
    _ ≤ n / unit p n * unit p n := Nat.mul_le_mul_right _ hle
    _ ≤ roundTo p n := floor_le_roundTo p n

/-- **Rounding keeps the order.** -/
theorem roundTo_mono {p : Nat} (hp : 0 < p) {x y : Nat} (hxy : x ≤ y) :
    roundTo p x ≤ roundTo p y := by
  rcases Nat.eq_zero_or_pos x with rfl | hx
  · rw [roundTo_of_lt (Nat.two_pow_pos p)]
    exact Nat.zero_le _
  have hy : y ≠ 0 := by omega
  by_cases hlog : x.log2 = y.log2
  · exact roundTo_le_of_unit_eq hxy (by rw [unit, unit, hlog])
  · have hlt : x.log2 + 1 ≤ y.log2 := by
      have hle : x.log2 ≤ y.log2 := (Nat.le_log2 hy).mpr ((Nat.log2_self_le hx.ne').trans hxy)
      omega
    calc roundTo p x ≤ 2 ^ (x.log2 + 1) := roundTo_le_pow
      _ ≤ 2 ^ y.log2 := Nat.pow_le_pow_right (by decide) hlt
      _ ≤ roundTo p y := pow_le_roundTo hp hy

/-- Past the bits of the format two numbers become one. -/
example : roundTo 53 (2 ^ 60 + 1) = roundTo 53 (2 ^ 60) := by decide

end Doubles
