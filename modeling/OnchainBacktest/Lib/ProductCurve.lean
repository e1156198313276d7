import Mathlib.Algebra.Order.Ring.Nat
import Mathlib.Tactic.Ring
import Mathlib.Tactic.Linarith

/-!
# Constant-product curves in whole units

Two reserves are held so that their product does not fall: an input `x` to a reserve `a` is paid
for out of a reserve `b` with `b * x / (a + x)`, rounded down.  The rounding goes to the curve:
the product of the reserves never falls (`product_le`), an output never takes all of a reserve
(`output_lt`), and a larger input never gives less (`output_mono`).

Giving an output back never returns more than the input it was paid for with, on the reserves of
before (`output_output_le`) and on the reserves the input moved (`output_moved_le`).

A proportional fee is rounded down as well, so what is left of an input after it still grows with
the input (`net_mono`).
-/

set_option autoImplicit false

namespace ProductCurve

/-- What an input to a reserve `a` takes out of a reserve `b`. -/
def output (a b x : Nat) : Nat := b * x / (a + x)

theorem output_mul_le (a b x : Nat) : output a b x * (a + x) ≤ b * x := Nat.div_mul_le_self _ _

theorem output_lt {a b : Nat} (ha : 0 < a) (hb : 0 < b) (x : Nat) : output a b x < b := by
  rw [output, Nat.div_lt_iff_lt_mul (by omega), Nat.mul_add]
  exact Nat.lt_add_of_pos_left (Nat.mul_pos hb ha)

/-- **The product of the reserves never falls.** -/
theorem product_le (a b x : Nat) : a * b ≤ (a + x) * (b - output a b x) := by
  have hout := output_mul_le a b x
  rw [Nat.mul_sub, Nat.mul_comm (a + x) (output a b x), Nat.add_mul, Nat.mul_comm x b]
  omega

/-- A larger input never gives less. -/
theorem output_mono {a : Nat} (ha : 0 < a) (b : Nat) {x y : Nat} (h : x ≤ y) :
    output a b x ≤ output a b y := by
  have hout := output_mul_le a b x
  rw [output, output, Nat.le_div_iff_mul_le (by omega)]
  rw [output] at hout
  obtain ⟨d, rfl⟩ := Nat.exists_eq_add_of_le h
  have hle : b * x / (a + x) ≤ b := by
    refine Nat.div_le_of_le_mul ?_
    rw [Nat.mul_comm]
    exact Nat.mul_le_mul_right b (Nat.le_add_left x a)
  calc b * x / (a + x) * (a + (x + d))
      = b * x / (a + x) * (a + x) + b * x / (a + x) * d := by ring
    _ ≤ b * x + b * d := Nat.add_le_add hout (Nat.mul_le_mul_right d hle)
    _ = b * (x + d) := (Nat.mul_add b x d).symm

theorem output_le (a b x : Nat) : output a b x ≤ b := by
  refine Nat.div_le_of_le_mul ?_
  rw [Nat.mul_comm]
  exact Nat.mul_le_mul_right b (Nat.le_add_left x a)

/-- The product does not fall either when more goes in than is paid for. -/
theorem product_le_of_le (a b : Nat) {x y : Nat} (h : x ≤ y) :
    a * b ≤ (a + y) * (b - output a b x) :=
  (product_le a b x).trans (Nat.mul_le_mul_right _ (Nat.add_le_add_left h a))

/-- **An output given back at once returns at most the input.** -/
theorem output_output_le (a b x : Nat) : output b a (output a b x) ≤ x := by
  have hout := output_mul_le a b x
  refine Nat.div_le_of_le_mul ?_
  calc a * output a b x
      ≤ output a b x * (a + x) := by
        rw [Nat.mul_comm]
        exact Nat.mul_le_mul_left _ (Nat.le_add_right a x)
    _ ≤ b * x := hout
    _ ≤ (b + output a b x) * x := Nat.mul_le_mul_right x (Nat.le_add_right b _)

/-- **An output given back to the moved reserves returns at most what went in.** -/
theorem output_moved_le (a b : Nat) {x y : Nat} (h : x ≤ y) :
    output (b - output a b x) (a + y) (output a b x) ≤ y := by
  have hout := output_mul_le a b x
  have hle := output_le a b x
  obtain ⟨d, rfl⟩ := Nat.exists_eq_add_of_le h
  refine Nat.div_le_of_le_mul ?_
  rw [Nat.sub_add_cancel hle]
  calc (a + (x + d)) * output a b x
      = output a b x * (a + x) + output a b x * d := by ring
    _ ≤ b * x + b * d := Nat.add_le_add hout (Nat.mul_le_mul_right d hle)
    _ = b * (x + d) := (Nat.mul_add b x d).symm

/-- What a fee of `rate` in `scale` takes of an amount. -/
def fee (rate scale x : Nat) : Nat := x * rate / scale

/-- What is left of an amount after the fee. -/
def net (rate scale x : Nat) : Nat := x - fee rate scale x

theorem fee_le {rate scale : Nat} (h : rate ≤ scale) (x : Nat) : fee rate scale x ≤ x := by
  refine Nat.div_le_of_le_mul ?_
  rw [Nat.mul_comm]
  exact Nat.mul_le_mul_right x h

theorem fee_add_net {rate scale : Nat} (h : rate ≤ scale) (x : Nat) :
    fee rate scale x + net rate scale x = x :=
  Nat.add_sub_of_le (fee_le h x)

theorem net_pos {rate scale : Nat} (h : rate < scale) {x : Nat} (hx : 0 < x) :
    0 < net rate scale x := by
  have hlt : fee rate scale x < x := by
    rw [fee, Nat.div_lt_iff_lt_mul (by omega)]
    exact Nat.mul_lt_mul_of_pos_left h hx
  exact Nat.sub_pos_of_lt hlt

/-- One more in leaves no less after the fee. -/
theorem net_mono {rate scale : Nat} (h : rate ≤ scale) {x y : Nat} (hxy : x ≤ y) :
    net rate scale x ≤ net rate scale y := by
  obtain ⟨d, rfl⟩ := Nat.exists_eq_add_of_le hxy
  have hfee : fee rate scale (x + d) ≤ fee rate scale x + d := by
    rcases Nat.eq_zero_or_pos scale with rfl | hscale
    · rw [fee, Nat.div_zero]
      exact Nat.zero_le _
    · rw [fee, fee, ← Nat.add_mul_div_right _ _ hscale]
      refine Nat.div_le_div_right ?_
      rw [Nat.add_mul]
      exact Nat.add_le_add_left (Nat.mul_le_mul_left d h) _
  rw [net, net]
  omega

end ProductCurve
