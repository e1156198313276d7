import OnchainBacktest.Lib.Bisect
import OnchainBacktest.Lib.Doubles
import OnchainBacktest.Lib.OrderedSplit

/-!
# Searching an array of unsigned integers

What is used of NumPy's `searchsorted`, for an array of 64-bit unsigned integers and a Python
integer.  The integer is taken as a 64-bit integer, signed when it fits, and both sides are compared
in the common type of the two: for signed integers and unsigned ones this is a double, which keeps
53 bits (`promoted`).  Where the array is in order as it is compared, the position is between the
entries that are below the value (or at most the value) and the others; nothing else is known of it.
-/

set_option autoImplicit false

namespace OnchainBacktest

namespace Ml

open Bisect

/-- What the entries of an array and a key are compared as. -/
def promoted (key : Nat) : Nat → Nat :=
  if key < 2 ^ 63 then Doubles.roundTo 53 else id

theorem promoted_mono (key : Nat) : Monotone (promoted key) := by
  intro x y hxy
  rw [promoted]
  split_ifs
  · exact Doubles.roundTo_mono (by decide) hxy
  · exact hxy

theorem promoted_of_lt (key : Nat) {n : Nat} (h : n < 2 ^ 53) : promoted key n = n := by
  rw [promoted]
  split_ifs
  · exact Doubles.roundTo_of_lt h
  · rfl

inductive Side
  | left
  | right
  deriving DecidableEq, Repr

/-- An array is in order as it is compared with a key. -/
def InOrder (array : List Nat) (key : Nat) : Prop :=
  array.Pairwise fun x y => promoted key x ≤ promoted key y

theorem InOrder.of_sorted {array : List Nat} (h : array.Pairwise (· ≤ ·)) (key : Nat) :
    InOrder array key :=
  h.imp fun hxy => promoted_mono key hxy

/-- The search of an array. -/
class NumpySearch where
  searchsorted : List Nat → Nat → Side → Nat
  le_length : ∀ array key side, searchsorted array key side ≤ array.length
  left_before : ∀ {array : List Nat} {key : Nat}, InOrder array key →
    ∀ x ∈ array.take (searchsorted array key .left), promoted key x < promoted key key
  left_after : ∀ {array : List Nat} {key : Nat}, InOrder array key →
    ∀ x ∈ array.drop (searchsorted array key .left), promoted key key ≤ promoted key x
  right_before : ∀ {array : List Nat} {key : Nat}, InOrder array key →
    ∀ x ∈ array.take (searchsorted array key .right), promoted key x ≤ promoted key key
  right_after : ∀ {array : List Nat} {key : Nat}, InOrder array key →
    ∀ x ∈ array.drop (searchsorted array key .right), promoted key key < promoted key x

export NumpySearch (searchsorted)

section Search

variable [NumpySearch] {array : List Nat} {key : Nat}

/-- The left position is the number of entries below the key. -/
theorem searchsorted_left (h : InOrder array key) :
    searchsorted array key .left
      = (array.filter fun x => promoted key x < promoted key key).length := by
  have htake := OrderedSplit.take_eq_filter (p := fun x => promoted key x < promoted key key)
    (fun x hx => by simpa using NumpySearch.left_before h x hx)
    (fun x hx => by simpa using NumpySearch.left_after h x hx)
  rw [← htake, List.length_take, min_eq_left (NumpySearch.le_length array key .left)]

/-- The right position is the number of entries that are not above the key. -/
theorem searchsorted_right (h : InOrder array key) :
    searchsorted array key .right
      = (array.filter fun x => promoted key x ≤ promoted key key).length := by
  have htake := OrderedSplit.take_eq_filter (p := fun x => promoted key x ≤ promoted key key)
    (fun x hx => by simpa using NumpySearch.right_before h x hx)
    (fun x hx => by simpa using NumpySearch.right_after h x hx)
  rw [← htake, List.length_take, min_eq_left (NumpySearch.le_length array key .right)]

end Search

/-! ## A search -/

instance decidableInOrder (array : List Nat) (key : Nat) : Decidable (InOrder array key) :=
  inferInstanceAs (Decidable (array.Pairwise _))

/-- The test that the entries before a position pass. -/
def beforePosition (key : Nat) (side : Side) (x : Nat) : Bool :=
  if side = .left then promoted key x < promoted key key else promoted key x ≤ promoted key key

/-- A position in an array: the right one if it is in order, otherwise the one given. -/
def positionOr (elsewhere : Nat) (array : List Nat) (key : Nat) (side : Side) : Nat :=
  if InOrder array key then (array.filter (beforePosition key side)).length
  else min elsewhere array.length

theorem positionOr_le (elsewhere : Nat) (array : List Nat) (key : Nat) (side : Side) :
    positionOr elsewhere array key side ≤ array.length := by
  rw [positionOr]
  split_ifs
  · exact List.length_filter_le _ _
  · exact min_le_right _ _

/-- An array in order is cut in two by the test. -/
theorem split_positionOr {array : List Nat} {key : Nat} (h : InOrder array key) (side : Side) :
    array = array.filter (beforePosition key side)
      ++ array.filter fun x => !beforePosition key side x := by
  refine OrderedSplit.eq_filter_append (fun x y hxy hy => ?_) h
  rw [beforePosition] at hy ⊢
  split_ifs at hy ⊢
  · exact decide_eq_true (hxy.trans_lt (of_decide_eq_true hy))
  · exact decide_eq_true (hxy.trans (of_decide_eq_true hy))

theorem beforePosition_of_mem_take (elsewhere : Nat) {array : List Nat} {key : Nat}
    (h : InOrder array key) (side : Side) {x : Nat}
    (hx : x ∈ array.take (positionOr elsewhere array key side)) :
    beforePosition key side x = true := by
  rw [positionOr, if_pos h] at hx
  have htake := congrArg (List.take (array.filter (beforePosition key side)).length)
    (split_positionOr h side)
  rw [List.take_left] at htake
  rw [htake] at hx
  exact (List.mem_filter.mp hx).2

theorem beforePosition_of_mem_drop (elsewhere : Nat) {array : List Nat} {key : Nat}
    (h : InOrder array key) (side : Side) {x : Nat}
    (hx : x ∈ array.drop (positionOr elsewhere array key side)) :
    beforePosition key side x = false := by
  rw [positionOr, if_pos h] at hx
  have hdrop := congrArg (List.drop (array.filter (beforePosition key side)).length)
    (split_positionOr h side)
  rw [List.drop_left] at hdrop
  rw [hdrop] at hx
  simpa using (List.mem_filter.mp hx).2

/-- A search that finds the position in an array in order, and any position elsewhere. -/
abbrev searchOr (elsewhere : Nat) : NumpySearch where
  searchsorted := positionOr elsewhere
  le_length := positionOr_le elsewhere
  left_before h _ hx := of_decide_eq_true (beforePosition_of_mem_take elsewhere h .left hx)
  left_after h _ hx :=
    not_lt.mp (of_decide_eq_false (beforePosition_of_mem_drop elsewhere h .left hx))
  right_before h _ hx := of_decide_eq_true (beforePosition_of_mem_take elsewhere h .right hx)
  right_after h _ hx :=
    not_le.mp (of_decide_eq_false (beforePosition_of_mem_drop elsewhere h .right hx))

end Ml

end OnchainBacktest
