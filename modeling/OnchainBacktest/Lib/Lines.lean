import Mathlib.Data.List.Basic

/-!
# Terminated lines

A stream over any alphabet, cut into lines by a terminator: the lines that are complete, and what
has been read of the next one.  `Lines.split` takes what had been read before, so a stream that
comes in pieces is split piece by piece (`Lines.split_append`): the complete lines of the whole are
those of the pieces in their order, each piece starting from what the one before left.
-/

set_option autoImplicit false

namespace Lines

universe u

variable {α : Type u} [DecidableEq α] (terminator : α)

/-- The lines that a text completes, and what it leaves, when `current` has been read before. -/
def split : List α → List α → List (List α) × List α
  | current, [] => ([], current)
  | current, c :: text =>
    if c = terminator then
      let (lines, rest) := split [] text
      (current :: lines, rest)
    else split (current ++ [c]) text

/-- The complete lines of a stream. -/
def terminated (text : List α) : List (List α) := (split terminator [] text).1

/-- What a stream holds of a line that is not complete. -/
def remainder (text : List α) : List α := (split terminator [] text).2

@[simp] theorem split_nil (current : List α) : split terminator current [] = ([], current) := rfl

@[simp] theorem terminated_nil : terminated terminator [] = [] := rfl

@[simp] theorem remainder_nil : remainder terminator [] = [] := rfl

theorem split_terminator (current text : List α) :
    split terminator current (terminator :: text)
      = (current :: (split terminator [] text).1, (split terminator [] text).2) := by
  rw [split, if_pos rfl]

/-- A stream is split piece by piece. -/
theorem split_append (current text more : List α) :
    split terminator current (text ++ more)
      = ((split terminator current text).1
          ++ (split terminator (split terminator current text).2 more).1,
        (split terminator (split terminator current text).2 more).2) := by
  induction text generalizing current with
  | nil => simp
  | cons c text ih =>
    rw [List.cons_append, split, split]
    split_ifs with h
    · rw [ih []]
      rfl
    · exact ih (current ++ [c])

/-- A text with no terminator completes nothing. -/
theorem split_of_notMem {text : List α} (h : terminator ∉ text) (current : List α) :
    split terminator current text = ([], current ++ text) := by
  induction text generalizing current with
  | nil => simp
  | cons c text ih =>
    rw [List.mem_cons, not_or] at h
    rw [split, if_neg (Ne.symm h.1), ih h.2, List.append_assoc, List.singleton_append]

/-- A text up to its first terminator completes one line. -/
theorem split_line {line : List α} (h : terminator ∉ line) (current text : List α) :
    split terminator current (line ++ terminator :: text)
      = ((current ++ line) :: (split terminator [] text).1, (split terminator [] text).2) := by
  rw [split_append, split_of_notMem terminator h, split_terminator]
  rfl

theorem terminated_line {line : List α} (h : terminator ∉ line) (text : List α) :
    terminated terminator (line ++ terminator :: text) = line :: terminated terminator text := by
  rw [terminated, split_line terminator h]
  rfl

theorem remainder_line {line : List α} (h : terminator ∉ line) (text : List α) :
    remainder terminator (line ++ terminator :: text) = remainder terminator text := by
  rw [remainder, split_line terminator h]
  rfl

/-- What is read of a line holds no terminator. -/
theorem notMem_split {current : List α} (h : terminator ∉ current) (text : List α) :
    terminator ∉ (split terminator current text).2 := by
  induction text generalizing current with
  | nil => exact h
  | cons c text ih =>
    rw [split]
    split_ifs with hc
    · exact ih (by simp)
    · exact ih (by simp [h, Ne.symm hc])

/-- What had been read before is as good as the start of the text. -/
theorem split_eq_split_nil {current : List α} (h : terminator ∉ current) (text : List α) :
    split terminator current text = split terminator [] (current ++ text) := by
  rw [split_append, split_of_notMem terminator h]
  rfl

end Lines
