import OnchainBacktest.Lib.Checked

/-!
# Windows that tile a range

A list of windows tiles a range when each window starts where the one before it stops.  The indices
of the windows are then those of the range, each once and in order (`Tiles.flatMap_indices`), so a
loop over the windows that goes through the indices of each one is the loop over the range
(`Tiles.foldlM_indices`): where the range is cut does not matter.
-/

set_option autoImplicit false

universe u v

/-- The windows lead from the start to the stop, and none of them is empty. -/
def Tiles : Nat → List (Nat × Nat) → Nat → Prop
  | start, [], stop => start = stop
  | start, window :: rest, stop => window.1 = start ∧ start < window.2 ∧ Tiles window.2 rest stop

namespace Tiles

open Checked

variable {start middle stop : Nat} {windows later : List (Nat × Nat)}

/-- The indices of a window. -/
def indices (window : Nat × Nat) : List Nat := List.range' window.1 (window.2 - window.1)

theorem mem_indices {window : Nat × Nat} {index : Nat} :
    index ∈ indices window ↔ window.1 ≤ index ∧ index < window.2 := by
  rw [indices, List.mem_range'_1]
  omega

theorem le (h : Tiles start windows stop) : start ≤ stop := by
  induction windows generalizing start with
  | nil => exact Nat.le_of_eq h
  | cons window rest ih =>
    obtain ⟨-, hlt, hrest⟩ := h
    exact hlt.le.trans (ih hrest)

/-- A window lies inside the range. -/
theorem bounds (h : Tiles start windows stop) {window : Nat × Nat} (hw : window ∈ windows) :
    start ≤ window.1 ∧ window.1 < window.2 ∧ window.2 ≤ stop := by
  induction windows generalizing start with
  | nil => simp at hw
  | cons first rest ih =>
    obtain ⟨hfirst, hlt, hrest⟩ := h
    rcases List.mem_cons.mp hw with rfl | hw
    · exact ⟨hfirst.ge, hfirst ▸ hlt, hrest.le⟩
    · obtain ⟨hstart, hrest⟩ := ih hrest hw
      exact ⟨hlt.le.trans hstart, hrest⟩

theorem append (h : Tiles start windows middle) (h' : Tiles middle later stop) :
    Tiles start (windows ++ later) stop := by
  induction windows generalizing start with
  | nil =>
    obtain rfl : start = middle := h
    exact h'
  | cons window rest ih =>
    obtain ⟨hfirst, hlt, hrest⟩ := h
    exact ⟨hfirst, hlt, ih hrest⟩

theorem singleton (h : start < stop) : Tiles start [(start, stop)] stop := ⟨rfl, h, rfl⟩

/-- The indices from a start to a stop, cut at a point between them. -/
theorem indices_append (h : start ≤ middle) (h' : middle ≤ stop) :
    indices (start, middle) ++ indices (middle, stop) = indices (start, stop) := by
  have hlength : middle - start + (stop - middle) = stop - start := by omega
  have hmiddle : start + (middle - start) = middle := by omega
  rw [indices, indices, indices]
  dsimp only
  rw [← hlength, ← List.range'_append_1, hmiddle]

/-- **The windows have the indices of the range, each once and in order.** -/
theorem flatMap_indices (h : Tiles start windows stop) :
    windows.flatMap indices = indices (start, stop) := by
  induction windows generalizing start with
  | nil =>
    obtain rfl : start = stop := h
    simp [indices]
  | cons window rest ih =>
    obtain ⟨first, last⟩ := window
    obtain ⟨rfl, hlt, hrest⟩ := h
    rw [List.flatMap_cons, ih hrest, indices_append hlt.le hrest.le]

/-- An index of the range is in a window. -/
theorem exists_window (h : Tiles start windows stop) {index : Nat} (hstart : start ≤ index)
    (hstop : index < stop) : ∃ window ∈ windows, window.1 ≤ index ∧ index < window.2 := by
  have hindex : index ∈ windows.flatMap indices := by
    rw [h.flatMap_indices]
    exact mem_indices.mpr ⟨hstart, hstop⟩
  obtain ⟨window, hwindow, hindex⟩ := List.mem_flatMap.mp hindex
  exact ⟨window, hwindow, mem_indices.mp hindex⟩

/-- What a strictly increasing function makes of the ends of the windows tiles its range. -/
theorem map {f : Nat → Nat} (h : Tiles start windows stop)
    (hf : ∀ i j, i < j → j ≤ stop → f i < f j) :
    Tiles (f start) (windows.map fun window => (f window.1, f window.2)) (f stop) := by
  induction windows generalizing start with
  | nil => exact congrArg f h
  | cons window rest ih =>
    obtain ⟨hfirst, hlt, hrest⟩ := h
    exact ⟨congrArg f hfirst, hf _ _ hlt hrest.le, ih hrest⟩

/-- **A loop over the windows is the loop over the range.** -/
theorem foldlM_indices {ε : Type u} {σ : Type} {body : σ → Nat → Except ε σ}
    (h : Tiles start windows stop) (s : σ) :
    windows.foldlM (fun s window => (indices window).foldlM body s) s =
      (indices (start, stop)).foldlM body s := by
  rw [← h.flatMap_indices]
  clear h
  induction windows generalizing s with
  | nil => rfl
  | cons window rest ih =>
    rw [List.foldlM_cons, List.flatMap_cons, List.foldlM_append]
    exact congrArg _ (funext ih)

end Tiles
