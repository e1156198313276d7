import OnchainBacktest.Lib.Bisect
import OnchainBacktest.Lib.Tiles

/-!
# Batches of boundaries

The columnar engine reads a pack in windows of boundaries.  The rows of boundary `i` are those from
`offsets[i]` to `offsets[i + 1]`; a batch takes boundaries as long as their rows fit into it, and
`readahead` batches are read as one window.

The windows tile the boundaries whatever the sizes are (`boundaryBatches_tiles`), and there is one
reason not to get them: a boundary with more rows than a batch (`boundaryBatches_supported_iff`).
-/

set_option autoImplicit false

namespace OnchainBacktest

open Bisect

/-- A generator of windows: what it yields, and whether it ends with
`OptimizedSnipingBackendUnsupported`. -/
structure BoundaryBatches where
  windows : List (Nat × Nat)
  unsupported : Bool
  deriving DecidableEq, Repr

/-- `offsets[index]`. -/
def offsetAt (offsets : List Nat) (index : Nat) : Nat := offsets.getD index 0

/-- How many rows a boundary has. -/
def boundaryRows (offsets : List Nat) (index : Nat) : Nat :=
  offsetAt offsets (index + 1) - offsetAt offsets index

/-- No boundary has more rows than a batch. -/
def FitsBatch (offsets : List Nat) (batchRows : Nat) : Prop :=
  ∀ index ∈ List.range (offsets.length - 1), boundaryRows offsets index ≤ batchRows

instance decidableFitsBatch (offsets : List Nat) (batchRows : Nat) :
    Decidable (FitsBatch offsets batchRows) :=
  inferInstanceAs (Decidable (∀ index ∈ List.range (offsets.length - 1), _ ≤ _))

/-- How many boundaries from `start` on fit into one batch. -/
def batchLength (offsets : List Nat) (batchRows start : Nat) : Nat :=
  ((offsets.drop (start + 1)).takeWhile fun offset =>
    offset - offsetAt offsets start ≤ batchRows).length

/-- The window of the batches that are pending. -/
def pendingWindow (pending : List (Nat × Nat)) : List (Nat × Nat) :=
  match pending.head?, pending.getLast? with
  | some first, some last => [(first.1, last.2)]
  | _, _ => []

theorem start_add_batchLength_le {offsets : List Nat} {start : Nat} (batchRows : Nat)
    (h : start + 1 < offsets.length) :
    start + batchLength offsets batchRows start < offsets.length := by
  have hle := (List.takeWhile_sublist (fun offset => decide (offset - offsetAt offsets start ≤
    batchRows)) (l := offsets.drop (start + 1))).length_le
  rw [List.length_drop] at hle
  rw [batchLength]
  omega

theorem batches_decrease {offsets : List Nat} {start : Nat} (batchRows : Nat)
    (h : start + 1 < offsets.length) (hlength : batchLength offsets batchRows start ≠ 0) :
    offsets.length - (start + batchLength offsets batchRows start) < offsets.length - start := by
  have hle := start_add_batchLength_le batchRows h
  omega

/-- The generator from `start` on, with some batches pending. -/
def boundaryBatchesFrom (offsets : List Nat) (batchRows readahead start : Nat)
    (pending : List (Nat × Nat)) : BoundaryBatches :=
  if _hmore : start + 1 < offsets.length then
    if _hlength : batchLength offsets batchRows start = 0 then ⟨[], true⟩
    else
      let stop := start + batchLength offsets batchRows start
      let grown := pending ++ [(start, stop)]
      if grown.length = readahead then
        let later := boundaryBatchesFrom offsets batchRows readahead stop []
        ⟨pendingWindow grown ++ later.windows, later.unsupported⟩
      else boundaryBatchesFrom offsets batchRows readahead stop grown
  else ⟨pendingWindow pending, false⟩
termination_by offsets.length - start
decreasing_by
  · exact batches_decrease batchRows _hmore _hlength
  · exact batches_decrease batchRows _hmore _hlength

/-- `_boundary_batches`. -/
def boundaryBatches (offsets : List Nat) (batchRows readahead : Nat) : BoundaryBatches :=
  boundaryBatchesFrom offsets batchRows readahead 0 []

section Batches

variable {offsets : List Nat} {batchRows readahead : Nat}

/-- The batches that are pending are read as one window. -/
theorem pendingWindow_tiles {start stop : Nat} {pending : List (Nat × Nat)}
    (h : Tiles start pending stop) : Tiles start (pendingWindow pending) stop := by
  cases pending with
  | nil => exact h
  | cons first rest =>
    have hlast : ∀ {a b : Nat} {windows : List (Nat × Nat)}, Tiles a windows b →
        ∀ window ∈ windows.getLast?, window.2 = b := by
      intro a b windows
      induction windows generalizing a with
      | nil => simp
      | cons window rest ih =>
        rintro ⟨-, -, hrest⟩ last hlast
        cases rest with
        | nil =>
          obtain rfl := Option.some.inj hlast
          exact hrest
        | cons second rest => exact ih hrest last (by simpa using hlast)
    have hbounds := h.bounds (List.getLast_mem (List.cons_ne_nil first rest))
    have hstop := hlast h _ (List.getLast?_eq_some_getLast (List.cons_ne_nil first rest))
    rw [pendingWindow, List.getLast?_eq_some_getLast (List.cons_ne_nil first rest)]
    obtain ⟨hfirst, -, -⟩ := h
    exact ⟨hfirst, by simp only [hstop]; omega, hstop⟩

/-- **The windows tile the boundaries from the first that is pending on.** -/
theorem boundaryBatchesFrom_tiles {first start : Nat} {pending : List (Nat × Nat)}
    (hpending : Tiles first pending start) (hstart : start < offsets.length)
    (h : (boundaryBatchesFrom offsets batchRows readahead start pending).unsupported = false) :
    Tiles first (boundaryBatchesFrom offsets batchRows readahead start pending).windows
      (offsets.length - 1) := by
  induction hleft : offsets.length - start using Nat.strong_induction_on
    generalizing first start pending with
  | _ left ih =>
    rw [boundaryBatchesFrom] at h ⊢
    by_cases hmore : start + 1 < offsets.length
    · rw [dif_pos hmore] at h ⊢
      by_cases hlength : batchLength offsets batchRows start = 0
      · rw [dif_pos hlength] at h
        simp at h
      · rw [dif_neg hlength] at h ⊢
        dsimp only at h ⊢
        have hle := start_add_batchLength_le batchRows hmore
        have hnew : start < start + batchLength offsets batchRows start := by omega
        have hgrown := hpending.append (Tiles.singleton hnew)
        split_ifs at h ⊢ with hfull
        · exact (pendingWindow_tiles hgrown).append (ih _ (by omega) rfl hle h rfl)
        · exact ih _ (by omega) hgrown hle h rfl
    · rw [dif_neg hmore]
      obtain rfl : offsets.length - 1 = start := by omega
      exact pendingWindow_tiles hpending

/-- **A generator that ends without a fault has windows for every boundary.** -/
theorem boundaryBatches_tiles (hoffsets : offsets ≠ [])
    (h : (boundaryBatches offsets batchRows readahead).unsupported = false) :
    Tiles 0 (boundaryBatches offsets batchRows readahead).windows (offsets.length - 1) :=
  boundaryBatchesFrom_tiles rfl (List.length_pos_of_ne_nil hoffsets) h

/-- A boundary the batch has taken ends within the rows of the batch. -/
theorem offset_le_of_lt_batchLength {start k : Nat} (h : k < batchLength offsets batchRows start) :
    offsetAt offsets (start + 1 + k) - offsetAt offsets start ≤ batchRows := by
  have hk := getD_of_lt_takeWhile h
  rw [getD_drop] at hk
  exact of_decide_eq_true hk

/-- A batch that takes nothing stands before a boundary that is too large. -/
theorem lt_boundaryRows_of_batchLength_eq_zero {start : Nat} (hmore : start + 1 < offsets.length)
    (h : batchLength offsets batchRows start = 0) : batchRows < boundaryRows offsets start := by
  rw [batchLength] at h
  have hfirst := getD_length_takeWhile (l := offsets.drop (start + 1))
    (p := fun offset => offset - offsetAt offsets start ≤ batchRows) (by
      rw [h, List.length_drop]
      omega)
  rw [h, getD_drop] at hfirst
  exact Nat.lt_of_not_le (of_decide_eq_false hfirst)

theorem offsetAt_mono (hsorted : offsets.Pairwise (· < ·)) {i j : Nat} (hij : i ≤ j)
    (hj : j < offsets.length) : offsetAt offsets i ≤ offsetAt offsets j :=
  getD_mono (hsorted.imp Nat.le_of_lt) hij hj

theorem boundaryBatchesFrom_supported_iff (hsorted : offsets.Pairwise (· < ·)) {start : Nat}
    {pending : List (Nat × Nat)} :
    (boundaryBatchesFrom offsets batchRows readahead start pending).unsupported = false ↔
      ∀ index, start ≤ index → index + 1 < offsets.length →
        boundaryRows offsets index ≤ batchRows := by
  induction hleft : offsets.length - start using Nat.strong_induction_on
    generalizing start pending with
  | _ left ih =>
    rw [boundaryBatchesFrom]
    by_cases hmore : start + 1 < offsets.length
    · rw [dif_pos hmore]
      by_cases hlength : batchLength offsets batchRows start = 0
      · rw [dif_pos hlength]
        refine ⟨fun h => by simp at h, fun h => ?_⟩
        have hlt := lt_boundaryRows_of_batchLength_eq_zero hmore hlength
        have hle := h start le_rfl hmore
        omega
      · rw [dif_neg hlength]
        dsimp only
        have hle := start_add_batchLength_le batchRows hmore
        -- the boundaries of the batch fit, so it is about the later ones
        have hbatch : (∀ index, start + batchLength offsets batchRows start ≤ index →
            index + 1 < offsets.length → boundaryRows offsets index ≤ batchRows) ↔
            ∀ index, start ≤ index → index + 1 < offsets.length →
              boundaryRows offsets index ≤ batchRows := by
          refine ⟨fun h index hstart hindex => ?_, fun h index hstart => h index (by omega)⟩
          by_cases hlater : start + batchLength offsets batchRows start ≤ index
          · exact h index hlater hindex
          · have hinside : index - start < batchLength offsets batchRows start := by omega
            have hrows := offset_le_of_lt_batchLength hinside
            have hmono := offsetAt_mono hsorted hstart (by omega)
            rw [show start + 1 + (index - start) = index + 1 by omega] at hrows
            rw [boundaryRows]
            omega
        split_ifs with hfull
        · exact (ih _ (by omega) rfl).trans hbatch
        · exact (ih _ (by omega) rfl).trans hbatch
    · rw [dif_neg hmore]
      exact ⟨fun _ index hstart hindex => by omega, fun _ => rfl⟩

/-- **The one reason for a fault is a boundary with more rows than a batch.** -/
theorem boundaryBatches_supported_iff (hsorted : offsets.Pairwise (· < ·)) :
    (boundaryBatches offsets batchRows readahead).unsupported = false ↔
      FitsBatch offsets batchRows := by
  rw [boundaryBatches, boundaryBatchesFrom_supported_iff hsorted]
  refine ⟨fun h index hindex => h index (Nat.zero_le _) ?_, fun h index _ hindex => h index ?_⟩
  · rw [List.mem_range] at hindex
    omega
  · rw [List.mem_range]
    omega

/-- The rows of a boundary are among those of its window. -/
theorem rows_in_window (hsorted : offsets.Pairwise (· < ·)) {windows : List (Nat × Nat)}
    (h : Tiles 0 windows (offsets.length - 1)) {window : Nat × Nat} (hw : window ∈ windows)
    {index : Nat} (hindex : index ∈ Tiles.indices window) :
    offsetAt offsets window.1 ≤ offsetAt offsets index ∧
      offsetAt offsets (index + 1) ≤ offsetAt offsets window.2 := by
  obtain ⟨hfirst, hlast⟩ := Tiles.mem_indices.mp hindex
  obtain ⟨-, hlt, hstop⟩ := h.bounds hw
  exact ⟨offsetAt_mono hsorted hfirst (by omega), offsetAt_mono hsorted hlast (by omega)⟩

/-- The windows go through every boundary once and in order, each with all the rows of its
boundaries. -/
structure Covering (offsets : List Nat) (windows : List (Nat × Nat)) : Prop where
  once : windows.flatMap Tiles.indices = List.range (offsets.length - 1)
  inside : ∀ window ∈ windows, ∀ index ∈ Tiles.indices window,
    offsetAt offsets window.1 ≤ offsetAt offsets index ∧
      offsetAt offsets (index + 1) ≤ offsetAt offsets window.2

/-- **A generator that ends without a fault covers the boundaries.** -/
theorem boundaryBatches_covering (hsorted : offsets.Pairwise (· < ·)) (hoffsets : offsets ≠ [])
    (h : (boundaryBatches offsets batchRows readahead).unsupported = false) :
    Covering offsets (boundaryBatches offsets batchRows readahead).windows := by
  have htiles := boundaryBatches_tiles hoffsets h
  refine ⟨?_, fun window hw index hindex => rows_in_window hsorted htiles hw hindex⟩
  rw [htiles.flatMap_indices, Tiles.indices, List.range_eq_range']
  rfl

end Batches

end OnchainBacktest
