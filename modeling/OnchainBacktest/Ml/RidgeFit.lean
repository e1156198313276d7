import OnchainBacktest.Ml.ExactTrainer
import OnchainBacktest.Ml.RidgeSystem

/-!
# The trainer fits the ridge model

The loop of the trainer sums the samples of the training interval (`fitLabels_summed`), the
elimination with bounded fractions is `PivotElimination` on their normal equations
(`solveExact_eq_ok`), and the payload is the solution over one divisor (`fractionPayload_eq_ok`).
So what `fit` returns is the ridge model, with its squared error (`fit_exact`).
-/

set_option autoImplicit false

namespace OnchainBacktest

namespace Ml

open Checked PivotElimination

/-! ## The samples -/

/-- The values of a feature set at a row. -/
def FeatureSet.valuesAt (features : FeatureSet) (replayRowId : Nat) : List Int :=
  ((features.rows[replayRowId]?.map FeatureRow.values).getD []).map fun value => value.getD 0

/-- A label that the fit is about. -/
def Selected [NumpySearch] (spec : TrainingJobSpec) (inputs : TrainingInputs)
    (label : TrainingLabelRow) : Prop :=
  InTraining spec.split label ∧ label.value ≠ none ∧
    inputs.members.contains label.replayRowId label.effectiveBoundaryOrdinal = true

instance decidableSelected [NumpySearch] (spec : TrainingJobSpec) (inputs : TrainingInputs) :
    DecidablePred (Selected spec inputs) := fun _ => inferInstanceAs (Decidable (_ ∧ _ ∧ _))

def sampleAt (inputs : TrainingInputs) (label : TrainingLabelRow) : Sample where
  values := 1 :: inputs.features.flatMap fun features => features.valuesAt label.replayRowId
  value := label.value.getD 0

/-- The labels of the training interval that have a value and whose row is in the universe, with
their features. -/
def trainingSamples [NumpySearch] (spec : TrainingJobSpec) (inputs : TrainingInputs) :
    List Sample :=
  (inputs.labels.rows.filter (Selected spec inputs)).map (sampleAt inputs)

/-! ## The sums -/

/-- The sums of a state are those of some samples of `n` values. -/
structure Summed (n : Nat) (state : FitState) (samples : List Sample) : Prop where
  gram_length : state.gram.length = n
  row_length : ∀ row ∈ state.gram, row.length = n
  gram : ∀ i < n, ∀ j < n, (((state.gram.getD i []).getD j 0 : Int) : ℚ) =
    (samples.map fun s => s.coordinate i * s.coordinate j).sum
  target_length : state.target.length = n
  target : ∀ i < n, ((state.target.getD i 0 : Int) : ℚ) =
    (samples.map fun s => s.coordinate i * (s.value : ℚ)).sum
  square : (state.targetSquare : ℚ) = (samples.map fun s => (s.value : ℚ) * s.value).sum
  rows : state.selectedRows = samples.length

theorem summed_start (n : Nat) : Summed n (FitState.start n) [] where
  gram_length := List.length_replicate
  row_length := by
    intro row hrow
    rw [List.eq_of_mem_replicate hrow, List.length_replicate]
  gram := by
    intro i hi j hj
    simp [FitState.start, hi, hj]
  target_length := List.length_replicate
  target := by
    intro i hi
    simp [FitState.start, hi]
  square := by simp [FitState.start]
  rows := rfl

theorem getD_zipWith {α β γ : Type} {f : α → β → γ} {l : List α} {l' : List β} {i : Nat} {a : α}
    {b : β} {c : γ} (hl : i < l.length) (hl' : i < l'.length) :
    (List.zipWith f l l').getD i c = f (l.getD i a) (l'.getD i b) := by
  have hlength : i < (List.zipWith f l l').length := by
    rw [List.length_zipWith]
    omega
  rw [List.getD_eq_getElem _ _ hlength, List.getElem_zipWith, List.getD_eq_getElem _ _ hl,
    List.getD_eq_getElem _ _ hl']

theorem Summed.gram_row {n : Nat} {state : FitState} {samples : List Sample}
    (h : Summed n state samples) {i : Nat} (hi : i < n) : (state.gram.getD i []).length = n := by
  rw [List.getD_eq_getElem _ _ (h.gram_length.symm ▸ hi)]
  exact h.row_length _ (List.getElem_mem _)

/-- **A sample added to the sums.** -/
theorem Summed.add {n : Nat} {state : FitState} {samples : List Sample} (h : Summed n state samples)
    {values : List Int} (hvalues : values.length = n) (value : Int) (label : TrainingLabelRow) :
    Summed n (state.add values value label) (samples ++ [⟨values, value⟩]) where
  gram_length := by
    rw [FitState.add, List.length_zipWith, h.gram_length, hvalues, min_self]
  row_length := by
    intro row hrow
    rw [FitState.add, List.mem_iff_getElem] at hrow
    obtain ⟨i, hi, rfl⟩ := hrow
    rw [List.length_zipWith] at hi
    rw [List.getElem_zipWith, List.length_zipWith, h.row_length _ (List.getElem_mem _), hvalues,
      min_self]
  gram := by
    intro i hi j hj
    have hgram : i < state.gram.length := h.gram_length.symm ▸ hi
    rw [FitState.add, getD_zipWith (a := []) (b := 0) hgram (hvalues.symm ▸ hi),
      getD_zipWith (a := 0) (b := 0) ((h.gram_row hi).symm ▸ hj) (hvalues.symm ▸ hj), List.map_append,
      List.sum_append, ← h.gram i hi j hj]
    simp [Sample.coordinate]
  target_length := by
    rw [FitState.add, List.length_zipWith, h.target_length, hvalues, min_self]
  target := by
    intro i hi
    rw [FitState.add, getD_zipWith (a := 0) (b := 0) (h.target_length.symm ▸ hi)
      (hvalues.symm ▸ hi), List.map_append, List.sum_append, ← h.target i hi]
    simp [Sample.coordinate]
  square := by
    rw [FitState.add, List.map_append, List.sum_append, ← h.square]
    simp
  rows := by
    rw [FitState.add, List.length_append, h.rows, List.length_singleton]

/-! ## The loop over the labels -/

section Labels

variable {trainer : ExactIntegerLinearTrainer} {spec : TrainingJobSpec} {inputs : TrainingInputs}
  {label : TrainingLabelRow}

theorem featureValues_eq_ok {features : FeatureSet} {values values' : List Int}
    (h : featureValues trainer label values features = .ok values') :
    values' = values ++ features.valuesAt label.replayRowId ∧
      (features.valuesAt label.replayRowId).length = features.featureSpecIds.length := by
  obtain ⟨rowValues, hrow, hdense⟩ : ∃ rowValues : List (Option Int),
      features.rows[label.replayRowId]?.map FeatureRow.values = some rowValues ∧
        rowValues.length = features.featureSpecIds.length := by
    have hpos : 0 < features.featureSpecIds.length :=
      List.length_pos_iff.mpr features.some_features
    obtain ⟨t, t', hpass⟩ := foldlM_passes h 0 (List.mem_range.mpr hpos)
    obtain ⟨value, hvalue, -⟩ := bind_eq_ok.mp hpass
    rw [FeatureSet.valueAtCode] at hvalue
    split at hvalue
    · cases hvalue
    · rename_i row hget
      refine ⟨row.values, by rw [hget]; rfl, features.dense row (List.mem_of_getElem? hget)⟩
  -- what the codes still to come add to the values, the row adds to `values`
  have hloop : values' ++ [] = values ++ (List.range features.featureSpecIds.length).map
      fun code => (rowValues.getD code none).getD 0 := by
    refine foldlM_ok (P := fun rest (after : List Int) =>
      after ++ rest.map (fun code => (rowValues.getD code none).getD 0) = values ++
        (List.range features.featureSpecIds.length).map fun code =>
          (rowValues.getD code none).getD 0) ?_ _ values values' rfl h
    intro code rest before after hbefore hpass
    obtain ⟨value, hvalue, hpass⟩ := bind_eq_ok.mp hpass
    cases value with
    | none => cases hpass
    | some value =>
      obtain ⟨-, hpass⟩ := check_bind_eq_ok.mp hpass
      have hcode : rowValues.getD code none = some value := by
        rw [FeatureSet.valueAtCode] at hvalue
        split at hvalue
        · cases hvalue
        · rename_i row hget
          rw [hget] at hrow
          obtain rfl := Option.some.inj hrow
          have hread := Except.ok.inj hvalue
          split_ifs at hread
          exact hread
      rw [← Except.ok.inj hpass, ← hbefore, List.map_cons, hcode, List.append_assoc]
      rfl
  have hvalues : features.valuesAt label.replayRowId =
      rowValues.map fun value => value.getD 0 := by
    rw [FeatureSet.valuesAt, hrow]
    rfl
  have hrange : (List.range features.featureSpecIds.length).map
      (fun code => (rowValues.getD code none).getD 0) = rowValues.map fun value => value.getD 0 := by
    refine List.ext_getElem (by simp [hdense]) fun code h1 h2 => ?_
    rw [List.getElem_map, List.getElem_map, List.getElem_range, List.getD_eq_getElem]
  rw [List.append_nil, hrange, ← hvalues] at hloop
  exact ⟨hloop, by rw [hvalues, List.length_map, hdense]⟩

/-- The values that a label is fitted with. -/
theorem values_eq_ok {values : List Int}
    (h : inputs.features.foldlM (featureValues trainer label) [1] = .ok values) :
    values = (sampleAt inputs label).values ∧ values.length = inputs.featureCount + 1 := by
  rw [sampleAt, TrainingInputs.featureCount]
  generalize inputs.features = sets at h
  have hloop : ∀ (sets : List FeatureSet) (before after : List Int),
      sets.foldlM (featureValues trainer label) before = .ok after →
        after = before ++ sets.flatMap (fun features => features.valuesAt label.replayRowId) ∧
          after.length =
            before.length + (sets.map fun features => features.featureSpecIds.length).sum := by
    intro sets
    induction sets with
    | nil =>
      intro before after hafter
      rw [List.foldlM_nil] at hafter
      simp [(Except.ok.inj hafter).symm]
    | cons features rest ih =>
      intro before after hafter
      rw [List.foldlM_cons] at hafter
      obtain ⟨middle, hmiddle, hafter⟩ := bind_eq_ok.mp hafter
      obtain ⟨rfl, hlength⟩ := featureValues_eq_ok hmiddle
      obtain ⟨rfl, hsum⟩ := ih _ _ hafter
      refine ⟨by simp, ?_⟩
      rw [hsum, List.length_append, hlength, List.map_cons, List.sum_cons, Nat.add_assoc]
  obtain ⟨hvalues, hlength⟩ := hloop sets [1] values h
  exact ⟨hvalues, by rw [hlength, List.length_singleton, Nat.add_comm]⟩

variable [NumpySearch]

/-- One label of the loop adds its sample, when it has one. -/
theorem Summed.fitLabel {state state' : FitState} {samples : List Sample}
    (h : Summed (inputs.featureCount + 1) state samples)
    (hstep : fitLabel trainer spec inputs state label = .ok state') :
    Summed (inputs.featureCount + 1) state'
      (samples ++ ([label].filter (Selected spec inputs)).map (sampleAt inputs)) := by
  have hskip : ¬ Selected spec inputs label → state' = state →
      Summed (inputs.featureCount + 1) state'
        (samples ++ ([label].filter (Selected spec inputs)).map (sampleAt inputs)) := by
    rintro hnot rfl
    simpa [hnot] using h
  rw [Ml.fitLabel] at hstep
  by_cases hin : InTraining spec.split label
  · rw [if_neg (not_not.mpr hin)] at hstep
    obtain ⟨-, hstep⟩ := check_bind_eq_ok.mp hstep
    cases hvalue : label.value with
    | none =>
      rw [hvalue] at hstep
      exact hskip (fun hselected => hselected.2.1 hvalue) (Except.ok.inj hstep).symm
    | some value =>
      rw [hvalue] at hstep
      dsimp only at hstep
      by_cases hmember :
          inputs.members.contains label.replayRowId label.effectiveBoundaryOrdinal = false
      · rw [if_pos hmember] at hstep
        refine hskip (fun hselected => ?_) (Except.ok.inj hstep).symm
        rw [hselected.2.2] at hmember
        cases hmember
      · rw [if_neg hmember] at hstep
        obtain ⟨values, hvalues, hstep⟩ := bind_eq_ok.mp hstep
        obtain ⟨-, hstep⟩ := check_bind_eq_ok.mp hstep
        obtain ⟨-, hstep⟩ := check_bind_eq_ok.mp hstep
        obtain rfl := Except.ok.inj hstep
        obtain ⟨hsample, hlength⟩ := values_eq_ok hvalues
        have hselected : Selected spec inputs label :=
          ⟨hin, by rw [hvalue]; exact Option.some_ne_none _, (Bool.not_eq_false _).mp hmember⟩
        have hnew : sampleAt inputs label = ⟨values, value⟩ := by
          rw [hsample, sampleAt, hvalue]
          rfl
        simpa [hselected, hnew] using h.add hlength value label
  · rw [if_pos hin] at hstep
    exact hskip (fun hselected => hin hselected.1) (Except.ok.inj hstep).symm

/-- **The loop sums the training samples.** -/
theorem fitLabels_summed {state : FitState} (h : fitLabels trainer spec inputs = .ok state) :
    Summed (inputs.featureCount + 1) state (trainingSamples spec inputs) := by
  rw [fitLabels, LabelSet.rowsForTraining_eq, ok_bind] at h
  have hloop : ∀ (rows : List TrainingLabelRow) (samples : List Sample) (s s' : FitState),
      Summed (inputs.featureCount + 1) s samples →
        rows.foldlM (Ml.fitLabel trainer spec inputs) s = .ok s' →
          Summed (inputs.featureCount + 1) s'
            (samples ++ (rows.filter (Selected spec inputs)).map (sampleAt inputs)) := by
    intro rows
    induction rows with
    | nil =>
      intro samples s s' hs hrun
      rw [List.foldlM_nil] at hrun
      obtain rfl := Except.ok.inj hrun
      simpa using hs
    | cons label rest ih =>
      intro samples s s' hs hrun
      rw [List.foldlM_cons] at hrun
      obtain ⟨t, ht, hrun⟩ := bind_eq_ok.mp hrun
      have hnext := ih _ _ _ (hs.fitLabel ht) hrun
      rw [List.append_assoc, ← List.map_append, ← List.filter_append] at hnext
      exact hnext
  exact hloop _ [] _ _ (summed_start _) h

end Labels

/-! ## The elimination -/

/-- A table of `size` rows with a column more. -/
structure Shaped (size : Nat) (matrix : List (List ℚ)) : Prop where
  rows : matrix.length = size
  columns : ∀ row ∈ matrix, row.length = size + 1

section Elimination

variable {size column row maximumBits : Nat} {matrix matrix' : List (List ℚ)}

theorem boundedFraction_eq_ok {value value' : ℚ} (h : boundedFraction maximumBits value = .ok value') :
    value' = value := by
  obtain ⟨-, h⟩ := check_bind_eq_ok.mp h
  exact (Except.ok.inj h).symm

/-- A bounded fraction is refused for its growth only. -/
theorem stops_boundedFraction (value : ℚ) :
    Stops (· = .fractionGrowth) (boundedFraction maximumBits value) := by
  rw [boundedFraction]
  refine Stops.bind (stops_refuseIf fun _ => ?_) fun _ _ => stops_ok value
  rfl

theorem mapM_boundedFraction {ι : Type} {f : ι → ℚ} {items : List ι} {values : List ℚ}
    (h : items.mapM (fun i => boundedFraction maximumBits (f i)) = .ok values) :
    values = items.map f := by
  have hall : List.Forall₂ (fun i value => value = f i) items values :=
    (mapM_eq_ok h).imp fun _ _ hi => boundedFraction_eq_ok hi
  clear h
  induction hall with
  | nil => rfl
  | cons hvalue _ ih => rw [List.map_cons, hvalue, ← ih]

theorem stops_mapM_boundedFraction {ι : Type} (f : ι → ℚ) (items : List ι) :
    Stops (· = .fractionGrowth) (items.mapM fun i => boundedFraction maximumBits (f i)) := by
  induction items with
  | nil => exact stops_ok []
  | cons i rest ih =>
    rw [List.mapM_cons]
    exact (stops_boundedFraction _).bind fun _ _ => ih.bind fun _ _ => stops_ok _

theorem entry_set {values : List ℚ} (hrow : row < matrix.length) (r j : Nat) :
    entry (matrix.set row values) r j = if r = row then values.getD j 0 else entry matrix r j := by
  have hget : (matrix.set row values).getD r [] =
      if r = row then values else matrix.getD r [] := by
    rw [List.getD_eq_getElem?_getD, List.getElem?_set]
    by_cases hr : r = row
    · rw [if_pos hr.symm, if_pos hr, if_pos hrow]
      rfl
    · rw [if_neg (Ne.symm hr), if_neg hr, ← List.getD_eq_getElem?_getD]
  rw [entry, hget, entry]
  split_ifs <;> rfl

theorem Shaped.row_length (h : Shaped size matrix) {r : Nat} (hr : r < size) :
    (matrix.getD r []).length = size + 1 := by
  rw [List.getD_eq_getElem _ _ (h.rows.symm ▸ hr)]
  exact h.columns _ (List.getElem_mem _)

theorem Shaped.set (h : Shaped size matrix) {values : List ℚ} (hvalues : values.length = size + 1) :
    Shaped size (matrix.set row values) where
  rows := by rw [List.length_set, h.rows]
  columns := by
    intro other hother
    rcases List.mem_or_eq_of_mem_set hother with hother | rfl
    · exact h.columns other hother
    · exact hvalues

/-- A row after the elimination of a column: cleared, unless it is the pivot's. -/
theorem eliminate_eq_ok (hshape : Shaped size matrix) (hrow : row < size)
    (h : eliminate maximumBits size column matrix row = .ok matrix') :
    Shaped size matrix' ∧ ∀ r < size, ∀ j ≤ size, entry matrix' r j =
      if r = row ∧ r ≠ column then entry matrix r j - entry matrix r column * entry matrix column j
      else entry matrix r j := by
  rw [eliminate] at h
  by_cases hpivot : row = column
  · rw [if_pos hpivot] at h
    obtain rfl := Except.ok.inj h
    refine ⟨hshape, fun r _ j _ => ?_⟩
    rw [if_neg fun hr => hr.2 (hr.1.trans hpivot)]
  rw [if_neg hpivot] at h
  dsimp only at h
  by_cases hzero : entry matrix row column = 0
  · rw [if_pos hzero] at h
    obtain rfl := Except.ok.inj h
    refine ⟨hshape, fun r _ j _ => ?_⟩
    split_ifs with hr
    · rw [hr.1, hzero, zero_mul, sub_zero]
    · rfl
  · rw [if_neg hzero] at h
    obtain ⟨cleared, hcleared, h⟩ := bind_eq_ok.mp h
    obtain rfl := Except.ok.inj h
    rw [mapM_boundedFraction hcleared]
    refine ⟨hshape.set (by simp), fun r hr j hj => ?_⟩
    rw [entry_set (hshape.rows.symm ▸ hrow)]
    by_cases hsame : r = row
    · rw [if_pos hsame, if_pos ⟨hsame, hsame ▸ hpivot⟩, hsame,
        List.getD_eq_getElem _ _ (by simpa using Nat.lt_succ_of_le hj), List.getElem_map,
        List.getElem_range]
    · rw [if_neg hsame, if_neg fun hr => hsame hr.1]

/-- The rows below `k` are cleared. -/
theorem eliminate_range (hshape : Shaped size matrix) (hcolumn : column < size) :
    ∀ k ≤ size, ∀ matrix', (List.range k).foldlM (eliminate maximumBits size column) matrix =
        .ok matrix' →
      Shaped size matrix' ∧ ∀ r < size, ∀ j ≤ size, entry matrix' r j =
        if r < k ∧ r ≠ column then
          entry matrix r j - entry matrix r column * entry matrix column j
        else entry matrix r j := by
  intro k
  induction k with
  | zero =>
    intro _ matrix' h
    rw [List.range_zero, List.foldlM_nil] at h
    obtain rfl := Except.ok.inj h
    exact ⟨hshape, fun r _ j _ => by rw [if_neg fun hr => Nat.not_lt_zero r hr.1]⟩
  | succ k ih =>
    intro hk matrix' h
    rw [List.range_succ, List.foldlM_append] at h
    obtain ⟨middle, hmiddle, h⟩ := bind_eq_ok.mp h
    rw [List.foldlM_cons] at h
    obtain ⟨last, hlast, h⟩ := bind_eq_ok.mp h
    obtain rfl := Except.ok.inj h
    obtain ⟨hshaped, hentries⟩ := ih (by omega) middle hmiddle
    obtain ⟨hshaped', hentries'⟩ := eliminate_eq_ok hshaped hk hlast
    refine ⟨hshaped', fun r hr j hj => ?_⟩
    have hpivotRow : entry middle column j = entry matrix column j := by
      rw [hentries column hcolumn j hj, if_neg fun h => h.2 rfl]
    rw [hentries' r hr j hj, hpivotRow]
    by_cases hlast : r = k ∧ r ≠ column
    · rw [if_pos hlast, if_pos ⟨by omega, hlast.2⟩, hentries r hr j hj,
        hentries r hr column hcolumn.le, if_neg fun h => absurd h.1 (by omega),
        if_neg fun h => absurd h.1 (by omega)]
    · rw [if_neg hlast, hentries r hr j hj]
      refine if_congr ⟨fun h => ⟨by omega, h.2⟩, fun h => ⟨?_, h.2⟩⟩ rfl rfl
      by_contra hnot
      exact hlast ⟨by omega, h.2⟩

/-- **A column of the solver is one step of the elimination.** -/
theorem solveColumn_eq_ok (hshape : Shaped size matrix) (hcolumn : column < size)
    (h : solveColumn maximumBits size matrix column = .ok matrix') :
    ∃ pivot, column ≤ pivot ∧ pivot < size ∧ entry matrix pivot column ≠ 0 ∧ Shaped size matrix' ∧
      ∀ r < size, ∀ j ≤ size, entry matrix' r j = pivoted (entry matrix) column pivot r j := by
  rw [solveColumn] at h
  split at h
  · cases h
  rename_i pivot hfind
  have hrange := List.mem_range'_1.mp (List.mem_of_find?_eq_some hfind)
  have hnonzero : entry matrix pivot column ≠ 0 := by
    simpa using List.find?_some hfind
  have hpivot : pivot < size := by omega
  dsimp only at h
  obtain ⟨scaled, hscaled, h⟩ := bind_eq_ok.mp h
  generalize hs : (matrix.set column (matrix.getD pivot [])).set pivot (matrix.getD column []) =
    swapped at hscaled h
  have hswapped : Shaped size swapped :=
    hs ▸ (hshape.set (hshape.row_length hpivot)).set (hshape.row_length hcolumn)
  have hexchanged : ∀ r j, entry swapped r j = exchanged (entry matrix) column pivot r j := by
    intro r j
    rw [← hs, entry_set (by rw [List.length_set, hshape.rows]; exact hpivot),
      entry_set (hshape.rows.symm ▸ hcolumn), exchanged]
    by_cases hp : r = pivot
    · by_cases hc : r = column
      · rw [if_pos hp, if_pos hc, ← hp, hc, entry]
      · rw [if_pos hp, if_neg hc, if_pos hp, entry]
    · rw [if_neg hp, if_neg hp]
      by_cases hc : r = column
      · rw [if_pos hc, if_pos hc, entry]
      · rw [if_neg hc, if_neg hc]
  rw [mapM_boundedFraction hscaled] at h
  have hlength := hswapped.row_length hcolumn
  have hpivotRow : ∀ r, ∀ j ≤ size, entry (swapped.set column ((swapped.getD column []).map
      fun value => value / entry swapped column column)) r j =
        if r = column then entry swapped column j / entry swapped column column
        else entry swapped r j := by
    intro r j hj
    rw [entry_set (hswapped.rows.symm ▸ hcolumn)]
    refine if_congr Iff.rfl ?_ rfl
    rw [List.getD_eq_getElem _ _ (by rw [List.length_map]; omega), List.getElem_map,
      ← List.getD_eq_getElem _ 0]
    rfl
  obtain ⟨hshaped, hentries⟩ := eliminate_range (hswapped.set (by rw [List.length_map, hlength]))
    hcolumn size le_rfl matrix' h
  refine ⟨pivot, hrange.1, hpivot, hnonzero, hshaped, fun r hr j hj => ?_⟩
  rw [hentries r hr j hj, hpivotRow r j hj, hpivotRow r column hcolumn.le, hpivotRow column j hj,
    if_pos rfl, pivoted]
  simp only [hexchanged]
  by_cases hc : r = column
  · rw [if_neg fun h => h.2 hc, if_pos hc, if_pos hc]
  · rw [if_pos ⟨hr, hc⟩, if_neg hc, if_neg hc, if_neg hc]

/-- A column without a pivot, or a fraction that grows too much. -/
theorem solveColumn_eq_error {e : TrainingFault}
    (h : solveColumn maximumBits size matrix column = .error e) :
    e = .fractionGrowth ∨ ∀ r < size, column ≤ r → entry matrix r column = 0 := by
  rw [solveColumn] at h
  split at h
  · rename_i hnone
    refine .inr fun r hr hle => ?_
    have hfree := List.find?_eq_none.mp hnone r (List.mem_range'_1.mpr ⟨hle, by omega⟩)
    simpa using hfree
  · left
    refine Stops.bind (stops_mapM_boundedFraction _ _) (fun scaled _ => ?_) e h
    refine Stops.foldlM _ _ fun r _ matrix => ?_
    rw [eliminate]
    refine Stops.ite (fun _ => stops_ok _) fun _ => ?_
    refine Stops.ite (fun _ => stops_ok _) fun _ => ?_
    exact (stops_mapM_boundedFraction _ _).bind fun _ _ => stops_ok _

end Elimination

/-! ## The solution -/

section Solution

variable {size maximumBits : Nat} {augmented : List (List ℚ)}

/-- The first `k` columns are done, and nothing is lost. -/
theorem solveColumns_eq_ok (hshape : Shaped size augmented) :
    ∀ k ≤ size, ∀ matrix, (List.range k).foldlM (solveColumn maximumBits size) augmented =
        .ok matrix →
      Shaped size matrix ∧ Cleared size k (entry matrix) ∧
        ∀ t x, Vanishes size (entry matrix) t x ↔ Vanishes size (entry augmented) t x := by
  intro k
  induction k with
  | zero =>
    intro _ matrix h
    rw [List.range_zero, List.foldlM_nil] at h
    obtain rfl := Except.ok.inj h
    exact ⟨hshape, cleared_zero, fun t x => Iff.rfl⟩
  | succ k ih =>
    intro hk matrix h
    rw [List.range_succ, List.foldlM_append] at h
    obtain ⟨middle, hmiddle, h⟩ := bind_eq_ok.mp h
    rw [List.foldlM_cons] at h
    obtain ⟨last, hlast, h⟩ := bind_eq_ok.mp h
    obtain rfl := Except.ok.inj h
    obtain ⟨hshaped, hcleared, hvanishes⟩ := ih (by omega) middle hmiddle
    obtain ⟨pivot, hle, hpivot, hne, hshaped', hentries⟩ := solveColumn_eq_ok hshaped hk hlast
    refine ⟨hshaped', fun r hr j hj => ?_, fun t x => ?_⟩
    · rw [hentries r hr j (by omega)]
      exact hcleared.pivoted hk hpivot hle hne r hr j hj
    · rw [vanishes_congr hentries, vanishes_pivoted hk hpivot hne, hvanishes]

/-- A loop over columns that is singular has stopped at a column without a pivot. -/
theorem solveColumns_eq_singular : ∀ k ≤ size,
    (List.range k).foldlM (solveColumn maximumBits size) augmented = .error .singular →
      ∃ column < k, ∃ matrix, (List.range column).foldlM (solveColumn maximumBits size) augmented =
          .ok matrix ∧ ∀ r < size, column ≤ r → entry matrix r column = 0 := by
  intro k
  induction k with
  | zero =>
    intro _ h
    rw [List.range_zero, List.foldlM_nil] at h
    cases h
  | succ k ih =>
    intro hk h
    rw [List.range_succ, List.foldlM_append] at h
    rcases bind_eq_error.mp h with h | ⟨matrix, hmatrix, h⟩
    · obtain ⟨column, hcolumn, hrest⟩ := ih (by omega) h
      exact ⟨column, by omega, hrest⟩
    · rw [List.foldlM_cons] at h
      rcases bind_eq_error.mp h with h | ⟨last, hlast, h⟩
      · exact ⟨k, Nat.lt_succ_self k, matrix, hmatrix,
          (solveColumn_eq_error h).resolve_left TrainingFault.noConfusion⟩
      · rw [List.foldlM_nil] at h
        cases h

end Solution

section Fit

variable {ridgeLambda maximumBits : Nat} {state : FitState} {samples : List Sample} {n : Nat}

/-- The system a state stands for, with the right-hand sides. -/
def augmentedOf (ridgeLambda : Nat) (state : FitState) : List (List ℚ) :=
  List.zipWith (fun row t => row.map Int.cast ++ [t]) (ridged ridgeLambda state.gram)
    (state.target.map fun t : Int => (t : ℚ))

theorem Summed.ridged_row (h : Summed n state samples) {i : Nat} (hi : i < n) :
    (ridged ridgeLambda state.gram).getD i [] =
      (state.gram.getD i []).mapIdx fun j (g : Int) =>
        if i = j ∧ 0 < i then g + ridgeLambda else g := by
  have hlength : i < (ridged ridgeLambda state.gram).length := by
    rw [ridged, List.length_mapIdx, h.gram_length]
    exact hi
  rw [List.getD_eq_getElem _ _ hlength, List.getD_eq_getElem _ _ (h.gram_length.symm ▸ hi)]
  simp only [ridged, List.getElem_mapIdx]

theorem Summed.augmented_row (h : Summed n state samples) {i : Nat} (hi : i < n) :
    (augmentedOf ridgeLambda state).getD i [] =
      ((ridged ridgeLambda state.gram).getD i []).map Int.cast ++
        [((state.target.getD i 0 : Int) : ℚ)] := by
  have hrow : i < (ridged ridgeLambda state.gram).length := by
    rw [ridged, List.length_mapIdx, h.gram_length]
    exact hi
  have htarget : i < state.target.length := h.target_length.symm ▸ hi
  have hcast : (state.target.map fun t : Int => (t : ℚ)).getD i 0 =
      ((state.target.getD i 0 : Int) : ℚ) := by
    rw [List.getD_eq_getElem _ _ (by rwa [List.length_map]), List.getElem_map,
      List.getD_eq_getElem _ _ htarget]
  rw [augmentedOf, getD_zipWith (a := []) (b := 0) hrow (by rwa [List.length_map]), hcast]

theorem Summed.shaped (h : Summed n state samples) : Shaped n (augmentedOf ridgeLambda state) := by
  have hrows : (augmentedOf ridgeLambda state).length = n := by
    rw [augmentedOf, List.length_zipWith, ridged, List.length_mapIdx, h.gram_length,
      List.length_map, h.target_length, min_self]
  refine ⟨hrows, fun row hrow => ?_⟩
  obtain ⟨i, hi, rfl⟩ := List.mem_iff_getElem.mp hrow
  have hin : i < n := hrows ▸ hi
  rw [← List.getD_eq_getElem _ [] hi, h.augmented_row hin, h.ridged_row hin, List.length_append,
    List.length_map, List.length_mapIdx, h.gram_row hin, List.length_singleton]

/-- The entries of the system. -/
theorem Summed.entry (h : Summed n state samples) {i : Nat} (hi : i < n) :
    (∀ j < n, entry (augmentedOf ridgeLambda state) i j =
      (samples.map fun s => s.coordinate j * s.coordinate i).sum
        + if i = j then penalty ridgeLambda i else 0) ∧
    Ml.entry (augmentedOf ridgeLambda state) i n =
      (samples.map fun s => s.coordinate i * (s.value : ℚ)).sum := by
  have hrow : ((ridged ridgeLambda state.gram).getD i []).length = n := by
    rw [h.ridged_row hi, List.length_mapIdx, h.gram_row hi]
  constructor
  · intro j hj
    have hjrow : j < (state.gram.getD i []).length := (h.gram_row hi).symm ▸ hj
    have hgram : (samples.map fun s => s.coordinate j * s.coordinate i).sum =
        (((state.gram.getD i []).getD j 0 : Int) : ℚ) := by
      rw [h.gram i hi j hj]
      simp only [mul_comm]
    have hentry : (((ridged ridgeLambda state.gram).getD i []).map Int.cast ++
        [((state.target.getD i 0 : Int) : ℚ)]).getD j 0 =
          ((((ridged ridgeLambda state.gram).getD i []).getD j 0 : Int) : ℚ) := by
      rw [List.getD_append _ _ _ _ (by rw [List.length_map, hrow]; exact hj),
        List.getD_eq_getElem _ _ (by rw [List.length_map, hrow]; exact hj), List.getElem_map,
        ← List.getD_eq_getElem _ 0]
    rw [Ml.entry, h.augmented_row hi, hentry, h.ridged_row hi, hgram,
      List.getD_eq_getElem _ _ (by rw [List.length_mapIdx]; exact hjrow), List.getElem_mapIdx,
      List.getD_eq_getElem _ _ hjrow, penalty]
    by_cases hij : i = j
    · by_cases hpos : 0 < i
      · rw [if_pos ⟨hij, hpos⟩, if_pos hij, if_pos hpos]
        push_cast
        rfl
      · rw [if_neg fun h => hpos h.2, if_pos hij, if_neg hpos, add_zero]
    · rw [if_neg fun h => hij h.1, if_neg hij, add_zero]
  · rw [Ml.entry, h.augmented_row hi, ← h.target i hi,
      List.getD_append_right _ _ _ _ (by rw [List.length_map, hrow]), List.length_map, hrow,
      Nat.sub_self]
    rfl

/-- A row of the system at a form. -/
theorem Summed.row_sum (h : Summed n state samples) {i : Nat} (hi : i < n) (β : Nat → ℚ) :
    ∑ j ∈ Finset.range n, Ml.entry (augmentedOf ridgeLambda state) i j * β j =
      (samples.map fun s => s.coordinate i * s.predict n β).sum + penalty ridgeLambda i * β i := by
  rw [sum_mul_predict]
  have hterm : ∀ j ∈ Finset.range n, Ml.entry (augmentedOf ridgeLambda state) i j * β j =
      β j * (samples.map fun s => s.coordinate j * s.coordinate i).sum
        + if i = j then penalty ridgeLambda i * β j else 0 := by
    intro j hj
    rw [(h.entry hi).1 j (Finset.mem_range.mp hj)]
    split_ifs <;> ring
  rw [Finset.sum_congr rfl hterm, Finset.sum_add_distrib, Finset.sum_ite_eq,
    if_pos (Finset.mem_range.mpr hi)]

theorem sum_mul_residual (samples : List Sample) (n i : Nat) (β : Nat → ℚ) :
    (samples.map fun s => s.coordinate i * s.residual n β).sum =
      (samples.map fun s => s.coordinate i * s.predict n β).sum
        - (samples.map fun s => s.coordinate i * (s.value : ℚ)).sum := by
  induction samples with
  | nil => simp
  | cons s samples ih =>
    simp only [List.map_cons, List.sum_cons, ih]
    rw [Sample.residual]
    ring

/-- **The system of a state is the normal equations of its samples.** -/
theorem Summed.vanishes_iff (h : Summed n state samples) (β : Nat → ℚ) :
    (Vanishes n (Ml.entry (augmentedOf ridgeLambda state)) 1 β ↔
      NormalEquations ridgeLambda samples n β) ∧
    (Vanishes n (Ml.entry (augmentedOf ridgeLambda state)) 0 β ↔
      InKernel ridgeLambda samples n β) := by
  constructor
  · refine forall₂_congr fun i hi => ?_
    rw [h.row_sum hi, (h.entry hi).2, sum_mul_residual, one_mul]
    constructor
    · intro heq
      linarith
    · intro heq
      linarith
  · refine forall₂_congr fun i hi => ?_
    rw [h.row_sum hi, zero_mul]

theorem solveExact_eq (matrix : List (List Int)) (target : List Int) :
    solveExact matrix target maximumBits =
      ((List.range target.length).foldlM (solveColumn maximumBits target.length)
        (List.zipWith (fun row t => row.map Int.cast ++ [t]) matrix
          (target.map fun t : Int => (t : ℚ)))).map
        fun solved => (List.range target.length).map fun index =>
          (solved.getD index []).getLastD 0 := by
  have hcast : (do let t ← target; pure (t : ℚ)) = target.map fun t : Int => (t : ℚ) :=
    List.flatMap_pure_eq_map _ _
  rw [solveExact, hcast]
  generalize (List.range target.length).foldlM (solveColumn maximumBits target.length)
    (List.zipWith (fun row t => row.map Int.cast ++ [t]) matrix
      (target.map fun t : Int => (t : ℚ))) = outcome
  cases outcome <;> rfl

/-- **The solver returns the one solution of the normal equations.** -/
theorem solveExact_eq_ok (h : Summed n state samples) {coefficients : List ℚ}
    (hsolved : solveExact (ridged ridgeLambda state.gram) state.target maximumBits =
      .ok coefficients) :
    coefficients.length = n ∧ ∀ β, NormalEquations ridgeLambda samples n β ↔
      ∀ i < n, β i = coefficients.getD i 0 := by
  rw [solveExact_eq, map_eq_ok, h.target_length] at hsolved
  obtain ⟨solved, hloop, rfl⟩ := hsolved
  obtain ⟨hshaped, hcleared, hvanishes⟩ := solveColumns_eq_ok h.shaped n le_rfl solved hloop
  refine ⟨by rw [List.length_map, List.length_range], fun β => ?_⟩
  rw [← (h.vanishes_iff β).1, ← hvanishes, hcleared.vanishes_iff]
  refine forall₂_congr fun i hi => ?_
  have hrow := hshaped.row_length hi
  have hlast : (solved.getD i []).getLastD 0 = Ml.entry solved i n := by
    rw [List.getLastD_eq_getLast?, List.getLast?_eq_getElem?, hrow, Nat.add_sub_cancel, Ml.entry,
      List.getD_eq_getElem?_getD (l := solved.getD i [])]
  rw [one_mul, List.getD_eq_getElem _ _ (by rw [List.length_map, List.length_range]; exact hi),
    List.getElem_map, List.getElem_range, hlast]

/-- A singular system has something in its kernel. -/
theorem solveExact_eq_singular (h : Summed n state samples)
    (hsolved : solveExact (ridged ridgeLambda state.gram) state.target maximumBits =
      .error .singular) :
    ∃ δ : Nat → ℚ, (∃ i < n, δ i ≠ 0) ∧ InKernel ridgeLambda samples n δ := by
  rw [solveExact_eq, h.target_length] at hsolved
  have hloop : (List.range n).foldlM (solveColumn maximumBits n) (augmentedOf ridgeLambda state) =
      .error .singular := by
    rw [← augmentedOf] at hsolved
    revert hsolved
    generalize (List.range n).foldlM (solveColumn maximumBits n)
      (augmentedOf ridgeLambda state) = outcome
    intro hsolved
    cases outcome with
    | ok solved => cases hsolved
    | error e => exact congrArg Except.error (Except.error.inj hsolved)
  obtain ⟨column, hcolumn, matrix, hmatrix, hnone⟩ := solveColumns_eq_singular n le_rfl hloop
  obtain ⟨-, hcleared, hvanishes⟩ := solveColumns_eq_ok h.shaped column hcolumn.le matrix hmatrix
  obtain ⟨δ, hone, hkernel⟩ := hcleared.exists_kernel hcolumn hnone
  refine ⟨δ, ⟨column, hcolumn, by rw [hone]; exact one_ne_zero⟩, ?_⟩
  exact (h.vanishes_iff δ).2.mp ((hvanishes 0 δ).mp hkernel)

end Fit

/-! ## The payload -/

/-- A coefficient of a payload: the intercept first, then the weights, over the divisor. -/
def ExactLinearModelPayload.coefficient (payload : ExactLinearModelPayload) (i : Nat) : ℚ :=
  (((payload.intercept :: payload.weights).getD i 0 : Int) : ℚ) / payload.outputDivisor

theorem dvd_foldl_lcm (l : List ℚ) (d : Nat) : d ∣ l.foldl (fun d c => d.lcm c.den) d ∧
    (∀ c ∈ l, c.den ∣ l.foldl (fun d c => d.lcm c.den) d) ∧
      (0 < d → 0 < l.foldl (fun d c => d.lcm c.den) d) := by
  induction l generalizing d with
  | nil => exact ⟨dvd_rfl, by simp, fun h => h⟩
  | cons c rest ih =>
    obtain ⟨hd, hrest, hpos⟩ := ih (d.lcm c.den)
    refine ⟨(Nat.dvd_lcm_left d c.den).trans hd, fun c' hc' => ?_, fun h => ?_⟩
    · rcases List.mem_cons.mp hc' with rfl | hc'
      · exact (Nat.dvd_lcm_right d _).trans hd
      · exact hrest c' hc'
    · exact hpos (Nat.lcm_pos h c.den_pos)

theorem foldl_gcd_dvd (l : List Int) (d : Nat) : l.foldl (fun g n => g.gcd n.natAbs) d ∣ d ∧
    ∀ n ∈ l, ((l.foldl (fun g n => g.gcd n.natAbs) d : Nat) : Int) ∣ n := by
  induction l generalizing d with
  | nil => exact ⟨dvd_rfl, by simp⟩
  | cons n rest ih =>
    obtain ⟨hd, hrest⟩ := ih (d.gcd n.natAbs)
    refine ⟨hd.trans (Nat.gcd_dvd_left d _), fun n' hn' => ?_⟩
    rcases List.mem_cons.mp hn' with rfl | hn'
    · exact Int.natCast_dvd.mpr (hd.trans (Nat.gcd_dvd_right d _))
    · exact hrest n' hn'

/-- **The payload is the coefficients over one divisor.** -/
theorem fractionPayload_eq_ok {coefficients : List ℚ} {payload : ExactLinearModelPayload}
    (h : fractionPayload coefficients = .ok payload) (hne : coefficients ≠ []) :
    payload.weights.length + 1 = coefficients.length ∧ 0 < payload.outputDivisor ∧
      ∀ i < coefficients.length, payload.coefficient i = coefficients.getD i 0 := by
  rw [fractionPayload] at h
  obtain ⟨hbounds, h⟩ := check_bind_eq_ok.mp h
  rw [refuseIf_eq_ok, not_or] at hbounds
  obtain rfl := Except.ok.inj h
  obtain ⟨-, hdens, hpositive⟩ := dvd_foldl_lcm coefficients 1
  replace hpositive := hpositive Nat.one_pos
  generalize coefficients.foldl (fun d c => d.lcm c.den) 1 = divisor at *
  generalize hnumerators : coefficients.map (fun c => c.num * ((divisor / c.den : Nat) : Int)) =
    numerators at *
  obtain ⟨hcommon, hdivides⟩ := foldl_gcd_dvd numerators divisor
  generalize numerators.foldl (fun g n => g.gcd n.natAbs) divisor = common at *
  have hcommonPos : 0 < common := Nat.pos_of_dvd_of_pos hcommon hpositive
  have hlength : numerators.length = coefficients.length := by
    rw [← hnumerators, List.length_map]
  -- a numerator over the divisor is its coefficient
  have hquotient : ∀ i < coefficients.length,
      ((numerators.getD i 0 : Int) : ℚ) / divisor = coefficients.getD i 0 := by
    intro i hi
    obtain ⟨k, hk⟩ := hdens _ (List.getElem_mem hi)
    have hkpos : (k : ℚ) ≠ 0 := by
      rintro hzero
      rw [Nat.cast_eq_zero.mp hzero, Nat.mul_zero] at hk
      omega
    have hden : (coefficients[i].den : ℚ) ≠ 0 := Nat.cast_ne_zero.mpr coefficients[i].den_pos.ne'
    have hshare : divisor / coefficients[i].den = k := by
      rw [hk, Nat.mul_div_cancel_left k coefficients[i].den_pos]
    rw [← hnumerators, List.getD_eq_getElem _ _ (by rwa [List.length_map]), List.getElem_map,
      List.getD_eq_getElem _ _ hi, hshare, hk]
    push_cast
    rw [mul_div_mul_right _ _ hkpos]
    exact Rat.num_div_den _
  -- taking the common divisor out changes no quotient
  obtain ⟨reduced, outputDivisor, hreduced, houtput, hlen, hsame⟩ : ∃ (reduced : List Int)
      (outputDivisor : Nat), (if 1 < common then numerators.map (· / (common : Int))
        else numerators) = reduced ∧ (if 1 < common then divisor / common else divisor) =
          outputDivisor ∧ reduced.length = coefficients.length ∧ ∀ i < coefficients.length,
            ((reduced.getD i 0 : Int) : ℚ) / outputDivisor = coefficients.getD i 0 := by
    by_cases hone : 1 < common
    · rw [if_pos hone, if_pos hone]
      refine ⟨_, _, rfl, rfl, by rw [List.length_map, hlength], fun i hi => ?_⟩
      have hin : i < numerators.length := hlength.symm ▸ hi
      obtain ⟨a, ha⟩ := hdivides _ (List.getElem_mem hin)
      obtain ⟨b, hb⟩ := hcommon
      have hcast : (common : ℚ) ≠ 0 := Nat.cast_ne_zero.mpr hcommonPos.ne'
      rw [← hquotient i hi, List.getD_eq_getElem _ _ (by rwa [List.length_map]), List.getElem_map,
        List.getD_eq_getElem _ _ hin, ha, hb, Int.mul_ediv_cancel_left _ (by omega),
        Nat.mul_div_cancel_left _ hcommonPos]
      push_cast
      rw [mul_div_mul_left _ _ hcast]
    · rw [if_neg hone, if_neg hone]
      exact ⟨_, _, rfl, rfl, hlength, hquotient⟩
  simp only [hreduced, houtput] at hbounds ⊢
  have hpos : 0 < reduced.length := by
    rw [hlen]
    exact List.length_pos_iff.mpr hne
  have hcons : reduced.headD 0 :: reduced.drop 1 = reduced := by
    obtain ⟨first, rest, rfl⟩ := List.exists_cons_of_length_pos hpos
    rfl
  refine ⟨?_, by omega, fun i hi => ?_⟩
  · rw [List.length_drop, ← hlen]
    omega
  · rw [ExactLinearModelPayload.coefficient, hcons, hsame i hi]

/-! ## The error -/

theorem sum_zipWith {α β : Type} (f : α → β → ℚ) (a : α) (b : β) {l : List α} {l' : List β} :
    ∀ {n : Nat}, l.length = n → l'.length = n →
      (List.zipWith f l l').sum = ∑ i ∈ Finset.range n, f (l.getD i a) (l'.getD i b) := by
  induction l generalizing l' with
  | nil =>
    rintro n rfl _
    simp
  | cons x l ih =>
    rintro n rfl hl'
    obtain ⟨y, l', rfl⟩ := List.exists_cons_of_length_pos (hl' ▸ Nat.succ_pos _ : 0 < l'.length)
    rw [List.length_cons, Finset.sum_range_succ', List.zipWith_cons_cons, List.sum_cons,
      ih rfl (Nat.succ.inj hl'), add_comm]
    rfl

theorem sum_mul_cast {n : Nat} {coefficients : List ℚ} {l : List Int}
    (hlength : coefficients.length = n) (hl : l.length = n) :
    (List.zipWith (fun c t => c * t) coefficients (do let a ← l; pure (a : ℚ))).sum =
      ∑ i ∈ Finset.range n, coefficients.getD i 0 * ((l.getD i 0 : Int) : ℚ) := by
  have hcast : (do let a ← l; pure (a : ℚ)) = l.map fun a : Int => (a : ℚ) :=
    List.flatMap_pure_eq_map _ _
  rw [hcast, sum_zipWith (fun c t => c * t) 0 0 hlength (by rw [List.length_map, hl])]
  refine Finset.sum_congr rfl fun i hi => ?_
  have hin : i < l.length := hl.symm ▸ Finset.mem_range.mp hi
  rw [List.getD_eq_getElem (l.map _) _ (by rwa [List.length_map]), List.getElem_map,
    List.getD_eq_getElem _ _ hin]

/-- **The reported error is the squared error.** -/
theorem Summed.residual_eq {n : Nat} {state : FitState} {samples : List Sample}
    (h : Summed n state samples) {coefficients : List ℚ} (hlength : coefficients.length = n) :
    residual state coefficients = squaredError samples n fun i => coefficients.getD i 0 := by
  have htarget : (List.zipWith (fun c t => c * (t : ℚ)) coefficients state.target).sum =
      ∑ i ∈ Finset.range n, coefficients.getD i 0 *
        (samples.map fun s => s.coordinate i * (s.value : ℚ)).sum := by
    rw [sum_mul_cast hlength h.target_length]
    refine Finset.sum_congr rfl fun i hi => ?_
    rw [h.target i (Finset.mem_range.mp hi)]
  have hgram : (List.zipWith (fun c (row : List Int) =>
      c * (List.zipWith (fun d g => d * (g : ℚ)) coefficients row).sum) coefficients
        state.gram).sum = ∑ i ∈ Finset.range n, coefficients.getD i 0 *
          (samples.map fun s =>
            s.coordinate i * s.predict n fun i => coefficients.getD i 0).sum := by
    rw [sum_zipWith _ 0 [] hlength h.gram_length]
    refine Finset.sum_congr rfl fun i hi => ?_
    have hi := Finset.mem_range.mp hi
    rw [sum_mul_cast hlength (h.gram_row hi), sum_mul_predict]
    refine congrArg _ (Finset.sum_congr rfl fun j hj => ?_)
    rw [h.gram i hi j (Finset.mem_range.mp hj)]
    simp only [mul_comm]
  rw [residual, htarget, hgram, h.square,
    ← sum_mul_predict samples (fun s => (s.value : ℚ)) n fun i => coefficients.getD i 0,
    ← sum_mul_predict samples (fun s => s.predict n fun i => coefficients.getD i 0) n
      fun i => coefficients.getD i 0]
  clear h htarget hgram
  rw [squaredError]
  induction samples with
  | nil => simp
  | cons s samples ih =>
    simp only [List.map_cons, List.sum_cons] at ih ⊢
    rw [← ih, Sample.residual]
    ring

/-! ## The fit -/

section

variable [NumpySearch] {trainer : ExactIntegerLinearTrainer}

/-- The loop over the labels is never what is singular. -/
theorem stops_fitLabels (spec : TrainingJobSpec) (inputs : TrainingInputs) :
    Stops (· ≠ .singular) (fitLabels trainer spec inputs) := by
  rw [fitLabels, LabelSet.rowsForTraining_eq, ok_bind]
  refine Stops.foldlM _ _ fun label _ state => ?_
  rw [fitLabel]
  refine Stops.ite (fun _ => stops_ok _) fun _ => ?_
  refine Stops.bind (stops_refuseIf fun _ => TrainingFault.noConfusion) fun _ _ => ?_
  cases label.value with
  | none => exact stops_ok _
  | some value =>
    refine Stops.ite (fun _ => stops_ok _) fun _ => Stops.bind ?_ fun values _ => ?_
    · refine Stops.foldlM _ _ fun features _ values => Stops.foldlM _ _ fun code _ values => ?_
      refine Stops.bind ?_ fun value _ => ?_
      · intro e he
        rw [FeatureSet.valueAtCode] at he
        split at he
        · exact Except.error.inj he ▸ TrainingFault.noConfusion
        · cases he
      · cases value with
        | none => exact stops_error TrainingFault.noConfusion
        | some value =>
          exact Stops.bind (stops_refuseIf fun _ => TrainingFault.noConfusion)
            fun _ _ => stops_ok _
    · refine Stops.bind (stops_refuseIf fun _ => TrainingFault.noConfusion) fun _ _ => ?_
      exact Stops.bind (stops_refuseIf fun _ => TrainingFault.noConfusion) fun _ _ => stops_ok _

theorem coordinate_zero {spec : TrainingJobSpec} {inputs : TrainingInputs} {s : Sample}
    (hs : s ∈ trainingSamples spec inputs) : s.coordinate 0 = 1 := by
  obtain ⟨label, -, rfl⟩ := List.mem_map.mp hs
  exact Int.cast_one

/-- **A fit is the ridge model of the training samples.**  The payload has the one solution of the
normal equations, so no linear form has a smaller objective, and the error that is reported is its
squared error.  A fit is singular only without a penalty, when some form that is not zero predicts
nothing. -/
theorem fit_exact (request : TrainExactLinearModelRequest) (inputs : TrainingInputs) :
    (∀ payload metrics, fit trainer request inputs = .ok (payload, metrics) →
      payload.weights.length = inputs.featureCount ∧ 0 < payload.outputDivisor ∧
      (∀ β, NormalEquations request.ridgeLambda (trainingSamples request.trainingSpec inputs)
        (inputs.featureCount + 1) β ↔
          ∀ i < inputs.featureCount + 1, β i = payload.coefficient i) ∧
      (∀ β, objective request.ridgeLambda (trainingSamples request.trainingSpec inputs)
          (inputs.featureCount + 1) payload.coefficient ≤
        objective request.ridgeLambda (trainingSamples request.trainingSpec inputs)
          (inputs.featureCount + 1) β) ∧
      metrics.sse = squaredError (trainingSamples request.trainingSpec inputs)
        (inputs.featureCount + 1) payload.coefficient ∧ 0 ≤ metrics.sse ∧
      metrics.sampleCount = (trainingSamples request.trainingSpec inputs).length ∧
      0 < metrics.sampleCount) ∧
    (fit trainer request inputs = .error .singular → request.ridgeLambda = 0 ∧
      ∃ δ : Nat → ℚ, (∃ i < inputs.featureCount + 1, δ i ≠ 0) ∧
        ∀ s ∈ trainingSamples request.trainingSpec inputs,
          s.predict (inputs.featureCount + 1) δ = 0) := by
  constructor
  · intro payload metrics h
    obtain ⟨state, hstate, h⟩ := bind_eq_ok.mp h
    obtain ⟨hrows, h⟩ := check_bind_eq_ok.mp h
    obtain ⟨coefficients, hsolved, h⟩ := bind_eq_ok.mp h
    obtain ⟨payload', hpayload, h⟩ := bind_eq_ok.mp h
    obtain ⟨rfl, rfl⟩ := Prod.mk.inj (Except.ok.inj h)
    have hsummed := fitLabels_summed hstate
    obtain ⟨hlength, hsolution⟩ := solveExact_eq_ok hsummed hsolved
    have hne : coefficients ≠ [] := List.length_pos_iff.mp (by omega)
    obtain ⟨hweights, hdivisor, hcoefficient⟩ := fractionPayload_eq_ok hpayload hne
    rw [hlength] at hweights hcoefficient
    have hunique : ∀ β, NormalEquations request.ridgeLambda
        (trainingSamples request.trainingSpec inputs) (inputs.featureCount + 1) β ↔
          ∀ i < inputs.featureCount + 1, β i = payload'.coefficient i := by
      intro β
      rw [hsolution]
      exact forall₂_congr fun i hi => by rw [hcoefficient i hi]
    have herror : squaredError (trainingSamples request.trainingSpec inputs)
        (inputs.featureCount + 1) (fun i => coefficients.getD i 0) =
          squaredError (trainingSamples request.trainingSpec inputs) (inputs.featureCount + 1)
            payload'.coefficient := by
      simp only [squaredError, Sample.residual, Sample.predict]
      refine congrArg List.sum (List.map_congr_left fun s _ => ?_)
      rw [Finset.sum_congr rfl fun i hi => by rw [← hcoefficient i (Finset.mem_range.mp hi)]]
    refine ⟨by omega, hdivisor, hunique, fun β => ?_, ?_, ?_, hsummed.rows, ?_⟩
    · exact ((hunique _).mpr fun _ _ => rfl).objective_le β
    · exact (hsummed.residual_eq hlength).trans herror
    · exact (hsummed.residual_eq hlength).symm ▸ squaredError_nonneg _ _ _
    · exact Nat.pos_of_ne_zero (refuseIf_eq_ok.mp hrows)
  · intro h
    rcases bind_eq_error.mp h with h | ⟨state, hstate, h⟩
    · exact absurd rfl (stops_fitLabels _ _ _ h)
    rcases bind_eq_error.mp h with h | ⟨checked, hrows, h⟩
    · exact TrainingFault.noConfusion (refuseIf_eq_error.mp h).2
    rcases bind_eq_error.mp h with h | ⟨coefficients, -, h⟩
    · have hsummed := fitLabels_summed hstate
      obtain ⟨δ, ⟨i, hi, hne⟩, hkernel⟩ := solveExact_eq_singular hsummed h
      refine ⟨?_, δ, ⟨i, hi, hne⟩, hkernel.vanish.1⟩
      by_contra hlambda
      have hsome : 0 < (trainingSamples request.trainingSpec inputs).length :=
        hsummed.rows ▸ Nat.pos_of_ne_zero (refuseIf_eq_ok.mp hrows)
      have hsample := List.getElem_mem hsome
      exact hne (hkernel.eq_zero (Nat.pos_of_ne_zero hlambda) hsample (coordinate_zero hsample)
        i hi)
    rcases bind_eq_error.mp h with h | ⟨payload, -, h⟩
    · rw [fractionPayload] at h
      rcases bind_eq_error.mp h with h | ⟨-, -, h⟩
      · exact TrainingFault.noConfusion (refuseIf_eq_error.mp h).2
      · cases h
    · cases h

end

end Ml

end OnchainBacktest
