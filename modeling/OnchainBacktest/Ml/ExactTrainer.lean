import OnchainBacktest.Ml.UniverseReader

/-!
# The exact linear trainer

A training job fits a ridge model on the labels of its training interval, with exact arithmetic.
Here are the job with its temporal split, the three inputs as their readers give them (feature
values point in time, labels in row order, and the universe), the loop over the
labels, the solution of the normal equations and the payload.

A reader checks its arrays when it opens them, so an input carries what was checked.
-/

set_option autoImplicit false

namespace OnchainBacktest

namespace Ml

open Checked

/-! ## Jobs -/

structure TemporalSplit where
  trainFrom : Nat
  trainUntil : Nat
  validationFrom : Nat
  validationUntil : Nat
  purgeBoundaries : Nat
  embargoBoundaries : Nat
  ordered : trainFrom < trainUntil ∧ trainUntil ≤ validationFrom ∧ validationFrom < validationUntil
  purged : trainUntil + purgeBoundaries ≤ validationFrom

/-- A training job.  Its hyperparameters, seeds and runtime are identities only. -/
structure TrainingJobSpec where
  featureSetIds : List ContentDigest
  labelSetId : ContentDigest
  universeId : ContentDigest
  split : TemporalSplit
  trainingCutoff : Nat
  modeledAvailableBoundary : Nat
  trainerBundleId : ContentDigest
  some_features : featureSetIds ≠ []
  covers_rows : split.trainUntil ≤ trainingCutoff
  available_after : trainingCutoff ≤ modeledAvailableBoundary

structure TrainExactLinearModelRequest where
  trainingSpec : TrainingJobSpec
  featureSchema : List (ContentDigest × List ContentDigest)
  ridgeLambda : Nat
  framework : String
  compilerVersion : String

def EXACT_LINEAR_FRAMEWORK : String := "exact-rational-linear-v1"

def COMPILER_VERSION : String := "numpy-point-in-time-ml-v1"

/-! ## Faults -/

inductive TrainingFault
  | compilerVersion
  | framework
  | trainerBundle
  | schemaChanged
  | featureCount
  | otherUniverse
  | otherCutoff
  | labelDisappeared
  | labelAfterCutoff
  | rowOutOfBounds
  | featureMissing
  | featureBound
  | labelBound
  | rowCount
  | noRows
  | singular
  | fractionGrowth
  | payloadBounds
  deriving DecidableEq, Repr

def TrainingFault.message : TrainingFault → String
  | .compilerVersion => "compiler version must be 'numpy-point-in-time-ml-v1'"
  | .framework => "exact trainer framework is unsupported"
  | .trainerBundle => "TrainingJobSpec pins another trainer bundle"
  | .schemaChanged => "training FeatureSet schema digest changed"
  | .featureCount => "training feature count exceeds exact-trainer bound"
  | .otherUniverse => "training LabelSet references another Universe"
  | .otherCutoff => "training cutoff differs from LabelSet"
  | .labelDisappeared => "LabelSet row disappeared during iteration"
  | .labelAfterCutoff => "training label uses data after training cutoff"
  | .rowOutOfBounds => "replay row ID is out of bounds"
  | .featureMissing => "training feature is missing or not yet causally available"
  | .featureBound => "training feature exceeds exact-trainer numeric bound"
  | .labelBound => "training label exceeds exact-trainer numeric bound"
  | .rowCount => "training row count exceeds exact-trainer bound"
  | .noRows => "temporal split has no eligible non-null training rows"
  | .singular => "exact ridge system is singular"
  | .fractionGrowth => "exact trainer fraction-growth bound exceeded"
  | .payloadBounds => "exact trained coefficients exceed int64 payload bounds"

/-! ## Features -/

/-- A row of a feature set: where it becomes available, and its values, a missing one as `none`. -/
structure FeatureRow where
  availableBoundary : Nat
  values : List (Option Int)

/-- A feature set, dense in replay rows. -/
structure FeatureSet where
  featureSetId : ContentDigest
  featureSpecIds : List ContentDigest
  rows : List FeatureRow
  some_features : featureSpecIds ≠ []
  dense : ∀ row ∈ rows, row.values.length = featureSpecIds.length

namespace FeatureSet

/-- What a model binds of a feature set. -/
def header (features : FeatureSet) : ContentDigest × List ContentDigest :=
  (features.featureSetId, features.featureSpecIds)

/-- `value_at_code`: the value of a row, once it is available. -/
def valueAtCode (features : FeatureSet) (code replayRowId boundary : Nat) :
    Except TrainingFault (Option Int) :=
  match features.rows[replayRowId]? with
  | none => .error .rowOutOfBounds
  | some row => .ok (if boundary < row.availableBoundary then none else row.values.getD code none)

end FeatureSet

/-! ## Labels -/

structure TrainingLabelRow where
  replayRowId : Nat
  effectiveBoundaryOrdinal : Nat
  futureBoundaryUsed : Nat
  value : Option Int
  deriving DecidableEq, Repr

/-- Labels in the order of their replay rows.  A row id is a position in a mapped replay pack, and
no pack has `2 ^ 53` rows. -/
structure LabelSet where
  universeId : ContentDigest
  trainingCutoff : Nat
  rows : List TrainingLabelRow
  row_ids : (rows.map TrainingLabelRow.replayRowId).Pairwise (· < ·)
  mapped_ids : ∀ row ∈ rows, row.replayRowId < 2 ^ 53
  effective_le : ∀ row ∈ rows, row.effectiveBoundaryOrdinal ≤ trainingCutoff
  future_ge : ∀ row ∈ rows, row.effectiveBoundaryOrdinal ≤ row.futureBoundaryUsed

namespace LabelSet

section Lookup

variable [NumpySearch]

def rowForTraining (labels : LabelSet) (replayRowId : Nat) : Option TrainingLabelRow :=
  let rowIds := labels.rows.map TrainingLabelRow.replayRowId
  let position := searchsorted rowIds replayRowId .left
  if position = rowIds.length ∨ rowIds.getD position 0 ≠ replayRowId then none
  else labels.rows[position]?

def rowsForTraining (labels : LabelSet) : Except TrainingFault (List TrainingLabelRow) :=
  labels.rows.mapM fun row =>
    match labels.rowForTraining row.replayRowId with
    | none => .error .labelDisappeared
    | some found => .ok found

/-- A row id is found at its own position: doubles tell the ids apart. -/
theorem searchsorted_rowId (labels : LabelSet) {i : Nat} (hi : i < labels.rows.length) :
    searchsorted (labels.rows.map TrainingLabelRow.replayRowId) labels.rows[i].replayRowId .left
      = i := by
  have hids : ∀ x ∈ labels.rows.map TrainingLabelRow.replayRowId, x < 2 ^ 53 := by
    intro x hx
    obtain ⟨row, hrow, rfl⟩ := List.mem_map.mp hx
    exact labels.mapped_ids row hrow
  have hkey := labels.mapped_ids _ (List.getElem_mem hi)
  have hinOrder := InOrder.of_sorted (labels.row_ids.imp Nat.le_of_lt) labels.rows[i].replayRowId
  have hsplit : labels.rows.map TrainingLabelRow.replayRowId
      = (labels.rows.map TrainingLabelRow.replayRowId).take i
        ++ (labels.rows.map TrainingLabelRow.replayRowId).drop i := (List.take_append_drop i _).symm
  have hdrop : (labels.rows.map TrainingLabelRow.replayRowId).drop i
      = labels.rows[i].replayRowId
        :: (labels.rows.map TrainingLabelRow.replayRowId).drop (i + 1) := by
    rw [List.drop_eq_getElem_cons (by rwa [List.length_map]), List.getElem_map]
  have hpairwise := labels.row_ids
  rw [hsplit, hdrop, List.pairwise_append] at hpairwise
  obtain ⟨-, hafter, hbefore⟩ := hpairwise
  have htake : (labels.rows.map TrainingLabelRow.replayRowId).take i
      = (labels.rows.map TrainingLabelRow.replayRowId).filter fun x =>
        promoted labels.rows[i].replayRowId x
          < promoted labels.rows[i].replayRowId labels.rows[i].replayRowId := by
    refine OrderedSplit.take_eq_filter (fun x hx => ?_) fun x hx => ?_
    · rw [promoted_of_lt _ (hids x (List.mem_of_mem_take hx)), promoted_of_lt _ hkey]
      exact decide_eq_true (hbefore x hx _ (by simp))
    · rw [promoted_of_lt _ (hids x (List.mem_of_mem_drop hx)), promoted_of_lt _ hkey]
      rw [hdrop] at hx
      refine decide_eq_false (not_lt.mpr ?_)
      rcases List.mem_cons.mp hx with rfl | hx
      · exact le_rfl
      · exact ((List.pairwise_cons.mp hafter).1 x hx).le
  rw [searchsorted_left hinOrder, ← htake, List.length_take, List.length_map,
    min_eq_left hi.le]

/-- **The rows are found where they are.** -/
theorem rowsForTraining_eq (labels : LabelSet) : labels.rowsForTraining = .ok labels.rows := by
  have hfound : ∀ row ∈ labels.rows, (match labels.rowForTraining row.replayRowId with
      | none => (.error .labelDisappeared : Except TrainingFault TrainingLabelRow)
      | some found => .ok found) = .ok row := by
    intro row hrow
    obtain ⟨i, hi, rfl⟩ := List.mem_iff_getElem.mp hrow
    have hlength : i < (labels.rows.map TrainingLabelRow.replayRowId).length := by
      rwa [List.length_map]
    have hid : (labels.rows.map TrainingLabelRow.replayRowId).getD i 0 =
        labels.rows[i].replayRowId := by
      rw [List.getD_eq_getElem _ _ hlength, List.getElem_map]
    have hposition := labels.searchsorted_rowId hi
    have hrefused : ¬ (i = (labels.rows.map TrainingLabelRow.replayRowId).length ∨
        (labels.rows.map TrainingLabelRow.replayRowId).getD i 0 ≠ labels.rows[i].replayRowId) := by
      rintro (heq | hne)
      · exact hlength.ne heq
      · exact hne hid
    have hrow : labels.rowForTraining labels.rows[i].replayRowId = some labels.rows[i] := by
      simp only [rowForTraining, hposition]
      rw [if_neg hrefused]
      exact List.getElem?_eq_getElem hi
    rw [hrow]
  have hrows := mapM_eq_ok_of_forall hfound
  rw [List.map_id'] at hrows
  exact hrows

end Lookup

end LabelSet

/-! ## The fit -/

structure ExactIntegerLinearTrainer where
  maximumTrainingRows : Nat
  maximumFeatures : Nat
  maximumAbsoluteInput : Nat
  maximumFractionBits : Nat
  trainerBundleId : ContentDigest
  positive : 0 < maximumTrainingRows ∧ 0 < maximumFeatures ∧ 0 < maximumAbsoluteInput ∧
    0 < maximumFractionBits

/-- What a job is trained on. -/
structure TrainingInputs where
  features : List FeatureSet
  labels : LabelSet
  members : Universe

def TrainingInputs.featureCount (inputs : TrainingInputs) : Nat :=
  (inputs.features.map fun features => features.featureSpecIds.length).sum

/-- The sums of the loop over the labels.  `entered` is only bookkeeping. -/
structure FitState where
  gram : List (List Int)
  target : List Int
  targetSquare : Int
  selectedRows : Nat
  entered : List TrainingLabelRow

def FitState.start (dimension : Nat) : FitState :=
  ⟨List.replicate dimension (List.replicate dimension 0), List.replicate dimension 0, 0, 0, []⟩

/-- A sample added to the sums. -/
def FitState.add (state : FitState) (values : List Int) (value : Int) (label : TrainingLabelRow) :
    FitState where
  gram := List.zipWith (fun row x => List.zipWith (fun g y => g + x * y) row values) state.gram values
  target := List.zipWith (fun t x => t + x * value) state.target values
  targetSquare := state.targetSquare + value * value
  selectedRows := state.selectedRows + 1
  entered := state.entered ++ [label]

def requireAbsoluteBound (value : Int) (maximum : Nat) (fault : TrainingFault) :
    Except TrainingFault Unit :=
  refuseIf (maximum < value.natAbs) fault

/-- A label of the training interval. -/
def InTraining (split : TemporalSplit) (label : TrainingLabelRow) : Prop :=
  split.trainFrom ≤ label.effectiveBoundaryOrdinal ∧ label.effectiveBoundaryOrdinal < split.trainUntil

instance inTraining_decidable (split : TemporalSplit) (label : TrainingLabelRow) :
    Decidable (InTraining split label) :=
  inferInstanceAs (Decidable (_ ∧ _))

section Fit

variable [NumpySearch] (trainer : ExactIntegerLinearTrainer)

/-- The values of one feature set at a label. -/
def featureValues (label : TrainingLabelRow) (values : List Int) (features : FeatureSet) :
    Except TrainingFault (List Int) :=
  (List.range features.featureSpecIds.length).foldlM (fun values code => do
    let value ← features.valueAtCode code label.replayRowId label.effectiveBoundaryOrdinal
    match value with
    | none => .error .featureMissing
    | some value => do
      requireAbsoluteBound value trainer.maximumAbsoluteInput .featureBound
      .ok (values ++ [value])) values

/-- One label of the loop. -/
def fitLabel (spec : TrainingJobSpec) (inputs : TrainingInputs) (state : FitState)
    (label : TrainingLabelRow) : Except TrainingFault FitState :=
  if ¬ InTraining spec.split label then .ok state
  else do
    refuseIf (spec.trainingCutoff < label.futureBoundaryUsed) .labelAfterCutoff
    match label.value with
    | none => .ok state
    | some value =>
      if inputs.members.contains label.replayRowId label.effectiveBoundaryOrdinal = false then
        .ok state
      else do
        let values ← inputs.features.foldlM (featureValues trainer label) [1]
        requireAbsoluteBound value trainer.maximumAbsoluteInput .labelBound
        refuseIf (trainer.maximumTrainingRows < state.selectedRows + 1) .rowCount
        .ok (state.add values value label)

def fitLabels (spec : TrainingJobSpec) (inputs : TrainingInputs) : Except TrainingFault FitState := do
  let rows ← inputs.labels.rowsForTraining
  rows.foldlM (fitLabel trainer spec inputs) (FitState.start (inputs.featureCount + 1))

/-! ## The normal equations -/

def bitLength (n : Nat) : Nat := if n = 0 then 0 else n.log2 + 1

def boundedFraction (maximumBits : Nat) (value : ℚ) : Except TrainingFault ℚ := do
  refuseIf (maximumBits < bitLength value.num.natAbs ∨ maximumBits < bitLength value.den)
    .fractionGrowth
  .ok value

def entry (matrix : List (List ℚ)) (row column : Nat) : ℚ := (matrix.getD row []).getD column 0

/-- The column is cleared from every row but the pivot's. -/
def eliminate (maximumBits size column : Nat) (matrix : List (List ℚ)) (row : Nat) :
    Except TrainingFault (List (List ℚ)) :=
  if row = column then .ok matrix
  else
    let multiplier := entry matrix row column
    if multiplier = 0 then .ok matrix
    else do
      let cleared ← (List.range (size + 1)).mapM fun index => boundedFraction maximumBits
        (entry matrix row index - multiplier * entry matrix column index)
      .ok (matrix.set row cleared)

def solveColumn (maximumBits size : Nat) (matrix : List (List ℚ)) (column : Nat) :
    Except TrainingFault (List (List ℚ)) :=
  match (List.range' column (size - column)).find? fun row => entry matrix row column ≠ 0 with
  | none => .error .singular
  | some pivot => do
    let swapped := (matrix.set column (matrix.getD pivot [])).set pivot (matrix.getD column [])
    let divisor := entry swapped column column
    let scaled ← (swapped.getD column []).mapM fun value =>
      boundedFraction maximumBits (value / divisor)
    (List.range size).foldlM (eliminate maximumBits size column) (swapped.set column scaled)

/-- `_solve_exact`: elimination with bounded fractions. -/
def solveExact (matrix : List (List Int)) (target : List Int) (maximumFractionBits : Nat) :
    Except TrainingFault (List ℚ) := do
  let size := target.length
  let augmented := List.zipWith (fun row t => row.map Int.cast ++ [(t : ℚ)]) matrix target
  let solved ← (List.range size).foldlM (solveColumn maximumFractionBits size) augmented
  .ok ((List.range size).map fun index => (solved.getD index []).getLastD 0)

/-! ## The payload -/

structure ExactLinearModelPayload where
  weights : List Int
  intercept : Int
  outputDivisor : Nat
  deriving DecidableEq, Repr

def INT64_MAX : Nat := 2 ^ 63 - 1

/-- `_fraction_payload`: the coefficients over their least common divisor. -/
def fractionPayload (coefficients : List ℚ) : Except TrainingFault ExactLinearModelPayload := do
  let divisor := coefficients.foldl (fun d c => d.lcm c.den) 1
  let numerators := coefficients.map fun c => c.num * ((divisor / c.den : Nat) : Int)
  let common := numerators.foldl (fun g n => g.gcd n.natAbs) divisor
  let outputDivisor := if 1 < common then divisor / common else divisor
  let reduced := if 1 < common then numerators.map (· / (common : Int)) else numerators
  refuseIf (outputDivisor < 1 ∨ INT64_MAX < outputDivisor ∨
    ∃ value ∈ reduced, value < -((INT64_MAX : Int) + 1) ∨ (INT64_MAX : Int) < value) .payloadBounds
  .ok ⟨reduced.drop 1, reduced.headD 0, outputDivisor⟩

/-- The metrics a model bundle binds, before they are hashed. -/
structure TrainingMetrics where
  ridgeLambda : Nat
  sampleCount : Nat
  sse : ℚ
  trainerBundleId : ContentDigest
  deriving DecidableEq

/-- The unregularized residual error of the coefficients. -/
def residual (state : FitState) (coefficients : List ℚ) : ℚ :=
  state.targetSquare
    - 2 * (List.zipWith (fun c t => c * (t : ℚ)) coefficients state.target).sum
    + (List.zipWith (fun c (row : List Int) =>
        c * (List.zipWith (fun d g => d * (g : ℚ)) coefficients row).sum) coefficients
          state.gram).sum

/-- Ridge on every feature, not on the intercept. -/
def ridged (lambda : Nat) (gram : List (List Int)) : List (List Int) :=
  gram.mapIdx fun i row => row.mapIdx fun j g => if i = j ∧ 0 < i then g + lambda else g

/-- `_fit`. -/
def fit (request : TrainExactLinearModelRequest) (inputs : TrainingInputs) :
    Except TrainingFault (ExactLinearModelPayload × TrainingMetrics) := do
  let state ← fitLabels trainer request.trainingSpec inputs
  refuseIf (state.selectedRows = 0) .noRows
  let coefficients ← solveExact (ridged request.ridgeLambda state.gram) state.target
    trainer.maximumFractionBits
  let payload ← fractionPayload coefficients
  .ok (payload, ⟨request.ridgeLambda, state.selectedRows, residual state coefficients,
    trainer.trainerBundleId⟩)

/-- `train_exact_linear`, up to the publication of the bundle. -/
def trainExactLinear (request : TrainExactLinearModelRequest) (inputs : TrainingInputs) :
    Except TrainingFault (ExactLinearModelPayload × TrainingMetrics) := do
  refuseIf (request.compilerVersion ≠ COMPILER_VERSION) .compilerVersion
  refuseIf (request.framework ≠ EXACT_LINEAR_FRAMEWORK) .framework
  refuseIf (request.trainingSpec.trainerBundleId ≠ trainer.trainerBundleId) .trainerBundle
  refuseIf (inputs.features.map FeatureSet.header ≠ request.featureSchema) .schemaChanged
  refuseIf (¬ (0 < inputs.featureCount ∧ inputs.featureCount ≤ trainer.maximumFeatures))
    .featureCount
  refuseIf (inputs.labels.universeId ≠ inputs.members.universeId) .otherUniverse
  refuseIf (inputs.labels.trainingCutoff ≠ request.trainingSpec.trainingCutoff) .otherCutoff
  fit trainer request inputs

end Fit

end Ml

end OnchainBacktest
