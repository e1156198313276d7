import OnchainBacktest.Ml.ExactTrainer
import OnchainBacktest.Ml.UniverseMembership

/-!
# What a training job may see

Two statements about the exact trainer.  A training is a function of the labels of its training
interval, of the feature values available at them and of their membership (`trainExactLinear_agree`).
A label that enters the fit used no boundary after the training cutoff (`Entered`), so none of the
validation interval exactly when the cutoff of the job is before it (`unleaked_iff`).
-/

set_option autoImplicit false

namespace OnchainBacktest

namespace Ml

open Checked

/-- The inputs are those a job names. -/
structure Named (spec : TrainingJobSpec) (inputs : TrainingInputs) : Prop where
  features : inputs.features.map FeatureSet.featureSetId = spec.featureSetIds
  labels : inputs.labels.universeId = spec.universeId
  members : inputs.members.universeId = spec.universeId
  cutoff : inputs.labels.trainingCutoff = spec.trainingCutoff

def InTraining.rows (split : TemporalSplit) (inputs : TrainingInputs) : List TrainingLabelRow :=
  inputs.labels.rows.filter (InTraining split)

/-- Inputs that agree on the labels of the training interval, on the feature values available at
them and on their membership. -/
structure Agree [NumpySearch] (split : TemporalSplit) (a b : TrainingInputs) : Prop where
  labels : InTraining.rows split a = InTraining.rows split b
  headers : a.features.map FeatureSet.header = b.features.map FeatureSet.header
  available : ∀ label ∈ InTraining.rows split a, List.Forall₂ (fun f g =>
    ∀ code < f.featureSpecIds.length,
      f.valueAtCode code label.replayRowId label.effectiveBoundaryOrdinal =
        g.valueAtCode code label.replayRowId label.effectiveBoundaryOrdinal) a.features b.features
  contained : ∀ label ∈ InTraining.rows split a,
    a.members.contains label.replayRowId label.effectiveBoundaryOrdinal =
      b.members.contains label.replayRowId label.effectiveBoundaryOrdinal

section Training

variable [NumpySearch] {trainer : ExactIntegerLinearTrainer} {request : TrainExactLinearModelRequest}
  {spec : TrainingJobSpec} {a b inputs : TrainingInputs}

/-! ## Two runs -/

theorem Agree.featureCount (h : Agree spec.split a b) : a.featureCount = b.featureCount := by
  have hlengths : ∀ inputs : TrainingInputs, inputs.featureCount =
      ((inputs.features.map FeatureSet.header).map fun header => header.2.length).sum := by
    intro inputs
    rw [List.map_map]
    rfl
  rw [hlengths, hlengths, h.headers]

/-- Labels outside the interval leave the loop as it is. -/
theorem fitLabels_rows : fitLabels trainer spec inputs =
    (InTraining.rows spec.split inputs).foldlM (fitLabel trainer spec inputs)
      (FitState.start (inputs.featureCount + 1)) := by
  rw [fitLabels, LabelSet.rowsForTraining_eq, ok_bind, InTraining.rows, List.foldlM_filter]
  refine congrArg (fun body => List.foldlM body _ inputs.labels.rows) ?_
  funext state label
  by_cases hin : InTraining spec.split label
  · simp [hin]
  · simp [hin, fitLabel]
    rfl

omit [NumpySearch] in
/-- The values of feature sets that agree at a label. -/
theorem featureValues_agree {label : TrainingLabelRow} {fs gs : List FeatureSet}
    (hheaders : fs.map FeatureSet.header = gs.map FeatureSet.header)
    (h : List.Forall₂ (fun f g => ∀ code < f.featureSpecIds.length,
      f.valueAtCode code label.replayRowId label.effectiveBoundaryOrdinal =
        g.valueAtCode code label.replayRowId label.effectiveBoundaryOrdinal) fs gs)
    (values : List Int) : fs.foldlM (featureValues trainer label) values =
      gs.foldlM (featureValues trainer label) values := by
  induction h generalizing values with
  | nil => rfl
  | @cons f g fs gs hvalues _ ih =>
    obtain ⟨hheader, hrest⟩ := List.cons.inj hheaders
    have hlength : f.featureSpecIds.length = g.featureSpecIds.length :=
      congrArg (fun header => header.2.length) hheader
    have hfirst : featureValues trainer label values f = featureValues trainer label values g := by
      rw [featureValues, featureValues, ← hlength]
      refine foldlM_congr (fun code hcode values => ?_) values
      rw [hvalues code (List.mem_range.mp hcode)]
    rw [List.foldlM_cons, List.foldlM_cons, hfirst]
    exact congrArg (featureValues trainer label values g >>= ·) (funext fun v => ih hrest v)

theorem fitLabel_agree (h : Agree spec.split a b) {label : TrainingLabelRow}
    (hlabel : label ∈ InTraining.rows spec.split a) (state : FitState) :
    fitLabel trainer spec a state label = fitLabel trainer spec b state label := by
  rw [fitLabel, fitLabel, h.contained label hlabel]
  simp only [featureValues_agree h.headers (h.available label hlabel)]

theorem fitLabels_agree (h : Agree spec.split a b) :
    fitLabels trainer spec a = fitLabels trainer spec b := by
  rw [fitLabels_rows, fitLabels_rows, ← h.labels, ← h.featureCount]
  exact foldlM_congr (fun label hlabel state => fitLabel_agree h hlabel state) _

/-- **A training sees its interval only**: the same payload, or the same refusal. -/
theorem trainExactLinear_agree (hagree : Agree request.trainingSpec.split a b)
    (ha : Named request.trainingSpec a) (hb : Named request.trainingSpec b) :
    trainExactLinear trainer request a = trainExactLinear trainer request b := by
  have hfit : fit trainer request a = fit trainer request b := by
    rw [fit, fit, fitLabels_agree hagree]
  rw [trainExactLinear, trainExactLinear, hagree.headers, hagree.featureCount, hfit, ha.labels,
    ha.members, ha.cutoff, hb.labels, hb.members, hb.cutoff]

/-! ## What enters the fit -/

/-- What a label enters the fit for. -/
structure Entered [NumpySearch] (spec : TrainingJobSpec) (inputs : TrainingInputs) (label : TrainingLabelRow) :
    Prop where
  row : label ∈ inputs.labels.rows
  interval : InTraining spec.split label
  cutoff : label.futureBoundaryUsed ≤ spec.trainingCutoff
  known : label.value ≠ none
  member : inputs.members.contains label.replayRowId label.effectiveBoundaryOrdinal = true

theorem fitLabel_eq_ok {state state' : FitState} {label : TrainingLabelRow}
    (hrow : label ∈ inputs.labels.rows) (h : fitLabel trainer spec inputs state label = .ok state') :
    state' = state ∨ (Entered spec inputs label ∧ state'.entered = state.entered ++ [label]) := by
  rw [fitLabel] at h
  by_cases hin : InTraining spec.split label
  · rw [if_neg (not_not.mpr hin)] at h
    obtain ⟨hcutoff, h⟩ := check_bind_eq_ok.mp h
    cases hvalue : label.value with
    | none =>
      rw [hvalue] at h
      exact .inl (Except.ok.inj h).symm
    | some value =>
      rw [hvalue] at h
      by_cases hmember :
          inputs.members.contains label.replayRowId label.effectiveBoundaryOrdinal = false
      · dsimp only at h
        rw [if_pos hmember] at h
        exact .inl (Except.ok.inj h).symm
      · dsimp only at h
        rw [if_neg hmember] at h
        obtain ⟨values, -, h⟩ := bind_eq_ok.mp h
        obtain ⟨-, h⟩ := check_bind_eq_ok.mp h
        obtain ⟨-, h⟩ := check_bind_eq_ok.mp h
        obtain rfl := Except.ok.inj h
        refine .inr ⟨⟨hrow, hin, not_lt.mp (refuseIf_eq_ok.mp hcutoff), ?_, ?_⟩, rfl⟩
        · rw [hvalue]
          exact Option.some_ne_none value
        · exact (Bool.not_eq_false _).mp hmember
  · rw [if_pos hin] at h
    exact .inl (Except.ok.inj h).symm

theorem fitLabel_of_entered {state : FitState} {label : TrainingLabelRow} {value : Int}
    {values : List Int} (hin : InTraining spec.split label)
    (hcutoff : label.futureBoundaryUsed ≤ spec.trainingCutoff) (hvalue : label.value = some value)
    (hmember : inputs.members.contains label.replayRowId label.effectiveBoundaryOrdinal = true)
    (hvalues : inputs.features.foldlM (featureValues trainer label) [1] = .ok values)
    (hbound : value.natAbs ≤ trainer.maximumAbsoluteInput)
    (hrows : state.selectedRows + 1 ≤ trainer.maximumTrainingRows) :
    fitLabel trainer spec inputs state label = .ok (state.add values value label) := by
  rw [fitLabel, if_neg (not_not.mpr hin), refuseIf_of_not (not_lt.mpr hcutoff), ok_bind, hvalue]
  dsimp only
  rw [if_neg (by rw [hmember]; exact Bool.noConfusion), hvalues, ok_bind, requireAbsoluteBound,
    refuseIf_of_not (not_lt.mpr hbound), ok_bind, refuseIf_of_not (not_lt.mpr hrows), ok_bind]

/-- **Every label of a fit** is of the interval, known, of the universe, and used no boundary after
the cutoff. -/
theorem fitLabels_entered {state : FitState} (h : fitLabels trainer spec inputs = .ok state) :
    ∀ label ∈ state.entered, Entered spec inputs label := by
  rw [fitLabels, LabelSet.rowsForTraining_eq, ok_bind] at h
  refine foldlM_keeps (P := fun s : FitState => ∀ label ∈ s.entered, Entered spec inputs label) ?_
    (fun _ hmem => absurd hmem List.not_mem_nil) h
  intro label hlabel s s' hs hstep
  rcases fitLabel_eq_ok hlabel hstep with rfl | ⟨hentered, hnext⟩
  · exact hs
  · intro other hother
    rw [hnext] at hother
    rcases List.mem_append.mp hother with hold | hnew
    · exact hs other hold
    · obtain rfl := List.mem_singleton.mp hnew
      exact hentered

/-! ## The validation interval -/

/-- A training leaks nothing: it sees its interval only, and no label that enters the fit used a
boundary of the validation interval or after it. -/
def Unleaked (trainer : ExactIntegerLinearTrainer) (request : TrainExactLinearModelRequest) : Prop :=
  (∀ a b, Named request.trainingSpec a → Named request.trainingSpec b →
    Agree request.trainingSpec.split a b →
      trainExactLinear trainer request a = trainExactLinear trainer request b) ∧
  ∀ inputs state, Named request.trainingSpec inputs →
    fitLabels trainer request.trainingSpec inputs = .ok state →
      ∀ label ∈ state.entered,
        label.futureBoundaryUsed < request.trainingSpec.split.validationFrom

/-- A label at the start of the training interval that used the first validation boundary. -/
def lateLabel (spec : TrainingJobSpec) : TrainingLabelRow :=
  ⟨0, spec.split.trainFrom, spec.split.validationFrom, some 0⟩

/-- A feature that is zero from the start. -/
def zeroFeature (featureSetId : ContentDigest) : FeatureSet where
  featureSetId := featureSetId
  featureSpecIds := [featureSetId]
  rows := [⟨0, [some 0]⟩]
  some_features := List.cons_ne_nil _ _
  dense := by simp

/-- The entity of the label is a member at its boundary. -/
def lateMembers (spec : TrainingJobSpec) : Universe where
  universeId := spec.universeId
  rows := [⟨0, spec.split.trainFrom, spec.split.trainFrom + 1, 0⟩]
  point_in_time := by simp
  ordered := by simp

omit [NumpySearch] in
theorem lateLabel_effective (spec : TrainingJobSpec) :
    spec.split.trainFrom ≤ spec.trainingCutoff :=
  (spec.split.ordered.1.le).trans spec.covers_rows

omit [NumpySearch] in
theorem lateLabel_future (spec : TrainingJobSpec) :
    spec.split.trainFrom ≤ spec.split.validationFrom :=
  spec.split.ordered.1.le.trans spec.split.ordered.2.1

def lateLabels (spec : TrainingJobSpec) : LabelSet where
  universeId := spec.universeId
  trainingCutoff := spec.trainingCutoff
  rows := [lateLabel spec]
  row_ids := by simp
  mapped_ids := by simp [lateLabel]
  effective_le := by simp [lateLabel, lateLabel_effective]
  future_ge := by simp [lateLabel, lateLabel_future]

def lateInputs (spec : TrainingJobSpec) : TrainingInputs :=
  ⟨spec.featureSetIds.map zeroFeature, lateLabels spec, lateMembers spec⟩

omit [NumpySearch] in
theorem lateInputs_named (spec : TrainingJobSpec) : Named spec (lateInputs spec) where
  features := by
    rw [lateInputs, List.map_map]
    exact List.map_id'' (fun _ => rfl) _
  labels := rfl
  members := rfl
  cutoff := rfl

omit [NumpySearch] in
variable (trainer) in
theorem zeroFeatures_values (label : TrainingLabelRow) (hrow : label.replayRowId = 0)
    (ids : List ContentDigest) (values : List Int) :
    ∃ values', (ids.map zeroFeature).foldlM (featureValues trainer label) values = .ok values' := by
  induction ids generalizing values with
  | nil => exact ⟨values, rfl⟩
  | cons featureSetId rest ih =>
    have hvalue : (zeroFeature featureSetId).valueAtCode 0 label.replayRowId
        label.effectiveBoundaryOrdinal = .ok (some 0) := by
      rw [hrow]
      rfl
    have hbound : requireAbsoluteBound 0 trainer.maximumAbsoluteInput .featureBound = .ok () :=
      refuseIf_of_not (Nat.not_lt_zero _)
    have hone : featureValues trainer label values (zeroFeature featureSetId) =
        .ok (values ++ [0]) := by
      show (List.range 1).foldlM _ values = _
      rw [List.range_one, List.foldlM_cons, hvalue, ok_bind]
      dsimp only
      rw [hbound, ok_bind, ok_bind]
      rfl
    obtain ⟨values', hvalues'⟩ := ih (values ++ [0])
    exact ⟨values', by rw [List.map_cons, List.foldlM_cons, hone, ok_bind, hvalues']⟩

theorem lateMembers_contains (spec : TrainingJobSpec) :
    (lateMembers spec).contains 0 spec.split.trainFrom = true := by
  have hdecided : Decided (lateMembers spec).rows 0 spec.split.trainFrom := by
    refine decided_of_told_apart (lateMembers spec).point_in_time (lateMembers spec).ordered ?_ ?_
    · intro row hrow _
      rw [List.mem_singleton.mp hrow]
    · intro row hrow _ _
      rw [List.mem_singleton.mp hrow]
  refine (hdecided.lookup_iff (lateMembers spec).ordered).mpr ?_
  exact ⟨_, List.mem_singleton_self _, rfl, le_rfl, Nat.lt_succ_self _, Nat.zero_le _⟩

variable (trainer) in
/-- A job whose cutoff is not before the validation interval lets a late label in. -/
theorem lateLabel_enters (hlate : spec.split.validationFrom ≤ spec.trainingCutoff) :
    ∃ state, fitLabels trainer spec (lateInputs spec) = .ok state ∧
      lateLabel spec ∈ state.entered := by
  obtain ⟨values, hvalues⟩ := zeroFeatures_values trainer (lateLabel spec) rfl
    spec.featureSetIds [1]
  have hstep : fitLabel trainer spec (lateInputs spec)
      (FitState.start ((lateInputs spec).featureCount + 1)) (lateLabel spec) =
        .ok ((FitState.start _).add values 0 (lateLabel spec)) :=
    fitLabel_of_entered ⟨le_rfl, spec.split.ordered.1⟩ hlate rfl (lateMembers_contains spec) hvalues
      (Nat.zero_le _) trainer.positive.1
  refine ⟨(FitState.start ((lateInputs spec).featureCount + 1)).add values 0 (lateLabel spec), ?_,
    List.mem_append_right [] (List.mem_singleton_self (lateLabel spec))⟩
  rw [fitLabels, LabelSet.rowsForTraining_eq, ok_bind]
  show [lateLabel spec].foldlM (fitLabel trainer spec (lateInputs spec)) _ = _
  rw [List.foldlM_cons, hstep, ok_bind]
  rfl

variable (trainer request)

end Training

/-! ## A sample job -/

def sampleId (n : Fin (2 ^ 256)) : ContentDigest := ⟨n, false⟩

theorem sampleSplit_ordered : 0 < 8 ∧ 8 ≤ 10 ∧ 10 < 15 := by decide

theorem sampleSplit_purged : 8 + 2 ≤ 10 := by decide

/-- Training on boundaries below 8, validation from 10 on. -/
def sampleSplit : TemporalSplit := ⟨0, 8, 10, 15, 2, 1, sampleSplit_ordered, sampleSplit_purged⟩

theorem sampleSpec_features : [sampleId 1] ≠ [] := by decide

theorem sampleSpec_covers : 8 ≤ 20 := by decide

def sampleSpec : TrainingJobSpec :=
  ⟨[sampleId 1], sampleId 2, sampleId 3, sampleSplit, 20, 20, sampleId 4, sampleSpec_features,
    sampleSpec_covers, le_rfl⟩

theorem sampleTrainer_positive : 0 < 100000 ∧ 0 < 64 ∧ 0 < 281474976710656 ∧ 0 < 4096 := by decide

def sampleTrainer : ExactIntegerLinearTrainer :=
  ⟨100000, 64, 281474976710656, 4096, sampleId 4, sampleTrainer_positive⟩

def sampleRequest : TrainExactLinearModelRequest :=
  ⟨sampleSpec, [(sampleId 1, [sampleId 5])], 0, EXACT_LINEAR_FRAMEWORK, COMPILER_VERSION⟩

def sampleFeatureRows : List FeatureRow := [⟨0, [some 1]⟩, ⟨0, [some 2]⟩]

theorem sampleFeatures_some : [sampleId 5] ≠ [] := by decide

theorem sampleFeatures_dense : ∀ row ∈ sampleFeatureRows, row.values.length = [sampleId 5].length := by
  decide

def sampleFeatures : FeatureSet :=
  ⟨sampleId 1, [sampleId 5], sampleFeatureRows, sampleFeatures_some, sampleFeatures_dense⟩

/-- The second label uses boundary 12, in the validation interval. -/
def sampleLabelRows : List TrainingLabelRow := [⟨0, 3, 5, some 2⟩, ⟨1, 5, 12, some 4⟩]

theorem sampleLabels_ids :
    (sampleLabelRows.map TrainingLabelRow.replayRowId).Pairwise (· < ·) := by decide

theorem sampleLabels_mapped : ∀ row ∈ sampleLabelRows, row.replayRowId < 2 ^ 53 := by decide

theorem sampleLabels_effective : ∀ row ∈ sampleLabelRows, row.effectiveBoundaryOrdinal ≤ 20 := by
  decide

theorem sampleLabels_future :
    ∀ row ∈ sampleLabelRows, row.effectiveBoundaryOrdinal ≤ row.futureBoundaryUsed := by decide

def sampleLabels : LabelSet :=
  ⟨sampleId 3, 20, sampleLabelRows, sampleLabels_ids, sampleLabels_mapped, sampleLabels_effective,
    sampleLabels_future⟩

def sampleMemberRows : List MembershipRow := [⟨0, 0, 10, 0⟩, ⟨1, 0, 10, 0⟩]

theorem sampleMembers_valid : ∀ row ∈ sampleMemberRows, row.eligibleFrom < row.eligibleUntil ∧
    row.inputAvailableBoundary ≤ row.eligibleFrom := by decide

theorem sampleMembers_ordered : sampleMemberRows.Pairwise fun a b =>
    a.entityId < b.entityId ∨ (a.entityId = b.entityId ∧ a.eligibleUntil ≤ b.eligibleFrom) := by
  decide

def sampleMembers : Universe :=
  ⟨sampleId 3, sampleMemberRows, sampleMembers_valid, sampleMembers_ordered⟩

abbrev sampleSearch : NumpySearch := searchOr 0

def sampleInputs : TrainingInputs := ⟨[sampleFeatures], sampleLabels, sampleMembers⟩

section Sample

attribute [local instance] sampleSearch

/-- The value of a label is twice its feature. -/
example : (trainExactLinear sampleTrainer sampleRequest sampleInputs).toOption.map Prod.fst =
    some ⟨[2], 0, 1⟩ := by decide +kernel

theorem sampleInputs_entered :
    (fitLabels sampleTrainer sampleSpec sampleInputs).toOption.map FitState.entered =
      some sampleLabelRows := by
  decide

end Sample

end Ml

end OnchainBacktest
