import OnchainBacktest.Artifacts.PurgeResume

/-!
# When a purge that was cut off can be called again

A purge can be called again just when it was cut off before its first deletion, and the trees have
no empty directory, or after the temporary name of its receipt was unlinked.  Cut off anywhere else
it fails on every later call.
-/

set_option autoImplicit false

namespace OnchainBacktest

namespace Artifacts

open Checked

section

variable [RetentionDigest]

/-- A later call completes: it returns a receipt for every artifact of the batch, and none of their
trees is left. -/
def Resumes (manifest : BatchManifest) (disk : BatchDisk) : Prop :=
  ∀ nowNs, manifest.purgeNotBeforeNs ≤ nowNs → ∃ receipt,
    (disk.purgeTrash nowNs).2 = .ok receipt ∧ receipt.batchId = manifest.batchId ∧
    receipt.artifacts = manifest.artifacts.map BatchItem.receiptItem ∧
    ∀ a, (disk.purgeTrash nowNs).1.trees.get? a = none

/-- However often the purge is called again, it fails. -/
def FailsForGood (disk : BatchDisk) : Prop :=
  ∀ later, Relation.ReflTransGen (fun d d' : BatchDisk => ∃ nowNs, d' = (d.purgeTrash nowNs).1)
    disk later → ∀ nowNs, ∃ fault, (later.purgeTrash nowNs).2 = .error fault

omit [RetentionDigest] in
/-- Where a purge may be cut off so that it can be called again. -/
def CutWhereItResumes (batch : TrashBatch) (done : List PurgeStep) : Prop :=
  .unlinkTemporary ∈ done ∨ (∀ step ∈ done, step.Preparatory) ∧
    ∀ a tree, batch.trees.get? a = some tree → tree.NoEmptyDirectory

/-! ## Failing for good -/

theorem Spoiled.failsForGood {manifest : BatchManifest} {disk : BatchDisk}
    (h : Spoiled manifest disk) : FailsForGood disk := by
  intro later hlater nowNs
  have hspoiled : Spoiled manifest later := by
    induction hlater with
    | refl => exact h
    | tail _ hcall ih =>
      obtain ⟨calledAtNs, rfl⟩ := hcall
      obtain ⟨fault, hpurged⟩ := ih.purgeTrash calledAtNs
      rw [hpurged]
      exact ih
  obtain ⟨fault, hpurged⟩ := hspoiled.purgeTrash nowNs
  exact ⟨fault, by rw [hpurged]⟩

theorem Stuck.failsForGood {manifest : BatchManifest}
    (hnodup : (manifest.artifacts.map (·.artifactId)).Nodup) {disk : BatchDisk}
    (h : Stuck manifest disk) : FailsForGood disk := by
  intro later hlater nowNs
  have hstuck : Stuck manifest later := by
    induction hlater with
    | refl => exact h
    | tail _ hcall ih =>
      obtain ⟨calledAtNs, rfl⟩ := hcall
      obtain ⟨disk', fault, hpurged, hstuck⟩ := ih.purgeTrash hnodup calledAtNs
      rw [hpurged]
      exact hstuck
  obtain ⟨disk', fault, hpurged, -⟩ := hstuck.purgeTrash hnodup nowNs
  exact ⟨fault, by rw [hpurged]⟩

/-! ## After the first deletion -/

/-- The step after the first check spoils the first tree. -/
theorem removeTrees_second (item : BatchItem) (rest : List BatchItem) :
    ∃ second more,
      (item :: rest).flatMap removeVerifiedTree = .verify item :: second :: more ∧
      ∀ disk disk' : BatchDisk, PurgeStep.run second disk = .ok disk' → Lacking disk' item := by
  rw [List.flatMap_cons, removeVerifiedTree]
  cases hfiles : item.files with
  | nil =>
    refine ⟨.removeDirectory item.artifactId [], _, rfl, fun disk disk' hrun tree htree => ?_⟩
    rw [(run_move hrun).root_removed] at htree
    cases htree
  | cons file files =>
    refine ⟨.unlink item.artifactId file.path, _, rfl, fun disk disk' hrun tree' htree' => ?_⟩
    cases run_move hrun with
    | unlinked htree =>
      rw [Dict.get?_set_self] at htree'
      cases htree'
      refine ⟨file, hfiles ▸ List.mem_cons_self, fun hmem => ?_⟩
      simpa using (List.mem_filter.mp hmem).2

/-- The steps of a purge that was cut off before its temporary name was unlinked. -/
theorem mem_done {manifest : BatchManifest} {kindDirectories : List ArtifactKind} {nowNs : Nat}
    {done : List PurgeStep} (hbegins : done <+: purgeSteps manifest kindDirectories nowNs)
    (hnot : .unlinkTemporary ∉ done) : ∀ step ∈ done,
      step ∈ manifest.artifacts.flatMap removeVerifiedTree ∨ step = .writeTemporary ∨
        step = .linkReceipt (manifest.purgeReceipt nowNs) := by
  rw [purgeSteps_eq, List.append_cons _ (PurgeStep.linkReceipt _)] at hbegins
  have hbefore : done <+: (manifest.artifacts.flatMap removeVerifiedTree ++ [.writeTemporary]) ++
      [.linkReceipt (manifest.purgeReceipt nowNs)] := by
    rcases List.prefix_or_prefix_of_prefix hbegins (List.prefix_append _ _) with h | h
    · exact h
    · obtain ⟨more, rfl⟩ := h
      have hmore := (List.prefix_append_right_inj _).mp hbegins
      cases more with
      | nil => rw [List.append_nil]
      | cons step more =>
        obtain ⟨rfl, -⟩ := List.cons_prefix_cons.mp hmore
        exact absurd (List.mem_append_right _ List.mem_cons_self) hnot
  intro step hstep
  have hmem := hbefore.subset hstep
  rw [List.mem_append, List.mem_append, List.mem_singleton, List.mem_singleton, or_assoc] at hmem
  exact hmem

/-- **Cut off after its first deletion, and before its receipt stands alone, a purge has spoiled
the batch.** -/
theorem spoiled_of_cutOff {batch : TrashBatch} {nowNs : Nat} {done : List PurgeStep}
    {disk : BatchDisk} (hcut : Script.CutOff PurgeStep.run
      (purgeSteps batch.manifest batch.disk.kindDirectories nowNs) done batch.disk disk)
    (hnot : .unlinkTemporary ∉ done) {begun : PurgeStep} (hbegun : begun ∈ done)
    (hdeletes : ¬ begun.Preparatory) : Spoiled batch.manifest disk := by
  obtain ⟨hbegins, hexec⟩ := hcut
  have hdone := mem_done hbegins hnot
  -- no step so far gives a receipt a single name or touches the manifest
  have hreceipt : disk.receipt = none ∨ ∃ file, disk.receipt = some file ∧ file.links ≠ 1 := by
    refine Script.exec_keeps
      (P := fun s => s.receipt = none ∨ ∃ file, s.receipt = some file ∧ file.links ≠ 1) hexec ?_
      (.inl rfl)
    intro step hmem s s' hs hrun
    rcases hdone step hmem with hstep | rfl | rfl
    · rw [(run_move hrun).receipt_eq (removeTrees_not_publishes hstep).1]
      exact hs
    · rw [(run_move hrun).receipt_eq id]
      exact hs
    · cases run_move hrun with
      | linked hnone => exact .inr ⟨_, rfl, Nat.succ_ne_self 1⟩
      | notLinked hsome => exact hs
  have hmanifest : disk.manifest = some batch.manifest := by
    refine Script.exec_keeps (P := fun s => s.manifest = some batch.manifest) hexec ?_ rfl
    intro step hmem s s' hs hrun
    rw [(run_move hrun).manifest_eq ?_, hs]
    rcases hdone step hmem with hstep | rfl | rfl
    · exact (removeTrees_not_publishes hstep).2
    · intro h
      cases h
    · intro h
      cases h
  rcases hreceipt with hnone | hlinks
  · refine .inr ⟨hnone, hmanifest, ?_⟩
    rcases hdone begun hbegun with hstep | rfl | rfl
    · cases hitems : batch.manifest.artifacts with
      | nil =>
        rw [hitems] at hstep
        cases hstep
      | cons item rest =>
        obtain ⟨second, more, hsteps, hspoils⟩ := removeTrees_second item rest
        have hsecond : second ∈ done := by
          rw [purgeSteps, hitems, hsteps, List.cons_append] at hbegins
          cases done with
          | nil => cases hbegun
          | cons first done =>
            obtain ⟨rfl, hrest⟩ := List.cons_prefix_cons.mp hbegins
            cases done with
            | nil =>
              rw [List.mem_singleton.mp hbegun] at hdeletes
              exact absurd trivial hdeletes
            | cons next done =>
              rw [List.cons_append] at hrest
              obtain ⟨rfl, -⟩ := List.cons_prefix_cons.mp hrest
              exact List.mem_cons_of_mem _ List.mem_cons_self
        exact ⟨item, rest, rfl, Script.exec_establishes (P := fun s => Lacking s item) hexec
          (fun step _ s s' hs hrun => (run_move hrun).lacking hs) hsecond hspoils⟩
    · exact absurd trivial hdeletes
    · -- the receipt is there once its name is linked
      have hsome : disk.receipt ≠ none := by
        refine Script.exec_establishes (P := fun s => s.receipt ≠ none) hexec ?_ hbegun ?_
        · intro step hmem s s' hs hrun
          cases run_move hrun with
          | linked hnone => exact absurd hnone hs
          | unlinkedTemporary => simpa using hs
          | _ => exact hs
        · intro s s' hrun
          cases run_move hrun with
          | linked hnone => exact Option.some_ne_none _
          | notLinked hsome =>
            rw [hsome]
            exact Option.some_ne_none _
      exact absurd hnone hsome
  · exact .inl hlinks

/-! ## The outcome -/

/-- **A purge of a batch an execution wrote can be called again just when it was cut off before its
first deletion, its trees having no empty directory, or after its receipt stood alone; cut off
elsewhere it fails for good.** -/
theorem purge_resumes_iff (store : ArtifactStore) (plan : GarbageCollectionPlan) (nowNs : Nat)
    (store' : ArtifactStore) (manifest : BatchManifest) (batch : TrashBatch) (purgedAtNs : Nat)
    (done : List PurgeStep) (disk : BatchDisk)
    (hexecuted : store.executeGarbageCollection plan nowNs = .ok (store', manifest))
    (hbatch : store'.batches.get? manifest.batchId = some batch)
    (hcut : Script.CutOff PurgeStep.run
      (purgeSteps manifest batch.disk.kindDirectories purgedAtNs) done batch.disk disk) :
    (Resumes manifest disk ↔ CutWhereItResumes batch done) ∧
      (¬ CutWhereItResumes batch done → FailsForGood disk) := by
  obtain ⟨written, hwritten, rfl, hrecorded⟩ := executeGarbageCollection_batch hexecuted
  obtain rfl := Option.some.inj (hbatch.symm.trans hwritten)
  have hfails : ¬ CutWhereItResumes batch done → FailsForGood disk := by
    intro hnot
    rw [CutWhereItResumes, not_or, not_and_or] at hnot
    obtain ⟨hunpublished, hnot⟩ := hnot
    by_cases hall : ∀ step ∈ done, step.Preparatory
    · have hstray := hnot.resolve_left (not_not.mpr hall)
      push Not at hstray
      obtain ⟨a, tree, htree, hempty⟩ := hstray
      rw [ArtifactTree.NoEmptyDirectory] at hempty
      push Not at hempty
      obtain ⟨directory, hdirectory, hroot, hnofile⟩ := hempty
      obtain ⟨item, hitem, rfl⟩ := List.mem_map.mp (hrecorded.only a (by rw [htree]; simp))
      obtain ⟨-, tree', htree', hfiles⟩ := hrecorded.files item hitem
      obtain rfl := Option.some.inj (htree.symm.trans htree')
      obtain ⟨temporaries, rfl⟩ := exec_preparatory hall hcut.2
      refine Stuck.failsForGood hrecorded.distinct ⟨rfl, rfl, item, hitem, tree, htree,
        directory, hdirectory, ?_⟩
      rw [mem_directoriesOf, ← hfiles]
      rintro (hnil | ⟨file, hfile, hbelow⟩)
      · exact hroot hnil
      · exact hnofile file hfile hbelow
    · push Not at hall
      obtain ⟨begun, hbegun, hdeletes⟩ := hall
      exact (spoiled_of_cutOff hcut hunpublished hbegun hdeletes).failsForGood
  refine ⟨⟨fun hresumes => ?_, ?_⟩, hfails⟩
  · by_contra hnot
    obtain ⟨receipt, hok, -⟩ := hresumes batch.manifest.purgeNotBeforeNs (Nat.le_refl _)
    obtain ⟨fault, herror⟩ := hfails hnot disk Relation.ReflTransGen.refl
      batch.manifest.purgeNotBeforeNs
    rw [hok] at herror
    cases herror
  · rintro (hpublished | ⟨hall, hempty⟩) calledAtNs hgrace
    · obtain ⟨hreceipt, hgone⟩ := published_of_cutOff hrecorded hcut hpublished
      have hpurged : disk.purgeTrash calledAtNs =
          (disk, .ok (batch.manifest.purgeReceipt purgedAtNs)) := by
        rw [BatchDisk.purgeTrash, hreceipt]
        exact if_pos rfl
      rw [hpurged]
      exact ⟨_, rfl, rfl, rfl, hgone⟩
    · obtain ⟨temporaries, rfl⟩ := exec_preparatory hall hcut.2
      obtain ⟨hok, hgone⟩ := purgeTrash_completes { batch.disk with temporaries } rfl rfl rfl
        hrecorded hempty hgrace
      exact ⟨_, hok, rfl, rfl, hgone⟩

end

/-! ## A purge cut off after one deletion -/

/-- The batch of the sample plan: one tree of one file. -/
def sampleBatch : TrashBatch where
  manifest :=
    { batchId := { hex := 103 }
      planId := { hex := 102 }
      movedAtNs := 0
      purgeNotBeforeNs := 0
      artifacts := [⟨⟨1⟩, .snapshot, 1, { hex := 1 }, (sampleTree 1).files⟩] }
  trees := Dict.empty.set ⟨1⟩ (sampleTree 1)

attribute [local instance] sampleRetentionDigest in
theorem sampleBatch_written : ∃ store',
    sampleStore.executeGarbageCollection samplePlan 0 = .ok (store', sampleBatch.manifest) ∧
      store'.batches.get? sampleBatch.manifest.batchId = some sampleBatch := by
  have hplanned : sampleStore.planLocked samplePlan.retainedRoots samplePlan.policy
      samplePlan.plannedAtNs = .ok samplePlan := sampleStore_planned
  rw [ArtifactStore.executeGarbageCollection, hplanned, sampleStore_inventory]
  exact ⟨_, rfl, rfl⟩

attribute [local instance] sampleRetentionDigest in
theorem purge_resumes_iff_sample :
    Resumes sampleBatch.manifest sampleBatch.disk ↔ CutWhereItResumes sampleBatch [] := by
  obtain ⟨store', hexecuted, hbatch⟩ := sampleBatch_written
  exact (purge_resumes_iff sampleStore samplePlan 0 store' sampleBatch.manifest sampleBatch 0 []
    sampleBatch.disk hexecuted hbatch ⟨List.nil_prefix, rfl⟩).1

/-- A purge that is killed after it has unlinked one file cannot be called again. -/
theorem purge_does_not_resume :
    ¬ ∀ (digest : RetentionDigest) (store : ArtifactStore) (plan : GarbageCollectionPlan)
      (nowNs : Nat) (store' : ArtifactStore) (manifest : BatchManifest) (batch : TrashBatch)
      (purgedAtNs : Nat) (done : List PurgeStep) (disk : BatchDisk),
      @ArtifactStore.executeGarbageCollection digest store plan nowNs = .ok (store', manifest) →
      store'.batches.get? manifest.batchId = some batch →
      Script.CutOff (@PurgeStep.run digest)
        (@purgeSteps digest manifest batch.disk.kindDirectories purgedAtNs) done batch.disk disk →
      @Resumes digest manifest disk := by
  intro h
  obtain ⟨store', hexecuted, hbatch⟩ := sampleBatch_written
  have hcut : Script.CutOff (@PurgeStep.run sampleRetentionDigest)
      (@purgeSteps sampleRetentionDigest sampleBatch.manifest sampleBatch.disk.kindDirectories 0)
      [.verify ⟨⟨1⟩, .snapshot, 1, { hex := 1 }, (sampleTree 1).files⟩, .unlink ⟨1⟩ ["data"]]
      sampleBatch.disk
      { sampleBatch.disk with trees := sampleBatch.trees.set ⟨1⟩ ((sampleTree 1).unlink ["data"]) } :=
    ⟨⟨_, rfl⟩, rfl⟩
  obtain ⟨receipt, hok, -⟩ := h sampleRetentionDigest sampleStore samplePlan 0 store'
    sampleBatch.manifest sampleBatch 0 _ _ hexecuted hbatch hcut 0 (Nat.le_refl 0)
  have hspoiled := @spoiled_of_cutOff sampleRetentionDigest sampleBatch 0 _ _ hcut (by simp)
    (.unlink ⟨1⟩ ["data"]) (by simp) id
  obtain ⟨fault, hpurged⟩ := @Spoiled.purgeTrash sampleRetentionDigest _ _ hspoiled 0
  rw [hpurged] at hok
  cases hok

end Artifacts

end OnchainBacktest
