import OnchainBacktest.Artifacts.PurgeSteps

/-!
# A purge that was cut off

Before the first deletion a purge can be called again, and after its receipt is published it has
nothing left to do.  In between it cannot: the first tree is no longer what the manifest records, so
the check of every later call fails (`purge_resumes_iff`).
-/

set_option autoImplicit false

namespace OnchainBacktest

namespace Artifacts

open Checked

section

variable [RetentionDigest]

/-! ## What one step can do -/

/-- One step of a purge that went through. -/
inductive PurgeMove (disk : BatchDisk) : PurgeStep → BatchDisk → Prop
  | verified {item : BatchItem} {tree : ArtifactTree}
    (htree : disk.trees.get? item.artifactId = some tree) (hfiles : tree.files = item.files) :
    PurgeMove disk (.verify item) disk
  | unlinked {artifactId : ArtifactId} {path : List String} {tree : ArtifactTree}
    (htree : disk.trees.get? artifactId = some tree) :
    PurgeMove disk (.unlink artifactId path)
      { disk with trees := disk.trees.set artifactId (tree.unlink path) }
  | passedOver {artifactId : ArtifactId} {directory : List String}
    (hmissing : ∀ tree, disk.trees.get? artifactId = some tree → directory ∉ tree.directories) :
    PurgeMove disk (.removeDirectory artifactId directory) disk
  | removedDirectory {artifactId : ArtifactId} {directory : List String} {tree : ArtifactTree}
    (htree : disk.trees.get? artifactId = some tree) (hroot : directory ≠ [])
    (hchildless : tree.Childless directory) :
    PurgeMove disk (.removeDirectory artifactId directory)
      { disk with
        trees := disk.trees.set artifactId (tree.removeDirectory directory hroot hchildless) }
  | removedTree {artifactId : ArtifactId} {tree : ArtifactTree}
    (htree : disk.trees.get? artifactId = some tree) (hchildless : tree.Childless []) :
    PurgeMove disk (.removeDirectory artifactId [])
      { disk with trees := disk.trees.erase artifactId }
  | wroteTemporary : PurgeMove disk .writeTemporary
      { disk with temporaries := disk.temporaries + 1 }
  | linked {receipt : GarbageCollectionReceipt} (hnone : disk.receipt = none) :
    PurgeMove disk (.linkReceipt receipt) { disk with receipt := some ⟨receipt, 2⟩ }
  | notLinked {receipt : GarbageCollectionReceipt} {file : ReceiptFile}
    (hsome : disk.receipt = some file) : PurgeMove disk (.linkReceipt receipt) disk
  | unlinkedTemporary : PurgeMove disk .unlinkTemporary
      { disk with
        temporaries := disk.temporaries - 1
        receipt := disk.receipt.map fun file => ⟨file.receipt, 1⟩ }
  | confirmed {receipt : GarbageCollectionReceipt} : PurgeMove disk (.confirmReceipt receipt) disk
  | removedKind {kind : ArtifactKind} {artifactIds : List ArtifactId} :
    PurgeMove disk (.removeKind kind artifactIds)
      { disk with kindDirectories := disk.kindDirectories.filter (· ≠ kind) }
  | removedArtifacts : PurgeMove disk .removeArtifacts { disk with hasArtifacts := false }
  | unlinkedManifest : PurgeMove disk .unlinkManifest { disk with manifest := none }
  | unlinkedMarker : PurgeMove disk .unlinkMarker { disk with hasMarker := false }
  | removedRoot : PurgeMove disk .removeRoot { disk with hasRoot := false }

theorem run_move {step : PurgeStep} {disk disk' : BatchDisk} (h : step.run disk = .ok disk') :
    PurgeMove disk step disk' := by
  cases step with
  | verify item =>
    obtain ⟨-, h⟩ := check_bind_eq_ok.mp h
    split at h
    · cases h
    · rename_i tree htree
      obtain ⟨hfiles, h⟩ := check_bind_eq_ok.mp h
      cases h
      rw [refuseIf_eq_ok, not_not] at hfiles
      exact .verified htree hfiles
  | unlink artifactId path =>
    rw [PurgeStep.run] at h
    split at h
    · cases h
    · rename_i tree htree
      obtain ⟨-, h⟩ := check_bind_eq_ok.mp h
      cases h
      exact .unlinked htree
  | removeDirectory artifactId directory =>
    cases htree : disk.trees.get? artifactId with
    | none =>
      rw [run_removeDirectory_missing directory htree] at h
      cases h
      exact .passedOver fun tree hsome => by
        rw [htree] at hsome
        cases hsome
    | some tree =>
      rw [run_removeDirectory htree] at h
      split at h
      · rename_i hmissing
        cases h
        exact .passedOver fun tree' hsome => by
          rw [htree] at hsome
          cases hsome
          exact hmissing
      · split at h
        · rename_i hchildless
          split at h
          · rename_i hroot
            subst hroot
            cases h
            exact .removedTree htree hchildless
          · rename_i hroot
            cases h
            exact .removedDirectory htree hroot hchildless
        · cases h
  | writeTemporary =>
    cases h
    exact .wroteTemporary
  | linkReceipt receipt =>
    rw [PurgeStep.run] at h
    split at h
    · rename_i hnone
      cases h
      exact .linked hnone
    · rename_i file hsome
      cases h
      exact .notLinked hsome
  | unlinkTemporary =>
    cases h
    exact .unlinkedTemporary
  | confirmReceipt receipt =>
    rw [PurgeStep.run] at h
    split at h
    · cases h
    · obtain ⟨-, h⟩ := check_bind_eq_ok.mp h
      cases h
      exact .confirmed
  | removeKind kind artifactIds =>
    obtain ⟨-, h⟩ := check_bind_eq_ok.mp h
    cases h
    exact .removedKind
  | removeArtifacts =>
    obtain ⟨-, h⟩ := check_bind_eq_ok.mp h
    cases h
    exact .removedArtifacts
  | unlinkManifest =>
    cases h
    exact .unlinkedManifest
  | unlinkMarker =>
    cases h
    exact .unlinkedMarker
  | removeRoot =>
    obtain ⟨-, h⟩ := check_bind_eq_ok.mp h
    cases h
    exact .removedRoot

/-! ## What every step keeps -/

omit [RetentionDigest] in
/-- A tree that is there was there, and so were its files. -/
theorem PurgeMove.shrinks {disk disk' : BatchDisk} {step : PurgeStep}
    (h : PurgeMove disk step disk') (a : ArtifactId) (tree' : ArtifactTree)
    (htree' : disk'.trees.get? a = some tree') :
    ∃ tree, disk.trees.get? a = some tree ∧ ∀ file ∈ tree'.files, file ∈ tree.files := by
  cases h with
  | @unlinked artifactId path tree htree =>
    rw [Dict.get?_set] at htree'
    split at htree'
    · rename_i heq
      cases htree'
      exact ⟨tree, heq ▸ htree, fun file hfile => (List.mem_filter.mp hfile).1⟩
    · exact ⟨tree', htree', fun _ h => h⟩
  | @removedDirectory artifactId directory tree htree hroot hchildless =>
    rw [Dict.get?_set] at htree'
    split at htree'
    · rename_i heq
      cases htree'
      exact ⟨tree, heq ▸ htree, fun _ h => h⟩
    · exact ⟨tree', htree', fun _ h => h⟩
  | removedTree htree hchildless =>
    rw [Dict.get?_erase] at htree'
    split at htree'
    · cases htree'
    · exact ⟨tree', htree', fun _ h => h⟩
  | _ => exact ⟨tree', htree', fun _ h => h⟩

omit [RetentionDigest] in
/-- A tree that is gone stays gone. -/
theorem PurgeMove.gone {disk disk' : BatchDisk} {step : PurgeStep}
    (h : PurgeMove disk step disk') {a : ArtifactId} (hnone : disk.trees.get? a = none) :
    disk'.trees.get? a = none := by
  cases htree' : disk'.trees.get? a with
  | none => rfl
  | some tree' =>
    obtain ⟨tree, htree, -⟩ := h.shrinks a tree' htree'
    rw [hnone] at htree
    cases htree

/-- A step that changes the receipt. -/
def PurgeStep.Publishes : PurgeStep → Prop
  | .linkReceipt _ => True
  | .unlinkTemporary => True
  | _ => False

omit [RetentionDigest] in
theorem PurgeMove.receipt_eq {disk disk' : BatchDisk} {step : PurgeStep}
    (h : PurgeMove disk step disk') (hstep : ¬ step.Publishes) : disk'.receipt = disk.receipt := by
  cases h with
  | linked hnone => exact absurd trivial hstep
  | notLinked hsome => exact absurd trivial hstep
  | unlinkedTemporary => exact absurd trivial hstep
  | _ => rfl

omit [RetentionDigest] in
theorem PurgeMove.manifest_eq {disk disk' : BatchDisk} {step : PurgeStep}
    (h : PurgeMove disk step disk') (hstep : step ≠ .unlinkManifest) :
    disk'.manifest = disk.manifest := by
  cases h with
  | unlinkedManifest => exact absurd rfl hstep
  | _ => rfl

omit [RetentionDigest] in
/-- Once the root directory of a tree is removed the tree is gone. -/
theorem PurgeMove.root_removed {disk disk' : BatchDisk} {artifactId : ArtifactId}
    (h : PurgeMove disk (.removeDirectory artifactId []) disk') :
    disk'.trees.get? artifactId = none := by
  cases h with
  | passedOver hmissing =>
    cases htree : disk.trees.get? artifactId with
    | none => rfl
    | some tree => exact absurd tree.root_mem (hmissing tree htree)
  | removedDirectory htree hroot hchildless => exact absurd rfl hroot
  | removedTree htree hchildless => exact Dict.get?_erase_self _ _

/-! ## The parts of the script -/

omit [RetentionDigest] in
/-- A step of the removal of the trees. -/
theorem mem_removeTrees {items : List BatchItem} {step : PurgeStep}
    (h : step ∈ items.flatMap removeVerifiedTree) : ∃ item ∈ items,
      step = .verify item ∨ (∃ path, step = .unlink item.artifactId path) ∨
      ∃ directory ∈ directoriesOf item.files,
        step = .removeDirectory item.artifactId directory := by
  obtain ⟨item, hitem, hstep⟩ := List.mem_flatMap.mp h
  refine ⟨item, hitem, ?_⟩
  rw [removeVerifiedTree, List.cons_append, List.mem_cons, List.mem_append] at hstep
  rcases hstep with rfl | hstep | hstep
  · exact .inl rfl
  · obtain ⟨file, -, rfl⟩ := List.mem_map.mp hstep
    exact .inr (.inl ⟨file.path, rfl⟩)
  · obtain ⟨directory, hdirectory, rfl⟩ := List.mem_map.mp hstep
    exact .inr (.inr ⟨directory, hdirectory, rfl⟩)

omit [RetentionDigest] in
theorem removeTrees_not_publishes {items : List BatchItem} {step : PurgeStep}
    (h : step ∈ items.flatMap removeVerifiedTree) :
    ¬ step.Publishes ∧ step ≠ .unlinkManifest := by
  obtain ⟨item, -, rfl | ⟨path, rfl⟩ | ⟨directory, -, rfl⟩⟩ := mem_removeTrees h
  · exact ⟨id, fun h => by cases h⟩
  · exact ⟨id, fun h => by cases h⟩
  · exact ⟨id, fun h => by cases h⟩

omit [RetentionDigest] in
/-- The removal of each root is among the steps. -/
theorem root_mem_removeTrees {items : List BatchItem} {item : BatchItem} (hitem : item ∈ items) :
    PurgeStep.removeDirectory item.artifactId [] ∈ items.flatMap removeVerifiedTree := by
  refine List.mem_flatMap.mpr ⟨item, hitem, ?_⟩
  rw [removeVerifiedTree]
  exact List.mem_append_right _ (List.mem_map_of_mem (mem_directoriesOf.mpr (.inl rfl)))

omit [RetentionDigest] in
theorem removeEmptyBatch_not_publishes {manifest : BatchManifest}
    {kindDirectories : List ArtifactKind} {step : PurgeStep}
    (h : step ∈ removeEmptyBatch manifest kindDirectories) : ¬ step.Publishes := by
  rw [removeEmptyBatch, List.mem_append] at h
  rcases h with h | h
  · obtain ⟨kind, -, rfl⟩ := List.mem_map.mp h
    exact id
  · simp only [List.mem_cons, List.not_mem_nil, or_false] at h
    rcases h with rfl | rfl | rfl | rfl
    · exact id
    · exact id
    · exact id
    · exact id

/-- The script of a purge around the link of its receipt. -/
theorem purgeSteps_eq (manifest : BatchManifest) (kindDirectories : List ArtifactKind)
    (nowNs : Nat) : purgeSteps manifest kindDirectories nowNs =
      (manifest.artifacts.flatMap removeVerifiedTree ++ [.writeTemporary]) ++
        .linkReceipt (manifest.purgeReceipt nowNs) ::
          .unlinkTemporary :: .confirmReceipt (manifest.purgeReceipt nowNs) ::
            removeEmptyBatch manifest kindDirectories := by
  rw [purgeSteps, publishReceipt, List.append_assoc]
  rfl

/-! ## After the receipt -/

/-- **Once the temporary name is unlinked the trees are gone and the receipt stands.** -/
theorem published_of_cutOff {batch : TrashBatch} {nowNs : Nat} {done : List PurgeStep}
    {disk : BatchDisk} (hrecorded : Recorded batch.manifest.artifacts batch.trees)
    (hcut : Script.CutOff PurgeStep.run
      (purgeSteps batch.manifest batch.disk.kindDirectories nowNs) done batch.disk disk)
    (hpublished : .unlinkTemporary ∈ done) :
    disk.receipt = some ⟨batch.manifest.purgeReceipt nowNs, 1⟩ ∧
      ∀ a, disk.trees.get? a = none := by
  obtain ⟨hbegins, hexec⟩ := hcut
  have hgone : ∀ a, ∀ step ∈ done, ∀ s s' : BatchDisk, s.trees.get? a = none →
      PurgeStep.run step s = .ok s' → s'.trees.get? a = none :=
    fun a step _ s s' hnone hrun => (run_move hrun).gone hnone
  have hsteps := purgeSteps_eq batch.manifest batch.disk.kindDirectories nowNs
  have hthrough : (batch.manifest.artifacts.flatMap removeVerifiedTree ++ [.writeTemporary]) ++
      [.linkReceipt (batch.manifest.purgeReceipt nowNs), .unlinkTemporary] <+: done := by
    rw [List.append_cons _ (PurgeStep.linkReceipt _)] at hsteps
    have hfound := Script.prefix_through (hsteps ▸ hbegins) hpublished (by
      rw [List.mem_append, List.mem_append, not_or, not_or]
      refine ⟨⟨fun hmem => ?_, by simp⟩, by simp⟩
      exact (removeTrees_not_publishes hmem).1 trivial)
    rw [List.append_assoc] at hfound
    exact hfound
  obtain ⟨more, rfl⟩ := hthrough
  constructor
  · have hmore : more <+: .confirmReceipt (batch.manifest.purgeReceipt nowNs) ::
        removeEmptyBatch batch.manifest batch.disk.kindDirectories := by
      rw [hsteps, List.append_assoc] at hbegins
      have hcancel := (List.prefix_append_right_inj _).mp hbegins
      exact (List.prefix_append_right_inj
        [PurgeStep.linkReceipt (batch.manifest.purgeReceipt nowNs), .unlinkTemporary]).mp hcancel
    rw [List.append_assoc] at hexec
    obtain ⟨before, hbefore, hexec⟩ := Script.exec_append_eq_ok.mp hexec
    have hnone := Script.exec_keeps (P := fun s => s.receipt = none) hbefore (by
      intro step hmem s s' hs hrun
      rw [(run_move hrun).receipt_eq ?_, hs]
      rcases List.mem_append.mp hmem with hmem | hmem
      · exact (removeTrees_not_publishes hmem).1
      · rw [List.mem_singleton.mp hmem]
        exact id) rfl
    have hlink : PurgeStep.run (.linkReceipt (batch.manifest.purgeReceipt nowNs)) before =
        .ok { before with receipt := some ⟨batch.manifest.purgeReceipt nowNs, 2⟩ } := by
      rw [PurgeStep.run]
      rw [hnone]
    have hunlink : PurgeStep.run .unlinkTemporary
        { before with receipt := some ⟨batch.manifest.purgeReceipt nowNs, 2⟩ } =
          .ok { before with
            temporaries := before.temporaries - 1
            receipt := some ⟨batch.manifest.purgeReceipt nowNs, 1⟩ } := rfl
    rw [List.cons_append, Script.exec_cons_of_ok hlink, List.cons_append,
      Script.exec_cons_of_ok hunlink, List.nil_append] at hexec
    have hkeeps : ∀ step ∈ more, ∀ s s' : BatchDisk,
        s.receipt = some ⟨batch.manifest.purgeReceipt nowNs, 1⟩ →
        PurgeStep.run step s = .ok s' →
        s'.receipt = some ⟨batch.manifest.purgeReceipt nowNs, 1⟩ := by
      intro step hmem s s' hs hrun
      rw [(run_move hrun).receipt_eq ?_, hs]
      rcases List.mem_cons.mp (hmore.subset hmem) with rfl | hmem
      · exact id
      · exact removeEmptyBatch_not_publishes hmem
    have hkept := Script.exec_keeps hexec hkeeps rfl
    exact hkept
  · intro a
    by_cases ha : a ∈ batch.manifest.artifacts.map (·.artifactId)
    · obtain ⟨item, hitem, rfl⟩ := List.mem_map.mp ha
      exact Script.exec_establishes (P := fun s => s.trees.get? item.artifactId = none) hexec
        (hgone _)
        (List.mem_append_left _ (List.mem_append_left _
          (List.mem_append_left _ (root_mem_removeTrees hitem))))
        (fun s s' hrun => (run_move hrun).root_removed)
    · exact Script.exec_keeps (P := fun s => s.trees.get? a = none) hexec (hgone a)
        (by_contra fun hthere => ha (hrecorded.only a hthere))

/-! ## Before the first deletion -/

/-- A step that deletes nothing and publishes nothing. -/
def PurgeStep.Preparatory : PurgeStep → Prop
  | .verify _ => True
  | .writeTemporary => True
  | _ => False

/-- Preparatory steps leave at most temporary names. -/
theorem exec_preparatory {done : List PurgeStep} (hdone : ∀ step ∈ done, step.Preparatory)
    {disk disk' : BatchDisk} (h : Script.exec PurgeStep.run done disk = (disk', none)) :
    ∃ temporaries, disk' = { disk with temporaries } := by
  refine Script.exec_keeps (P := fun s => ∃ temporaries, s = { disk with temporaries }) h ?_
    ⟨disk.temporaries, rfl⟩
  rintro step hmem s s' ⟨temporaries, rfl⟩ hrun
  have hstep := hdone step hmem
  cases run_move hrun with
  | verified htree hfiles => exact ⟨temporaries, rfl⟩
  | wroteTemporary => exact ⟨temporaries + 1, rfl⟩
  | _ => exact absurd hstep id

/-- The directories of the kinds are empty once the trees are gone, so they are removed. -/
theorem exec_removeKinds {artifactIdsOf : ArtifactKind → List ArtifactId}
    (kinds : List ArtifactKind) (disk : BatchDisk) (hgone : ∀ a, disk.trees.get? a = none) :
    Script.exec PurgeStep.run (kinds.map fun kind => .removeKind kind (artifactIdsOf kind)) disk =
      ({ disk with kindDirectories := disk.kindDirectories.filter (· ∉ kinds) }, none) := by
  induction kinds generalizing disk with
  | nil =>
    rw [List.map_nil, Script.exec_nil]
    simp
  | cons kind rest ih =>
    have hrun : PurgeStep.run (.removeKind kind (artifactIdsOf kind)) disk =
        .ok { disk with kindDirectories := disk.kindDirectories.filter (· ≠ kind) } := by
      rw [PurgeStep.run, refuseIf_of_not]
      · rfl
      · rintro ⟨a, -, ha⟩
        exact ha (hgone a)
    have hrest := ih { disk with kindDirectories := disk.kindDirectories.filter (· ≠ kind) } hgone
    have hfilter : (disk.kindDirectories.filter (· ≠ kind)).filter (· ∉ rest) =
        disk.kindDirectories.filter (· ∉ kind :: rest) := by
      rw [List.filter_filter]
      refine List.filter_congr fun other _ => ?_
      simp [Bool.and_comm]
    rw [List.map_cons, Script.exec_cons_of_ok hrun, hrest]
    dsimp only
    rw [hfilter]

/-- **The removal of an empty batch goes through.** -/
theorem exec_removeEmptyBatch (manifest : BatchManifest) (disk : BatchDisk)
    (hgone : ∀ a, disk.trees.get? a = none) :
    ∃ disk', Script.exec PurgeStep.run (removeEmptyBatch manifest disk.kindDirectories) disk =
      (disk', none) ∧ disk'.trees = disk.trees := by
  rw [removeEmptyBatch, Script.exec_append_of_ok (exec_removeKinds _ disk hgone)]
  have hempty : disk.kindDirectories.filter (· ∉ disk.kindDirectories) = [] := by
    rw [List.filter_eq_nil_iff]
    intro kind hkind
    simpa using hkind
  rw [hempty]
  exact ⟨_, rfl, rfl⟩

/-- **A purge of a batch whose trees are whole and have no empty directory goes through.** -/
theorem purgeTrash_completes {manifest : BatchManifest} (disk : BatchDisk) {nowNs : Nat}
    (hreceipt : disk.receipt = none) (hmanifest : disk.manifest = some manifest)
    (hmarker : disk.hasMarker = true) (hrecorded : Recorded manifest.artifacts disk.trees)
    (hempty : ∀ a tree, disk.trees.get? a = some tree → tree.NoEmptyDirectory)
    (hgrace : manifest.purgeNotBeforeNs ≤ nowNs) :
    (disk.purgeTrash nowNs).2 = .ok (manifest.purgeReceipt nowNs) ∧
      ∀ a, (disk.purgeTrash nowNs).1.trees.get? a = none := by
  obtain ⟨trees, hremoved, hleft⟩ := exec_removeTrees hrecorded.distinct disk (by
    intro item hitem
    obtain ⟨hdigest, tree, htree, hfiles⟩ := hrecorded.files item hitem
    exact ⟨hdigest, tree, htree, hfiles, hempty _ tree htree⟩)
  have hgone : ∀ a, trees.get? a = none := by
    intro a
    rw [hleft]
    split
    · rfl
    · rename_i hnot
      exact by_contra fun hthere => hnot (hrecorded.only a hthere)
  have hpublished : Script.exec PurgeStep.run (publishReceipt (manifest.purgeReceipt nowNs))
      { disk with trees } =
        ({ disk with trees, receipt := some ⟨manifest.purgeReceipt nowNs, 1⟩ }, none) := by
    have hlink : PurgeStep.run (.linkReceipt (manifest.purgeReceipt nowNs))
        { disk with trees, temporaries := disk.temporaries + 1 } =
          .ok { disk with
            trees, temporaries := disk.temporaries + 1
            receipt := some ⟨manifest.purgeReceipt nowNs, 2⟩ } := by
      rw [PurgeStep.run]
      dsimp only
      rw [hreceipt]
    have hconfirm : PurgeStep.run (.confirmReceipt (manifest.purgeReceipt nowNs))
        { disk with trees, receipt := some ⟨manifest.purgeReceipt nowNs, 1⟩ } =
          .ok { disk with trees, receipt := some ⟨manifest.purgeReceipt nowNs, 1⟩ } := by
      rw [PurgeStep.run]
      dsimp only
      rw [refuseIf_of_not (not_not.mpr rfl)]
      rfl
    rw [publishReceipt, Script.exec_cons_of_ok rfl, Script.exec_cons_of_ok hlink,
      Script.exec_cons_of_ok rfl]
    exact Script.exec_cons_of_ok hconfirm
  obtain ⟨disk', hcleaned, hsame⟩ := exec_removeEmptyBatch manifest
    { disk with trees, receipt := some ⟨manifest.purgeReceipt nowNs, 1⟩ } hgone
  have hpurged : disk.purgeTrash nowNs = (disk', .ok (manifest.purgeReceipt nowNs)) := by
    rw [BatchDisk.purgeTrash, hreceipt, hmanifest, hmarker]
    dsimp only
    rw [if_neg (not_lt.mpr hgrace), purgeSteps, Script.exec_append_of_ok hremoved,
      Script.exec_append_of_ok hpublished, hcleaned]
  rw [hpurged]
  refine ⟨rfl, fun a => ?_⟩
  dsimp only
  rw [hsame]
  exact hgone a

/-! ## In between -/

/-- A file the manifest records is missing from the tree of an item, or the whole tree is. -/
def Lacking (disk : BatchDisk) (item : BatchItem) : Prop :=
  ∀ tree, disk.trees.get? item.artifactId = some tree → ∃ file ∈ item.files, file ∉ tree.files

omit [RetentionDigest] in
theorem PurgeMove.lacking {disk disk' : BatchDisk} {step : PurgeStep}
    (h : PurgeMove disk step disk') {item : BatchItem} (hlacking : Lacking disk item) :
    Lacking disk' item := by
  intro tree' htree'
  obtain ⟨tree, htree, hfiles⟩ := h.shrinks _ tree' htree'
  obtain ⟨file, hfile, hmissing⟩ := hlacking tree htree
  exact ⟨file, hfile, fun hmem => hmissing (hfiles file hmem)⟩

/-- The receipt has two names, or the first tree is not what the manifest records. -/
def Spoiled (manifest : BatchManifest) (disk : BatchDisk) : Prop :=
  (∃ file, disk.receipt = some file ∧ file.links ≠ 1) ∨
    disk.receipt = none ∧ disk.manifest = some manifest ∧
      ∃ item rest, manifest.artifacts = item :: rest ∧ Lacking disk item

/-- **A purge of a spoiled batch fails and changes nothing.** -/
theorem Spoiled.purgeTrash {manifest : BatchManifest} {disk : BatchDisk}
    (h : Spoiled manifest disk) (nowNs : Nat) :
    ∃ fault, disk.purgeTrash nowNs = (disk, .error fault) := by
  rw [BatchDisk.purgeTrash]
  rcases h with ⟨file, hfile, hlinks⟩ | ⟨hreceipt, hmanifest, item, rest, hitems, hlacking⟩
  · rw [hfile]
    exact ⟨_, if_neg hlinks⟩
  · rw [hreceipt, hmanifest]
    cases disk.hasMarker with
    | false => exact ⟨_, rfl⟩
    | true =>
      dsimp only
      by_cases hgrace : nowNs < manifest.purgeNotBeforeNs
      · exact ⟨_, if_pos hgrace⟩
      · rw [if_neg hgrace, purgeSteps, hitems, List.flatMap_cons, removeVerifiedTree,
          List.cons_append, List.cons_append, List.cons_append]
        cases hrun : PurgeStep.run (.verify item) disk with
        | error fault =>
          rw [Script.exec_cons_of_error hrun]
          exact ⟨fault, rfl⟩
        | ok disk' =>
          cases run_move hrun with
          | verified htree hfiles =>
            obtain ⟨file, hfile, hmissing⟩ := hlacking _ htree
            exact absurd (hfiles ▸ hfile) hmissing

omit [RetentionDigest] in
theorem ArtifactTree.prefix_mem (tree : ArtifactTree) {directory : List String}
    (h : directory ∈ tree.directories) : ∀ part, part <+: directory → part ∈ tree.directories := by
  induction directory using List.reverseRecOn with
  | nil =>
    intro part hpart
    exact List.prefix_nil.mp hpart ▸ h
  | append_singleton init name ih =>
    intro part hpart
    rcases List.prefix_concat_iff.mp hpart with rfl | hpart
    · exact h
    · have hparent := tree.parent_mem _ h
      rw [List.dropLast_concat] at hparent
      exact ih hparent part hpart

omit [RetentionDigest] in
/-- The root of a tree that has another directory is not childless. -/
theorem ArtifactTree.not_childless_root {tree : ArtifactTree} {directory : List String}
    (h : directory ∈ tree.directories) (hroot : directory ≠ []) : ¬ tree.Childless [] := by
  intro hchildless
  cases directory with
  | nil => exact hroot rfl
  | cons name rest =>
    have htop := tree.prefix_mem h [name] ⟨rest, rfl⟩
    exact hchildless.2 [name] htop (List.cons_ne_nil _ _) rfl

/-- The tree of an item has a directory that the files of the item do not lead to. -/
def HasStray (disk : BatchDisk) (item : BatchItem) : Prop :=
  ∃ tree, disk.trees.get? item.artifactId = some tree ∧
    ∃ directory ∈ tree.directories, directory ∉ directoriesOf item.files

/-- The removal of the trees leaves a stray directory and the tree it stands in. -/
theorem removeTrees_stray {items : List BatchItem} (hnodup : (items.map (·.artifactId)).Nodup)
    {item : BatchItem} (hitem : item ∈ items) {step : PurgeStep}
    (hstep : step ∈ items.flatMap removeVerifiedTree) {disk disk' : BatchDisk}
    (hrun : step.run disk = .ok disk') (h : HasStray disk item) : HasStray disk' item := by
  obtain ⟨tree, htree, directory, hdirectory, hstray⟩ := h
  obtain ⟨item', hitem', hsteps⟩ := mem_removeTrees hstep
  have hroot : directory ≠ [] := fun hnil => hstray (mem_directoriesOf.mpr (.inl hnil))
  -- an item with the same identity is the item itself
  have hsame : item.artifactId = item'.artifactId → item = item' := fun heq =>
    List.inj_on_of_nodup_map hnodup hitem hitem' heq
  rcases hsteps with rfl | ⟨path, rfl⟩ | ⟨removed, hremoved, rfl⟩
  · cases run_move hrun with
    | verified _ _ => exact ⟨tree, htree, directory, hdirectory, hstray⟩
  · cases run_move hrun with
    | @unlinked _ _ tree' htree' =>
      by_cases heq : item.artifactId = item'.artifactId
      · rw [heq] at htree
        obtain rfl := Option.some.inj (htree.symm.trans htree')
        refine ⟨tree.unlink path, ?_, directory, hdirectory, hstray⟩
        rw [heq]
        exact Dict.get?_set_self _ _ _
      · refine ⟨tree, ?_, directory, hdirectory, hstray⟩
        rw [← htree]
        exact Dict.get?_set_of_ne _ _ heq
  · cases run_move hrun with
    | passedOver hmissing => exact ⟨tree, htree, directory, hdirectory, hstray⟩
    | @removedDirectory _ _ tree' htree' htop hchildless =>
      by_cases heq : item.artifactId = item'.artifactId
      · obtain rfl := hsame heq
        obtain rfl := Option.some.inj (htree.symm.trans htree')
        refine ⟨_, Dict.get?_set_self _ _ _, directory, ?_, hstray⟩
        refine List.mem_filter.mpr ⟨hdirectory, ?_⟩
        have hne : directory ≠ removed := fun h => hstray (h ▸ hremoved)
        simpa using hne
      · refine ⟨tree, ?_, directory, hdirectory, hstray⟩
        rw [← htree]
        exact Dict.get?_set_of_ne _ _ heq
    | @removedTree _ tree' htree' hchildless =>
      by_cases heq : item.artifactId = item'.artifactId
      · rw [heq] at htree
        obtain rfl := Option.some.inj (htree.symm.trans htree')
        exact absurd hchildless (ArtifactTree.not_childless_root hdirectory hroot)
      · refine ⟨tree, ?_, directory, hdirectory, hstray⟩
        rw [← htree]
        exact Dict.get?_erase_of_ne _ heq

/-- The receipt is not there and some tree of the batch has a stray directory. -/
def Stuck (manifest : BatchManifest) (disk : BatchDisk) : Prop :=
  disk.receipt = none ∧ disk.manifest = some manifest ∧
    ∃ item ∈ manifest.artifacts, HasStray disk item

/-- **A purge of a batch with a stray directory fails and leaves it.** -/
theorem Stuck.purgeTrash {manifest : BatchManifest}
    (hnodup : (manifest.artifacts.map (·.artifactId)).Nodup) {disk : BatchDisk}
    (h : Stuck manifest disk) (nowNs : Nat) :
    ∃ disk' fault, disk.purgeTrash nowNs = (disk', .error fault) ∧ Stuck manifest disk' := by
  obtain ⟨hreceipt, hmanifest, item, hitem, hstray⟩ := h
  have hstuck : Stuck manifest disk := ⟨hreceipt, hmanifest, item, hitem, hstray⟩
  rw [BatchDisk.purgeTrash, hreceipt, hmanifest]
  cases disk.hasMarker with
  | false => exact ⟨disk, _, rfl, hstuck⟩
  | true =>
    dsimp only
    by_cases hgrace : nowNs < manifest.purgeNotBeforeNs
    · exact ⟨disk, _, if_pos hgrace, hstuck⟩
    · have hkeeps : ∀ step ∈ manifest.artifacts.flatMap removeVerifiedTree,
          ∀ s s' : BatchDisk,
            (s.receipt = none ∧ s.manifest = some manifest ∧ HasStray s item) →
            PurgeStep.run step s = .ok s' →
            s'.receipt = none ∧ s'.manifest = some manifest ∧ HasStray s' item := by
        rintro step hmem s s' ⟨hr, hm, hs⟩ hrun
        obtain ⟨hpublishes, hunlinks⟩ := removeTrees_not_publishes hmem
        refine ⟨?_, ?_, removeTrees_stray hnodup hitem hmem hrun hs⟩
        · rw [(run_move hrun).receipt_eq hpublishes, hr]
        · rw [(run_move hrun).manifest_eq hunlinks, hm]
      have hstart := And.intro hreceipt (And.intro hmanifest hstray)
      -- the removal of the root of that tree is never passed
      obtain ⟨fault, hfault⟩ := Script.exec_blocked hkeeps (root_mem_removeTrees hitem)
        (fun s s' hs hrun => by
          obtain ⟨tree, htree, -⟩ := (removeTrees_stray hnodup hitem
            (root_mem_removeTrees hitem) hrun hs.2.2)
          rw [(run_move hrun).root_removed] at htree
          cases htree) hstart
      obtain ⟨hr, hm, hs⟩ := Script.exec_invariant hkeeps hstart
      cases hexec : Script.exec PurgeStep.run (manifest.artifacts.flatMap removeVerifiedTree)
          disk with
      | mk disk' result =>
        rw [hexec] at hfault hr hm hs
        dsimp only at hfault
        subst hfault
        rw [if_neg hgrace, purgeSteps, Script.exec_append_of_fault hexec]
        exact ⟨disk', fault, rfl, hr, hm, item, hitem, hs⟩

end

end Artifacts

end OnchainBacktest
