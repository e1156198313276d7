import OnchainBacktest.Artifacts.TrashPurge
import OnchainBacktest.Artifacts.SweepLineage

/-!
# What the steps of a purge do

The batch an execution writes records the files of the trees it moved (`Recorded`).  The steps that
remove one tree go through when every directory of the tree has a file below it, and take just that
tree; publishing the receipt and removing the empty batch then go through too.
-/

set_option autoImplicit false

namespace OnchainBacktest

namespace Artifacts

open Checked

section

variable [RetentionDigest]

/-! ## The batch of an execution -/

/-- The items of a batch are distinct and each records the files of its tree, and no other tree is
there. -/
structure Recorded (artifacts : List BatchItem) (trees : Dict ArtifactId ArtifactTree) : Prop where
  distinct : (artifacts.map (·.artifactId)).Nodup
  files : ∀ item ∈ artifacts, recordDigest (.tree item.files) = item.treeDigest ∧
    ∃ tree, trees.get? item.artifactId = some tree ∧ tree.files = item.files
  only : ∀ a, trees.get? a ≠ none → a ∈ artifacts.map (·.artifactId)

omit [RetentionDigest] in
theorem mem_map_append_singleton {artifacts : List BatchItem} {item : BatchItem} {a : ArtifactId} :
    a ∈ (artifacts ++ [item]).map (·.artifactId) ↔
      a ∈ artifacts.map (·.artifactId) ∨ a = item.artifactId := by
  rw [List.map_append, List.mem_append, List.map_singleton, List.mem_singleton]

/-- One more tree with its item. -/
theorem Recorded.push {artifacts : List BatchItem} {trees : Dict ArtifactId ArtifactTree}
    (h : Recorded artifacts trees) {item : BatchItem} {tree : ArtifactTree}
    (hnew : item.artifactId ∉ artifacts.map (·.artifactId))
    (hdigest : recordDigest (.tree item.files) = item.treeDigest)
    (hfiles : tree.files = item.files) :
    Recorded (artifacts ++ [item]) (trees.set item.artifactId tree) where
  distinct := by
    rw [List.map_append, List.map_singleton]
    refine List.nodup_append.mpr ⟨h.distinct, List.nodup_singleton _, ?_⟩
    intro a ha b hb hab
    rw [List.mem_singleton.mp hb] at hab
    exact hnew (hab ▸ ha)
  files := by
    intro other hother
    rcases List.mem_append.mp hother with hother | hother
    · obtain ⟨hd, t, ht, hf⟩ := h.files other hother
      refine ⟨hd, t, ?_, hf⟩
      rw [Dict.get?_set_of_ne]
      · exact ht
      · intro heq
        exact hnew (heq ▸ List.mem_map_of_mem hother)
    · obtain rfl := List.mem_singleton.mp hother
      exact ⟨hdigest, tree, Dict.get?_set_self _ _ _, hfiles⟩
  only := by
    intro a ha
    rw [mem_map_append_singleton]
    rw [Dict.get?_set] at ha
    split at ha
    · rename_i heq
      exact .inr heq
    · exact .inl (h.only a ha)

/-- **The batch an execution writes records its trees.** -/
theorem executeGarbageCollection_batch {store store' : ArtifactStore}
    {plan : GarbageCollectionPlan} {nowNs : Nat} {manifest : BatchManifest}
    (h : store.executeGarbageCollection plan nowNs = .ok (store', manifest)) :
    ∃ batch, store'.batches.get? manifest.batchId = some batch ∧ batch.manifest = manifest ∧
      Recorded manifest.artifacts batch.trees := by
  obtain ⟨inventory, isProtected, hspec⟩ := executeGarbageCollection_spec h
  have hinventoried := verifiedInventory_spec hspec.inventory_eq
  have hnodup := (hspec.planned.candidates_listed hinventoried.keyed).1
  rw [ArtifactStore.executeGarbageCollection] at h
  obtain ⟨-, h⟩ := check_bind_eq_ok.mp h
  obtain ⟨refreshed, hrefreshed, h⟩ := bind_eq_ok.mp h
  obtain ⟨-, h⟩ := check_bind_eq_ok.mp h
  obtain ⟨inventory', hinventory, h⟩ := bind_eq_ok.mp h
  obtain ⟨-, h⟩ := check_bind_eq_ok.mp h
  obtain ⟨⟨roots, artifacts, trees⟩, hmoved, h⟩ := bind_eq_ok.mp h
  obtain ⟨rfl, rfl⟩ := Prod.mk.inj (Except.ok.inj h)
  obtain rfl := Except.ok.inj (hinventory.symm.trans hspec.inventory_eq)
  refine ⟨_, Dict.get?_set_self _ _ _, rfl, ?_⟩
  -- the items and trees so far record each other, and what is left to move is new to them
  have hrun := foldlM_ok (P := fun rest state =>
    (∀ root moved, state.1.get? root = some moved → store.roots.get? root = some moved) ∧
    Recorded state.2.1 state.2.2 ∧
    (∀ c ∈ rest, c.artifactId ∉ state.2.1.map (·.artifactId)) ∧
    (rest.map (·.artifactId)).Nodup) ?_ plan.candidates _ _ ?_ hmoved
  · exact hrun.2.1
  · rintro c rest state state' ⟨hroots, hrecorded, hnew, hdistinct⟩ hstep
    obtain ⟨verified, moved, hget, hsame, hmoved, rfl⟩ := moveCandidate_eq_ok.mp hstep
    obtain ⟨hid, candidate, hroot, -, hartifact⟩ := hinventoried.at_root hget
    obtain rfl := Option.some.inj ((hroots _ _ hmoved).symm.trans hroot)
    rw [List.map_cons, List.nodup_cons] at hdistinct
    have hfiles : moved.tree.files = verified.files := by rw [hartifact]; rfl
    have hdigest : recordDigest (.tree verified.files) = c.treeDigest := by
      rw [hsame, hartifact]
      rfl
    refine ⟨?_, hrecorded.push (hnew c List.mem_cons_self) hdigest hfiles, ?_, hdistinct.2⟩
    · intro root other hother
      rw [Dict.get?_erase] at hother
      split at hother
      · cases hother
      · exact hroots root other hother
    · intro other hother hmem
      rcases mem_map_append_singleton.mp hmem with hmem | heq
      · exact hnew other (List.mem_cons_of_mem _ hother) hmem
      · exact hdistinct.1 (List.mem_map.mpr ⟨other, hother, heq⟩)
  · exact ⟨fun _ _ h => h, ⟨List.nodup_nil, fun _ h => absurd h List.not_mem_nil,
      fun _ h => absurd rfl h⟩, fun _ _ => List.not_mem_nil, hnodup⟩

/-! ## Removing one tree -/

omit [RetentionDigest] in
theorem mem_directoriesOf {files : List FileRecord} {directory : List String} :
    directory ∈ directoriesOf files ↔
      directory = [] ∨ ∃ file ∈ files, directory <+: file.path.dropLast := by
  rw [directoriesOf, List.mem_insertionSort, List.mem_dedup, List.mem_cons, List.mem_flatMap]
  simp only [List.mem_inits]

omit [RetentionDigest] in
theorem pairwise_directoriesOf (files : List FileRecord) :
    (directoriesOf files).Pairwise fun a b => b.length ≤ a.length :=
  have : IsTrans (List String) fun a b => b.length ≤ a.length := ⟨fun _ _ _ h h' => h'.trans h⟩
  have : Std.Total fun a b : List String => b.length ≤ a.length := ⟨fun _ _ => Nat.le_total _ _⟩
  List.pairwise_insertionSort _ _

omit [RetentionDigest] in
/-- Unlinking the first file leaves the others. -/
theorem ArtifactTree.files_unlink {tree : ArtifactTree} {file : FileRecord}
    {rest : List FileRecord} (h : tree.files = file :: rest) :
    (tree.unlink file.path).files = rest := by
  have hdistinct := tree.distinct
  rw [h, List.map_cons, List.nodup_cons] at hdistinct
  rw [ArtifactTree.unlink]
  dsimp only
  rw [h, List.filter_cons_of_neg (by simp), List.filter_eq_self]
  intro other hother
  have hne : other.path ≠ file.path := fun heq =>
    hdistinct.1 (heq ▸ List.mem_map_of_mem hother)
  simpa using hne

theorem run_unlink {disk : BatchDisk} {artifactId : ArtifactId} {path : List String}
    {tree : ArtifactTree} (htree : disk.trees.get? artifactId = some tree)
    (hpath : path ∈ tree.files.map (·.path)) :
    PurgeStep.run (.unlink artifactId path) disk =
      .ok { disk with trees := disk.trees.set artifactId (tree.unlink path) } := by
  rw [PurgeStep.run]
  rw [htree]
  dsimp only
  rw [refuseIf_of_not (not_not.mpr hpath)]
  rfl

/-- Unlinking the files of a tree one after the other leaves its directories. -/
theorem exec_unlinks {artifactId : ArtifactId} (files : List FileRecord) (disk : BatchDisk)
    {tree : ArtifactTree} (htree : disk.trees.get? artifactId = some tree)
    (hfiles : tree.files = files) :
    ∃ trees tree', Script.exec PurgeStep.run
        (files.map fun file => .unlink artifactId file.path) disk = ({ disk with trees }, none) ∧
      trees.get? artifactId = some tree' ∧ tree'.files = [] ∧
      tree'.directories = tree.directories ∧
      ∀ a, a ≠ artifactId → trees.get? a = disk.trees.get? a := by
  induction files generalizing disk tree with
  | nil => exact ⟨disk.trees, tree, rfl, htree, hfiles, rfl, fun _ _ => rfl⟩
  | cons file rest ih =>
    have hmem : file.path ∈ tree.files.map (·.path) := by
      rw [hfiles, List.map_cons]
      exact List.mem_cons_self
    obtain ⟨trees, tree', hexec, hget, hempty, hsame, hothers⟩ :=
      ih { disk with trees := disk.trees.set artifactId (tree.unlink file.path) }
        (Dict.get?_set_self _ _ _) (ArtifactTree.files_unlink hfiles)
    refine ⟨trees, tree', ?_, hget, hempty, hsame, fun a ha => ?_⟩
    · rw [List.map_cons, Script.exec_cons_of_ok (run_unlink htree hmem)]
      exact hexec
    · rw [hothers a ha, Dict.get?_set_of_ne _ _ ha]

theorem run_removeDirectory_missing {disk : BatchDisk} {artifactId : ArtifactId}
    (directory : List String) (htree : disk.trees.get? artifactId = none) :
    PurgeStep.run (.removeDirectory artifactId directory) disk = .ok disk := by
  rw [PurgeStep.run]
  rw [htree]

theorem run_removeDirectory {disk : BatchDisk} {artifactId : ArtifactId} {directory : List String}
    {tree : ArtifactTree} (htree : disk.trees.get? artifactId = some tree) :
    PurgeStep.run (.removeDirectory artifactId directory) disk =
      if directory ∉ tree.directories then .ok disk
      else if hchildless : tree.Childless directory then
        if hroot : directory = [] then
          .ok { disk with trees := disk.trees.erase artifactId }
        else
          .ok { disk with
            trees := disk.trees.set artifactId (tree.removeDirectory directory hroot hchildless) }
      else .error .osError := by
  rw [PurgeStep.run]
  rw [htree]

/-- Removing directories of a tree that is already gone does nothing. -/
theorem exec_removeDirectories_missing {artifactId : ArtifactId} (directories : List (List String))
    {disk : BatchDisk} (htree : disk.trees.get? artifactId = none) :
    Script.exec PurgeStep.run (directories.map (.removeDirectory artifactId)) disk
      = (disk, none) := by
  induction directories with
  | nil => rfl
  | cons directory rest ih =>
    rw [List.map_cons, Script.exec_cons_of_ok (run_removeDirectory_missing directory htree)]
    exact ih

/-- Removing the directories of a tree without files, deepest first, takes the tree. -/
theorem exec_removeDirectories {artifactId : ArtifactId} (directories : List (List String))
    (hsorted : directories.Pairwise fun a b => b.length ≤ a.length) (disk : BatchDisk)
    {tree : ArtifactTree} (htree : disk.trees.get? artifactId = some tree)
    (hfiles : tree.files = []) (hall : ∀ d ∈ tree.directories, d ∈ directories) :
    ∃ trees, Script.exec PurgeStep.run (directories.map (.removeDirectory artifactId)) disk
        = ({ disk with trees }, none) ∧ trees.get? artifactId = none ∧
      ∀ a, a ≠ artifactId → trees.get? a = disk.trees.get? a := by
  induction directories generalizing disk tree with
  | nil => exact absurd (hall [] tree.root_mem) List.not_mem_nil
  | cons directory rest ih =>
    obtain ⟨hdeepest, hrest⟩ := List.pairwise_cons.mp hsorted
    rw [List.map_cons]
    by_cases hthere : directory ∈ tree.directories
    · have hchildless : tree.Childless directory := by
        refine ⟨fun file hfile => ?_, fun child hchild htop hparent => ?_⟩
        · rw [hfiles] at hfile
          cases hfile
        · -- a child would be longer than the longest directory
          have hlength : child.dropLast.length + 1 = child.length := by
            rw [List.length_dropLast]
            exact Nat.succ_pred_eq_of_pos (List.length_pos_iff.mpr htop)
          rw [hparent] at hlength
          rcases List.mem_cons.mp (hall child hchild) with rfl | hlater
          · omega
          · have := hdeepest child hlater
            omega
      by_cases hroot : directory = []
      · have hrun : PurgeStep.run (.removeDirectory artifactId directory) disk =
            .ok { disk with trees := disk.trees.erase artifactId } := by
          rw [run_removeDirectory htree, if_neg (not_not.mpr hthere), dif_pos hchildless,
            dif_pos hroot]
        refine ⟨disk.trees.erase artifactId, ?_, Dict.get?_erase_self _ _,
          fun a ha => Dict.get?_erase_of_ne _ ha⟩
        rw [Script.exec_cons_of_ok hrun]
        exact exec_removeDirectories_missing rest (Dict.get?_erase_self _ _)
      · have hrun : PurgeStep.run (.removeDirectory artifactId directory) disk =
            .ok { disk with
              trees := disk.trees.set artifactId
                (tree.removeDirectory directory hroot hchildless) } := by
          rw [run_removeDirectory htree, if_neg (not_not.mpr hthere), dif_pos hchildless,
            dif_neg hroot]
        obtain ⟨trees, hexec, hgone, hothers⟩ := ih hrest
          { disk with
            trees := disk.trees.set artifactId
              (tree.removeDirectory directory hroot hchildless) }
          (Dict.get?_set_self _ _ _) hfiles (by
            intro d hd
            obtain ⟨hmem, hne⟩ := List.mem_filter.mp hd
            rcases List.mem_cons.mp (hall d hmem) with heq | hlater
            · simp [heq] at hne
            · exact hlater)
        refine ⟨trees, ?_, hgone, fun a ha => ?_⟩
        · rw [Script.exec_cons_of_ok hrun]
          exact hexec
        · rw [hothers a ha, Dict.get?_set_of_ne _ _ ha]
    · have hrun : PurgeStep.run (.removeDirectory artifactId directory) disk = .ok disk := by
        rw [run_removeDirectory htree, if_pos hthere]
      rw [Script.exec_cons_of_ok hrun]
      refine ih hrest disk htree hfiles fun d hd => ?_
      rcases List.mem_cons.mp (hall d hd) with rfl | hlater
      · exact absurd hd hthere
      · exact hlater

/-- Every directory of a tree has a file below it, or is its root. -/
def ArtifactTree.NoEmptyDirectory (tree : ArtifactTree) : Prop :=
  ∀ directory ∈ tree.directories,
    directory = [] ∨ ∃ file ∈ tree.files, directory <+: file.path.dropLast

theorem run_verify {disk : BatchDisk} {item : BatchItem} {tree : ArtifactTree}
    (hdigest : recordDigest (.tree item.files) = item.treeDigest)
    (htree : disk.trees.get? item.artifactId = some tree) (hfiles : tree.files = item.files) :
    PurgeStep.run (.verify item) disk = .ok disk := by
  rw [PurgeStep.run]
  rw [refuseIf_of_not (not_not.mpr hdigest), ok_bind, htree]
  dsimp only
  rw [refuseIf_of_not (not_not.mpr hfiles)]
  rfl

/-- **The removal of a whole tree without empty directories goes through and takes it.** -/
theorem exec_removeVerifiedTree {disk : BatchDisk} {item : BatchItem} {tree : ArtifactTree}
    (hdigest : recordDigest (.tree item.files) = item.treeDigest)
    (htree : disk.trees.get? item.artifactId = some tree) (hfiles : tree.files = item.files)
    (hempty : tree.NoEmptyDirectory) :
    ∃ trees, Script.exec PurgeStep.run (removeVerifiedTree item) disk
        = ({ disk with trees }, none) ∧ trees.get? item.artifactId = none ∧
      ∀ a, a ≠ item.artifactId → trees.get? a = disk.trees.get? a := by
  obtain ⟨trees, tree', hunlinked, htree', hfiles', hsame, hothers⟩ :=
    exec_unlinks item.files disk htree hfiles
  obtain ⟨trees', hremoved, hgone, hothers'⟩ :=
    exec_removeDirectories (directoriesOf item.files) (pairwise_directoriesOf _)
      { disk with trees } htree' hfiles' (by
        intro d hd
        rw [hsame] at hd
        rw [mem_directoriesOf, ← hfiles]
        exact hempty d hd)
  refine ⟨trees', ?_, hgone, fun a ha => ?_⟩
  · rw [removeVerifiedTree, List.cons_append,
      Script.exec_cons_of_ok (run_verify hdigest htree hfiles), Script.exec_append_of_ok hunlinked]
    exact hremoved
  · rw [hothers' a ha]
    exact hothers a ha

/-- **Removing the trees of a batch one after the other takes them all.** -/
theorem exec_removeTrees {items : List BatchItem} (hnodup : (items.map (·.artifactId)).Nodup)
    (disk : BatchDisk) (hitems : ∀ item ∈ items,
      recordDigest (.tree item.files) = item.treeDigest ∧ ∃ tree,
        disk.trees.get? item.artifactId = some tree ∧ tree.files = item.files ∧
        tree.NoEmptyDirectory) :
    ∃ trees, Script.exec PurgeStep.run (items.flatMap removeVerifiedTree) disk
        = ({ disk with trees }, none) ∧
      ∀ a, trees.get? a =
        if a ∈ items.map (·.artifactId) then none else disk.trees.get? a := by
  induction items generalizing disk with
  | nil => exact ⟨disk.trees, rfl, fun a => by simp⟩
  | cons item rest ih =>
    rw [List.map_cons, List.nodup_cons] at hnodup
    obtain ⟨hdigest, tree, htree, hfiles, hempty⟩ := hitems item List.mem_cons_self
    obtain ⟨trees, hexec, hgone, hothers⟩ :=
      exec_removeVerifiedTree hdigest htree hfiles hempty
    obtain ⟨trees', hexec', hall⟩ := ih hnodup.2 { disk with trees } (by
      intro other hother
      obtain ⟨hd, t, ht, hf, he⟩ := hitems other (List.mem_cons_of_mem _ hother)
      refine ⟨hd, t, ?_, hf, he⟩
      dsimp only
      rw [hothers]
      · exact ht
      · intro heq
        exact hnodup.1 (List.mem_map.mpr ⟨other, hother, heq⟩))
    refine ⟨trees', ?_, fun a => ?_⟩
    · rw [List.flatMap_cons, Script.exec_append_of_ok hexec]
      exact hexec'
    · rw [hall a, List.map_cons]
      by_cases hrest : a ∈ rest.map (·.artifactId)
      · rw [if_pos hrest, if_pos (List.mem_cons_of_mem _ hrest)]
      · rw [if_neg hrest]
        dsimp only
        by_cases hsame : a = item.artifactId
        · rw [hsame, hgone, if_pos List.mem_cons_self]
        · rw [hothers a hsame, if_neg]
          simp [hsame, hrest]

end

end Artifacts

end OnchainBacktest
