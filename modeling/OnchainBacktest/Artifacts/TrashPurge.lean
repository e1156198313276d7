import OnchainBacktest.Lib.Script
import OnchainBacktest.Artifacts.Retention

/-!
# Purging a trash batch

`purge_trash` deletes the trees of a batch file by file and directory by directory, publishes its
receipt and removes what is left of the batch.  Each of these is one atomic step on the disk, so the
purge is a script: it may be cut off between any two steps, and what it leaves is where the next
call starts.
-/

set_option autoImplicit false

namespace OnchainBacktest

namespace Artifacts

open Checked

/-! ## Trees that lose their members -/

/-- Unlink a file of a tree. -/
def ArtifactTree.unlink (tree : ArtifactTree) (path : List String) : ArtifactTree where
  files := tree.files.filter fun file => file.path ≠ path
  directories := tree.directories
  root_mem := tree.root_mem
  parent_mem := tree.parent_mem
  file_mem := fun file hfile => tree.file_mem file (List.mem_filter.mp hfile).1
  distinct := tree.distinct.sublist (List.filter_sublist.map _)

/-- No file and no directory stands in a directory. -/
def ArtifactTree.Childless (tree : ArtifactTree) (directory : List String) : Prop :=
  (∀ file ∈ tree.files, file.path.dropLast ≠ directory) ∧
    ∀ child ∈ tree.directories, child ≠ [] → child.dropLast ≠ directory

instance (tree : ArtifactTree) (directory : List String) :
    Decidable (tree.Childless directory) := inferInstanceAs (Decidable (_ ∧ _))

/-- Remove a directory that has no member. -/
def ArtifactTree.removeDirectory (tree : ArtifactTree) (directory : List String)
    (hroot : directory ≠ []) (h : tree.Childless directory) : ArtifactTree where
  files := tree.files
  directories := tree.directories.filter (· ≠ directory)
  root_mem := List.mem_filter.mpr ⟨tree.root_mem, by simpa using Ne.symm hroot⟩
  parent_mem := by
    intro child hchild
    have hmem := (List.mem_filter.mp hchild).1
    refine List.mem_filter.mpr ⟨tree.parent_mem child hmem, ?_⟩
    by_cases htop : child = []
    · rw [htop]
      simpa using Ne.symm hroot
    · simpa using h.2 child hmem htop
  file_mem := by
    intro file hfile
    obtain ⟨hpath, hparent⟩ := tree.file_mem file hfile
    exact ⟨hpath, List.mem_filter.mpr ⟨hparent, by simpa using h.1 file hfile⟩⟩
  distinct := tree.distinct

/-! ## The disk -/

/-- The receipt of a batch under its name, with the number of its links. -/
structure ReceiptFile where
  receipt : GarbageCollectionReceipt
  links : Nat

/-- What is on the disk of one batch: the trees under their kinds, the directories and the control
files of the batch, the temporary names in the directory of the receipts, and the receipt. -/
structure BatchDisk where
  trees : Dict ArtifactId ArtifactTree
  kindDirectories : List ArtifactKind
  hasArtifacts : Bool
  manifest : Option BatchManifest
  hasMarker : Bool
  hasRoot : Bool
  temporaries : Nat
  receipt : Option ReceiptFile

/-- The disk of a batch an execution has written. -/
def TrashBatch.disk (batch : TrashBatch) : BatchDisk where
  trees := batch.trees
  kindDirectories := (batch.manifest.artifacts.map (·.kind)).dedup
  hasArtifacts := true
  manifest := some batch.manifest
  hasMarker := true
  hasRoot := true
  temporaries := 0
  receipt := none

/-! ## Steps -/

/-- One step of a purge. -/
inductive PurgeStep
  /-- Compare the digest and the files of a tree with what the manifest records. -/
  | verify (item : BatchItem)
  | unlink (artifactId : ArtifactId) (path : List String)
  | removeDirectory (artifactId : ArtifactId) (directory : List String)
  | writeTemporary
  | linkReceipt (receipt : GarbageCollectionReceipt)
  | unlinkTemporary
  | confirmReceipt (receipt : GarbageCollectionReceipt)
  /-- Remove the directory of a kind, in which the named artifacts stood. -/
  | removeKind (kind : ArtifactKind) (artifactIds : List ArtifactId)
  | removeArtifacts
  | unlinkManifest
  | unlinkMarker
  | removeRoot

section

variable [RetentionDigest]

/-- What a step does to the disk, or why it fails. -/
def PurgeStep.run (step : PurgeStep) (disk : BatchDisk) : Except RetentionFault BatchDisk :=
  match step with
  | .verify item => do
    refuseIf (recordDigest (.tree item.files) ≠ item.treeDigest)
      (.integrity "GC trash inventory digest is corrupt")
    match disk.trees.get? item.artifactId with
    | none => .error (.safeFilesystem "inventory root is unavailable")
    | some tree => do
      refuseIf (tree.files ≠ item.files) (.safeFilesystem "trash content changed before deletion")
      .ok disk
  | .unlink artifactId path =>
    match disk.trees.get? artifactId with
    | none => .error .osError
    | some tree => do
      refuseIf (path ∉ tree.files.map (·.path)) .osError
      .ok { disk with trees := disk.trees.set artifactId (tree.unlink path) }
  | .removeDirectory artifactId directory =>
    match disk.trees.get? artifactId with
    | none => .ok disk
    | some tree =>
      if directory ∉ tree.directories then .ok disk
      else if hchildless : tree.Childless directory then
        if hroot : directory = [] then
          .ok { disk with trees := disk.trees.erase artifactId }
        else
          .ok { disk with
            trees := disk.trees.set artifactId (tree.removeDirectory directory hroot hchildless) }
      else .error .osError
  | .writeTemporary => .ok { disk with temporaries := disk.temporaries + 1 }
  | .linkReceipt receipt =>
    match disk.receipt with
    | none => .ok { disk with receipt := some ⟨receipt, 2⟩ }
    | some _ => .ok disk
  | .unlinkTemporary =>
    .ok { disk with
      temporaries := disk.temporaries - 1
      receipt := disk.receipt.map fun file => ⟨file.receipt, 1⟩ }
  | .confirmReceipt receipt =>
    match disk.receipt with
    | none => .error .osError
    | some file => do
      refuseIf (file.receipt.receiptDigest ≠ receipt.receiptDigest)
        (.conflict "deletion receipt identity collision")
      .ok disk
  | .removeKind kind artifactIds => do
    refuseIf (∃ artifactId ∈ artifactIds, disk.trees.get? artifactId ≠ none) .osError
    .ok { disk with kindDirectories := disk.kindDirectories.filter (· ≠ kind) }
  | .removeArtifacts => do
    refuseIf (disk.kindDirectories ≠ []) .osError
    .ok { disk with hasArtifacts := false }
  | .unlinkManifest => .ok { disk with manifest := none }
  | .unlinkMarker => .ok { disk with hasMarker := false }
  | .removeRoot => do
    refuseIf (disk.hasArtifacts = true ∨ disk.manifest.isSome = true ∨ disk.hasMarker = true)
      .osError
    .ok { disk with hasRoot := false }

/-! ## The script -/

/-- The directories a file list makes a purge remove, deepest first. -/
def directoriesOf (files : List FileRecord) : List (List String) :=
  (([] :: files.flatMap fun file => file.path.dropLast.inits).dedup).insertionSort
    fun a b => b.length ≤ a.length

/-- `remove_verified_tree`, after the check of the digest. -/
def removeVerifiedTree (item : BatchItem) : List PurgeStep :=
  .verify item ::
    (item.files.map fun file => .unlink item.artifactId file.path) ++
      (directoriesOf item.files).map (.removeDirectory item.artifactId)

def BatchItem.receiptItem (item : BatchItem) : ReceiptItem :=
  ⟨item.artifactId, item.kind, item.treeDigest⟩

def BatchManifest.purgeReceipt (manifest : BatchManifest) (nowNs : Nat) :
    GarbageCollectionReceipt :=
  let artifacts := manifest.artifacts.map BatchItem.receiptItem
  let deletedBytes := (manifest.artifacts.map fun item =>
    (item.files.map fun file => file.size).sum).sum
  { receiptDigest := recordDigest (.receipt manifest.batchId nowNs artifacts deletedBytes)
    batchId := manifest.batchId
    deletedAtNs := nowNs
    artifacts, deletedBytes }

/-- `publish_no_replace`, and the check of a receipt that was there. -/
def publishReceipt (receipt : GarbageCollectionReceipt) : List PurgeStep :=
  [.writeTemporary, .linkReceipt receipt, .unlinkTemporary, .confirmReceipt receipt]

/-- `_remove_empty_batch`. -/
def removeEmptyBatch (manifest : BatchManifest) (kindDirectories : List ArtifactKind) :
    List PurgeStep :=
  (kindDirectories.map fun kind => .removeKind kind
    ((manifest.artifacts.filter fun item => item.kind = kind).map (·.artifactId))) ++
      [.removeArtifacts, .unlinkManifest, .unlinkMarker, .removeRoot]

/-- The steps of a purge that has read the batch. -/
def purgeSteps (manifest : BatchManifest) (kindDirectories : List ArtifactKind) (nowNs : Nat) :
    List PurgeStep :=
  manifest.artifacts.flatMap removeVerifiedTree ++
    (publishReceipt (manifest.purgeReceipt nowNs) ++ removeEmptyBatch manifest kindDirectories)

/-- Purge a batch: what the disk is afterwards, and the receipt or the exception. -/
def BatchDisk.purgeTrash (disk : BatchDisk) (nowNs : Nat) :
    BatchDisk × Except RetentionFault GarbageCollectionReceipt :=
  match disk.receipt with
  | some file =>
    if file.links = 1 then (disk, .ok file.receipt)
    else (disk, .error (.integrity "deletion receipt is corrupt"))
  | none =>
    match disk.manifest, disk.hasMarker with
    | some manifest, true =>
      if nowNs < manifest.purgeNotBeforeNs then
        (disk, .error (.conflict "GC trash grace period has not elapsed"))
      else
        match Script.exec PurgeStep.run (purgeSteps manifest disk.kindDirectories nowNs) disk with
        | (disk', none) => (disk', .ok (manifest.purgeReceipt nowNs))
        | (disk', some fault) => (disk', .error fault)
    | _, _ => (disk, .error (.integrity "GC batch is incomplete or corrupt"))

end

end Artifacts

end OnchainBacktest
