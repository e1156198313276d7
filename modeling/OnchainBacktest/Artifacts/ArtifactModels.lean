import Mathlib.Data.List.Sort
import Mathlib.Order.Defs.LinearOrder
import OnchainBacktest.Domain.Identifiers

/-!
# Artifacts and their retention records

An artifact is an immutable tree of files with a descriptor that names the artifacts it was made
from.  Pins, leases and garbage-collection plans are about sets of artifacts, kept as sorted lists
of identifiers.

What a record hashes to is a parameter, `RetentionDigest`, and nothing is assumed about it.
-/

set_option autoImplicit false

namespace OnchainBacktest

namespace Artifacts

/-! ## Artifacts -/

/-- The identity of an artifact: a digest, ordered as its hexadecimal spelling is. -/
structure ArtifactId where
  hex : Fin (2 ^ 256)

theorem ArtifactId.hex_injective : Function.Injective ArtifactId.hex := by
  intro a b h
  cases a
  cases b
  exact congrArg ArtifactId.mk h

instance : LinearOrder ArtifactId := LinearOrder.lift' ArtifactId.hex ArtifactId.hex_injective

instance lawfulBEqArtifactId : LawfulBEq ArtifactId := inferInstance

inductive ArtifactKind
  | researchSnapshot
  | researchResult
  | sourceInspection
  | canonicalDistribution
  | snapshot
  | replayPack
  | deliverySchedule
  | featureSet
  | labelSet
  | universe
  | modelBundle
  | modelSchedule
  | predictionSet
  | strategyBundle
  | sweep
  | benchmark
  | run
  deriving DecidableEq, Repr

/-- One file of a tree: the parts of its path, the digest of its bytes and their number. -/
structure FileRecord where
  path : List String
  sha256 : ContentDigest
  size : Nat
  deriving DecidableEq

/-- A tree of files in the order of their paths, with its directories; the root of the tree is the
directory without parts. -/
structure ArtifactTree where
  files : List FileRecord
  directories : List (List String)
  root_mem : [] ∈ directories
  parent_mem : ∀ directory ∈ directories, directory.dropLast ∈ directories
  file_mem : ∀ file ∈ files, file.path ≠ [] ∧ file.path.dropLast ∈ directories
  distinct : (files.map (·.path)).Nodup

/-- The descriptor of a committed artifact. -/
structure CommittedArtifact where
  artifactId : ArtifactId
  kind : ArtifactKind
  manifestDigest : ContentDigest
  buildKey : ContentDigest
  inputArtifactIds : List ArtifactId
  deriving DecidableEq

/-- A directory with a commit marker: its tree, the time of the marker, and what the full
verification of the directory returns. -/
structure CandidateRoot where
  tree : ArtifactTree
  committedAtNs : Nat
  verified : Option CommittedArtifact

/-- A committed artifact that was verified, with the inventory of its files. -/
structure VerifiedArtifact where
  descriptor : CommittedArtifact
  root : String
  committedAtNs : Nat
  files : List FileRecord
  treeDigest : ContentDigest
  deriving DecidableEq

def VerifiedArtifact.sizeBytes (verified : VerifiedArtifact) : Nat :=
  (verified.files.map (·.size)).sum

/-! ## Retention records -/

/-- The name of a pin or of a lease. -/
structure Identifier where
  value : String
  deriving DecidableEq

/-- One durable pin and its verified lineage closure. -/
structure PinRecord where
  pinId : Identifier
  roots : List ArtifactId
  transitiveClosure : List ArtifactId
  reason : String
  createdAtNs : Nat
  recordDigest : ContentDigest
  deriving DecidableEq

/-- The retention bounds of the host. -/
structure GarbageCollectionPolicy where
  minimumArtifactAgeNs : Nat
  trashGracePeriodNs : Nat
  maximumSweepBytes : Nat
  deriving DecidableEq

structure GarbageCollectionCandidate where
  artifactId : ArtifactId
  kind : ArtifactKind
  sizeBytes : Nat
  committedAtNs : Nat
  treeDigest : ContentDigest
  deriving DecidableEq

/-- The result of a dry run. -/
structure GarbageCollectionPlan where
  planId : ContentDigest
  plannedAtNs : Nat
  policy : GarbageCollectionPolicy
  retainedRoots : List ArtifactId
  pinnedRoots : List ArtifactId
  candidates : List GarbageCollectionCandidate
  deriving DecidableEq

/-- One artifact of a trash batch, as the manifest of the batch has it. -/
structure BatchItem where
  artifactId : ArtifactId
  kind : ArtifactKind
  sizeBytes : Nat
  treeDigest : ContentDigest
  files : List FileRecord
  deriving DecidableEq

/-- The manifest of a trash batch. -/
structure BatchManifest where
  batchId : ContentDigest
  planId : ContentDigest
  movedAtNs : Nat
  purgeNotBeforeNs : Nat
  artifacts : List BatchItem
  deriving DecidableEq

/-- One artifact of a purge record. -/
structure ReceiptItem where
  artifactId : ArtifactId
  kind : ArtifactKind
  treeDigest : ContentDigest
  deriving DecidableEq

/-- The record of a purge. -/
structure GarbageCollectionReceipt where
  receiptDigest : ContentDigest
  batchId : ContentDigest
  deletedAtNs : Nat
  artifacts : List ReceiptItem
  deletedBytes : Nat
  deriving DecidableEq

/-- A record that is hashed, with the fields its document has. -/
inductive RetentionDocument
  | tree (files : List FileRecord)
  | pin (pinId : Identifier) (roots closure : List ArtifactId) (reason : String)
      (createdAtNs : Nat)
  | plan (plannedAtNs : Nat) (policy : GarbageCollectionPolicy)
      (retainedRoots pinnedRoots : List ArtifactId) (candidates : List GarbageCollectionCandidate)
  | batch (movedAtNs : Nat) (planId : ContentDigest)
  | receipt (batchId : ContentDigest) (deletedAtNs : Nat) (artifacts : List ReceiptItem)
      (deletedBytes : Nat)

/-- The digests of retention records, each in a domain of its own. -/
class RetentionDigest where
  recordDigest : RetentionDocument → ContentDigest

export RetentionDigest (recordDigest)

/-! ## Errors -/

/-- An exception of the retention repository or of the artifact repository. -/
inductive RetentionFault
  /-- `ValueError`. -/
  | value (message : String)
  /-- `RetentionIntegrityError`. -/
  | integrity (message : String)
  /-- `RetentionConflictError`. -/
  | conflict (message : String)
  /-- `GarbageCollectionPlanStaleError`. -/
  | planStale (message : String)
  /-- `SafeFilesystemError`. -/
  | safeFilesystem (message : String)
  /-- `OSError`. -/
  | osError
  deriving DecidableEq

/-- `_artifact_ids`: sorted, each once. -/
def artifactIds (values : List ArtifactId) : List ArtifactId :=
  values.dedup.insertionSort (· ≤ ·)

theorem mem_artifactIds {values : List ArtifactId} {a : ArtifactId} :
    a ∈ artifactIds values ↔ a ∈ values := by
  rw [artifactIds, List.mem_insertionSort, List.mem_dedup]

theorem nodup_artifactIds (values : List ArtifactId) : (artifactIds values).Nodup :=
  (List.perm_insertionSort _ _).nodup_iff.mpr (List.nodup_dedup values)

theorem pairwise_artifactIds (values : List ArtifactId) :
    (artifactIds values).Pairwise (· ≤ ·) := List.pairwise_insertionSort _ _

end Artifacts

end OnchainBacktest
