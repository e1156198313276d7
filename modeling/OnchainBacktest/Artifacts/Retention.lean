import Mathlib.Data.String.Basic
import OnchainBacktest.Lib.Closure
import OnchainBacktest.Artifacts.ArtifactModels

/-!
# Pins, plans and the sweep

The local retention repository: the closure of a set of artifacts under their inputs, the dry run
that selects what may be swept, and the execution that repeats the dry run and moves what it
selected into a trash batch.
-/

set_option autoImplicit false

namespace OnchainBacktest

namespace Artifacts

open Checked

/-! ## The store -/

/-- A batch in the trash: its manifest and the trees that were moved into it. -/
structure TrashBatch where
  manifest : BatchManifest
  trees : Dict ArtifactId ArtifactTree

/-- The directories with a commit marker under their paths, the pins, and the trash. -/
structure ArtifactStore where
  roots : Dict String CandidateRoot
  activePins : Dict Identifier PinRecord
  retiredPins : List PinRecord
  batches : Dict ContentDigest TrashBatch

def ArtifactStore.empty : ArtifactStore := ⟨Dict.empty, Dict.empty, [], Dict.empty⟩

abbrev Inventory := Dict ArtifactId VerifiedArtifact

section

variable [RetentionDigest]

/-- What a directory is verified to hold. -/
def CandidateRoot.artifact (root : String) (candidate : CandidateRoot)
    (descriptor : CommittedArtifact) : VerifiedArtifact where
  descriptor := descriptor
  root := root
  committedAtNs := candidate.committedAtNs
  files := candidate.tree.files
  treeDigest := recordDigest (.tree candidate.tree.files)

/-- Add one directory to the inventory. -/
def addVerified (inventory : Inventory) (entry : String × CandidateRoot) :
    Except RetentionFault Inventory :=
  match entry.2.verified with
  | none => .error (.integrity "committed artifact candidate failed verification")
  | some descriptor => do
    refuseIf (inventory.get? descriptor.artifactId ≠ none)
      (.integrity "artifact ID occurs in multiple physical locations")
    .ok (inventory.set descriptor.artifactId (entry.2.artifact entry.1 descriptor))

def ArtifactStore.verifiedInventory (store : ArtifactStore) : Except RetentionFault Inventory :=
  store.roots.entries.foldlM addVerified Dict.empty

/-! ## Closure -/

def VerifiedArtifact.inputs (verified : VerifiedArtifact) : List ArtifactId :=
  verified.descriptor.inputArtifactIds

/-- The roots and everything they were made from, sorted. -/
def closure (roots : List ArtifactId) (inventory : Inventory) :
    Except RetentionFault (List ArtifactId) :=
  match Closure.walk inventory VerifiedArtifact.inputs [] roots with
  | .ok visited => .ok (visited.insertionSort (· ≤ ·))
  | .error _ => .error (.integrity "retention root or lineage input is missing")

/-! ## Pins -/

def ArtifactStore.activePinsLocked (store : ArtifactStore) : List PinRecord :=
  (store.activePins.entries.map Prod.snd).insertionSort fun a b => a.pinId.value ≤ b.pinId.value

def makePin (pinId : Identifier) (roots closure : List ArtifactId) (reason : String)
    (createdAtNs : Nat) : Except RetentionFault PinRecord := do
  refuseIf (roots = []) (.value "a pin must have at least one root")
  refuseIf (nonemptyTrimmed reason = false ∨ 500 < reason.length)
    (.value "pin reason must be 1..500 characters without outer whitespace")
  refuseIf (reason.toList.any (fun c => c.toNat < 32) = true)
    (.value "pin reason must not contain control characters")
  .ok
    { pinId, roots, transitiveClosure := closure, reason, createdAtNs
      recordDigest := recordDigest (.pin pinId roots closure reason createdAtNs) }

/-- Publish a pin whose closure a lease holds. -/
def ArtifactStore.publishPin (store : ArtifactStore) (pin : PinRecord) :
    Except RetentionFault ArtifactStore := do
  refuseIf (∃ retired ∈ store.retiredPins, retired.pinId = pin.pinId)
    (.conflict "retired pin identity cannot be reused")
  match store.activePins.get? pin.pinId with
  | none => .ok { store with activePins := store.activePins.set pin.pinId pin }
  | some existing => do
    refuseIf (existing ≠ pin) (.conflict "pin already names different immutable content")
    .ok store

def ArtifactStore.retirePin (store : ArtifactStore) (pinId : Identifier) :
    Except RetentionFault ArtifactStore :=
  match store.activePins.get? pinId with
  | none =>
    if ∃ retired ∈ store.retiredPins, retired.pinId = pinId then .ok store
    else .error (.integrity "pin record is corrupt")
  | some pin => do
    refuseIf (∃ retired ∈ store.retiredPins, retired.pinId = pinId)
      (.integrity "pin is both active and retired")
    .ok { store with
      activePins := store.activePins.erase pinId
      retiredPins := store.retiredPins ++ [pin] }

/-! ## The dry run -/

def VerifiedArtifact.ageNs (verified : VerifiedArtifact) (nowNs : Nat) : Int :=
  (nowNs : Int) - verified.committedAtNs

def VerifiedArtifact.candidate (verified : VerifiedArtifact) : GarbageCollectionCandidate where
  artifactId := verified.descriptor.artifactId
  kind := verified.descriptor.kind
  sizeBytes := verified.sizeBytes
  committedAtNs := verified.committedAtNs
  treeDigest := verified.treeDigest

/-- The inventory in the order of the identifiers. -/
def sortedInventory (inventory : Inventory) : List (ArtifactId × VerifiedArtifact) :=
  inventory.entries.insertionSort fun a b => a.1 ≤ b.1

/-- The artifacts younger than the policy asks. -/
def youngArtifacts (inventory : Inventory) (policy : GarbageCollectionPolicy) (nowNs : Nat) :
    List ArtifactId :=
  (inventory.entries.filter fun e =>
    decide (e.2.ageNs nowNs < (policy.minimumArtifactAgeNs : Int))).map
      fun e => e.2.descriptor.artifactId

/-- Take what nothing protects, in order, as far as the sweep limit goes; what does not fit is
passed over. -/
def selectCandidates (isProtected : List ArtifactId) (policy : GarbageCollectionPolicy)
    (nowNs : Nat) : List (ArtifactId × VerifiedArtifact) → Nat → List GarbageCollectionCandidate
  | [], _ => []
  | (artifactId, verified) :: rest, consumed =>
    if artifactId ∈ isProtected then selectCandidates isProtected policy nowNs rest consumed
    else if verified.ageNs nowNs < (policy.minimumArtifactAgeNs : Int) then
      selectCandidates isProtected policy nowNs rest consumed
    else if policy.maximumSweepBytes < consumed + verified.sizeBytes then
      selectCandidates isProtected policy nowNs rest consumed
    else
      verified.candidate ::
        selectCandidates isProtected policy nowNs rest (consumed + verified.sizeBytes)

/-- The closure of a pin is the one it records. -/
def checkPin (inventory : Inventory) (pin : PinRecord) : Except RetentionFault Unit := do
  let actual ← closure pin.roots inventory
  refuseIf (actual ≠ pin.transitiveClosure)
    (.integrity "pin closure disagrees with artifact manifests")

/-- `_plan_locked`, on the inventory and the pins it has read. -/
def planFrom (inventory : Inventory) (pins : List PinRecord) (retainedRoots : List ArtifactId)
    (policy : GarbageCollectionPolicy) (nowNs : Nat) :
    Except RetentionFault GarbageCollectionPlan := do
  let pinnedRoots := artifactIds (pins.flatMap fun pin => pin.roots)
  pins.forM (checkPin inventory)
  let protectedRoots := retainedRoots ++ pinnedRoots ++ youngArtifacts inventory policy nowNs
  let isProtected ← closure (artifactIds protectedRoots) inventory
  let candidates := selectCandidates isProtected policy nowNs (sortedInventory inventory) 0
  .ok
    { planId := recordDigest (.plan nowNs policy retainedRoots pinnedRoots candidates)
      plannedAtNs := nowNs
      policy, retainedRoots, pinnedRoots, candidates }

def ArtifactStore.planLocked (store : ArtifactStore) (retainedRoots : List ArtifactId)
    (policy : GarbageCollectionPolicy) (nowNs : Nat) :
    Except RetentionFault GarbageCollectionPlan := do
  let inventory ← store.verifiedInventory
  planFrom inventory store.activePinsLocked retainedRoots policy nowNs

def ArtifactStore.planGarbageCollection (store : ArtifactStore) (retainedRoots : List ArtifactId)
    (policy : GarbageCollectionPolicy) (nowNs : Nat) :
    Except RetentionFault GarbageCollectionPlan :=
  store.planLocked (artifactIds retainedRoots) policy nowNs

/-! ## The sweep -/

/-- Move one candidate into the trash. -/
def moveCandidate (inventory : Inventory)
    (state : Dict String CandidateRoot × List BatchItem × Dict ArtifactId ArtifactTree)
    (candidate : GarbageCollectionCandidate) :
    Except RetentionFault
      (Dict String CandidateRoot × List BatchItem × Dict ArtifactId ArtifactTree) :=
  match inventory.get? candidate.artifactId with
  | none => .error (.planStale "GC candidate changed during final revalidation")
  | some verified => do
    refuseIf (candidate ≠ verified.candidate)
      (.planStale "GC candidate changed during final revalidation")
    match state.1.get? verified.root with
    | none => .error .osError
    | some moved =>
      .ok
        (state.1.erase verified.root,
          state.2.1 ++ [⟨candidate.artifactId, candidate.kind, candidate.sizeBytes,
            candidate.treeDigest, verified.files⟩],
          state.2.2.set candidate.artifactId moved.tree)

/-- Repeat the dry run of a plan and, when it comes out the same, move its candidates. -/
def ArtifactStore.executeGarbageCollection (store : ArtifactStore) (plan : GarbageCollectionPlan)
    (nowNs : Nat) : Except RetentionFault (ArtifactStore × BatchManifest) := do
  refuseIf (nowNs < plan.plannedAtNs) (.value "GC execution time predates its plan")
  let refreshed ← store.planLocked plan.retainedRoots plan.policy plan.plannedAtNs
  refuseIf (refreshed.planId ≠ plan.planId ∨ refreshed.candidates ≠ plan.candidates ∨
      refreshed.pinnedRoots ≠ plan.pinnedRoots)
    (.planStale "GC authority changed after dry run; create and approve a new plan")
  let inventory ← store.verifiedInventory
  let batchId := recordDigest (.batch nowNs plan.planId)
  refuseIf (store.batches.get? batchId |>.isSome) (.conflict "GC batch identity already exists")
  let (roots, artifacts, trees) ←
    plan.candidates.foldlM (moveCandidate inventory) (store.roots, [], Dict.empty)
  let manifest : BatchManifest :=
    { batchId, planId := plan.planId, movedAtNs := nowNs
      purgeNotBeforeNs := nowNs + plan.policy.trashGracePeriodNs, artifacts }
  .ok ({ store with roots, batches := store.batches.set batchId ⟨manifest, trees⟩ }, manifest)

end

end Artifacts

end OnchainBacktest
