import OnchainBacktest.Artifacts.Retention

/-!
# The retention repository and its clients at work

Leases, pins, publications, dry runs, sweeps and purges of many processes over one store.  Each
takes the retention lock shared or exclusive; what runs under the exclusive lock is one step, and so
is what runs under the shared lock together with the exclusive publication lock.  A lease is
acquired one artifact at a time and a dry run reads one directory or one pin at a time, so these are
sequences of steps that everything else under the shared lock can come between.

The retention lock is held shared by every handle of a lease and by every dry run under way.
-/

set_option autoImplicit false

namespace OnchainBacktest

namespace Artifacts

open Checked

/-! ## Clients -/

/-- An exception of the artifact repository. -/
inductive RepositoryFault
  /-- `ArtifactNotCommittedError`. -/
  | notCommitted
  /-- `ArtifactIntegrityError`. -/
  | integrity (message : String)
  deriving DecidableEq

/-- `acquire_lease` under way, or the lease it has returned: the artifacts still to be opened and
the handles of those that are. -/
structure Lease where
  leaseId : Identifier
  roots : List ArtifactId
  pending : List ArtifactId
  handles : Dict ArtifactId VerifiedArtifact

/-- Nothing is left to open. -/
def Lease.Open (lease : Lease) : Prop := lease.pending = []

def Lease.transitiveClosure (lease : Lease) : List ArtifactId :=
  lease.handles.keys.insertionSort (· ≤ ·)

/-- A dry run under way: the directories and the pins it has read so far. -/
structure Planner where
  retainedRoots : List ArtifactId
  policy : GarbageCollectionPolicy
  nowNs : Nat
  inventory : Inventory
  pins : List PinRecord

/-- One commit of an artifact: its identity and the time of its marker. -/
structure Commit where
  artifactId : ArtifactId
  committedAtNs : Nat
  deriving DecidableEq

/-- A plan, and how many commits there were when it was made. -/
structure MadePlan where
  plan : GarbageCollectionPlan
  commitsBefore : Nat

/-- The store, the clients that hold the retention lock shared, the plans that were made and the
commits so far, oldest first. -/
structure RetentionState where
  store : ArtifactStore
  leases : List Lease
  planners : List Planner
  plans : List MadePlan
  commits : List Commit

def RetentionState.start : RetentionState := ⟨ArtifactStore.empty, [], [], [], []⟩

/-- Some client holds the retention lock shared. -/
def RetentionState.HeldShared (s : RetentionState) : Prop :=
  (∃ lease ∈ s.leases, lease.handles.entries ≠ []) ∨ s.planners ≠ []

instance (s : RetentionState) : Decidable s.HeldShared :=
  decidable_of_iff ((s.leases.any fun lease => !lease.handles.entries.isEmpty) = true ∨
      s.planners.isEmpty = false) <| by
    rw [RetentionState.HeldShared, List.any_eq_true]
    simp

section

variable [RetentionDigest]

/-! ## Opening and publishing -/

/-- Find and verify the one directory of an artifact. -/
def ArtifactStore.openCommitted (store : ArtifactStore) (artifactId : ArtifactId) :
    Except RepositoryFault VerifiedArtifact :=
  let named := store.roots.entries.filterMap fun e =>
    match e.2.verified with
    | none => none
    | some descriptor =>
      if descriptor.artifactId = artifactId then some (e.2.artifact e.1 descriptor) else none
  match named with
  | [] => .error .notCommitted
  | [verified] => .ok verified
  | _ => .error (.integrity "artifact id exists in more than one physical location")

/-- Open the next artifact of a lease. -/
def Lease.openNext (store : ArtifactStore) (lease : Lease) : Except RepositoryFault Lease :=
  match lease.pending with
  | [] => .ok lease
  | artifactId :: pending =>
    if lease.handles.get? artifactId ≠ none then .ok { lease with pending }
    else do
      let verified ← store.openCommitted artifactId
      .ok { lease with
        pending := verified.inputs.insertionSort (· ≤ ·) ++ pending
        handles := lease.handles.set artifactId verified }

/-- `_verify_inputs_locked`. -/
def ArtifactStore.verifyInputs (store : ArtifactStore) (inputs : List ArtifactId) :
    Except RepositoryFault Unit :=
  inputs.forM fun artifactId => do
    let _ ← store.openCommitted artifactId
    .ok ()

/-- What a publication comes to under the locks it holds. -/
inductive Publication
  | installed (store : ArtifactStore)
  | existing (descriptor : CommittedArtifact)
  | needsExclusiveRetention
  | conflict (store : ArtifactStore)

/-- A staged tree with its descriptor, as its directory is once its marker is there. -/
def stagedRoot (tree : ArtifactTree) (committedAtNs : Nat) (committed : CommittedArtifact) :
    CandidateRoot :=
  ⟨tree, committedAtNs, some committed⟩

/-- `_publish`, under the shared retention lock. -/
def ArtifactStore.publish (store : ArtifactStore) (finalRoot : String) (tree : ArtifactTree)
    (committedAtNs : Nat) (committed : CommittedArtifact) : Except RepositoryFault Publication := do
  store.verifyInputs committed.inputArtifactIds
  match store.roots.get? finalRoot with
  | none =>
    .ok (.installed { store with
      roots := store.roots.set finalRoot (stagedRoot tree committedAtNs committed) })
  | some existing =>
    match existing.verified with
    | none => .ok .needsExclusiveRetention
    | some descriptor =>
      if descriptor.artifactId = committed.artifactId then .ok (.existing descriptor)
      else .ok .needsExclusiveRetention

/-- `_resolve_existing_path_under_exclusive_retention`. -/
def ArtifactStore.resolveExistingPath (store : ArtifactStore) (finalRoot : String)
    (tree : ArtifactTree) (committedAtNs : Nat) (committed : CommittedArtifact) :
    Except RepositoryFault Publication := do
  store.verifyInputs committed.inputArtifactIds
  match store.roots.get? finalRoot with
  | none =>
    .ok (.installed { store with
      roots := store.roots.set finalRoot (stagedRoot tree committedAtNs committed) })
  | some existing =>
    match existing.verified with
    | none =>
      -- the directory goes to quarantine and the staged one takes its place
      .ok (.installed { store with
        roots := store.roots.set finalRoot (stagedRoot tree committedAtNs committed) })
    | some descriptor =>
      if descriptor.artifactId = committed.artifactId then .ok (.existing descriptor)
      else .ok (.conflict { store with roots := store.roots.erase finalRoot })

/-! ## Executing -/

/-- An exception of an execution. -/
inductive ExecutionFault
  /-- `LockUnavailableError`. -/
  | lockUnavailable
  | retention (fault : RetentionFault)

/-- Execute a plan, when the exclusive retention lock can be had. -/
def RetentionState.execute (s : RetentionState) (plan : GarbageCollectionPlan) (nowNs : Nat) :
    Except ExecutionFault (RetentionState × BatchManifest) :=
  if nowNs < plan.plannedAtNs then
    .error (.retention (.value "GC execution time predates its plan"))
  else if s.HeldShared then .error .lockUnavailable
  else
    match s.store.executeGarbageCollection plan nowNs with
    | .error fault => .error (.retention fault)
    | .ok (store, manifest) => .ok ({ s with store }, manifest)

/-! ## Steps -/

/-- Record the commit of an artifact. -/
def RetentionState.committed (s : RetentionState) (store : ArtifactStore)
    (committed : CommittedArtifact) (committedAtNs : Nat) : RetentionState :=
  { s with store, commits := s.commits ++ [⟨committed.artifactId, committedAtNs⟩] }

/-- One step of some client.  A marker is given a later time than any before it. -/
inductive RetentionStep (s : RetentionState) : RetentionState → Prop
  | leaseAsked (leaseId : Identifier) (roots : List ArtifactId) (hroots : roots ≠ []) :
    RetentionStep s
      { s with leases := s.leases ++ [⟨leaseId, artifactIds roots, artifactIds roots, Dict.empty⟩] }
  | leaseOpensNext {before after : List Lease} {lease lease' : Lease}
    (hlease : s.leases = before ++ lease :: after)
    (hnext : lease.openNext s.store = .ok lease') :
    RetentionStep s { s with leases := before ++ lease' :: after }
  | leaseCloses {before after : List Lease} {lease : Lease}
    (hlease : s.leases = before ++ lease :: after) :
    RetentionStep s { s with leases := before ++ after }
  | pinCreated {lease : Lease} (hlease : lease ∈ s.leases) (hopen : lease.Open)
    {pinId : Identifier} (hid : lease.leaseId = ⟨"pin-" ++ pinId.value⟩) {reason : String}
    {createdAtNs : Nat} {pin : PinRecord}
    (hpin : makePin pinId lease.roots lease.transitiveClosure reason createdAtNs = .ok pin)
    {store' : ArtifactStore} (hpublished : s.store.publishPin pin = .ok store') :
    RetentionStep s { s with store := store' }
  | pinRetired {pinId : Identifier} {store' : ArtifactStore}
    (hretired : s.store.retirePin pinId = .ok store') :
    RetentionStep s { s with store := store' }
  | published {finalRoot : String} {tree : ArtifactTree} {committedAtNs : Nat}
    {committed : CommittedArtifact} {store' : ArtifactStore}
    (hclock : ∀ commit ∈ s.commits, commit.committedAtNs < committedAtNs)
    (hinstalled :
      s.store.publish finalRoot tree committedAtNs committed = .ok (.installed store')) :
    RetentionStep s (s.committed store' committed committedAtNs)
  | publishedExclusive {finalRoot : String} {tree : ArtifactTree} {committedAtNs : Nat}
    {committed : CommittedArtifact} {store' : ArtifactStore} (hlock : ¬ s.HeldShared)
    (hclock : ∀ commit ∈ s.commits, commit.committedAtNs < committedAtNs)
    (hinstalled :
      s.store.resolveExistingPath finalRoot tree committedAtNs committed
        = .ok (.installed store')) :
    RetentionStep s (s.committed store' committed committedAtNs)
  | quarantined {finalRoot : String} {tree : ArtifactTree} {committedAtNs : Nat}
    {committed : CommittedArtifact} {store' : ArtifactStore} (hlock : ¬ s.HeldShared)
    (hconflict :
      s.store.resolveExistingPath finalRoot tree committedAtNs committed
        = .ok (.conflict store')) :
    RetentionStep s { s with store := store' }
  | damaged {root : String} {candidate : CandidateRoot}
    (hroot : s.store.roots.get? root = some candidate) :
    RetentionStep s
      { s with
        store := { s.store with roots := s.store.roots.set root { candidate with verified := none } } }
  | planningStarts (retainedRoots : List ArtifactId) (policy : GarbageCollectionPolicy)
    (nowNs : Nat) :
    RetentionStep s
      { s with
        planners := s.planners ++ [⟨artifactIds retainedRoots, policy, nowNs, Dict.empty, []⟩] }
  | planningReadsRoot {before after : List Planner} {planner : Planner}
    (hplanner : s.planners = before ++ planner :: after) {entry : String × CandidateRoot}
    (hentry : entry ∈ s.store.roots.entries) {inventory : Inventory}
    (hadded : addVerified planner.inventory entry = .ok inventory) :
    RetentionStep s { s with planners := before ++ { planner with inventory } :: after }
  | planningReadsPin {before after : List Planner} {planner : Planner}
    (hplanner : s.planners = before ++ planner :: after) {pin : PinRecord}
    (hpin : pin ∈ s.store.activePinsLocked) :
    RetentionStep s
      { s with planners := before ++ { planner with pins := planner.pins ++ [pin] } :: after }
  | planningFails {before after : List Planner} {planner : Planner}
    (hplanner : s.planners = before ++ planner :: after) :
    RetentionStep s { s with planners := before ++ after }
  | planned {before after : List Planner} {planner : Planner}
    (hplanner : s.planners = before ++ planner :: after) {plan : GarbageCollectionPlan}
    (hplan : planFrom planner.inventory planner.pins planner.retainedRoots planner.policy
      planner.nowNs = .ok plan) :
    RetentionStep s
      { s with
        planners := before ++ after
        plans := s.plans ++ [⟨plan, s.commits.length⟩] }
  | executed {plan : GarbageCollectionPlan} {nowNs : Nat} {s' : RetentionState}
    {manifest : BatchManifest} (hexecuted : s.execute plan nowNs = .ok (s', manifest)) :
    RetentionStep s s'
  | purged (hlock : ¬ s.HeldShared) (batches : Dict ContentDigest TrashBatch) :
    RetentionStep s { s with store := { s.store with batches } }

/-- The states some interleaving of the clients' steps leads to. -/
def RetentionState.Reachable (s : RetentionState) : Prop :=
  Relation.ReflTransGen RetentionStep RetentionState.start s

end

end Artifacts

end OnchainBacktest
