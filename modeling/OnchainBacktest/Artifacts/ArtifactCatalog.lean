import OnchainBacktest.Lib.Checked
import OnchainBacktest.Lib.Table
import OnchainBacktest.Artifacts.ArtifactModels

/-!
# The artifact catalog

A database with one row for each committed artifact, which artifact each build key resolves to,
the lineage of the artifacts and what orders the runs.  The files stay authoritative:
`indexCommitted` extends the tables by one verified artifact, `rebuildIndex` writes them anew from
all of them, and `finishReconciliationSession` says at a clean shutdown whether they describe the
inventory of the files.

A column that holds the spelling of a digest is the number it spells.  Every operation is one
transaction, so a fault leaves the tables as they were.
-/

set_option autoImplicit false

namespace OnchainBacktest

namespace Artifacts

open Checked

/-! ## Rows -/

/-- The hexadecimal spelling of a digest in a column. -/
abbrev DigestText := Fin (2 ^ 256)

inductive ArtifactCatalogStatus
  | verified
  | quarantined
  | invalid
  deriving DecidableEq, Repr

inductive MappingStatus
  | verified
  | conflict
  deriving DecidableEq, Repr

inductive RunIndexStatus
  | dirty
  | complete
  deriving DecidableEq, Repr

inductive ReconciliationStatus
  | clean
  | unclean
  deriving DecidableEq, Repr

structure LogicalRunId where
  hex : DigestText
  deriving DecidableEq

structure ExecutionAttemptId where
  hex : DigestText
  deriving DecidableEq

/-- A row of `artifact_index`. -/
structure ArtifactRow where
  kind : ArtifactKind
  manifestDigest : DigestText
  buildKey : DigestText
  status : ArtifactCatalogStatus
  statusReason : Option String
  indexedAtNs : Nat
  verifiedAtNs : Nat
  deriving DecidableEq

/-- A row of `build_key_mapping`. -/
structure MappingRow where
  artifactId : ArtifactId
  status : MappingStatus
  firstSeenAtNs : Nat
  updatedAtNs : Nat
  deriving DecidableEq

/-- The columns of a run that can be searched for. -/
structure RunColumns where
  logicalRunId : LogicalRunId
  executionAttemptId : ExecutionAttemptId
  startedAtNs : Int
  completedAtNs : Int
  deriving DecidableEq

/-- A row of `run_index`: the other columns are null exactly when the run cannot be queried. -/
structure RunRow where
  manifestDigest : DigestText
  queryable : Option RunColumns
  deriving DecidableEq

structure RunIndexState where
  status : RunIndexStatus
  generation : Nat
  deriving DecidableEq

structure ReconciliationState where
  status : ReconciliationStatus
  inventory : Option (DigestText × Nat)
  deriving DecidableEq

/-- The tables of the catalog.  An edge of the lineage goes from an output to an input, and has the
position of the input among the inputs of the output. -/
structure Catalog where
  artifactIndex : Dict ArtifactId ArtifactRow
  buildKeyMapping : Dict DigestText MappingRow
  artifactBuildConflicts : Dict (DigestText ×ₗ ArtifactId) Nat
  lineageEdges : Dict (ArtifactId × ArtifactId) Nat
  runIndex : Dict ArtifactId RunRow
  runIndexState : RunIndexState
  reconciliationState : ReconciliationState

/-- A fresh database. -/
def Catalog.empty : Catalog where
  artifactIndex := Dict.empty
  buildKeyMapping := Dict.empty
  artifactBuildConflicts := Dict.empty
  lineageEdges := Dict.empty
  runIndex := Dict.empty
  runIndexState := ⟨.complete, 0⟩
  reconciliationState := ⟨.unclean, none⟩

/-- What the catalog raises: the refusal of the repository, a disagreement with the files, a
constraint of the database, or a value out of range. -/
inductive CatalogFault
  | repository (message : String)
  | verification (message : String)
  | integrity (message : String)
  | value (message : String)
  deriving DecidableEq

/-- One build key resolved to more than one committed artifact. -/
structure BuildKeyCollision where
  buildKey : DigestText
  artifactIds : List ArtifactId
  deriving DecidableEq

def COLLISION_REASON : String := "same build key resolved to different committed content IDs"

/-! ## The files -/

/-- What the run projection reads of the manifest of a successful run. -/
structure SuccessfulRunManifest where
  inputArtifactIds : List ArtifactId
  logicalRunId : LogicalRunId
  executionAttemptId : ExecutionAttemptId
  startedAtNs : Int
  completedAtNs : Int
  deriving DecidableEq

/-- The repository as the catalog reads it: the verified descriptor of an artifact, and the
manifest of a run where it is one of a successful run. -/
structure ArtifactRepository where
  openCommitted : ArtifactId → Except String CommittedArtifact
  successfulRunManifest : ArtifactId → Option SuccessfulRunManifest

/-- `_same_descriptor`. -/
def sameDescriptor (left right : CommittedArtifact) : Prop :=
  left.artifactId = right.artifactId ∧ left.kind = right.kind ∧
    left.manifestDigest.hex = right.manifestDigest.hex ∧
    left.buildKey.hex = right.buildKey.hex ∧ left.inputArtifactIds = right.inputArtifactIds

instance decidableSameDescriptor (left right : CommittedArtifact) :
    Decidable (sameDescriptor left right) := by
  unfold sameDescriptor
  infer_instance

/-- Open a committed artifact, in the faults of the catalog. -/
def openHandle (repository : ArtifactRepository) (artifactId : ArtifactId) :
    Except CatalogFault CommittedArtifact :=
  (repository.openCommitted artifactId).mapError .repository

/-- `_verify_filesystem`, with the inputs. -/
def verifyFilesystem (repository : ArtifactRepository) (expected : CommittedArtifact) :
    Except CatalogFault CommittedArtifact := do
  let actual ← openHandle repository expected.artifactId
  refuseIf (¬ sameDescriptor actual expected)
    (.verification "filesystem artifact descriptor disagrees with catalog input")
  actual.inputArtifactIds.forM fun inputId => (openHandle repository inputId).map fun _ => ()
  .ok actual

/-- Manifest-bound ordering metadata of a run. -/
structure RunIndexEntry where
  artifactId : ArtifactId
  manifestDigest : DigestText
  logicalRunId : LogicalRunId
  executionAttemptId : ExecutionAttemptId
  startedAtNs : Int
  completedAtNs : Int
  deriving DecidableEq

/-- The constructor of an entry, which refuses times that cannot be ordered. -/
def RunIndexEntry.checked (entry : RunIndexEntry) : Except CatalogFault RunIndexEntry := do
  refuseIf (entry.startedAtNs < 0 ∨ entry.completedAtNs < entry.startedAtNs)
    (.value "run index timestamps are invalid")
  .ok entry

/-- `_run_index_entry`: nothing for a run whose manifest is not one of a successful run. -/
def runIndexEntry (repository : ArtifactRepository) (artifact : CommittedArtifact) :
    Except CatalogFault (Option RunIndexEntry) := do
  let actual ← openHandle repository artifact.artifactId
  refuseIf (¬ sameDescriptor actual artifact)
    (.verification "Run descriptor changed before projection extraction")
  match repository.successfulRunManifest artifact.artifactId with
  | none => .ok none
  | some manifest =>
    refuseIf (manifest.inputArtifactIds ≠ artifact.inputArtifactIds)
      (.verification "Run manifest input closure differs from its artifact descriptor")
    let entry ← RunIndexEntry.checked
      { artifactId := artifact.artifactId
        manifestDigest := artifact.manifestDigest.hex
        logicalRunId := manifest.logicalRunId
        executionAttemptId := manifest.executionAttemptId
        startedAtNs := manifest.startedAtNs
        completedAtNs := manifest.completedAtNs }
    .ok (some entry)

/-- The entry of an artifact that is a run, nothing for another. -/
def entryOf (repository : ArtifactRepository) (artifact : CommittedArtifact) :
    Except CatalogFault (Option RunIndexEntry) :=
  if artifact.kind = .run then runIndexEntry repository artifact else .ok none

/-! ## Artifacts and their lineage -/

/-- The inputs of an artifact in the lineage. -/
def lineageRows (catalog : Catalog) (artifactId : ArtifactId) : List ArtifactId :=
  ((catalog.lineageEdges.entries.filter fun edge => edge.1.1 = artifactId).insertionSort
    fun edge edge' => edge.2 ≤ edge'.2).map fun edge => edge.1.2

/-- One row of `lineage_edges`, whose constraints keep an artifact from being its own input, and
its inputs and their positions distinct. -/
def insertEdge (output : ArtifactId) (edges : Dict (ArtifactId × ArtifactId) Nat)
    (input : ArtifactId × Nat) : Except CatalogFault (Dict (ArtifactId × ArtifactId) Nat) := do
  refuseIf (output = input.1) (.integrity "CHECK constraint failed")
  refuseIf (∃ edge ∈ edges.entries, edge.1.1 = output ∧ edge.2 = input.2)
    (.integrity "UNIQUE constraint failed")
  Table.insert edges (output, input.1) input.2 (.integrity "UNIQUE constraint failed")

/-- `_insert_artifact`. -/
def insertArtifact (catalog : Catalog) (artifact : CommittedArtifact)
    (status : ArtifactCatalogStatus) (reason : Option String) (nowNs : Nat) :
    Except CatalogFault Catalog := do
  let artifactIndex ← Table.insert catalog.artifactIndex artifact.artifactId
    { kind := artifact.kind
      manifestDigest := artifact.manifestDigest.hex
      buildKey := artifact.buildKey.hex
      status := status
      statusReason := reason
      indexedAtNs := nowNs
      verifiedAtNs := nowNs }
    (.integrity "UNIQUE constraint failed")
  let lineageEdges ← artifact.inputArtifactIds.zipIdx.foldlM (insertEdge artifact.artifactId)
    catalog.lineageEdges
  .ok { catalog with artifactIndex := artifactIndex, lineageEdges := lineageEdges }

/-- `_upsert_exact_artifact`. -/
def upsertExactArtifact (catalog : Catalog) (artifact : CommittedArtifact) (nowNs : Nat) :
    Except CatalogFault Catalog :=
  match catalog.artifactIndex.get? artifact.artifactId with
  | none => insertArtifact catalog artifact .verified none nowNs
  | some row => do
    refuseIf ((row.kind, row.manifestDigest, row.buildKey) ≠
        (artifact.kind, artifact.manifestDigest.hex, artifact.buildKey.hex))
      (.verification "artifact ID is indexed with a different descriptor")
    refuseIf (lineageRows catalog artifact.artifactId ≠ artifact.inputArtifactIds)
      (.verification "artifact index lineage disagrees with filesystem descriptor")
    .ok catalog

/-! ## The run projection -/

/-- Any change of the rows of `run_index` makes the projection dirty. -/
def RunIndexState.touched (state : RunIndexState) : RunIndexState :=
  ⟨.dirty, state.generation + 1⟩

/-- `_require_run_index_complete`. -/
def requireRunIndexComplete (catalog : Catalog) : Except CatalogFault Unit :=
  refuseIf (catalog.runIndexState.status ≠ .complete)
    (.verification "run index generation is incomplete")

/-- The artifact is a verified run that its build key does not resolve to, or that has no row of
its own in the projection. -/
def runMissing (catalog : Catalog) (artifactId : ArtifactId) (row : ArtifactRow) : Prop :=
  row.kind = .run ∧ row.status = .verified ∧
    ((∀ mapping ∈ catalog.buildKeyMapping.get? row.buildKey,
        mapping.artifactId ≠ artifactId ∨ mapping.status ≠ .verified) ∨
      ∀ run ∈ catalog.runIndex.get? artifactId, run.manifestDigest ≠ row.manifestDigest)

/-- The row of the projection is not the one of a verified run. -/
def runDetached (catalog : Catalog) (artifactId : ArtifactId) (run : RunRow) : Prop :=
  ∀ row ∈ catalog.artifactIndex.get? artifactId,
    row.kind ≠ .run ∨ row.status ≠ .verified ∨ run.manifestDigest ≠ row.manifestDigest

instance decidableRunMissing (catalog : Catalog) (artifactId : ArtifactId) (row : ArtifactRow) :
    Decidable (runMissing catalog artifactId row) := by
  unfold runMissing
  infer_instance

instance decidableRunDetached (catalog : Catalog) (artifactId : ArtifactId) (run : RunRow) :
    Decidable (runDetached catalog artifactId run) := by
  unfold runDetached
  infer_instance

/-- `_verify_run_index_rows`. -/
def verifyRunIndexRows (catalog : Catalog) : Except CatalogFault Unit :=
  refuseIf ((∃ row ∈ catalog.artifactIndex.entries, runMissing catalog row.1 row.2) ∨
      ∃ run ∈ catalog.runIndex.entries, runDetached catalog run.1 run.2)
    (.verification "run index disagrees with the verified artifact catalog")

/-- `_verify_run_index_completeness`. -/
def verifyRunIndexCompleteness (catalog : Catalog) : Except CatalogFault Unit := do
  requireRunIndexComplete catalog
  verifyRunIndexRows catalog

/-- `_mark_run_index_complete`. -/
def markRunIndexComplete (catalog : Catalog) : Except CatalogFault Catalog := do
  verifyRunIndexRows catalog
  .ok { catalog with runIndexState := { catalog.runIndexState with status := .complete } }

/-- The row of a run in the projection. -/
def projectedRow (artifact : CommittedArtifact) (entry : Option RunIndexEntry) : RunRow where
  manifestDigest := artifact.manifestDigest.hex
  queryable := entry.map fun run =>
    ⟨run.logicalRunId, run.executionAttemptId, run.startedAtNs, run.completedAtNs⟩

/-- `_insert_run_projection`, into a table that takes the rows of verified runs only. -/
def insertRunProjection (catalog : Catalog) (artifact : CommittedArtifact)
    (entry : Option RunIndexEntry) : Except CatalogFault Catalog := do
  refuseIf (∃ run ∈ entry, run.artifactId ≠ artifact.artifactId ∨
      run.manifestDigest ≠ artifact.manifestDigest.hex)
    (.verification "Run projection identity is inconsistent")
  let run := projectedRow artifact entry
  refuseIf (∃ columns ∈ run.queryable,
      columns.startedAtNs < 0 ∨ columns.completedAtNs < columns.startedAtNs)
    (.integrity "CHECK constraint failed")
  refuseIf (runDetached catalog artifact.artifactId run)
    (.integrity "run index requires a matching verified Run artifact")
  let runIndex ← Table.insert catalog.runIndex artifact.artifactId run
    (.integrity "UNIQUE constraint failed")
  .ok { catalog with runIndex := runIndex, runIndexState := catalog.runIndexState.touched }

/-- `_run_entry_from_row`. -/
def runEntryFromRow (artifactId : ArtifactId) (run : RunRow) :
    Except CatalogFault RunIndexEntry :=
  match run.queryable with
  | none => .error (.value "excluded Run row cannot be returned as searchable metadata")
  | some columns => RunIndexEntry.checked
      { artifactId := artifactId
        manifestDigest := run.manifestDigest
        logicalRunId := columns.logicalRunId
        executionAttemptId := columns.executionAttemptId
        startedAtNs := columns.startedAtNs
        completedAtNs := columns.completedAtNs }

/-- What `_upsert_run_entry` asks of the row that is there. -/
def checkRunRow (artifact : CommittedArtifact) (entry : Option RunIndexEntry) (run : RunRow) :
    Except CatalogFault Unit :=
  match entry with
  | none => refuseIf (run.queryable.isSome ∨ run.manifestDigest ≠ artifact.manifestDigest.hex)
      (.verification "unqueryable Run projection disagrees with its verified manifest")
  | some entry => do
    let indexed ← (runEntryFromRow artifact.artifactId run).mapError fun _ =>
      .verification "run index contains invalid values"
    refuseIf (indexed ≠ entry)
      (.verification "run index entry disagrees with the verified manifest")

/-- `_upsert_run_entry`. -/
def upsertRunEntry (catalog : Catalog) (artifact : CommittedArtifact)
    (entry : Option RunIndexEntry) : Except CatalogFault Catalog :=
  if artifact.kind ≠ .run then do
    refuseIf ((catalog.runIndex.get? artifact.artifactId).isSome)
      (.verification "non-Run artifact has a Run projection row")
    .ok catalog
  else
    match catalog.runIndex.get? artifact.artifactId with
    | none => insertRunProjection catalog artifact entry
    | some run => do
      checkRunRow artifact entry run
      .ok catalog

/-! ## One artifact more -/

/-- `UPDATE artifact_index SET status = 'QUARANTINED'`. -/
def ArtifactRow.quarantine (row : ArtifactRow) : ArtifactRow :=
  { row with status := .quarantined, statusReason := some COLLISION_REASON }

/-- `DELETE FROM run_index`, which makes the projection dirty when there was a row. -/
def deleteRun (catalog : Catalog) (artifactId : ArtifactId) : Catalog :=
  if (catalog.runIndex.get? artifactId).isSome then
    { catalog with
      runIndex := catalog.runIndex.erase artifactId
      runIndexState := catalog.runIndexState.touched }
  else catalog

/-- The conflicting artifacts of a build key, in order. -/
def conflictIds (catalog : Catalog) (buildKey : DigestText) : List ArtifactId :=
  ((Table.keys catalog.artifactBuildConflicts).filter fun key => (ofLex key).1 = buildKey).map
    fun key => (ofLex key).2

/-- `_record_collision`. -/
def recordCollision (catalog : Catalog) (buildKey : DigestText) (artifactIds : List ArtifactId)
    (detectedAtNs : Nat) : Catalog × List ArtifactId :=
  let uniqueIds := artifactIds.dedup.insertionSort (· ≤ ·)
  let catalog := { catalog with
    artifactIndex := uniqueIds.foldl (fun index artifactId =>
      Table.update index artifactId ArtifactRow.quarantine) catalog.artifactIndex }
  let catalog := uniqueIds.foldl deleteRun catalog
  let catalog := { catalog with
    buildKeyMapping := Table.update catalog.buildKeyMapping buildKey fun mapping =>
      { mapping with status := .conflict, updatedAtNs := detectedAtNs }
    artifactBuildConflicts := uniqueIds.foldl (fun conflicts artifactId =>
      Table.insertOrIgnore conflicts (toLex (buildKey, artifactId)) detectedAtNs)
      catalog.artifactBuildConflicts }
  (catalog, conflictIds catalog buildKey)

/-- The constructor of a collision. -/
def BuildKeyCollision.checked (buildKey : DigestText) (artifactIds : List ArtifactId) :
    Except CatalogFault BuildKeyCollision := do
  let ordered := artifactIds.dedup.insertionSort (· ≤ ·)
  refuseIf (ordered.length < 2)
    (.value "a build-key collision requires at least two artifact IDs")
  .ok ⟨buildKey, ordered⟩

/-- What the build key of a verified artifact resolves to from here on. -/
def resolveBuildKey (catalog : Catalog) (verified : CommittedArtifact) (nowNs : Nat) :
    Except CatalogFault (Catalog × Option BuildKeyCollision) :=
  match catalog.buildKeyMapping.get? verified.buildKey.hex with
  | none =>
    .ok ({ catalog with
      buildKeyMapping := catalog.buildKeyMapping.set verified.buildKey.hex
        ⟨verified.artifactId, .verified, nowNs, nowNs⟩ }, none)
  | some mapping =>
    if mapping.status = .verified ∧ mapping.artifactId = verified.artifactId then
      .ok (catalog, none)
    else do
      let recorded := recordCollision catalog verified.buildKey.hex
        [mapping.artifactId, verified.artifactId] nowNs
      let collision ← BuildKeyCollision.checked verified.buildKey.hex recorded.2
      .ok (recorded.1, some collision)

/-- Ordering metadata is indexed only while the exact artifact remains verified. -/
def projectVerified (resolved : Catalog × Option BuildKeyCollision) (verified : CommittedArtifact)
    (runEntry : Option RunIndexEntry) : Except CatalogFault Catalog :=
  if resolved.2 = none then upsertRunEntry resolved.1 verified runEntry else .ok resolved.1

/-- The transaction of `index_committed`. -/
def writeVerified (catalog : Catalog) (verified : CommittedArtifact)
    (runEntry : Option RunIndexEntry) (nowNs : Nat) :
    Except CatalogFault (Catalog × Option BuildKeyCollision) := do
  requireRunIndexComplete catalog
  let catalog ← upsertExactArtifact catalog verified nowNs
  let resolved ← resolveBuildKey catalog verified nowNs
  let catalog ← projectVerified resolved verified runEntry
  let catalog ← markRunIndexComplete catalog
  .ok (catalog, resolved.2)

/-- `index_committed`: the tables after it, and the collision it then reports. -/
def indexCommitted (repository : ArtifactRepository) (catalog : Catalog) (artifact : CommittedArtifact)
    (nowNs : Nat) : Except CatalogFault (Catalog × Option BuildKeyCollision) := do
  let verified ← verifyFilesystem repository artifact
  let runEntry ← entryOf repository verified
  writeVerified catalog verified runEntry nowNs

/-- A call of `index_committed`, at a time. -/
structure IndexCall where
  artifact : CommittedArtifact
  nowNs : Nat

/-- A sequence of calls; a collision that is reported does not end it. -/
def indexAll (repository : ArtifactRepository) (catalog : Catalog) (calls : List IndexCall) :
    Except CatalogFault Catalog :=
  calls.foldlM (fun catalog call =>
    (indexCommitted repository catalog call.artifact call.nowNs).map Prod.fst) catalog

end Artifacts

end OnchainBacktest
