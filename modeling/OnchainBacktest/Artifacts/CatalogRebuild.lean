import OnchainBacktest.Artifacts.ArtifactCatalog

/-!
# Rebuilding, checking and reading the catalog

`rebuildIndex` writes the tables from a whole set of verified artifacts, and
`inventoryMatchesCatalog` recomputes what a rebuild would have written to decide whether the next
start may skip the full verification.  `listRunEntries` reads one page of the runs.
-/

set_option autoImplicit false

namespace OnchainBacktest

namespace Artifacts

open Checked

/-! ## All the artifacts at once -/

structure CatalogRebuildReport where
  indexedArtifacts : Nat
  quarantinedArtifacts : Nat
  conflictingBuildKeys : Nat
  deriving DecidableEq, Repr

/-- The descriptors by their identity, each verified. -/
def verifyAll (repository : ArtifactRepository) (artifacts : List CommittedArtifact) :
    Except CatalogFault (Dict ArtifactId CommittedArtifact) :=
  artifacts.foldlM (fun byId candidate => do
    let verified ← verifyFilesystem repository candidate
    match byId.get? verified.artifactId with
    | none => .ok (byId.set verified.artifactId verified)
    | some previous =>
      refuseIf (previous ≠ verified)
        (.verification "one artifact ID was supplied with different descriptors")
      .ok byId) Dict.empty

/-- The artifacts of one build key. -/
def byBuildKey (ordered : List CommittedArtifact) (buildKey : DigestText) :
    List CommittedArtifact :=
  ordered.filter fun artifact => artifact.buildKey.hex = buildKey

/-- The build keys, in order. -/
def buildKeys (ordered : List CommittedArtifact) : List DigestText :=
  (ordered.map fun artifact => artifact.buildKey.hex).dedup.insertionSort (· ≤ ·)

/-- Two artifacts or more have the build key. -/
def conflicts (ordered : List CommittedArtifact) (buildKey : DigestText) : Prop :=
  1 < (byBuildKey ordered buildKey).length

instance decidableConflicts (ordered : List CommittedArtifact) (buildKey : DigestText) :
    Decidable (conflicts ordered buildKey) := by
  unfold conflicts
  infer_instance

/-- The rows of one artifact.  A quarantined run receives no row in the projection. -/
def rebuildArtifact (ordered : List CommittedArtifact) (nowNs : Nat) (catalog : Catalog)
    (item : CommittedArtifact × Option RunIndexEntry) : Except CatalogFault Catalog :=
  if conflicts ordered item.1.buildKey.hex then
    insertArtifact catalog item.1 .quarantined (some COLLISION_REASON) nowNs
  else do
    let catalog ← insertArtifact catalog item.1 .verified none nowNs
    if item.1.kind = .run then insertRunProjection catalog item.1 item.2 else .ok catalog

/-- The conflicts of a build key that is in conflict. -/
def rebuildConflicts (group : List CommittedArtifact) (buildKey : DigestText)
    (status : MappingStatus) (nowNs : Nat) (rows : Dict (DigestText ×ₗ ArtifactId) Nat) :
    Except CatalogFault (Dict (DigestText ×ₗ ArtifactId) Nat) :=
  if status = .conflict then
    group.foldlM (fun rows artifact => Table.insert rows (toLex (buildKey, artifact.artifactId))
      nowNs (.integrity "UNIQUE constraint failed")) rows
  else .ok rows

/-- What one build key resolves to, and its conflicts. -/
def rebuildBuildKey (ordered : List CommittedArtifact) (nowNs : Nat) (catalog : Catalog)
    (buildKey : DigestText) : Except CatalogFault Catalog := do
  let group := (byBuildKey ordered buildKey).insertionSort fun artifact artifact' =>
    artifact.artifactId ≤ artifact'.artifactId
  match group with
  | [] => .ok catalog
  | first :: _ =>
    let status : MappingStatus :=
      if conflicts ordered buildKey then .conflict else .verified
    let mapping ← Table.insert catalog.buildKeyMapping buildKey
      ⟨first.artifactId, status, nowNs, nowNs⟩ (.integrity "UNIQUE constraint failed")
    let rows ← rebuildConflicts group buildKey status nowNs catalog.artifactBuildConflicts
    .ok { catalog with buildKeyMapping := mapping, artifactBuildConflicts := rows }

/-- The tables without a row: what is left of the catalog once the rebuildable rows are gone. -/
def cleared (catalog : Catalog) : Catalog :=
  { catalog with
    artifactIndex := Dict.empty
    buildKeyMapping := Dict.empty
    artifactBuildConflicts := Dict.empty
    lineageEdges := Dict.empty
    runIndex := Dict.empty
    runIndexState :=
      ⟨.dirty, catalog.runIndexState.generation + 1 + catalog.runIndex.entries.length⟩ }

/-- `rebuild_index`. -/
def rebuildIndex (repository : ArtifactRepository) (catalog : Catalog)
    (artifacts : List CommittedArtifact) (nowNs : Nat) :
    Except CatalogFault (Catalog × CatalogRebuildReport) := do
  let byId ← verifyAll repository artifacts
  let ordered := (Table.rows byId).map Prod.snd
  let items ← ordered.mapM fun artifact =>
    (entryOf repository artifact).map fun entry => (artifact, entry)
  let catalog ← items.foldlM (rebuildArtifact ordered nowNs) (cleared catalog)
  let catalog ← (buildKeys ordered).foldlM (rebuildBuildKey ordered nowNs) catalog
  let catalog ← markRunIndexComplete catalog
  let conflictKeys := (buildKeys ordered).filter fun buildKey => conflicts ordered buildKey
  .ok (catalog,
    { indexedArtifacts := ordered.length
      quarantinedArtifacts :=
        (conflictKeys.map fun buildKey => (byBuildKey ordered buildKey).length).sum
      conflictingBuildKeys := conflictKeys.length })

/-! ## The inventory of the files -/

/-- Cheap mutation evidence for one committed artifact. -/
structure ArtifactInventoryEntry where
  descriptor : CommittedArtifact
  latestChangeNs : Nat

/-- The inventory, in the order of the identities and without a repetition. -/
structure ArtifactInventory where
  fingerprint : ContentDigest
  entries : List ArtifactInventoryEntry
  ordered : (entries.map fun entry => entry.descriptor.artifactId).Pairwise (· < ·)

/-- The row and the lineage of an artifact agree with its entry, and the files did not change
after they were verified. -/
def entryMatches (catalog : Catalog) (entry : ArtifactInventoryEntry) (row : ArtifactRow) : Prop :=
  row.kind = entry.descriptor.kind ∧
    row.manifestDigest = entry.descriptor.manifestDigest.hex ∧
    row.buildKey = entry.descriptor.buildKey.hex ∧
    lineageRows catalog entry.descriptor.artifactId = entry.descriptor.inputArtifactIds ∧
    entry.latestChangeNs ≤ row.verifiedAtNs

instance decidableEntryMatches (catalog : Catalog) (entry : ArtifactInventoryEntry)
    (row : ArtifactRow) : Decidable (entryMatches catalog entry row) := by
  unfold entryMatches
  infer_instance

/-- The positions of the inputs of each output count from zero. -/
def ordinalsCount (catalog : Catalog) (output : ArtifactId) : Prop :=
  let edges := catalog.lineageEdges.entries.filter fun edge => edge.1.1 = output
  (edges.map Prod.snd).insertionSort (· ≤ ·) = List.range edges.length

instance decidableOrdinalsCount (catalog : Catalog) (output : ArtifactId) :
    Decidable (ordinalsCount catalog output) := by
  unfold ordinalsCount
  infer_instance

/-- The artifacts that the rows give a build key, in order. -/
def rowGroup (catalog : Catalog) (buildKey : DigestText) : List ArtifactId :=
  ((Table.rows catalog.artifactIndex).filter fun row => row.2.buildKey = buildKey).map Prod.fst

/-- The build keys of the rows, in order. -/
def rowKeys (catalog : Catalog) : List DigestText :=
  ((Table.rows catalog.artifactIndex).map fun row => row.2.buildKey).dedup.insertionSort (· ≤ ·)

/-- The status and the reason the rows of a build key should have. -/
def expectedStatus (catalog : Catalog) (buildKey : DigestText) :
    ArtifactCatalogStatus × Option String :=
  if 1 < (rowGroup catalog buildKey).length then (.quarantined, some COLLISION_REASON)
  else (.verified, none)

/-- What a build key should resolve to. -/
def expectedMapping (catalog : Catalog) (buildKey : DigestText) :
    DigestText × Option ArtifactId × MappingStatus :=
  (buildKey, (rowGroup catalog buildKey).head?,
    if 1 < (rowGroup catalog buildKey).length then .conflict else .verified)

/-- The conflicts a build key should have. -/
def expectedConflicts (catalog : Catalog) (buildKey : DigestText) :
    List (DigestText ×ₗ ArtifactId) :=
  if 1 < (rowGroup catalog buildKey).length then
    (rowGroup catalog buildKey).map fun artifactId => toLex (buildKey, artifactId)
  else []

/-- `_inventory_matches_catalog`. -/
def inventoryMatchesCatalog (catalog : Catalog) (inventory : ArtifactInventory) : Bool :=
  decide ((Table.rows catalog.artifactIndex).length = inventory.entries.length) &&
  decide (∀ edge ∈ catalog.lineageEdges.entries, ordinalsCount catalog edge.1.1) &&
  decide (∀ row ∈ Table.rows catalog.artifactIndex,
    ∃ entry ∈ inventory.entries, entry.descriptor.artifactId = row.1 ∧
      entryMatches catalog entry row.2) &&
  decide (∀ edge ∈ catalog.lineageEdges.entries,
    (catalog.artifactIndex.get? edge.1.1).isSome) &&
  decide (∀ row ∈ Table.rows catalog.artifactIndex,
    (row.2.status, row.2.statusReason) = expectedStatus catalog row.2.buildKey) &&
  decide ((Table.rows catalog.buildKeyMapping).map (fun row =>
      (row.1, some row.2.artifactId, row.2.status)) =
    (rowKeys catalog).map (expectedMapping catalog)) &&
  decide (Table.keys catalog.artifactBuildConflicts =
    (rowKeys catalog).flatMap (expectedConflicts catalog)) &&
  decide (verifyRunIndexCompleteness catalog = .ok ())

/-- `begin_reconciliation_session`: whether the payloads need not be hashed again. -/
def beginReconciliationSession (catalog : Catalog) (inventory : ArtifactInventory) :
    Catalog × Bool :=
  let state := catalog.reconciliationState
  ({ catalog with reconciliationState := { state with status := .unclean } },
    decide (state.status = .clean) &&
    decide (state.inventory = some (inventory.fingerprint.hex, inventory.entries.length)) &&
    inventoryMatchesCatalog catalog inventory)

/-- `finish_reconciliation_session`: whether the shutdown is recorded as a clean one. -/
def finishReconciliationSession (catalog : Catalog) (inventory : ArtifactInventory) :
    Catalog × Bool :=
  if catalog.reconciliationState.status = .unclean ∧ inventoryMatchesCatalog catalog inventory then
    ({ catalog with reconciliationState :=
        ⟨.clean, some (inventory.fingerprint.hex, inventory.entries.length)⟩ }, true)
  else (catalog, false)

/-! ## Pages of runs -/

/-- The place after which a page starts, with the logical run its list is of as it was spelled. -/
structure RunListCursor where
  completedAtNs : Int
  artifactId : ArtifactId
  logicalRunId : Option ContentDigest
  deriving DecidableEq

/-- The row of a run that its verified artifact and the mapping of its build key stand behind. -/
def runListed (catalog : Catalog) (artifactId : ArtifactId) (run : RunRow) : Prop :=
  ∃ row ∈ catalog.artifactIndex.get? artifactId,
    row.kind = .run ∧ row.status = .verified ∧ run.manifestDigest = row.manifestDigest ∧
    ∃ mapping ∈ catalog.buildKeyMapping.get? row.buildKey,
      mapping.artifactId = artifactId ∧ mapping.status = .verified

instance decidableRunListed (catalog : Catalog) (artifactId : ArtifactId) (run : RunRow) :
    Decidable (runListed catalog artifactId run) := by
  unfold runListed
  infer_instance

/-- A row of the projection that can be queried. -/
structure ListedRun where
  artifactId : ArtifactId
  manifestDigest : DigestText
  columns : RunColumns

/-- Newest first, then by identity. -/
def pageOrder (left right : ListedRun) : Prop :=
  right.columns.completedAtNs < left.columns.completedAtNs ∨
    right.columns.completedAtNs = left.columns.completedAtNs ∧
      left.artifactId ≤ right.artifactId

instance decidablePageOrder : DecidableRel pageOrder := by
  intro left right
  unfold pageOrder
  infer_instance

/-- The run comes strictly after the cursor. -/
def isAfter (cursor : RunListCursor) (run : ListedRun) : Prop :=
  run.columns.completedAtNs < cursor.completedAtNs ∨
    run.columns.completedAtNs = cursor.completedAtNs ∧ cursor.artifactId < run.artifactId

instance decidableIsAfter (cursor : RunListCursor) (run : ListedRun) :
    Decidable (isAfter cursor run) := by
  unfold isAfter
  infer_instance

/-- `_select_run_index_page`. -/
def selectRunIndexPage (catalog : Catalog) (logicalRunId : Option ContentDigest) (limit offset : Nat)
    (after : Option RunListCursor) : List ListedRun :=
  let listed := catalog.runIndex.entries.filter fun run => runListed catalog run.1 run.2
  let queryable := listed.filterMap fun run =>
    run.2.queryable.map fun columns => ⟨run.1, run.2.manifestDigest, columns⟩
  let selected := queryable.filter fun run =>
    (∀ logicalId ∈ logicalRunId, run.columns.logicalRunId.hex = logicalId.hex) ∧
      ∀ cursor ∈ after, isAfter cursor run
  ((selected.insertionSort pageOrder).drop (if after = none then offset else 0)).take limit

/-- `_list_run_entries`. -/
def listRunEntries (catalog : Catalog) (logicalRunId : Option ContentDigest) (limit offset : Nat)
    (after : Option RunListCursor) : Except CatalogFault (List RunIndexEntry) := do
  refuseIf (¬ (1 ≤ limit ∧ limit ≤ 1001))
    (.value "run index page limit must be between 1 and 1001")
  refuseIf (10000 < offset) (.value "run index page offset must be between 0 and 10000")
  refuseIf (∃ cursor ∈ after, offset ≠ 0 ∨ cursor.logicalRunId ≠ logicalRunId)
    (.value "run cursor must match the scope and cannot use offset")
  verifyRunIndexCompleteness catalog
  (selectRunIndexPage catalog logicalRunId limit offset after).mapM fun run =>
    (runEntryFromRow run.artifactId ⟨run.manifestDigest, some run.columns⟩).mapError fun _ =>
      .verification "run index contains invalid values"

end Artifacts

end OnchainBacktest
